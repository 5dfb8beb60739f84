import TreetopRest.CoherenceProofs
import TreetopRest.HandlerModel

/-! # Is a schema loaded — four answers

    The version report asks the digest, the engine build and `authorize` ask
    the content, and the status is derived when an update goes through.  A
    reload never records a digest of no content, but the publication of a
    bundle without a schema does: it records the digest of the EMPTY text.
    From then on the version report shows a schema nobody else sees, until
    the next update that replaces the schema record. -/

namespace TreetopSchemaView

open FallibleState UpdateRun Text
open TreetopErrors TreetopCrates TreetopMetadata TreetopWire TreetopStore
open TreetopCoherence TreetopHandlers

variable {X : Crates} {C : EvalCrate X}

/-! ## The four views -/

/-- The engine build finds a schema. -/
def HasCurrentSchema (s : PolicyStore X) : Prop := ∃ sch, currentSchema s = .ok (some sch)

/-- All views agree on whether a schema is loaded, and the version report
    shows the digest of the one that parses. -/
structure ViewsAgree (C : EvalCrate X) (s : PolicyStore X) : Prop where
  version : ∀ stamp crateVersion,
    (version C stamp crateVersion s).schema.isSome = true ↔ HasCurrentSchema s
  authorize : schemaLoaded s = true ↔ HasCurrentSchema s
  status : s.requestContextStatus ≠ .noSchema ↔ HasCurrentSchema s
  hash : ∀ stamp crateVersion info,
    (TreetopHandlers.version C stamp crateVersion s).schema = some info →
    info.hash = makeHash X s.schema.content
      ∧ ∃ sch, X.schemaFromJsonStr s.schema.content = .ok sch

/-- A digest is printed in sixty-four digits. -/
theorem makeHash_ne_empty (content : String) : makeHash X content ≠ "" := by
  intro h
  have hlength : ∀ bytes : List UInt8, (bytes.flatMap hexByte).length = 2 * bytes.length := by
    intro bytes
    induction bytes with
    | nil => rfl
    | cons b bytes ih =>
        rw [List.flatMap_cons, List.length_append, ih, List.length_cons]
        show 2 + 2 * bytes.length = _
        omega
  have hnil : ((X.sha256 (asBytes content.toList)).toList.flatMap hexByte) = [] := by
    have h0 := congrArg String.toList h
    simpa [makeHash, hexDigest] using h0
  have hzero := hlength (X.sha256 (asBytes content.toList)).toList
  rw [hnil, Vector.length_toList] at hzero
  exact absurd hzero (by decide)

/-! ## What the past says about the record -/

/-- The updates that replace the schema record. -/
def replacesSchema : Call X → Bool
  | .setSchema .. | .applyPreparedBundle .. => true
  | _ => false

/-- The publication of a bundle without a schema. -/
def isBare : Call X → Bool
  | .applyPreparedBundle p _ => p.schema.content.isEmpty
  | _ => false

/-- The last update of a run that replaced the schema record was the
    publication of a bundle without a schema; the past is newest first. -/
def bareInForce (past : List (Call X × Except ServiceError (Reply X))) : Bool :=
  (past.find? fun e => replacesSchema e.1 && e.2.isOk).any fun e => isBare e.1

variable (X) in
/-- The record such a past leaves: of no schema but with a digest, or of one
    with its digest, or of none with none. -/
def SchemaRecord (bare : Bool) (md : Metadata .ofSchema) : Prop :=
  if bare then md.content = "" ∧ md.sha256 = makeHash X ""
  else (md.content = "" ∧ md.sha256 = "") ∨ (md.content ≠ "" ∧ md.sha256 = makeHash X md.content)

variable {past : List (Call X × Except ServiceError (Reply X))} {s s' : PolicyStore X}

theorem SchemaRecord.frame {bare : Bool} {md md' : Metadata .ofSchema}
    (h : SchemaRecord X bare md) (hsame : SameDocument md md') : SchemaRecord X bare md' := by
  rw [SchemaRecord, hsame.content, hsame.sha256]
  exact h

theorem bareInForce_skip {c : Call X} {r : Except ServiceError (Reply X)}
    (h : (replacesSchema c && r.isOk) = false) :
    bareInForce ((c, r) :: past) = bareInForce past := by
  rw [bareInForce, List.find?_cons_of_neg (by simp [h]), bareInForce]

theorem bareInForce_hit {c : Call X} {r : Reply X} (h : replacesSchema c = true) :
    bareInForce ((c, .ok r) :: past) = isBare c := by
  rw [bareInForce, List.find?_cons_of_pos (by rw [h]; rfl)]
  rfl

/-- An update that leaves the schema alone leaves its record alone. -/
theorem schema_kept {c : Call X} (h : StepOk s c s') (hc : replacesSchema c = false) :
    SameDocument s.schema s'.schema := by
  cases hup : c.isContentUpdate with
  | false => exact (sameDocuments_of_stepOk h hup).schema
  | true =>
      cases c with
      | setDsl now dsl source rf =>
          obtain ⟨_, _, _, _, _, _, _, _, rfl⟩ := h
          exact .refl _
      | setLabels now labels source rf =>
          obtain ⟨_, _, _, _, _, _, _, _, rfl⟩ := h
          exact .refl _
      | setSchema now schema source rf => exact nomatch hc
      | applyPreparedBundle p hp => exact nomatch hc
      | setSchemaValidationMode mode => exact nomatch hup
      | configureRemoteSource kind source rf => exact nomatch hup
      | markRemoteSourceLoaded kind => exact nomatch hup
      | listPoliciesRaw user groups namespaces => exact nomatch hup
      | listPoliciesJson user groups namespaces => exact nomatch hup

/-- A replacement leaves the record the call says. -/
theorem schemaRecord_replaced (hE : EmptyTextLaws X) {c : Call X} (h : StepOk s c s')
    (hc : replacesSchema c = true) : SchemaRecord X (isBare c) s'.schema := by
  cases c with
  | setSchema now schema source rf =>
      obtain ⟨metadata, parsed, _, _, hmd, hparsed, _, _, rfl⟩ := h
      -- the empty text would not have parsed
      have hne : schema ≠ "" := by
        intro hnil
        have hparse := parseSchema_ok hparsed
        rw [hnil] at hparse
        exact hE.schema_empty parsed hparse
      have hcontent : metadata.content = schema := (Metadata.new_records hmd).1
      have hsha := Metadata.new_sha256 hmd hne
      refine Or.inr ⟨?_, ?_⟩
      · show metadata.content ≠ ""
        rw [hcontent]
        exact hne
      · show metadata.sha256 = makeHash X metadata.content
        rw [hcontent, hsha]
  | applyPreparedBundle p hp =>
      obtain ⟨_, rfl⟩ := h
      have hsha := genuine_schema_sha256 hp
      show SchemaRecord X p.schema.content.isEmpty p.schema
      rw [SchemaRecord]
      by_cases hnil : p.schema.content.isEmpty = true
      · rw [if_pos hnil, hsha, String.isEmpty_iff.mp hnil]
        exact ⟨rfl, rfl⟩
      · rw [if_neg hnil]
        exact Or.inr ⟨fun h0 => hnil (String.isEmpty_iff.mpr h0), hsha⟩
  | setDsl now dsl source rf => exact nomatch hc
  | setLabels now labels source rf => exact nomatch hc
  | setSchemaValidationMode mode => exact nomatch hc
  | configureRemoteSource kind source rf => exact nomatch hc
  | markRemoteSourceLoaded kind => exact nomatch hc
  | listPoliciesRaw user groups namespaces => exact nomatch hc
  | listPoliciesJson user groups namespaces => exact nomatch hc

/-- **STEP**: the record follows the past. -/
theorem schemaRecord_step (hE : EmptyTextLaws X) (hu : CachesUsable s)
    (h : SchemaRecord X (bareInForce past) s.schema) (c : Call X) :
    SchemaRecord X (bareInForce ((c, (c.step s).1) :: past)) (c.step s).2.schema := by
  rcases step_cases hu c with ⟨e, hrun⟩ | ⟨r, s', hrun, hok⟩
  · rw [hrun, bareInForce_skip (Bool.and_false _)]
    exact h
  · rw [hrun]
    cases hc : replacesSchema c with
    | false =>
        rw [bareInForce_skip (by rw [hc]; rfl)]
        exact h.frame (schema_kept hok hc)
    | true =>
        rw [bareInForce_hit hc]
        exact schemaRecord_replaced hE hok hc

/-! ## The views of a record -/

/-- Of a record with a parsing schema or none, and the status derived from it,
    the views agree exactly if it is not that of a bare bundle. -/
theorem viewsAgree_iff {bare : Bool} (hrecord : SchemaRecord X bare s.schema)
    (hparses : s.schema.content = "" ∨ ∃ sch, X.schemaFromJsonStr s.schema.content = .ok sch)
    (hstatus : s.requestContextStatus = .noSchema ↔ s.schema.content = "") :
    ViewsAgree C s ↔ bare = false := by
  have hcurrent : HasCurrentSchema s ↔ s.schema.content ≠ "" := by
    rw [HasCurrentSchema, currentSchema]
    by_cases hnil : s.schema.content.isEmpty = true
    · rw [if_pos hnil]
      refine iff_of_false ?_ (fun h => h (String.isEmpty_iff.mp hnil))
      rintro ⟨sch, h⟩
      exact absurd (Except.ok.inj h) (Option.some_ne_none sch).symm
    · rw [if_neg hnil]
      have hne : s.schema.content ≠ "" := fun h => hnil (String.isEmpty_iff.mpr h)
      obtain ⟨sch, hsch⟩ := hparses.resolve_left hne
      rw [hsch]
      exact iff_of_true ⟨sch, rfl⟩ hne
  have hversion : ∀ stamp crateVersion,
      (version C stamp crateVersion s).schema.isSome = true ↔ s.schema.sha256 ≠ "" := by
    intro stamp crateVersion
    show (if s.schema.sha256.isEmpty then none else some _ : Option SchemaVersionInfo).isSome
      = true ↔ _
    by_cases hnil : s.schema.sha256.isEmpty = true
    · rw [if_pos hnil]
      exact iff_of_false Bool.false_ne_true (fun h => h (String.isEmpty_iff.mp hnil))
    · rw [if_neg hnil]
      exact iff_of_true rfl (fun h => hnil (String.isEmpty_iff.mpr h))
  cases bare with
  | true =>
      -- the version shows the digest of the empty text, and there is no schema
      obtain ⟨hcontent, hsha⟩ := hrecord
      refine iff_of_false ?_ (by decide)
      intro h
      have hsome := (hversion ⟨0, 0⟩ "").mpr (by rw [hsha]; exact makeHash_ne_empty "")
      exact hcurrent.mp ((h.version ⟨0, 0⟩ "").mp hsome) hcontent
  | false =>
      refine iff_of_true ⟨?_, ?_, ?_, ?_⟩ rfl
      · intro stamp crateVersion
        rw [hversion, hcurrent]
        rcases hrecord with ⟨hcontent, hsha⟩ | ⟨hcontent, hsha⟩
        · rw [hcontent, hsha]
        · rw [hsha]
          exact iff_of_true (makeHash_ne_empty _) hcontent
      · rw [hcurrent, schemaLoaded, Bool.not_eq_true', ← Bool.not_eq_true, String.isEmpty_iff]
      · rw [hcurrent, Ne, hstatus]
      · intro stamp crateVersion info hinfo
        have hne : s.schema.sha256 ≠ "" := by
          rw [← hversion stamp crateVersion, hinfo]
          rfl
        rcases hrecord with ⟨_, hsha⟩ | ⟨hcontent, hsha⟩
        · exact absurd hsha hne
        · have hshown : (if s.schema.sha256.isEmpty then none
              else some ⟨s.schema.sha256, s.schema.timestamp⟩ : Option SchemaVersionInfo)
              = some info := hinfo
          rw [if_neg (fun h => hne (String.isEmpty_iff.mp h))] at hshown
          cases hshown
          exact ⟨hsha, hparses.resolve_left hcontent⟩

/-! ## Runs -/

/-- **VIEWS**: after every run from a fresh store all views agree exactly if
    the last update that replaced the schema record was not the publication
    of a bundle without a schema. -/
theorem run_viewsAgree_iff (hE : EmptyTextLaws X) (hB : BundleLaws X) {now : Timestamp}
    {s₀ : PolicyStore X} (h : PolicyStore.new X now = .ok s₀) (calls : List (Call X)) :
    ViewsAgree C (run calls s₀)
      ↔ bareInForce (trace Call.step calls s₀).reverse = false := by
  have hfresh : SchemaRecord X false s₀.schema := by
    obtain ⟨_, _, rfl⟩ := new_eq h
    exact Or.inl ⟨rfl, rfl⟩
  have hinv : CachesUsable (run calls s₀)
      ∧ Derived (EngineFromParts (trace Call.step calls s₀).reverse) (run calls s₀)
      ∧ SchemaRecord X (bareInForce (trace Call.step calls s₀).reverse)
        (run calls s₀).schema :=
    history_induct
      (fun past s => CachesUsable s ∧ Derived (EngineFromParts past) s
        ∧ SchemaRecord X (bareInForce past) s.schema)
      ⟨new_usable h, derived_new h _, hfresh⟩
      (fun past s c hi => ⟨step_usable hi.1 c, derived_step hE hB hi.1 hi.2.1 c,
        schemaRecord_step hE hi.1 hi.2.2 c⟩) calls
  obtain ⟨_, hderived, hrecord⟩ := hinv
  exact viewsAgree_iff hrecord hderived.parses (status_of_derived hE hderived).1

open TreetopSample

/-- A bundle without a schema, as the preparation returns it. -/
def bareBundle : PreparedBundle small :=
  (prepareBundleWithEngineMode (X := small) ⟨1, 1, 1, 1⟩ (Bundle.mk false archiveDigest) none
    none .permissive .monolithic).toOption.get rfl

theorem bareBundle_genuine : bareBundle.Genuine :=
  ⟨⟨1, 1, 1, 1⟩, Bundle.mk false archiveDigest, none, none, .permissive, .monolithic, rfl⟩

/-- The criterion for a run that ends with a schema. -/
theorem run_viewsAgree_iff_small :
    ViewsAgree smallEval (run [.applyPreparedBundle bareBundle bareBundle_genuine,
        .setSchema 2 photoSchema none none] fresh)
      ↔ bareInForce (trace Call.step [.applyPreparedBundle bareBundle bareBundle_genuine,
        .setSchema 2 photoSchema none none] fresh).reverse = false :=
  run_viewsAgree_iff emptyTextLaws_small bundleLaws_small new_fresh _

/-- After a bundle without a schema the version report shows one. -/
theorem views_disagree_after_bareBundle :
    ¬ ViewsAgree smallEval
      (run [.applyPreparedBundle bareBundle bareBundle_genuine] fresh) := by
  intro h
  have hshown : (version smallEval ⟨1, 0⟩ "0.2.0"
      (run [.applyPreparedBundle bareBundle bareBundle_genuine] fresh)).schema.isSome = true := by
    decide +kernel
  obtain ⟨sch, hsch⟩ := (h.version ⟨1, 0⟩ "0.2.0").mp hshown
  have hnone : (run [.applyPreparedBundle bareBundle bareBundle_genuine]
      fresh).schema.content.isEmpty = true := by
    decide +kernel
  rw [currentSchema, if_pos hnone] at hsch
  exact absurd (Except.ok.inj hsch) (Option.some_ne_none sch).symm

end TreetopSchemaView
