import TreetopRest.StoreRunProofs
import TreetopRest.SampleCrates

/-! # Engine and metadata stay in step

    The engine, the labelers and the request status are all DERIVED data: they
    are functions of the three documents the store records.  Each update
    recomputes only some of them, from what the earlier ones left, so the
    invariant has to say what all of them are at once (`Derived`), and that
    the recorded schema still parses.

    A bundle brings its own engine, which no document determines.  Whether one
    is in force is read off the past of the run (`lastContentUpdate`). -/

namespace TreetopCoherence

open FallibleState UpdateRun
open TreetopErrors TreetopCrates TreetopMetadata TreetopWire TreetopStore

variable {X : Crates}

/-! ## What the documents determine -/

/-- The labelers of a label document; the absent document has none. -/
def labelersOf (X : Crates) (content : String) : Except ServiceError (List X.Labeler) :=
  if content.isEmpty then .ok [] else parseLabels X content

/-- The schema of a schema document, if there is one. -/
def loadedSchema (X : Crates) (content : String) : Option X.CedarSchema :=
  if content.isEmpty then none else (X.schemaFromJsonStr content).toOption

/-- `StrictlyValid`, decided. -/
def accepts (X : Crates) (dsl : String) (schema : X.CedarSchema) : Bool :=
  match X.policySetParse dsl with
  | .ok ps => (X.validateStrict schema ps).validationPassed
  | .error _ => false

/-- The schema the engine should run with: the loaded one, if the policies
    strictly validate against it. -/
def effectiveSchema (s : PolicyStore X) : Option X.CedarSchema :=
  (loadedSchema X s.schema.content).filter (accepts X s.policies.content)

/-- The policies strictly validate against the recorded schema document. -/
def SchemaValidates (s : PolicyStore X) : Prop :=
  ∃ sch, X.schemaFromJsonStr s.schema.content = .ok sch
    ∧ StrictlyValid X s.policies.content sch

/-- The status of a validation that was not made, passed, or failed. -/
def statusFor : Option Bool → RequestContextStatus
  | none => .noSchema
  | some true => .schemaBackedStatus
  | some false => .schemaIncompatible

theorem accepts_iff (dsl : String) (schema : X.CedarSchema) :
    accepts X dsl schema = true ↔ StrictlyValid X dsl schema := by
  rw [accepts, StrictlyValid]
  constructor
  · intro h
    cases hp : X.policySetParse dsl with
    | ok ps => rw [hp] at h; exact ⟨ps, rfl, h⟩
    | error e => rw [hp] at h; exact nomatch h
  · rintro ⟨ps, hp, hv⟩
    rw [hp]
    exact hv

theorem validatePolicies_ok_iff (dsl : String) (schema : X.CedarSchema) :
    validatePoliciesWithSchema X dsl schema = .ok () ↔ accepts X dsl schema = true := by
  rw [validatePoliciesWithSchema, accepts]
  cases X.policySetParse dsl with
  | error e => simp
  | ok ps => cases h : (X.validateStrict schema ps).validationPassed <;> simp [h]

/-- A rebuild runs with the schema exactly when the policies validate. -/
theorem runtimeSchema_eq {s : PolicyStore X} {dsl : String}
    {schema runtime : Option X.CedarSchema} {status : RequestContextStatus}
    (h : runtimeSchemaForDsl s dsl schema = .ok (runtime, status)) :
    runtime = schema.filter (accepts X dsl)
      ∧ status = statusFor (schema.map (accepts X dsl)) := by
  cases schema with
  | none =>
      cases h
      exact ⟨rfl, rfl⟩
  | some sch =>
      unfold runtimeSchemaForDsl at h
      dsimp only at h
      cases hv : validatePoliciesWithSchema X dsl sch with
      | ok u =>
          rw [hv] at h
          cases h
          have ha : accepts X dsl sch = true := (validatePolicies_ok_iff dsl sch).mp hv
          rw [Option.filter_some, Option.map_some, ha]
          exact ⟨rfl, rfl⟩
      | error e =>
          have ha : accepts X dsl sch = false := by
            cases hb : accepts X dsl sch with
            | false => rfl
            | true =>
                rw [(validatePolicies_ok_iff dsl sch).mpr hb] at hv
                exact nomatch hv
          rw [hv] at h
          dsimp only at h
          by_cases hm : s.schemaValidationMode = .permissive
          · rw [if_pos hm] at h
            cases h
            rw [Option.filter_some, Option.map_some, ha]
            exact ⟨rfl, rfl⟩
          · rw [if_neg hm] at h
            exact nomatch h

/-- In strict mode a rebuild with a schema has validated against it. -/
theorem runtimeSchema_strict {s : PolicyStore X} {dsl : String} {schema : X.CedarSchema}
    {runtime : Option X.CedarSchema} {status : RequestContextStatus}
    (hm : s.schemaValidationMode = .strict)
    (h : runtimeSchemaForDsl s dsl (some schema) = .ok (runtime, status)) :
    accepts X dsl schema = true := by
  rw [runtimeSchemaForDsl] at h
  cases hv : validatePoliciesWithSchema X dsl schema with
  | ok u => exact (validatePolicies_ok_iff dsl schema).mp hv
  | error e =>
      simp only [hv, hm] at h
      exact nomatch h

theorem currentSchema_eq {s : PolicyStore X} {schema : Option X.CedarSchema}
    (h : currentSchema s = .ok schema) : schema = loadedSchema X s.schema.content := by
  rw [currentSchema] at h
  rw [loadedSchema]
  by_cases hc : s.schema.content.isEmpty = true
  · rw [if_pos hc] at h ⊢
    cases h
    rfl
  · rw [if_neg hc] at h ⊢
    cases hp : X.schemaFromJsonStr s.schema.content with
    | ok sch =>
        rw [hp] at h
        cases h
        rfl
    | error e => rw [hp] at h; exact nomatch h

theorem loadedSchema_of_ok {content : String} {sch : X.CedarSchema}
    (hE : EmptyTextLaws X) (h : X.schemaFromJsonStr content = .ok sch) :
    loadedSchema X content = some sch := by
  rw [loadedSchema]
  by_cases hc : content.isEmpty = true
  · rw [String.isEmpty_iff.mp hc] at h
    exact absurd h (hE.schema_empty sch)
  · rw [if_neg hc, h]
    rfl

theorem parseSchema_ok {schema : String} {sch : X.CedarSchema}
    (h : parseSchema X schema = .ok sch) : X.schemaFromJsonStr schema = .ok sch :=
  mapError_eq_ok.mp h

theorem labelersOf_of_ok {content : String} {ls : X.LabelSet} (hE : EmptyTextLaws X)
    (h : X.labelSetFromJsonStr content = .ok ls) :
    labelersOf X content = .ok (X.toLabelers ls) := by
  rw [labelersOf]
  by_cases hc : content.isEmpty = true
  · rw [String.isEmpty_iff.mp hc] at h
    exact absurd h (hE.labels_empty ls)
  · rw [if_neg hc, parseLabels, h]

/-! ## The invariant -/

/-- Engine, labelers and status are those of the recorded documents; the
    engine only where it was built from them. -/
structure Derived (fromParts : Prop) (s : PolicyStore X) : Prop where
  parses : s.schema.content = "" ∨ ∃ sch, X.schemaFromJsonStr s.schema.content = .ok sch
  labelers : labelersOf X s.labels.content = .ok s.labelRegistryLabelers
  engine : fromParts →
    buildEngineFromParts X s.policies.content (effectiveSchema s) s.labelRegistryLabelers
      s.labels.sha256 = .ok s.engine
  status : s.requestContextStatus
    = statusFor ((loadedSchema X s.schema.content).map (accepts X s.policies.content))

/-- What a rebuild leaves is derived from what it was given. -/
theorem Rebuilt.spec {s : PolicyStore X} {dsl : String} {schema : Option X.CedarSchema}
    {labelers : List X.Labeler} {version : String} {engine : X.PreparedEngine}
    {status : RequestContextStatus}
    (h : Rebuilt s dsl schema labelers version engine status) :
    buildEngineFromParts X dsl (schema.filter (accepts X dsl)) labelers version = .ok engine
      ∧ status = statusFor (schema.map (accepts X dsl)) := by
  obtain ⟨runtime, hrt, hbuild⟩ := h.built
  obtain ⟨hr, hst⟩ := runtimeSchema_eq hrt
  rw [hr] at hbuild
  exact ⟨hbuild, hst⟩

theorem derived_new {now : Timestamp} {s : PolicyStore X}
    (h : PolicyStore.new X now = .ok s) (fromParts : Prop) : Derived fromParts s := by
  obtain ⟨engine, hengine, rfl⟩ := new_eq h
  refine ⟨Or.inl rfl, rfl, fun _ => ?_, rfl⟩
  show buildEngineFromParts X "" none [] "" = .ok (X.prepared engine)
  rw [buildEngineFromParts, hengine]
  rfl

theorem derived_setDsl {s s' : PolicyStore X} {now : Timestamp} {dsl : String}
    {source : Option Endpoint} {rf : Option UInt32} {p : Prop} (hs : Derived p s)
    (h : DslInstalled s now dsl source rf s') : Derived True s' := by
  obtain ⟨metadata, schema, engine, status, _, hmd, hschema, hre, rfl⟩ := h
  have hcontent : metadata.content = dsl := (Metadata.new_records hmd).1
  have hloaded : schema = loadedSchema X s.schema.content := currentSchema_eq hschema
  obtain ⟨hbuild, hstatus⟩ := Rebuilt.spec hre
  subst hloaded
  refine ⟨hs.parses, hs.labelers, fun _ => ?_, ?_⟩
  · show buildEngineFromParts X metadata.content
      ((loadedSchema X s.schema.content).filter (accepts X metadata.content)) _ _ = _
    rw [hcontent]
    exact hbuild
  · show status = statusFor ((loadedSchema X s.schema.content).map
      (accepts X metadata.content))
    rw [hcontent]
    exact hstatus

theorem derived_setSchema (hE : EmptyTextLaws X) {s s' : PolicyStore X} {now : Timestamp}
    {schema : String} {source : Option Endpoint} {rf : Option UInt32} {p : Prop}
    (hs : Derived p s) (h : SchemaInstalled s now schema source rf s') :
    Derived True s' := by
  obtain ⟨metadata, parsed, engine, status, hmd, hparsed, _, hre, rfl⟩ := h
  have hcontent : metadata.content = schema := (Metadata.new_records hmd).1
  have hparse : X.schemaFromJsonStr metadata.content = .ok parsed := by
    rw [hcontent]
    exact parseSchema_ok hparsed
  have hloaded : loadedSchema X metadata.content = some parsed :=
    loadedSchema_of_ok hE hparse
  obtain ⟨hbuild, hstatus⟩ := Rebuilt.spec hre
  refine ⟨Or.inr ⟨parsed, hparse⟩, hs.labelers, fun _ => ?_, ?_⟩
  · show buildEngineFromParts X s.policies.content
      ((loadedSchema X metadata.content).filter (accepts X s.policies.content)) _ _ = _
    rw [hloaded]
    exact hbuild
  · show status = statusFor ((loadedSchema X metadata.content).map
      (accepts X s.policies.content))
    rw [hloaded]
    exact hstatus

theorem derived_setLabels (hE : EmptyTextLaws X) {s s' : PolicyStore X} {now : Timestamp}
    {labels : String} {source : Option Endpoint} {rf : Option UInt32} {p : Prop}
    (hs : Derived p s) (h : LabelsInstalled s now labels source rf s') :
    Derived True s' := by
  obtain ⟨labelSet, schema, engine, status, hparse, _, hschema, hre, rfl⟩ := h
  have hloaded : schema = loadedSchema X s.schema.content := currentSchema_eq hschema
  obtain ⟨hbuild, hstatus⟩ := Rebuilt.spec hre
  subst hloaded
  exact ⟨hs.parses, labelersOf_of_ok hE hparse, fun _ => hbuild, hstatus⟩

/-- The schema document of a genuine bundle: absent with the status that says
    so, or one that validates the bundle's policies, with the backed status. -/
theorem genuine_schema (hE : EmptyTextLaws X) (hB : BundleLaws X) {p : PreparedBundle X}
    (h : p.Genuine) :
    (p.schema.content = "" ∧ p.requestContextStatus = .noSchema)
      ∨ (∃ sch, X.schemaFromJsonStr p.schema.content = .ok sch
          ∧ StrictlyValid X p.policies.content sch
          ∧ p.schema.content ≠ "" ∧ p.requestContextStatus = .schemaBackedStatus) := by
  obtain ⟨v, hv⟩ := genuine_parts h
  obtain ⟨txt, htxt, hcontent⟩ := hv.schema
  have hsome := hB.schema_printed v txt htxt
  have hst := hv.status
  cases txt with
  | none =>
      refine Or.inl ⟨hcontent, ?_⟩
      have hnone : ¬ (X.schemaJson v).isSome = true := fun h0 => nomatch hsome.mpr h0
      rw [hst, if_neg hnone]
  | some t =>
      have hc : p.schema.content = t := hcontent
      obtain ⟨sch, hsch, hvalid⟩ := hB.schema_validates v t htxt
      refine Or.inr ⟨sch, ?_, ?_, ?_, ?_⟩
      · rw [hc]; exact hsch
      · rw [hv.policies]; exact hvalid
      · intro hempty
        rw [← hc, hempty] at hsch
        exact hE.schema_empty sch hsch
      · rw [hst, if_pos (hsome.mp rfl)]

theorem derived_bundle (hE : EmptyTextLaws X) (hB : BundleLaws X) {s s' : PolicyStore X}
    {p : PreparedBundle X} (hp : p.Genuine) (h : BundlePublished s p s') :
    Derived False s' := by
  obtain ⟨_, rfl⟩ := h
  obtain ⟨v, hv⟩ := genuine_parts hp
  obtain ⟨ls, hls, hlabelers⟩ := hB.labels_roundTrip v _ hv.labels
  refine ⟨?_, ?_, fun hf => hf.elim, ?_⟩
  · rcases genuine_schema hE hB hp with ⟨hempty, _⟩ | ⟨sch, hsch, _⟩
    · exact Or.inl hempty
    · exact Or.inr ⟨sch, hsch⟩
  · show labelersOf X p.labels.content = .ok p.labelers
    rw [hv.labelers, ← hlabelers]
    exact labelersOf_of_ok hE hls
  · show p.requestContextStatus
      = statusFor ((loadedSchema X p.schema.content).map (accepts X p.policies.content))
    rcases genuine_schema hE hB hp with ⟨hempty, hst⟩ | ⟨sch, hsch, hvalid, _, hst⟩
    · rw [hempty, hst]; rfl
    · rw [loadedSchema_of_ok hE hsch, hst, Option.map_some,
        (accepts_iff p.policies.content sch).mpr hvalid]
      rfl

/-! ## Runs -/

/-- The last content update of a run that succeeded; the past is newest first. -/
def lastContentUpdate {ρ : Type} (past : List (Call X × Except ServiceError ρ)) :
    Option (Call X) :=
  (past.find? fun e => e.1.isContentUpdate && e.2.isOk).map Prod.fst

/-- The engine in force did not come with a bundle. -/
def EngineFromParts (past : List (Call X × Except ServiceError (Reply X))) : Prop :=
  ∀ c, lastContentUpdate past = some c → c.isBundle = false

theorem lastContentUpdate_skip {past : List (Call X × Except ServiceError (Reply X))}
    {c : Call X} {r : Except ServiceError (Reply X)}
    (h : (c.isContentUpdate && r.isOk) = false) :
    lastContentUpdate ((c, r) :: past) = lastContentUpdate past := by
  unfold lastContentUpdate
  rw [List.find?_cons_of_neg (by simp [h])]

theorem lastContentUpdate_hit {past : List (Call X × Except ServiceError (Reply X))}
    {c : Call X} {r : Reply X} (h : c.isContentUpdate = true) :
    lastContentUpdate ((c, .ok r) :: past) = some c := by
  rw [lastContentUpdate]
  rw [List.find?_cons_of_pos (by rw [h]; rfl)]
  rfl

theorem engineFromParts_skip {past : List (Call X × Except ServiceError (Reply X))}
    {c : Call X} {r : Except ServiceError (Reply X)}
    (h : (c.isContentUpdate && r.isOk) = false) :
    EngineFromParts ((c, r) :: past) ↔ EngineFromParts past := by
  unfold EngineFromParts
  rw [lastContentUpdate_skip h]

/-- `Derived` only weakens when less is known about the engine. -/
theorem Derived.imp {p q : Prop} {s : PolicyStore X} (h : Derived p s) (hqp : q → p) :
    Derived q s :=
  ⟨h.parses, h.labelers, fun hq => h.engine (hqp hq), h.status⟩

/-- Stores that serve the same have the same derived data. -/
theorem derived_frame {p : Prop} {s s' : PolicyStore X} (h : Derived p s)
    (hsame : SameServing s s') : Derived p s' := by
  obtain ⟨hengine, hstatus, hpol, hlab, hver, hsch, hls⟩ := hsame
  refine ⟨?_, ?_, ?_, ?_⟩
  · rw [hsch]; exact h.parses
  · rw [hlab, hls]; exact h.labelers
  · intro hp
    rw [effectiveSchema]
    rw [hsch, hpol, hls, hver, hengine]
    exact h.engine hp
  · rw [hstatus, hsch, hpol]; exact h.status

/-- One call keeps the derived data in step, over the past it extends. -/
theorem derived_step (hE : EmptyTextLaws X) (hB : BundleLaws X)
    {past : List (Call X × Except ServiceError (Reply X))} {s : PolicyStore X}
    (hu : CachesUsable s) (hs : Derived (EngineFromParts past) s) (c : Call X) :
    Derived (EngineFromParts ((c, (c.step s).1) :: past)) (c.step s).2 := by
  rcases step_cases hu c with ⟨e, hrun⟩ | ⟨r, s', hrun, hok⟩
  · rw [hrun]
    refine hs.imp (engineFromParts_skip ?_).mp
    exact Bool.and_false _
  · rw [hrun]
    cases hc : c.isContentUpdate with
    | false =>
        have hpast : (c.isContentUpdate && (Except.ok r : Except ServiceError _).isOk)
            = false := by rw [hc]; rfl
        exact (derived_frame hs (sameServing_of_stepOk hok hc)).imp
          (engineFromParts_skip hpast).mp
    | true =>
        cases c with
        | setDsl now dsl source rf => exact (derived_setDsl hs hok).imp (fun _ => trivial)
        | setSchema now schema source rf =>
            exact (derived_setSchema hE hs hok).imp (fun _ => trivial)
        | setLabels now labels source rf =>
            exact (derived_setLabels hE hs hok).imp (fun _ => trivial)
        | applyPreparedBundle p hp =>
            refine (derived_bundle hE hB hp hok).imp ?_
            intro hfrom
            exact nomatch hfrom _ (lastContentUpdate_hit rfl)
        | setSchemaValidationMode mode => exact nomatch hc
        | configureRemoteSource kind source rf => exact nomatch hc
        | markRemoteSourceLoaded kind => exact nomatch hc
        | listPoliciesRaw user groups namespaces => exact nomatch hc
        | listPoliciesJson user groups namespaces => exact nomatch hc

/-- The status names the case its schema document is in. -/
theorem status_of_derived {p : Prop} {s : PolicyStore X} (hE : EmptyTextLaws X)
    (h : Derived p s) :
    (s.requestContextStatus = .noSchema ↔ s.schema.content = "")
      ∧ (s.requestContextStatus = .schemaBackedStatus ↔ SchemaValidates s)
      ∧ (s.requestContextStatus = .schemaIncompatible
          ↔ s.schema.content ≠ "" ∧ ¬ SchemaValidates s) := by
  rw [h.status]
  rcases h.parses with hempty | ⟨sch, hsch⟩
  · have hno : ¬ SchemaValidates s := by
      rintro ⟨sch, hsch, _⟩
      rw [hempty] at hsch
      exact hE.schema_empty sch hsch
    rw [hempty, show loadedSchema X "" = none from rfl, Option.map_none]
    refine ⟨?_, ?_, ?_⟩
    · exact ⟨fun _ => rfl, fun _ => rfl⟩
    · exact ⟨fun h0 => absurd h0 (by decide), fun h0 => absurd h0 hno⟩
    · exact ⟨fun h0 => absurd h0 (by decide), fun h0 => absurd rfl h0.1⟩
  · have hne : s.schema.content ≠ "" := by
      intro hempty
      rw [hempty] at hsch
      exact hE.schema_empty sch hsch
    -- there is one schema the text can parse to
    have hiff : accepts X s.policies.content sch = true ↔ SchemaValidates s := by
      rw [accepts_iff]
      constructor
      · intro hv
        exact ⟨sch, hsch, hv⟩
      · rintro ⟨sch', hsch', hv⟩
        rw [hsch] at hsch'
        cases hsch'
        exact hv
    rw [loadedSchema_of_ok hE hsch, Option.map_some, ← hiff]
    cases accepts X s.policies.content sch with
    | true =>
        refine ⟨?_, ?_, ?_⟩
        · exact ⟨fun h0 => absurd h0 (by decide), fun h0 => absurd h0 hne⟩
        · exact ⟨fun _ => rfl, fun _ => rfl⟩
        · exact ⟨fun h0 => absurd h0 (by decide), fun h0 => absurd rfl h0.2⟩
    | false =>
        refine ⟨?_, ?_, ?_⟩
        · exact ⟨fun h0 => absurd h0 (by decide), fun h0 => absurd h0 hne⟩
        · exact ⟨fun h0 => absurd h0 (by decide), fun h0 => nomatch h0⟩
        · exact ⟨fun _ => ⟨hne, fun h0 => nomatch h0⟩, fun _ => rfl⟩

/-- What it means for a store to be coherent after the calls `past`. -/
structure Coherent (past : List (Call X × Except ServiceError (Reply X)))
    (s : PolicyStore X) : Prop where
  labelers : labelersOf X s.labels.content = .ok s.labelRegistryLabelers
  engine : (∀ c, lastContentUpdate past = some c → c.isBundle = false) →
    buildEngineFromParts X s.policies.content (effectiveSchema s) s.labelRegistryLabelers
      s.labels.sha256 = .ok s.engine
  noSchema : s.requestContextStatus = .noSchema ↔ s.schema.content = ""
  schemaBacked : s.requestContextStatus = .schemaBackedStatus
    ↔ s.schema.content ≠ "" ∧ SchemaValidates s
  schemaIncompatible : s.requestContextStatus = .schemaIncompatible
    ↔ s.schema.content ≠ "" ∧ ¬ SchemaValidates s

/-- **COHERENCE**: after every run from a fresh store, whatever its calls and
    however many failed, engine, labelers and status are those of the recorded
    documents. -/
theorem run_coherent (hE : EmptyTextLaws X) (hB : BundleLaws X) {now : Timestamp}
    {s₀ : PolicyStore X} (h : PolicyStore.new X now = .ok s₀) (calls : List (Call X)) :
    Coherent (trace Call.step calls s₀).reverse (run calls s₀) := by
  have hinv : CachesUsable (run calls s₀)
      ∧ Derived (EngineFromParts (trace Call.step calls s₀).reverse) (run calls s₀) :=
    history_induct (fun past s => CachesUsable s ∧ Derived (EngineFromParts past) s)
    ⟨new_usable h, derived_new h _⟩
    (fun past s c hi => ⟨step_usable hi.1 c, derived_step hE hB hi.1 hi.2 c⟩) calls
  obtain ⟨_, hd⟩ := hinv
  obtain ⟨hno, hback, hinc⟩ := status_of_derived hE hd
  refine ⟨hd.labelers, hd.engine, hno, ?_, hinc⟩
  rw [hback]
  constructor
  · rintro ⟨sch, hsch, hv⟩
    refine ⟨?_, sch, hsch, hv⟩
    intro hempty
    rw [hempty] at hsch
    exact hE.schema_empty sch hsch
  · exact fun h0 => h0.2

open TreetopSample in
/-- Coherence of a run that loads all three documents. -/
theorem run_coherent_small :
    Coherent
      (trace Call.step [.setSchema 1 photoSchema none none, .setDsl 2 permitAll none none,
        .setLabels 3 photoLabels none none] fresh).reverse
      (run [.setSchema 1 photoSchema none none, .setDsl 2 permitAll none none,
        .setLabels 3 photoLabels none none] fresh) :=
  run_coherent emptyTextLaws_small bundleLaws_small new_fresh _

end TreetopCoherence
