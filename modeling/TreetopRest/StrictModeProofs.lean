import TreetopRest.CoherenceProofs

/-! # Strict mode serves validated policies only

    In strict mode a store is either still without policies and schema, or its
    engine was built with the recorded schema, which its policies strictly
    validate against (`Backed`).  Policy reloads need a loaded schema, every
    rebuild validates, and a bundle needs a schema of its own when it is
    published, so no call leads out of `Backed` again. -/

namespace TreetopStrictMode

open FallibleState UpdateRun
open TreetopErrors TreetopCrates TreetopMetadata TreetopWire TreetopStore TreetopCoherence

variable {X : Crates}

/-- The schema an engine was built with, as the crates that build engines
    keep it: through preparation and label registries, and for a bundle that
    carries a schema. -/
structure EngineSchemaLaws (X : Crates) (builtWith : X.PreparedEngine → Option X.CedarSchema) :
    Prop where
  withSchema : ∀ dsl sch e, X.newFromStrWithSchema dsl sch = .ok e →
    builtWith (X.prepared e) = some sch
  withRegistry : ∀ e r, builtWith (X.withLabelRegistry e r) = builtWith e
  ofBundle : ∀ v e txt sch,
    (X.prepareEngine v = .ok e ∨ X.prepareEngineWithPolicyStores v = .ok e) →
    X.schemaJsonString v = .ok (some txt) → X.schemaFromJsonStr txt = .ok sch →
    builtWith e = some sch

variable {builtWith : X.PreparedEngine → Option X.CedarSchema}

/-- Neither policies nor a schema were ever loaded. -/
def Unloaded (s : PolicyStore X) : Prop :=
  s.policies.content = "" ∧ s.schema.content = ""

/-- The policies strictly validate against the recorded schema, the engine was
    built with it, and the status says so. -/
structure Backed (builtWith : X.PreparedEngine → Option X.CedarSchema)
    (s : PolicyStore X) : Prop where
  loaded : s.schema.content ≠ ""
  validated : ∃ sch, X.schemaFromJsonStr s.schema.content = .ok sch
    ∧ StrictlyValid X s.policies.content sch ∧ builtWith s.engine = some sch
  status : s.requestContextStatus = .schemaBackedStatus

/-- An engine built from parts with a schema was built with it. -/
theorem builtWith_parts (hL : EngineSchemaLaws X builtWith) {dsl : String}
    {sch : X.CedarSchema} {labelers : List X.Labeler} {version : String}
    {engine : X.PreparedEngine}
    (h : buildEngineFromParts X dsl (some sch) labelers version = .ok engine) :
    builtWith engine = some sch := by
  rw [buildEngineFromParts] at h
  obtain ⟨e, he, h⟩ := bind_eq_ok.mp h
  dsimp only at h
  have hpre : builtWith (X.prepared e) = some sch :=
    hL.withSchema dsl sch e (mapError_eq_ok.mp he)
  by_cases hls : labelers.isEmpty = true
  · rw [if_pos hls] at h
    cases h
    exact hpre
  · rw [if_neg hls] at h
    obtain ⟨registry, _, h⟩ := bind_eq_ok.mp h
    cases h
    rw [hL.withRegistry]
    exact hpre

/-- A strict rebuild with a schema validates and builds with it. -/
theorem strict_rebuild (hL : EngineSchemaLaws X builtWith) {s : PolicyStore X}
    (hm : s.schemaValidationMode = .strict) {dsl : String} {sch : X.CedarSchema}
    {labelers : List X.Labeler} {version : String} {engine : X.PreparedEngine}
    {status : RequestContextStatus}
    (h : Rebuilt s dsl (some sch) labelers version engine status) :
    StrictlyValid X dsl sch ∧ builtWith engine = some sch
      ∧ status = .schemaBackedStatus := by
  obtain ⟨runtime, hrt, hbuild⟩ := h.built
  have hacc : accepts X dsl sch = true := runtimeSchema_strict hm hrt
  obtain ⟨hr, hst⟩ := runtimeSchema_eq hrt
  rw [Option.filter_some, if_pos hacc] at hr
  rw [Option.map_some, hacc] at hst
  subst hr
  exact ⟨(accepts_iff dsl sch).mp hacc, builtWith_parts hL hbuild, hst⟩

/-- The loaded schema of a backed store is the one it validates against. -/
theorem currentSchema_of_parses (hE : EmptyTextLaws X) {s : PolicyStore X}
    {schema : Option X.CedarSchema} {sch : X.CedarSchema} (h : currentSchema s = .ok schema)
    (hsch : X.schemaFromJsonStr s.schema.content = .ok sch) : schema = some sch := by
  rw [currentSchema_eq h]
  exact loadedSchema_of_ok hE hsch

/-! ## Steps -/

/-- A policy reload needs a loaded schema, and validates against it. -/
theorem backed_setDsl (hE : EmptyTextLaws X) (hL : EngineSchemaLaws X builtWith)
    {s s' : PolicyStore X} {now : Timestamp} {dsl : String} {source : Option Endpoint}
    {rf : Option UInt32} (hm : s.schemaValidationMode = .strict)
    (hs : Unloaded s ∨ Backed builtWith s) (h : DslInstalled s now dsl source rf s') :
    Backed builtWith s' := by
  obtain ⟨metadata, schema, engine, status, hgate, hmd, hschema, hre, rfl⟩ := h
  have hcontent : metadata.content = dsl := (Metadata.new_records hmd).1
  rcases hs with ⟨_, hempty⟩ | hb
  · rw [ensureSchemaPresentForPolicyReload] at hgate
    rw [if_pos ⟨hm, by rw [hempty]; rfl⟩] at hgate
    exact nomatch hgate
  · obtain ⟨sch, hsch, _, _⟩ := hb.validated
    have hcur := currentSchema_of_parses hE hschema hsch
    subst hcur
    obtain ⟨hvalid, hwith, hst⟩ := strict_rebuild hL hm hre
    refine ⟨hb.loaded, ⟨sch, hsch, ?_, hwith⟩, hst⟩
    show StrictlyValid X metadata.content sch
    rw [hcontent]
    exact hvalid

theorem backed_setSchema (hE : EmptyTextLaws X) (hL : EngineSchemaLaws X builtWith)
    {s s' : PolicyStore X} {now : Timestamp} {schema : String} {source : Option Endpoint}
    {rf : Option UInt32} (hm : s.schemaValidationMode = .strict)
    (h : SchemaInstalled s now schema source rf s') : Backed builtWith s' := by
  obtain ⟨metadata, parsed, engine, status, hmd, hparsed, _, hre, rfl⟩ := h
  have hcontent : metadata.content = schema := (Metadata.new_records hmd).1
  have hsch : X.schemaFromJsonStr metadata.content = .ok parsed := by
    rw [hcontent]
    exact parseSchema_ok hparsed
  obtain ⟨hvalid, hwith, hst⟩ := strict_rebuild hL hm hre
  refine ⟨?_, ⟨parsed, hsch, hvalid, hwith⟩, hst⟩
  intro hempty
  have hempty' : metadata.content = "" := hempty
  rw [hempty'] at hsch
  exact hE.schema_empty parsed hsch

theorem backed_setLabels (hE : EmptyTextLaws X) (hL : EngineSchemaLaws X builtWith)
    {s s' : PolicyStore X} {now : Timestamp} {labels : String} {source : Option Endpoint}
    {rf : Option UInt32} (hm : s.schemaValidationMode = .strict)
    (hs : Backed builtWith s) (h : LabelsInstalled s now labels source rf s') :
    Backed builtWith s' := by
  obtain ⟨labelSet, schema, engine, status, _, _, hschema, hre, rfl⟩ := h
  obtain ⟨sch, hsch, _, _⟩ := hs.validated
  have hcur := currentSchema_of_parses hE hschema hsch
  subst hcur
  obtain ⟨hvalid, hwith, hst⟩ := strict_rebuild hL hm hre
  exact ⟨hs.loaded, ⟨sch, hsch, hvalid, hwith⟩, hst⟩

/-- A bundle is published in strict mode only with a schema of its own. -/
theorem backed_bundle (hE : EmptyTextLaws X) (hB : BundleLaws X)
    (hL : EngineSchemaLaws X builtWith) {s s' : PolicyStore X} {p : PreparedBundle X}
    (hm : s.schemaValidationMode = .strict) (hp : p.Genuine) (h : BundlePublished s p s') :
    Backed builtWith s' := by
  obtain ⟨hgate, rfl⟩ := h
  have hne : p.schema.content ≠ "" := by
    intro hempty
    rw [ensureBundleSchemaPresent] at hgate
    rw [hm, hempty, if_pos ⟨rfl, rfl⟩] at hgate
    exact nomatch hgate
  obtain ⟨v, hv⟩ := genuine_parts hp
  obtain ⟨txt, htxt, hcontent⟩ := hv.schema
  rcases genuine_schema hE hB hp with ⟨hempty, _⟩ | ⟨sch, hsch, hvalid, _, hst⟩
  · exact absurd hempty hne
  · refine ⟨hne, ⟨sch, hsch, hvalid, ?_⟩, hst⟩
    cases txt with
    | none => exact absurd hcontent hne
    | some t =>
        have ht : p.schema.content = t := hcontent
        rw [ht] at hsch
        exact hL.ofBundle v p.engine t sch hv.engine htxt hsch

theorem backed_frame {s s' : PolicyStore X} (hsame : SameServing s s')
    (h : Backed builtWith s) : Backed builtWith s' := by
  obtain ⟨hengine, hstatus, hpol, _, _, hsch, _⟩ := hsame
  refine ⟨?_, ?_, ?_⟩
  · rw [hsch]; exact h.loaded
  · rw [hsch, hpol, hengine]; exact h.validated
  · rw [hstatus]; exact h.status

theorem unloaded_frame {s s' : PolicyStore X} (hsame : SameServing s s')
    (h : Unloaded s) : Unloaded s' := by
  rw [Unloaded]
  rw [hsame.policies, hsame.schema]
  exact h

/-- No call but a change to permissive mode ends strict mode. -/
theorem strict_stepOk {s s' : PolicyStore X} {c : Call X}
    (hm : s.schemaValidationMode = .strict)
    (hc : c ≠ .setSchemaValidationMode .permissive) (h : StepOk s c s') :
    s'.schemaValidationMode = .strict := by
  cases c with
  | setDsl now dsl source rf =>
      obtain ⟨_, _, _, _, _, _, _, _, rfl⟩ := h
      exact hm
  | setSchema now schema source rf =>
      obtain ⟨_, _, _, _, _, _, _, _, rfl⟩ := h
      exact hm
  | setLabels now labels source rf =>
      obtain ⟨_, _, _, _, _, _, _, _, rfl⟩ := h
      exact hm
  | applyPreparedBundle p hp =>
      obtain ⟨_, rfl⟩ := h
      exact hm
  | setSchemaValidationMode mode =>
      have hs : s' = _ := h
      subst hs
      cases mode with
      | permissive => exact absurd rfl hc
      | strict => rfl
  | configureRemoteSource kind source rf =>
      have hs : s' = _ := h
      subst hs
      cases kind <;> exact hm
  | markRemoteSourceLoaded kind =>
      have hs : s' = _ := h
      subst hs
      cases kind <;> exact hm
  | listPoliciesRaw user groups namespaces =>
      have hs : s' = _ := h
      subst hs
      exact hm
  | listPoliciesJson user groups namespaces =>
      have hs : s' = _ := h
      subst hs
      exact hm

/-- A successful call leads an unloaded store to one that is unloaded or
    backed, and a backed store to a backed one. -/
theorem served_stepOk (hE : EmptyTextLaws X) (hB : BundleLaws X)
    (hL : EngineSchemaLaws X builtWith) {s s' : PolicyStore X} {c : Call X}
    (hm : s.schemaValidationMode = .strict) (h : StepOk s c s') :
    (Unloaded s → Unloaded s' ∨ Backed builtWith s')
      ∧ (Backed builtWith s → Backed builtWith s') := by
  cases hc : c.isContentUpdate with
  | false =>
      have hsame := sameServing_of_stepOk h hc
      exact ⟨fun hu => Or.inl (unloaded_frame hsame hu), backed_frame hsame⟩
  | true =>
      cases c with
      | setDsl now dsl source rf =>
          exact ⟨fun hu => Or.inr (backed_setDsl hE hL hm (Or.inl hu) h),
            fun hb => backed_setDsl hE hL hm (Or.inr hb) h⟩
      | setSchema now schema source rf =>
          exact ⟨fun _ => Or.inr (backed_setSchema hE hL hm h),
            fun _ => backed_setSchema hE hL hm h⟩
      | setLabels now labels source rf =>
          refine ⟨fun hu => Or.inl ?_, fun hb => backed_setLabels hE hL hm hb h⟩
          obtain ⟨_, _, _, _, _, _, _, _, rfl⟩ := h
          exact hu
      | applyPreparedBundle p hp =>
          exact ⟨fun _ => Or.inr (backed_bundle hE hB hL hm hp h),
            fun _ => backed_bundle hE hB hL hm hp h⟩
      | setSchemaValidationMode mode => exact nomatch hc
      | configureRemoteSource kind source rf => exact nomatch hc
      | markRemoteSourceLoaded kind => exact nomatch hc
      | listPoliciesRaw user groups namespaces => exact nomatch hc
      | listPoliciesJson user groups namespaces => exact nomatch hc

/-! ## Runs -/

/-- The invariant of a strict store, over what is known to be loaded. -/
structure StrictlyServed (builtWith : X.PreparedEngine → Option X.CedarSchema)
    (s : PolicyStore X) : Prop where
  usable : CachesUsable s
  strict : s.schemaValidationMode = .strict
  served : Unloaded s ∨ Backed builtWith s

theorem strictlyServed_step (hE : EmptyTextLaws X) (hB : BundleLaws X)
    (hL : EngineSchemaLaws X builtWith) {s : PolicyStore X} {c : Call X}
    (h : StrictlyServed builtWith s) (hc : c ≠ .setSchemaValidationMode .permissive) :
    StrictlyServed builtWith (c.step s).2 := by
  refine step_keeps h.usable c h ?_
  intro s' hok
  refine ⟨stepOk_usable h.usable hok, strict_stepOk h.strict hc hok, ?_⟩
  obtain ⟨hun, hba⟩ := served_stepOk hE hB hL h.strict hok
  rcases h.served with hu | hb
  · exact hun hu
  · exact Or.inr (hba hb)

/-- A strict run keeps a backed store backed. -/
theorem run_backed (hE : EmptyTextLaws X) (hB : BundleLaws X)
    (hL : EngineSchemaLaws X builtWith) {s : PolicyStore X}
    (h : StrictlyServed builtWith s) (hb : Backed builtWith s) (calls : List (Call X))
    (hcalls : ∀ c ∈ calls, c ≠ .setSchemaValidationMode .permissive) :
    Backed builtWith (run calls s) := by
  have hboth : StrictlyServed builtWith (run calls s) ∧ Backed builtWith (run calls s) :=
    final_induct (fun s => StrictlyServed builtWith s ∧ Backed builtWith s)
      (fun c => c ≠ .setSchemaValidationMode .permissive)
      (fun s c hs hc => ⟨strictlyServed_step hE hB hL hs.1 hc,
        step_keeps hs.1.usable c hs.2
          (fun _ hok => (served_stepOk hE hB hL hs.1.strict hok).2 hs.2)⟩)
      calls s hcalls ⟨h, hb⟩
  exact hboth.2

theorem run_strictlyServed (hE : EmptyTextLaws X) (hB : BundleLaws X)
    (hL : EngineSchemaLaws X builtWith) {s : PolicyStore X}
    (h : StrictlyServed builtWith s) (calls : List (Call X))
    (hcalls : ∀ c ∈ calls, c ≠ .setSchemaValidationMode .permissive) :
    StrictlyServed builtWith (run calls s) :=
  final_induct (StrictlyServed builtWith) (fun c => c ≠ .setSchemaValidationMode .permissive)
    (fun _ _ hs hc => strictlyServed_step hE hB hL hs hc) calls s hcalls h

/-- **STRICT MODE**: from a fresh store put into strict mode, every run that
    does not leave the mode ends unloaded or backed, and once a schema is
    loaded it stays loaded to the end of the run. -/
theorem strict_run_served (hE : EmptyTextLaws X) (hB : BundleLaws X)
    (hL : EngineSchemaLaws X builtWith) {now : Timestamp} {s₀ : PolicyStore X}
    (h : PolicyStore.new X now = .ok s₀) (calls : List (Call X))
    (hcalls : ∀ c ∈ calls, c ≠ .setSchemaValidationMode .permissive) :
    (Unloaded (run (.setSchemaValidationMode .strict :: calls) s₀)
        ∨ Backed builtWith (run (.setSchemaValidationMode .strict :: calls) s₀))
      ∧ ∀ pre post, calls = pre ++ post →
          (run (.setSchemaValidationMode .strict :: pre) s₀).schema.content ≠ "" →
          (run (.setSchemaValidationMode .strict :: calls) s₀).schema.content ≠ "" := by
  have hstart : StrictlyServed builtWith
      ((Call.setSchemaValidationMode SchemaValidationMode.strict).step s₀).2 := by
    have hu := step_usable (new_usable h) (.setSchemaValidationMode .strict)
    obtain ⟨_, _, rfl⟩ := new_eq h
    exact ⟨hu, rfl, Or.inl ⟨rfl, rfl⟩⟩
  refine ⟨(run_strictlyServed hE hB hL hstart calls hcalls).served, ?_⟩
  intro pre post hsplit hne
  have hpre : ∀ c ∈ pre, c ≠ .setSchemaValidationMode .permissive :=
    fun c hc => hcalls c (by rw [hsplit]; exact List.mem_append_left _ hc)
  have hpost : ∀ c ∈ post, c ≠ .setSchemaValidationMode .permissive :=
    fun c hc => hcalls c (by rw [hsplit]; exact List.mem_append_right _ hc)
  have hmid := run_strictlyServed hE hB hL hstart pre hpre
  have hb : Backed builtWith (run (.setSchemaValidationMode .strict :: pre) s₀) := by
    rcases hmid.served with hu | hb
    · exact absurd hu.2 hne
    · exact hb
  have hend := (run_backed hE hB hL hmid hb post hpost).loaded
  rw [hsplit]
  show (run (pre ++ post) _).schema.content ≠ ""
  rw [run, final_append]
  exact hend

open TreetopSample in
/-- The engine schema of the sample engines. -/
theorem engineSchemaLaws_small : EngineSchemaLaws small
    (fun e => if Engine.withSchema e then some () else none) where
  withSchema := by
    intro dsl sch e h
    by_cases hd : dsl = "" ∨ dsl = permitAll
    · have he : Except.ok (⟨dsl, true, none⟩ : Engine) = Except.ok e := (if_pos hd).symm.trans h
      cases he
      rfl
    · have he : Except.error (PolicyError.parseError "unexpected token") = Except.ok e :=
        (if_neg hd).symm.trans h
      exact nomatch he
  withRegistry := fun _ _ => rfl
  ofBundle := by
    rintro ⟨withSchema, sha⟩ e txt sch heng htxt _
    cases withSchema with
    | false => exact nomatch htxt
    | true => rcases heng with he | he <;> cases he <;> rfl

open TreetopSample in
/-- A strict run that is refused its policies until the schema is there. -/
theorem strict_run_served_small :
    (Unloaded (run [.setSchemaValidationMode .strict, .setDsl 1 permitAll none none,
        .setSchema 2 photoSchema none none, .setDsl 3 permitAll none none] fresh)
      ∨ Backed (fun e => if Engine.withSchema e then some () else none)
        (run [.setSchemaValidationMode .strict, .setDsl 1 permitAll none none,
          .setSchema 2 photoSchema none none, .setDsl 3 permitAll none none] fresh)) :=
  (strict_run_served emptyTextLaws_small bundleLaws_small engineSchemaLaws_small new_fresh
    [.setDsl 1 permitAll none none, .setSchema 2 photoSchema none none,
      .setDsl 3 permitAll none none] (by simp)).1

end TreetopStrictMode
