import TreetopRest.SampleCrates
import TreetopRest.SectionProofs

/-! # Documents that fit together

    Policies, labels and a schema that parse and are compatible with each
    other.  A store that holds of each the whole document or nothing
    (`Holds`) takes every one of them, in every order, with ONE exception:
    strict mode refuses policies while there is no schema. -/

namespace TreetopStartup

open FallibleState
open TreetopErrors TreetopCrates TreetopMetadata TreetopWire TreetopStore
open TreetopSections

variable {X : Crates}

/-! ## Documents -/

variable (X) in
/-- Each document parses, the policies are strictly valid against the schema,
    and the labels are compatible with it. -/
structure Fitting (doc : Component → String) (sch : X.CedarSchema) (ls : X.LabelSet) :
    Prop where
  schema_parses : X.schemaFromJsonStr (doc .schema) = .ok sch
  labels_parse : X.labelSetFromJsonStr (doc .labels) = .ok ls
  labels_fit : X.validateSchemaJsonStr ls (doc .schema) = .ok ()
  policies_valid : StrictlyValid X (doc .policies) sch

variable (X) in
/-- What the crates do with these documents: the schema text is JSON, the empty
    policy set is valid against the schema, and engines and label registries
    can be built from them.  The core refuses policies that Cedar finds strictly
    valid (under a schema without actions, say), so an engine with the schema is
    assumed for these policies and for the empty text only. -/
structure BuildLaws (doc : Component → String) (sch : X.CedarSchema) (ls : X.LabelSet) :
    Prop where
  schema_json : ∃ v, X.jsonFromStr (doc .schema) = .ok v
  empty_valid : StrictlyValid X "" sch
  engine : ∃ e, X.newFromStr (doc .policies) = .ok e
  empty_engine_schema : ∃ e, X.newFromStrWithSchema "" sch = .ok e
  engine_schema : ∃ e, X.newFromStrWithSchema (doc .policies) sch = .ok e
  registry : ∀ version, ∃ r, X.registryBuild
    ((X.toLabelers ls).foldl X.addLabeler (X.registryVersioned version)) = .ok r

/-! ## Stores that hold some of them -/

def contentOf (s : PolicyStore X) : Component → String
  | .policies => s.policies.content
  | .labels => s.labels.content
  | .schema => s.schema.content

/-- A store that holds of each document all or nothing. -/
structure Holds (mode : SchemaValidationMode) (doc : Component → String) (ls : X.LabelSet)
    (has : Component → Bool) (s : PolicyStore X) : Prop where
  usable : CachesUsable s
  mode : s.schemaValidationMode = mode
  content : ∀ k, contentOf s k = if has k then doc k else ""
  labelers : s.labelRegistryLabelers = if has .labels then X.toLabelers ls else []

variable {mode : SchemaValidationMode} {doc : Component → String} {sch : X.CedarSchema}
  {ls : X.LabelSet} {has : Component → Bool} {s : PolicyStore X}

/-- A text in force in such a store: nothing, or the whole document. -/
theorem holds_content (h : Holds mode doc ls has s) (k : Component) :
    contentOf s k = "" ∨ contentOf s k = doc k := by
  rw [h.content k]
  cases has k with
  | false => exact Or.inl rfl
  | true => exact Or.inr rfl

/-- The end of an engine build, once there is an engine for the policies. -/
theorem build_of_engine (hb : BuildLaws X doc sch ls) {dsl : String}
    {schema : Option X.CedarSchema} {labelers : List X.Labeler} (version : String)
    (hengine : match schema with
      | some schema => ∃ e, X.newFromStrWithSchema dsl schema = .ok e
      | none => ∃ e, X.newFromStr dsl = .ok e)
    (hlabelers : labelers = [] ∨ labelers = X.toLabelers ls) :
    ∃ engine, buildEngineFromParts X dsl schema labelers version = .ok engine := by
  have hrest : ∀ e : X.PolicyEngine, ∃ engine, (if labelers.isEmpty then .ok (X.prepared e)
      else do
        let registry ← (X.registryBuild
          (labelers.foldl X.addLabeler (X.registryVersioned version))).mapError
            ServiceError.fromPolicyError
        return X.withLabelRegistry (X.prepared e) registry : Except ServiceError _)
      = .ok engine := by
    intro e
    by_cases hnil : labelers.isEmpty = true
    · rw [if_pos hnil]
      exact ⟨_, rfl⟩
    · rw [if_neg hnil]
      rcases hlabelers with rfl | rfl
      · exact absurd rfl hnil
      · obtain ⟨r, hr⟩ := hb.registry version
        rw [mapError_eq_ok.mpr hr]
        exact ⟨_, rfl⟩
  cases schema with
  | none =>
      obtain ⟨e, he⟩ := hengine
      obtain ⟨engine, hend⟩ := hrest e
      exact ⟨engine, bind_eq_ok.mpr ⟨e, mapError_eq_ok.mpr he, hend⟩⟩
  | some schema =>
      obtain ⟨e, he⟩ := hengine
      obtain ⟨engine, hend⟩ := hrest e
      exact ⟨engine, bind_eq_ok.mpr ⟨e, mapError_eq_ok.mpr he, hend⟩⟩

/-- So every rebuild that a load asks for goes through. -/
theorem rebuild_succeeds (hf : Fitting X doc sch ls) (hb : BuildLaws X doc sch ls)
    (hempty : ∃ e, X.newFromStr "" = .ok e) (s : PolicyStore X) {dsl : String}
    {schema : Option X.CedarSchema} {labelers : List X.Labeler} (version : String)
    (hdsl : dsl = "" ∨ dsl = doc .policies)
    (hschema : schema = none ∨ schema = some sch)
    (hlabelers : labelers = [] ∨ labelers = X.toLabelers ls) :
    ∃ engine status, Rebuilt s dsl schema labelers version engine status := by
  have hvalid : StrictlyValid X dsl sch := by
    rcases hdsl with rfl | rfl
    · exact hb.empty_valid
    · exact hf.policies_valid
  rcases hschema with rfl | rfl
  · have hengine : ∃ e, X.newFromStr dsl = .ok e := by
      rcases hdsl with rfl | rfl
      · exact hempty
      · exact hb.engine
    obtain ⟨engine, hbuild⟩ : ∃ engine,
        buildEngineFromParts X dsl none labelers version = .ok engine :=
      build_of_engine hb version hengine hlabelers
    exact ⟨engine, .noSchema, ⟨none, rfl, hbuild⟩⟩
  · have hengine : ∃ e, X.newFromStrWithSchema dsl sch = .ok e := by
      rcases hdsl with rfl | rfl
      · exact hb.empty_engine_schema
      · exact hb.engine_schema
    obtain ⟨engine, hbuild⟩ : ∃ engine,
        buildEngineFromParts X dsl (some sch) labelers version = .ok engine :=
      build_of_engine hb version hengine hlabelers
    refine ⟨engine, .schemaBackedStatus, ⟨some sch, ?_, hbuild⟩⟩
    obtain ⟨ps, hps, hpass⟩ := hvalid
    have hok : validatePoliciesWithSchema X dsl sch = .ok () := by
      rw [validatePoliciesWithSchema, hps]
      exact if_pos hpass
    rw [runtimeSchemaForDsl, hok]

/-! ## Updates -/

section Application

variable (hE : EmptyTextLaws X) (hf : Fitting X doc sch ls) (hb : BuildLaws X doc sch ls)
  (hempty : ∃ e, X.newFromStr "" = .ok e)

include hE hf in
/-- A schema that is loaded is there to be read. -/
theorem holds_schema (h : Holds mode doc ls has s) :
    s.schema.content.isEmpty = !has .schema
      ∧ currentSchema s = .ok (if has .schema then some sch else none) := by
  have hcontent : s.schema.content = if has .schema then doc .schema else "" :=
    h.content .schema
  rw [currentSchema]
  cases hload : has .schema with
  | false =>
      rw [hload] at hcontent
      rw [hcontent]
      exact ⟨rfl, rfl⟩
  | true =>
      rw [hload, if_pos rfl] at hcontent
      have hne : (doc .schema).isEmpty = false := by
        rw [← Bool.not_eq_true, String.isEmpty_iff]
        intro hnil
        have hparse := hf.schema_parses
        rw [hnil] at hparse
        exact hE.schema_empty sch hparse
      rw [hcontent, hne, hf.schema_parses]
      exact ⟨rfl, rfl⟩

include hE hf in
/-- Strict mode with no schema, and only that, is in the way of policies. -/
theorem holds_gate (h : Holds mode doc ls has s) :
    ensureSchemaPresentForPolicyReload s = .ok ()
      ↔ ¬ (mode = .strict ∧ has .schema = false) := by
  have hempty : s.schema.content.isEmpty = true ↔ has .schema = false := by
    rw [(holds_schema hE hf h).1, Bool.not_eq_true']
  rw [ensureSchemaPresentForPolicyReload, h.mode]
  by_cases hblocked : mode = .strict ∧ has .schema = false
  · rw [if_pos (hblocked.imp id hempty.mpr)]
    exact ⟨(fun h => nomatch h), (fun h => absurd hblocked h)⟩
  · rw [if_neg (fun hc => hblocked (hc.imp id hempty.mp))]
    exact ⟨fun _ => hblocked, fun _ => rfl⟩

include hE hf in
/-- The labels fit the schema that is loaded, if one is. -/
theorem holds_schemaFits (h : Holds mode doc ls has s) : ensureSchemaFitsLabels s ls = .ok () := by
  rw [ensureSchemaFitsLabels, (holds_schema hE hf h).1]
  cases hload : has .schema with
  | false => rfl
  | true =>
      have hcontent : s.schema.content = doc .schema := by
        have := h.content .schema
        rwa [hload, if_pos rfl] at this
      rw [hcontent, hf.labels_fit]
      rfl

include hf in
/-- The schema is fit by the labels that are loaded, if any are. -/
theorem holds_labelsFit (h : Holds mode doc ls has s) :
    ensureLabelsFitSchema s (doc .schema) = .ok () := by
  have hlabels : s.labels.content = "" ∨ s.labels.content = doc .labels :=
    holds_content h .labels
  rw [ensureLabelsFitSchema]
  by_cases hnil : s.labels.content.isEmpty = true
  · rw [if_pos hnil]
  · rw [if_neg hnil]
    rcases hlabels with hcontent | hcontent
    · rw [hcontent] at hnil
      exact absurd rfl hnil
    · rw [hcontent, hf.labels_parse]
      exact mapError_eq_ok.mpr hf.labels_fit

include hf hb in
/-- The schema is counted: its text is a JSON document. -/
theorem schemaMetadata_built (now : Timestamp) (source : Option Endpoint)
    (refreshFrequency : Option UInt32) :
    ∃ md, Metadata.new X .ofSchema now (doc .schema) source refreshFrequency = .ok md := by
  obtain ⟨v, hjson⟩ := hb.schema_json
  rw [Metadata.new]
  by_cases hguard : ((doc .schema).isEmpty && source.isNone && refreshFrequency.isNone) = true
  · rw [if_pos hguard]
    exact ⟨_, rfl⟩
  · rw [if_neg hguard, validateContent, hf.schema_parses, countEntries, hjson]
    exact ⟨_, rfl⟩

include hE hf hb hempty in
/-- **Every document is accepted**, whatever is loaded already; policies need
    strict mode off or a schema. -/
theorem update_succeeds (h : Holds mode doc ls has s) (k : Component) (now : Timestamp)
    (source : Option Endpoint) (refreshFrequency : Option UInt32)
    (hgate : k = .policies → ¬ (mode = .strict ∧ has .schema = false)) :
    ∃ s', (k.update now (doc k) source refreshFrequency).step s = (.ok .done, s') := by
  have hdsl : s.policies.content = "" ∨ s.policies.content = doc .policies :=
    holds_content h .policies
  have hlabelers : s.labelRegistryLabelers = [] ∨ s.labelRegistryLabelers = X.toLabelers ls := by
    rw [h.labelers]
    cases has .labels with
    | false => exact Or.inl rfl
    | true => exact Or.inr rfl
  have hschema : (if has .schema then some sch else none) = none
      ∨ (if has .schema then some sch else none) = some sch := by
    cases has .schema with
    | false => exact Or.inl rfl
    | true => exact Or.inr rfl
  obtain ⟨-, hcurrent⟩ := holds_schema hE hf h
  cases k with
  | policies =>
      obtain ⟨engine, status, hre⟩ := rebuild_succeeds hf hb hempty s s.labels.sha256
        (Or.inr rfl) hschema hlabelers
      obtain ⟨s', hrun⟩ := setDsl_succeeds h.usable now (doc .policies) source refreshFrequency
        ((holds_gate hE hf h).mpr (hgate rfl)) hcurrent hre
      refine ⟨s', ?_⟩
      show (exec (setDsl now (doc .policies) source refreshFrequency) s).map _ id = _
      rw [hrun]
      rfl
  | labels =>
      -- the registry is rebuilt under the digest of the new text
      obtain ⟨engine, status, hre⟩ := rebuild_succeeds hf hb hempty s (makeHash X (doc .labels))
        hdsl hschema (Or.inr rfl)
      obtain ⟨s', hrun⟩ := setLabels_succeeds h.usable now (doc .labels) source refreshFrequency
        hf.labels_parse (holds_schemaFits hE hf h) hcurrent hre
      refine ⟨s', ?_⟩
      show (exec (setLabels now (doc .labels) source refreshFrequency) s).map _ id = _
      rw [hrun]
      rfl
  | schema =>
      obtain ⟨metadata, hmd⟩ := schemaMetadata_built hf hb now (source.or s.schema.source)
        (refreshFrequency.or s.schema.refreshFrequency)
      have hparsed : parseSchema X (doc .schema) = .ok sch :=
        mapError_eq_ok.mpr hf.schema_parses
      obtain ⟨engine, status, hre⟩ := rebuild_succeeds hf hb hempty s s.labels.sha256
        hdsl (Or.inr rfl) hlabelers
      obtain ⟨s', hrun⟩ := setSchema_succeeds now (doc .schema) source refreshFrequency hmd
        hparsed (holds_labelsFit hf h) hre
      refine ⟨s', ?_⟩
      show (exec (setSchema now (doc .schema) source refreshFrequency) s).map _ id = _
      rw [hrun]
      rfl

include hE hf in
/-- In strict mode, policies are refused while there is no schema. -/
theorem update_refused (h : Holds mode doc ls has s) (now : Timestamp) (body : String)
    (source : Option Endpoint) (refreshFrequency : Option UInt32)
    (hblocked : mode = .strict ∧ has .schema = false) :
    ∃ e, (Component.policies.update now body source refreshFrequency).step s = (.error e, s) := by
  rcases answer_of_allOrNothing (setDsl_cases h.usable now body source refreshFrequency)
    (fun _ => .done) with hno | ⟨r, s', hrun, _, hq⟩
  · exact hno
  · obtain ⟨_, _, _, _, hgate, _⟩ := hq
    exact absurd hblocked ((holds_gate hE hf h).mp hgate)

/-- An update of a component replaces its own document. -/
structure Replaced (s : PolicyStore X) (k : Component) (body : String)
    (ls : X.LabelSet) (s' : PolicyStore X) : Prop where
  usable : CachesUsable s'
  mode : s'.schemaValidationMode = s.schemaValidationMode
  componentMode : s'.bundleUrlMode = s.bundleUrlMode
  loads : s'.remoteLoads = s.remoteLoads
  content : ∀ j, contentOf s' j = if k = j then body else contentOf s j
  labelers : s'.labelRegistryLabelers
    = if k = .labels then X.toLabelers ls else s.labelRegistryLabelers

include hf in
theorem replaced_of_stepOk (hu : CachesUsable s) {k : Component} {now : Timestamp}
    {source : Option Endpoint} {refreshFrequency : Option UInt32} {s' : PolicyStore X}
    (hok : StepOk s (k.update now (doc k) source refreshFrequency) s') :
    Replaced s k (doc k) ls s' := by
  have hu' : CachesUsable s' := stepOk_usable hu hok
  cases k with
  | policies =>
      obtain ⟨metadata, _, _, _, _, hmd, _, _, rfl⟩ := hok
      refine ⟨hu', rfl, rfl, rfl, ?_, rfl⟩
      intro j
      cases j with
      | policies => exact (Metadata.new_records hmd).1
      | labels => rfl
      | schema => rfl
  | labels =>
      obtain ⟨labelSet, _, _, _, hparse, _, _, _, rfl⟩ := hok
      refine ⟨hu', rfl, rfl, rfl, ?_, ?_⟩
      · intro j
        cases j <;> rfl
      · rw [hf.labels_parse] at hparse
        cases hparse
        rfl
  | schema =>
      obtain ⟨metadata, _, _, _, hmd, _, _, _, rfl⟩ := hok
      refine ⟨hu', rfl, rfl, rfl, ?_, rfl⟩
      intro j
      cases j with
      | policies => rfl
      | labels => rfl
      | schema => exact (Metadata.new_records hmd).1

end Application

/-! ## Three documents that fit -/

open TreetopSample

def photoDocuments : Component → String
  | .policies => permitAll
  | .labels => photoLabels
  | .schema => photoSchema

theorem fitting_small :
    Fitting small photoDocuments () (["tags"] : List String) where
  schema_parses := by simp [photoDocuments, small]
  labels_parse := by simp [photoDocuments, small]
  labels_fit := by simp [photoDocuments, small]
  policies_valid := ⟨permitAll, by simp [photoDocuments, small], by decide +kernel⟩

theorem buildLaws_small :
    BuildLaws small photoDocuments () (["tags"] : List String) where
  schema_json := ⟨photoSchema, by simp [photoDocuments, small]⟩
  empty_valid := ⟨"", by simp [small], by decide +kernel⟩
  engine := ⟨⟨permitAll, false, none⟩, by simp [photoDocuments, small]⟩
  empty_engine_schema := ⟨⟨"", true, none⟩, by simp [small]⟩
  engine_schema := ⟨⟨permitAll, true, none⟩, by simp [photoDocuments, small]⟩
  registry := fun _ => ⟨_, rfl⟩

end TreetopStartup
