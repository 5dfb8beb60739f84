import TreetopRest.StoreModel

/-! # What each store operation can do

    One lemma per operation, with the listing caches usable: it REJECTS and
    the store is as before, or it succeeds, every check it made passed, and
    the next store is written out.  Every invariant of the store is derived
    from these; no later proof unfolds an operation. -/

namespace TreetopStore

open FallibleState LruCache
open TreetopErrors TreetopCrates TreetopMetadata TreetopWire

variable {X : Crates}

/-- Neither listing cache is poisoned. -/
structure CachesUsable (s : PolicyStore X) : Prop where
  raw : s.listPoliciesRawCache.poisoned = false
  json : s.listPoliciesJsonCache.poisoned = false

/-- The store with both listing caches cleared. -/
def PolicyStore.cleared (s : PolicyStore X) : PolicyStore X :=
  { s with
    listPoliciesRawCache := ⟨.empty, false⟩
    listPoliciesJsonCache := ⟨.empty, false⟩ }

/-- The store with another engine and status. -/
def PolicyStore.withEngine (s : PolicyStore X) (engine : X.PreparedEngine)
    (status : RequestContextStatus) : PolicyStore X :=
  { s with engine, requestContextStatus := status }

theorem lock_usable {α : Type} {m : Mutex α} (name : String)
    (h : m.poisoned = false) : m.lock name = .ok m.value := by
  rw [Mutex.lock]
  rw [h]
  rfl

theorem exec_clearListPoliciesCache {s : PolicyStore X} (h : CachesUsable s) :
    exec clearListPoliciesCache s = (.ok (), s.cleared) := by
  rw [clearListPoliciesCache]
  rw [exec_bind_get, lock_usable "raw" h.raw, exec_bind_lift_ok, exec_bind_modify,
    exec_bind_get, lock_usable "json" h.json, exec_bind_lift_ok]
  rfl

/-! ## Rebuilding the engine -/

/-- The pieces a rebuild computes: the runtime schema, the status and the engine. -/
structure Rebuilt (s : PolicyStore X) (dsl : String) (schema : Option X.CedarSchema)
    (labelers : List X.Labeler) (version : String)
    (engine : X.PreparedEngine) (status : RequestContextStatus) : Prop where
  built : ∃ runtime, runtimeSchemaForDsl s dsl schema = .ok (runtime, status)
    ∧ buildEngineFromParts X dsl runtime labelers version = .ok engine

/-- A rebuild followed by a write and an infallible rest rejects without a
    trace or leaves what the rest leaves. -/
theorem allOrNothing_rebuild {s : PolicyStore X} {dsl : String}
    {schema : Option X.CedarSchema} {labelers : List X.Labeler} {version : String}
    {f : Unit → StoreM X Unit} {Q : Unit → PolicyStore X → Prop}
    (h : ∀ engine status, Rebuilt s dsl schema labelers version engine status →
      ∃ s', exec (f ()) (s.withEngine engine status) = (.ok (), s') ∧ Q () s') :
    AllOrNothing (rebuildEngineForDslWithParts dsl schema labelers version >>= f) s Q := by
  have hmain : AllOrNothing (rebuildEngineForDslWithParts dsl schema labelers version) s
      (fun _ s₁ => ∃ engine status, Rebuilt s dsl schema labelers version engine status
        ∧ s₁ = s.withEngine engine status) := by
    rw [rebuildEngineForDslWithParts]
    refine allOrNothing_bind_get (allOrNothing_bind_lift ?_)
    rintro ⟨runtime, status⟩ hrt
    refine allOrNothing_bind_lift ?_
    intro engine hbuild
    exact allOrNothing_of_ok (exec_modify _ s)
      ⟨engine, status, ⟨runtime, hrt, hbuild⟩, rfl⟩
  refine hmain.bind ?_
  rintro ⟨⟩ s₁ ⟨engine, status, hre, rfl⟩
  obtain ⟨s', hrest, hq⟩ := h engine status hre
  exact ⟨(), s', hrest, hq⟩

/-! ## The four content updates -/

/-- A policy reload from `s` to `s'`: every check passed, the engine is rebuilt
    from the new text and what is loaded, and the caches are cleared. -/
def DslInstalled (s : PolicyStore X) (now : Timestamp) (dsl : String)
    (source : Option Endpoint) (refreshFrequency : Option UInt32)
    (s' : PolicyStore X) : Prop :=
  ∃ metadata schema engine status,
    ensureSchemaPresentForPolicyReload s = .ok ()
    ∧ Metadata.new X .ofPolicies now dsl (source.or s.policies.source)
        (refreshFrequency.or s.policies.refreshFrequency) = .ok metadata
    ∧ currentSchema s = .ok schema
    ∧ Rebuilt s dsl schema s.labelRegistryLabelers s.labels.sha256 engine status
    ∧ s' = PolicyStore.cleared
        { s.withEngine engine status with policies := metadata, bundle := none }

theorem setDsl_cases {s : PolicyStore X} (h : CachesUsable s) (now : Timestamp)
    (dsl : String) (source : Option Endpoint) (refreshFrequency : Option UInt32) :
    AllOrNothing (setDsl now dsl source refreshFrequency) s
      (fun _ s' => DslInstalled s now dsl source refreshFrequency s') := by
  rw [setDsl]
  refine allOrNothing_bind_get (allOrNothing_bind_lift ?_)
  intro _ hgate
  refine allOrNothing_bind_get (allOrNothing_bind_lift ?_)
  intro metadata hmd
  refine allOrNothing_bind_get (allOrNothing_bind_lift ?_)
  intro schema hschema
  refine allOrNothing_bind_get (allOrNothing_bind_get (allOrNothing_rebuild ?_))
  intro engine status hre
  refine ⟨_, ?_, metadata, schema, engine, status, hgate, hmd, hschema, hre, rfl⟩
  rw [exec_bind_modify]
  exact exec_clearListPoliciesCache ⟨h.raw, h.json⟩

/-- A schema reload from `s` to `s'`.  Both listing caches survive it. -/
def SchemaInstalled (s : PolicyStore X) (now : Timestamp) (schema : String)
    (source : Option Endpoint) (refreshFrequency : Option UInt32)
    (s' : PolicyStore X) : Prop :=
  ∃ metadata parsed engine status,
    Metadata.new X .ofSchema now schema (source.or s.schema.source)
        (refreshFrequency.or s.schema.refreshFrequency) = .ok metadata
    ∧ parseSchema X schema = .ok parsed
    ∧ ensureLabelsFitSchema s schema = .ok ()
    ∧ Rebuilt s s.policies.content (some parsed) s.labelRegistryLabelers
        s.labels.sha256 engine status
    ∧ s' = { s.withEngine engine status with schema := metadata, bundle := none }

theorem setSchema_cases (s : PolicyStore X) (now : Timestamp) (schema : String)
    (source : Option Endpoint) (refreshFrequency : Option UInt32) :
    AllOrNothing (setSchema now schema source refreshFrequency) s
      (fun _ s' => SchemaInstalled s now schema source refreshFrequency s') := by
  rw [setSchema]
  refine allOrNothing_bind_get (allOrNothing_bind_lift ?_)
  intro metadata hmd
  refine allOrNothing_bind_lift ?_
  intro parsed hparsed
  refine allOrNothing_bind_get (allOrNothing_bind_lift ?_)
  intro _ hfit
  refine allOrNothing_bind_get (allOrNothing_bind_get (allOrNothing_bind_get
    (allOrNothing_rebuild ?_)))
  intro engine status hre
  exact ⟨_, exec_modify _ _, metadata, parsed, engine, status, hmd, hparsed, hfit, hre, rfl⟩

/-- A label reload from `s` to `s'`. -/
def LabelsInstalled (s : PolicyStore X) (now : Timestamp) (labels : String)
    (source : Option Endpoint) (refreshFrequency : Option UInt32)
    (s' : PolicyStore X) : Prop :=
  ∃ labelSet schema engine status,
    X.labelSetFromJsonStr labels = .ok labelSet
    ∧ ensureSchemaFitsLabels s labelSet = .ok ()
    ∧ currentSchema s = .ok schema
    ∧ Rebuilt s s.policies.content schema (X.toLabelers labelSet)
        (makeHash X labels) engine status
    ∧ s' = PolicyStore.cleared { s.withEngine engine status with
        labelRegistryLabelers := X.toLabelers labelSet
        labels := Metadata.fromValidatedContent X .ofLabels now labels
          (source.or s.labels.source) (refreshFrequency.or s.labels.refreshFrequency)
          (X.labelSetRules labelSet)
        bundle := none }

theorem setLabels_cases {s : PolicyStore X} (h : CachesUsable s) (now : Timestamp)
    (labels : String) (source : Option Endpoint) (refreshFrequency : Option UInt32) :
    AllOrNothing (setLabels now labels source refreshFrequency) s
      (fun _ s' => LabelsInstalled s now labels source refreshFrequency s') := by
  rw [setLabels]
  refine allOrNothing_bind_get (allOrNothing_bind_lift ?_)
  intro labelSet hls
  have hparse : X.labelSetFromJsonStr labels = .ok labelSet := mapError_eq_ok.mp hls
  refine allOrNothing_bind_get (allOrNothing_bind_lift ?_)
  intro _ hfit
  refine allOrNothing_bind_get (allOrNothing_bind_get (allOrNothing_bind_lift ?_))
  intro schema hschema
  refine allOrNothing_rebuild ?_
  intro engine status hre
  refine ⟨_, ?_, labelSet, schema, engine, status, hparse, hfit, hschema, hre, rfl⟩
  rw [exec_bind_modify]
  exact exec_clearListPoliciesCache ⟨h.raw, h.json⟩

/-! ## Updates that succeed

    The other direction: where every check of an update passes, it succeeds. -/

theorem exec_rebuild {s : PolicyStore X} {dsl : String} {schema : Option X.CedarSchema}
    {labelers : List X.Labeler} {version : String} {engine : X.PreparedEngine}
    {status : RequestContextStatus}
    (h : Rebuilt s dsl schema labelers version engine status) :
    exec (rebuildEngineForDslWithParts dsl schema labelers version) s
      = (.ok (), s.withEngine engine status) := by
  obtain ⟨runtime, hrt, hbuild⟩ := h.built
  rw [rebuildEngineForDslWithParts, exec_bind_get, hrt, exec_bind_lift_ok]
  dsimp only
  rw [hbuild]
  rfl

theorem setDsl_succeeds {s : PolicyStore X} (h : CachesUsable s) (now : Timestamp)
    (dsl : String) (source : Option Endpoint) (refreshFrequency : Option UInt32)
    {schema : Option X.CedarSchema} {engine : X.PreparedEngine}
    {status : RequestContextStatus}
    (hgate : ensureSchemaPresentForPolicyReload s = .ok ()) (hschema : currentSchema s = .ok schema)
    (hre : Rebuilt s dsl schema s.labelRegistryLabelers s.labels.sha256 engine status) :
    ∃ s', exec (setDsl now dsl source refreshFrequency) s = (.ok (), s') := by
  obtain ⟨metadata, hmd⟩ := Metadata.new_ofPolicies (X := X) now dsl
    (source.or s.policies.source) (refreshFrequency.or s.policies.refreshFrequency)
  refine ⟨PolicyStore.cleared { s.withEngine engine status with
    policies := metadata, bundle := none }, ?_⟩
  rw [setDsl, exec_bind_get, hgate, exec_bind_lift_ok, exec_bind_get]
  dsimp only
  rw [hmd, exec_bind_lift_ok, exec_bind_get, hschema, exec_bind_lift_ok, exec_bind_get,
    exec_bind_get, exec_bind, exec_rebuild hre]
  dsimp only
  rw [exec_bind_modify]
  exact exec_clearListPoliciesCache ⟨h.raw, h.json⟩

theorem setSchema_succeeds {s : PolicyStore X} (now : Timestamp) (schema : String)
    (source : Option Endpoint) (refreshFrequency : Option UInt32) {metadata : Metadata .ofSchema}
    {parsed : X.CedarSchema} {engine : X.PreparedEngine} {status : RequestContextStatus}
    (hmd : Metadata.new X .ofSchema now schema (source.or s.schema.source)
      (refreshFrequency.or s.schema.refreshFrequency) = .ok metadata)
    (hparsed : parseSchema X schema = .ok parsed) (hfit : ensureLabelsFitSchema s schema = .ok ())
    (hre : Rebuilt s s.policies.content (some parsed) s.labelRegistryLabelers s.labels.sha256
      engine status) :
    ∃ s', exec (setSchema now schema source refreshFrequency) s = (.ok (), s') := by
  refine ⟨{ s.withEngine engine status with schema := metadata, bundle := none }, ?_⟩
  rw [setSchema, exec_bind_get]
  dsimp only
  rw [hmd, exec_bind_lift_ok, hparsed, exec_bind_lift_ok, exec_bind_get, hfit,
    exec_bind_lift_ok, exec_bind_get, exec_bind_get, exec_bind_get, exec_bind,
    exec_rebuild hre]
  rfl

theorem setLabels_succeeds {s : PolicyStore X} (h : CachesUsable s) (now : Timestamp)
    (labels : String) (source : Option Endpoint) (refreshFrequency : Option UInt32)
    {labelSet : X.LabelSet} {schema : Option X.CedarSchema} {engine : X.PreparedEngine}
    {status : RequestContextStatus} (hparse : X.labelSetFromJsonStr labels = .ok labelSet)
    (hfit : ensureSchemaFitsLabels s labelSet = .ok ()) (hschema : currentSchema s = .ok schema)
    (hre : Rebuilt s s.policies.content schema (X.toLabelers labelSet) (makeHash X labels)
      engine status) :
    ∃ s', exec (setLabels now labels source refreshFrequency) s = (.ok (), s') := by
  refine ⟨PolicyStore.cleared { s.withEngine engine status with
    labelRegistryLabelers := X.toLabelers labelSet
    labels := Metadata.fromValidatedContent X .ofLabels now labels
      (source.or s.labels.source) (refreshFrequency.or s.labels.refreshFrequency)
      (X.labelSetRules labelSet)
    bundle := none }, ?_⟩
  rw [setLabels, exec_bind_get]
  dsimp only
  rw [mapError_eq_ok.mpr hparse, exec_bind_lift_ok, exec_bind_get, hfit, exec_bind_lift_ok,
    exec_bind_get, exec_bind_get, hschema, exec_bind_lift_ok]
  dsimp only [Metadata.fromValidatedContent]
  rw [exec_bind, exec_rebuild hre]
  dsimp only
  rw [exec_bind_modify]
  exact exec_clearListPoliciesCache ⟨h.raw, h.json⟩

/-! ## Bundles -/

/-- The records of a genuine bundle are those of its validated parts, all three
    under the source the bundle was prepared for. -/
structure BundleParts (p : PreparedBundle X) (v : X.ValidatedBundle) : Prop where
  policies : p.policies.content = X.bundlePolicies v
  labels : X.labelsJson v = .ok p.labels.content
  labelers : p.labelers = X.toLabelers (X.bundleLabels v)
  schema : ∃ txt, X.schemaJsonString v = .ok txt ∧ p.schema.content = txt.getD ""
  status : p.requestContextStatus
    = if (X.schemaJson v).isSome then .schemaBackedStatus else .noSchema
  engine : X.prepareEngine v = .ok p.engine ∨ X.prepareEngineWithPolicyStores v = .ok p.engine
  archive : p.bundle.archiveSha256 = X.archiveSha256 v
  policySource : p.policies.source = p.bundle.source
    ∧ p.policies.refreshFrequency = p.bundle.refreshFrequency
  labelSource : p.labels.source = p.bundle.source
    ∧ p.labels.refreshFrequency = p.bundle.refreshFrequency
  schemaSource : p.schema.source = p.bundle.source
    ∧ p.schema.refreshFrequency = p.bundle.refreshFrequency

theorem prepared_parts {clock : BundleClock} {v : X.ValidatedBundle}
    {source : Option Endpoint} {rf : Option UInt32} {mode : SchemaValidationMode}
    {engineMode : BundleEngineMode} {p : PreparedBundle X}
    (hp : prepareBundleWithEngineMode clock v source rf mode engineMode = .ok p) :
    BundleParts p v := by
  rw [prepareBundleWithEngineMode] at hp
  obtain ⟨_, _, hp⟩ := bind_eq_ok.mp hp
  cases engineMode with
  | monolithic =>
      obtain ⟨engine, heng, hp⟩ := bind_eq_ok.mp hp
      obtain ⟨labelsJson, hlab, hp⟩ := bind_eq_ok.mp hp
      obtain ⟨txt, hsch, hp⟩ := bind_eq_ok.mp hp
      cases hp
      refine ⟨rfl, mapError_eq_ok.mp hlab, rfl, ⟨txt, mapError_eq_ok.mp hsch, ?_⟩, rfl,
        Or.inl (mapError_eq_ok.mp heng), rfl, ⟨rfl, rfl⟩, ⟨rfl, rfl⟩, ?_⟩
      · cases txt <;> rfl
      · cases txt <;> exact ⟨rfl, rfl⟩
  | bundleModules =>
      obtain ⟨engine, heng, hp⟩ := bind_eq_ok.mp hp
      obtain ⟨labelsJson, hlab, hp⟩ := bind_eq_ok.mp hp
      obtain ⟨txt, hsch, hp⟩ := bind_eq_ok.mp hp
      cases hp
      refine ⟨rfl, mapError_eq_ok.mp hlab, rfl, ⟨txt, mapError_eq_ok.mp hsch, ?_⟩, rfl,
        Or.inr (mapError_eq_ok.mp heng), rfl, ⟨rfl, rfl⟩, ⟨rfl, rfl⟩, ?_⟩
      · cases txt <;> rfl
      · cases txt <;> exact ⟨rfl, rfl⟩

theorem genuine_parts {p : PreparedBundle X} (h : p.Genuine) :
    ∃ v, BundleParts p v := by
  obtain ⟨_, v, _, _, _, _, hp⟩ := h
  exact ⟨v, prepared_parts hp⟩

/-- A prepared bundle records the digest of its schema text, also of an empty one. -/
theorem genuine_schema_sha256 {p : PreparedBundle X} (h : p.Genuine) :
    p.schema.sha256 = makeHash X p.schema.content := by
  obtain ⟨_, v, _, _, _, engineMode, hp⟩ := h
  rw [prepareBundleWithEngineMode] at hp
  obtain ⟨_, _, hp⟩ := bind_eq_ok.mp hp
  -- both engine layouts record the schema alike
  cases engineMode with
  | monolithic =>
      obtain ⟨_, _, hp⟩ := bind_eq_ok.mp hp
      obtain ⟨_, _, hp⟩ := bind_eq_ok.mp hp
      obtain ⟨txt, _, hp⟩ := bind_eq_ok.mp hp
      cases hp
      cases txt <;> rfl
  | bundleModules =>
      obtain ⟨_, _, hp⟩ := bind_eq_ok.mp hp
      obtain ⟨_, _, hp⟩ := bind_eq_ok.mp hp
      obtain ⟨txt, _, hp⟩ := bind_eq_ok.mp hp
      cases hp
      cases txt <;> rfl

/-- The store a bundle publication leaves. -/
def PolicyStore.published (s : PolicyStore X) (p : PreparedBundle X) : PolicyStore X :=
  { s.cleared with
    engine := p.engine
    policies := p.policies
    labels := p.labels
    schema := p.schema
    labelRegistryLabelers := p.labelers
    requestContextStatus := p.requestContextStatus
    bundle := some p.bundle }

/-- A bundle publication from `s` to `s'`. -/
def BundlePublished (s : PolicyStore X) (p : PreparedBundle X) (s' : PolicyStore X) :
    Prop :=
  ensureBundleSchemaPresent s.schemaValidationMode (!p.schema.content.isEmpty) = .ok ()
    ∧ s' = s.published p

theorem applyPreparedBundle_cases {s : PolicyStore X} (h : CachesUsable s)
    (p : PreparedBundle X) :
    AllOrNothing (applyPreparedBundle p) s (fun _ s' => BundlePublished s p s') := by
  rw [applyPreparedBundle]
  refine allOrNothing_bind_get (allOrNothing_bind_lift ?_)
  intro _ hgate
  exact allOrNothing_bind_ok (exec_clearListPoliciesCache h) (exec_modify _ _)
    ⟨hgate, rfl⟩

/-! ## Listing

    With a usable cache the two locks of a listing see the same cache, so the
    listing is one read through it. -/

theorem exec_listPoliciesRaw {s : PolicyStore X} (h : CachesUsable s) (user : String)
    (groups namespaces : List String) :
    exec (listPoliciesRaw user groups namespaces) s
      = ((readThrough (renderRaw s.engine) (listPoliciesKey user groups namespaces)
            s.listPoliciesRawCache.value).1,
          { s with listPoliciesRawCache :=
            ⟨(readThrough (renderRaw s.engine) (listPoliciesKey user groups namespaces)
              s.listPoliciesRawCache.value).2, false⟩ }) := by
  rw [listPoliciesRaw, readThrough]
  simp only [exec_bind_get, lock_usable "raw" h.raw, exec_bind_lift_ok, exec_bind_modify]
  cases hg : s.listPoliciesRawCache.value.get (listPoliciesKey user groups namespaces) with
  | mk cached c' =>
      cases cached with
      | some v => rfl
      | none =>
          simp only [exec_bind_get]
          cases hr : renderRaw s.engine (listPoliciesKey user groups namespaces) with
          | error e => rw [exec_bind_lift_error]
          | ok v =>
              rw [exec_bind_lift_ok, exec_bind_get, lock_usable "raw" rfl,
                exec_bind_lift_ok, exec_bind_modify]
              rfl

theorem exec_listPoliciesJson {s : PolicyStore X} (h : CachesUsable s) (user : String)
    (groups namespaces : List String) :
    exec (listPoliciesJson user groups namespaces) s
      = ((readThrough (renderJson s.engine) (listPoliciesKey user groups namespaces)
            s.listPoliciesJsonCache.value).1,
          { s with listPoliciesJsonCache :=
            ⟨(readThrough (renderJson s.engine) (listPoliciesKey user groups namespaces)
              s.listPoliciesJsonCache.value).2, false⟩ }) := by
  rw [listPoliciesJson, readThrough]
  simp only [exec_bind_get, lock_usable "json" h.json, exec_bind_lift_ok, exec_bind_modify]
  cases hg : s.listPoliciesJsonCache.value.get (listPoliciesKey user groups namespaces) with
  | mk cached c' =>
      cases cached with
      | some v => rfl
      | none =>
          simp only [exec_bind_get]
          cases hr : renderJson s.engine (listPoliciesKey user groups namespaces) with
          | error e => rw [exec_bind_lift_error]
          | ok v =>
              rw [exec_bind_lift_ok, exec_bind_get, lock_usable "json" rfl,
                exec_bind_lift_ok, exec_bind_modify]
              rfl

end TreetopStore
