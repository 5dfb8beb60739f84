import TreetopRest.Lib.FallibleStateProofs
import TreetopRest.Lib.LruCacheProofs
import TreetopRest.WireModel
import Mathlib.Data.List.Sort
import Mathlib.Data.List.Destutter

/-! # The policy store

    `PolicyStore` and every operation on it.  An operation is a program over
    the store that may stop with a `ServiceError`; what it wrote before it
    stopped stays written, as with `&mut self` and `?`.  Operations that only
    read the store are plain functions.  Clock readings and bundle clock
    readings are arguments.  Log lines and metric counters are left out. -/

namespace TreetopStore

open FallibleState LruCache
open TreetopErrors TreetopCrates TreetopMetadata TreetopWire

/-- A lock around a value; a holder that panicked leaves it poisoned. -/
structure Mutex (α : Type) where
  value : α
  poisoned : Bool

/-- Take the lock of one of the two listing caches. -/
def Mutex.lock {α : Type} (m : Mutex α) (name : String) : Except ServiceError α :=
  if m.poisoned then
    .error (.listPoliciesError ("list policies " ++ name ++ " cache lock poisoned: "
      ++ "poisoned lock: another task failed inside"))
  else .ok m.value

inductive RemoteSourceKind where
  | policies
  | labels
  | schema
  | bundle
deriving DecidableEq, Repr

structure RemoteSourceStatus where
  configuration : Option (Endpoint × UInt32)
  loaded : Bool
deriving DecidableEq, Repr

namespace RemoteSourceStatus

def configure (source : Endpoint) (refreshFrequency : UInt32) : RemoteSourceStatus :=
  { configuration := some (source, refreshFrequency), loaded := false }

def markLoaded (r : RemoteSourceStatus) : RemoteSourceStatus := { r with loaded := true }

def ready (r : RemoteSourceStatus) (metadataHasSource : Bool) : Bool :=
  !(r.configuration.isSome || metadataHasSource) || r.loaded

end RemoteSourceStatus

structure RemoteLoadStatus where
  policies : RemoteSourceStatus
  labels : RemoteSourceStatus
  schema : RemoteSourceStatus
  bundle : RemoteSourceStatus
deriving DecidableEq, Repr

def RemoteLoadStatus.default : RemoteLoadStatus :=
  ⟨⟨none, false⟩, ⟨none, false⟩, ⟨none, false⟩, ⟨none, false⟩⟩

/-- The key of the two listing caches. -/
structure ListPoliciesCacheKey where
  user : String
  groups : List String
  namespaces : List String
deriving DecidableEq, Repr

def listPoliciesCacheLimit : Nat := 128

/-- The state of the service. -/
structure PolicyStore (X : Crates) where
  engine : X.PreparedEngine
  allowUpload : Bool
  uploadToken : Option String
  schemaValidationMode : SchemaValidationMode
  requestContextStatus : RequestContextStatus
  policies : Metadata .ofPolicies
  labels : Metadata .ofLabels
  schema : Metadata .ofSchema
  bundle : Option BundleMetadata
  bundleUrlMode : Bool
  labelRegistryLabelers : List X.Labeler
  remoteLoads : RemoteLoadStatus
  listPoliciesRawCache : Mutex (Cache ListPoliciesCacheKey String listPoliciesCacheLimit)
  listPoliciesJsonCache :
    Mutex (Cache ListPoliciesCacheKey (UserPolicies X.Json) listPoliciesCacheLimit)

/-- A complete bundle replacement, built without holding the store. -/
structure PreparedBundle (X : Crates) where
  engine : X.PreparedEngine
  policies : Metadata .ofPolicies
  labels : Metadata .ofLabels
  schema : Metadata .ofSchema
  labelers : List X.Labeler
  requestContextStatus : RequestContextStatus
  bundle : BundleMetadata

/-- Convert a store into metadata. -/
def PolicyStore.metadata {X : Crates} (s : PolicyStore X) : PoliciesMetadata :=
  { allowUpload := s.allowUpload
    schemaValidationMode := s.schemaValidationMode.display
    policies := s.policies
    labels := s.labels
    schema := s.schema
    bundle := s.bundle }

/-- The upload response, built outside the store write lock. -/
def PreparedBundle.metadata {X : Crates} (p : PreparedBundle X) (allowUpload : Bool)
    (schemaValidationMode : SchemaValidationMode) : PoliciesMetadata :=
  { allowUpload
    schemaValidationMode := schemaValidationMode.display
    policies := p.policies
    labels := p.labels
    schema := p.schema
    bundle := some p.bundle }

/-- Programs over the store. -/
abbrev StoreM (X : Crates) (α : Type) := Prog (PolicyStore X) ServiceError α

variable {X : Crates}

/-- A fresh store.  Failing to build the empty engine panics in the source;
    here it is the error of the build. -/
def PolicyStore.new (X : Crates) (now : Timestamp) : Except ServiceError (PolicyStore X) :=
  match X.newFromStr "" with
  | .error e => .error (.fromPolicyError e)
  | .ok engine => do
      return {
        engine := X.prepared engine
        allowUpload := false
        uploadToken := none
        schemaValidationMode := .permissive
        requestContextStatus := .noSchema
        policies := ← Metadata.new X .ofPolicies now "" none none
        labels := ← Metadata.new X .ofLabels now "" none none
        schema := ← Metadata.new X .ofSchema now "" none none
        bundle := none
        bundleUrlMode := false
        labelRegistryLabelers := []
        remoteLoads := .default
        listPoliciesRawCache := ⟨.empty, false⟩
        listPoliciesJsonCache := ⟨.empty, false⟩ }

def setSchemaValidationMode (mode : SchemaValidationMode) : StoreM X Unit :=
  modify fun s => { s with schemaValidationMode := mode }

/-! ## Remote sources -/

/-- Point a metadata record at a remote source. -/
def withSource {T : ContentKind} (md : Metadata T) (source : Endpoint)
    (refreshFrequency : UInt32) : Metadata T :=
  { md with source := some source, refreshFrequency := some refreshFrequency }

/-- Configure a remote source and require a fresh confirmed load for readiness. -/
def configureRemoteSource (kind : RemoteSourceKind) (source : Endpoint)
    (refreshFrequency : UInt32) : StoreM X Unit :=
  match kind with
  | .policies => modify fun s => { s with
      policies := withSource s.policies source refreshFrequency
      remoteLoads := { s.remoteLoads with policies := .configure source refreshFrequency } }
  | .labels => modify fun s => { s with
      labels := withSource s.labels source refreshFrequency
      remoteLoads := { s.remoteLoads with labels := .configure source refreshFrequency } }
  | .schema => modify fun s => { s with
      schema := withSource s.schema source refreshFrequency
      remoteLoads := { s.remoteLoads with schema := .configure source refreshFrequency } }
  | .bundle => modify fun s => { s with
      bundleUrlMode := true
      remoteLoads := { s.remoteLoads with bundle := .configure source refreshFrequency } }

/-- The metadata of a component whose remote body was just applied. -/
def withConfigured {T : ContentKind} (md : Metadata T) :
    Option (Endpoint × UInt32) → Metadata T
  | some (source, refreshFrequency) => withSource md source refreshFrequency
  | none => md

/-- Record a remote response that was successful, validated, and applied. -/
def markRemoteSourceLoaded (kind : RemoteSourceKind) : StoreM X Unit :=
  match kind with
  | .policies => modify fun s => { s with
      policies := withConfigured s.policies s.remoteLoads.policies.configuration
      remoteLoads := { s.remoteLoads with policies := s.remoteLoads.policies.markLoaded } }
  | .labels => modify fun s => { s with
      labels := withConfigured s.labels s.remoteLoads.labels.configuration
      remoteLoads := { s.remoteLoads with labels := s.remoteLoads.labels.markLoaded } }
  | .schema => modify fun s => { s with
      schema := withConfigured s.schema s.remoteLoads.schema.configuration
      remoteLoads := { s.remoteLoads with schema := s.remoteLoads.schema.markLoaded } }
  | .bundle => modify fun s => { s with
      remoteLoads := { s.remoteLoads with bundle := s.remoteLoads.bundle.markLoaded } }

/-- Whether every configured remote source has completed a confirmed valid load. -/
def configuredSourcesLoaded (s : PolicyStore X) : Bool :=
  if s.bundleUrlMode then s.remoteLoads.bundle.ready true
  else s.remoteLoads.policies.ready s.policies.source.isSome
    && s.remoteLoads.labels.ready s.labels.source.isSome
    && s.remoteLoads.schema.ready s.schema.source.isSome

/-! ## Validation and engine building -/

def currentSchema (s : PolicyStore X) : Except ServiceError (Option X.CedarSchema) :=
  if s.schema.content.isEmpty then .ok none
  else match X.schemaFromJsonStr s.schema.content with
    | .ok sch => .ok (some sch)
    | .error e => .error (.schemaValidationError e)

def validatePoliciesWithSchema (X : Crates) (dsl : String) (schema : X.CedarSchema) :
    Except ServiceError Unit :=
  match X.policySetParse dsl with
  | .error e => .error (.compileError e)
  | .ok policySet =>
      let result := X.validateStrict schema policySet
      if result.validationPassed then .ok ()
      else
        let reasons := result.validationErrors.take 5
        let detail :=
          if reasons.isEmpty then "schema validation failed" else "; ".intercalate reasons
        .error (.schemaValidationError detail)

def ensureSchemaPresentForPolicyReload (s : PolicyStore X) : Except ServiceError Unit :=
  if s.schemaValidationMode = .strict ∧ s.schema.content.isEmpty then
    .error (.schemaValidationError
      "strict schema validation requires an uploaded schema before policy reload")
  else .ok ()

def ensureBundleSchemaPresent (mode : SchemaValidationMode) (schemaPresent : Bool) :
    Except ServiceError Unit :=
  if mode = .strict ∧ !schemaPresent then
    .error (.schemaValidationError
      "strict schema validation requires every bundle to include a schema")
  else .ok ()

/-- The schema the engine runs with: permissive mode falls back to none when
    the policies do not validate. -/
def runtimeSchemaForDsl (s : PolicyStore X) (dsl : String) (schema : Option X.CedarSchema) :
    Except ServiceError (Option X.CedarSchema × RequestContextStatus) :=
  match schema with
  | none => .ok (none, .noSchema)
  | some schema =>
      match validatePoliciesWithSchema X dsl schema with
      | .ok () => .ok (some schema, .schemaBackedStatus)
      | .error e =>
          if s.schemaValidationMode = .permissive then .ok (none, .schemaIncompatible)
          else .error e

def buildEngineFromParts (X : Crates) (dsl : String) (schema : Option X.CedarSchema)
    (labelers : List X.Labeler) (labelVersion : String) :
    Except ServiceError X.PreparedEngine := do
  let engine ← match schema with
    | some schema =>
        (X.newFromStrWithSchema dsl schema).mapError ServiceError.fromPolicyError
    | none => (X.newFromStr dsl).mapError ServiceError.fromPolicyError
  let engine := X.prepared engine
  if labelers.isEmpty then return engine
  else
    let builder := labelers.foldl X.addLabeler (X.registryVersioned labelVersion)
    let registry ← (X.registryBuild builder).mapError ServiceError.fromPolicyError
    return X.withLabelRegistry engine registry

def rebuildEngineForDslWithParts (dsl : String) (schema : Option X.CedarSchema)
    (labelers : List X.Labeler) (labelVersion : String) : StoreM X Unit := do
  let (runtimeSchema, status) ← runtimeSchemaForDsl (← get) dsl schema
  let engine ← buildEngineFromParts X dsl runtimeSchema labelers labelVersion
  modify fun s => { s with engine, requestContextStatus := status }

/-! ## The four content updates -/

def clearListPoliciesCache : StoreM X Unit := do
  let _ ← (← get).listPoliciesRawCache.lock "raw"
  modify fun s => { s with listPoliciesRawCache := ⟨.empty, false⟩ }
  let _ ← (← get).listPoliciesJsonCache.lock "json"
  modify fun s => { s with listPoliciesJsonCache := ⟨.empty, false⟩ }

def setDsl (now : Timestamp) (dsl : String) (source : Option Endpoint)
    (refreshFrequency : Option UInt32) : StoreM X Unit := do
  ensureSchemaPresentForPolicyReload (← get)
  let oldMetadata := (← get).policies
  let source := source.or oldMetadata.source
  let refreshFrequency := refreshFrequency.or oldMetadata.refreshFrequency
  let metadata ← Metadata.new X .ofPolicies now dsl source refreshFrequency
  let schema ← currentSchema (← get)
  let labelers := (← get).labelRegistryLabelers
  let labelVersion := (← get).labels.sha256
  rebuildEngineForDslWithParts dsl schema labelers labelVersion
  modify fun s => { s with policies := metadata, bundle := none }
  clearListPoliciesCache

/-- The parse of a schema text that is about to be installed. -/
def parseSchema (X : Crates) (schema : String) : Except ServiceError X.CedarSchema :=
  (X.schemaFromJsonStr schema).mapError .schemaValidationError

/-- Loaded labels must fit a schema that is about to be installed. -/
def ensureLabelsFitSchema (s : PolicyStore X) (schema : String) :
    Except ServiceError Unit :=
  if s.labels.content.isEmpty then .ok ()
  else do
    let labelSet ← (X.labelSetFromJsonStr s.labels.content).mapError .fromBundleError
    (X.validateSchemaJsonStr labelSet schema).mapError .fromBundleError

def setSchema (now : Timestamp) (schema : String) (source : Option Endpoint)
    (refreshFrequency : Option UInt32) : StoreM X Unit := do
  let oldMetadata := (← get).schema
  let source := source.or oldMetadata.source
  let refreshFrequency := refreshFrequency.or oldMetadata.refreshFrequency
  let metadata ← Metadata.new X .ofSchema now schema source refreshFrequency
  let parsedSchema ← parseSchema X schema
  ensureLabelsFitSchema (← get) schema
  let dsl := (← get).policies.content
  let labelers := (← get).labelRegistryLabelers
  let labelVersion := (← get).labels.sha256
  rebuildEngineForDslWithParts dsl (some parsedSchema) labelers labelVersion
  -- no listing cache is cleared on this path
  modify fun s => { s with schema := metadata, bundle := none }

/-- Labels that are about to be installed must fit a loaded schema. -/
def ensureSchemaFitsLabels (s : PolicyStore X) (labelSet : X.LabelSet) :
    Except ServiceError Unit :=
  if s.schema.content.isEmpty then .ok ()
  else (X.validateSchemaJsonStr labelSet s.schema.content).mapError .fromBundleError

def setLabels (now : Timestamp) (labels : String) (source : Option Endpoint)
    (refreshFrequency : Option UInt32) : StoreM X Unit := do
  let oldMetadata := (← get).labels
  let source := source.or oldMetadata.source
  let refreshFrequency := refreshFrequency.or oldMetadata.refreshFrequency
  let labelSet ← (X.labelSetFromJsonStr labels).mapError ServiceError.fromBundleError
  ensureSchemaFitsLabels (← get) labelSet
  let metadata := Metadata.fromValidatedContent X .ofLabels now labels source
    refreshFrequency (X.labelSetRules labelSet)
  let labelers := X.toLabelers labelSet
  let dsl := (← get).policies.content
  let schema ← currentSchema (← get)
  rebuildEngineForDslWithParts dsl schema labelers metadata.sha256
  modify fun s => { s with
    labelRegistryLabelers := labelers, labels := metadata, bundle := none }
  clearListPoliciesCache

/-- The clock readings of one bundle preparation. -/
structure BundleClock where
  policies : Timestamp
  labels : Timestamp
  schema : Timestamp
  loaded : Timestamp

/-- Prepare a complete bundle replacement using the selected engine layout. -/
def prepareBundleWithEngineMode (clock : BundleClock) (validated : X.ValidatedBundle)
    (source : Option Endpoint) (refreshFrequency : Option UInt32)
    (mode : SchemaValidationMode) (engineMode : BundleEngineMode) :
    Except ServiceError (PreparedBundle X) := do
  ensureBundleSchemaPresent mode (X.schemaJson validated).isSome
  let engine ← match engineMode with
    | .monolithic => (X.prepareEngine validated).mapError ServiceError.fromBundleError
    | .bundleModules =>
        (X.prepareEngineWithPolicyStores validated).mapError ServiceError.fromBundleError
  let policies := Metadata.fromValidatedContent X .ofPolicies clock.policies
    (X.bundlePolicies validated) source refreshFrequency (X.policyIds validated).length
  let labelsJson ← (X.labelsJson validated).mapError ServiceError.fromBundleError
  let labels := Metadata.fromValidatedContent X .ofLabels clock.labels labelsJson source
    refreshFrequency (X.labelSetRules (X.bundleLabels validated))
  let schemaText ← (X.schemaJsonString validated).mapError ServiceError.fromBundleError
  let schema := match schemaText with
    | some schemaJson =>
        let entries := match X.schemaJson validated with
          | none => 0
          | some v => (X.jsonObjectLen v).getD 1
        Metadata.fromValidatedContent X .ofSchema clock.schema schemaJson source
          refreshFrequency entries
    | none => Metadata.fromValidatedContent X .ofSchema clock.schema "" source
        refreshFrequency 0
  let signature := X.verifiedSignature validated
  return {
    engine, policies, labels, schema
    labelers := X.toLabelers (X.bundleLabels validated)
    requestContextStatus :=
      if (X.schemaJson validated).isSome then .schemaBackedStatus else .noSchema
    bundle := {
      formatVersion := X.formatVersion validated
      bundleId := X.bundleId validated
      archiveSha256 := X.archiveSha256 validated
      compressedSize := X.compressedSize validated
      moduleCount := X.moduleCount validated
      signed := signature.isSome
      signingKeyId := signature.join
      source, refreshFrequency
      loadedAt := clock.loaded } }

/-- A value the preparation can return.  The fields of `PreparedBundle` are
    private in the source, so there are no others. -/
def PreparedBundle.Genuine (p : PreparedBundle X) : Prop :=
  ∃ clock validated source refreshFrequency mode engineMode,
    prepareBundleWithEngineMode clock validated source refreshFrequency mode engineMode
      = .ok p

/-- Atomically publish a previously prepared bundle candidate. -/
def applyPreparedBundle (prepared : PreparedBundle X) : StoreM X Unit := do
  ensureBundleSchemaPresent (← get).schemaValidationMode (!prepared.schema.content.isEmpty)
  clearListPoliciesCache
  modify fun s => { s with
    engine := prepared.engine
    policies := prepared.policies
    labels := prepared.labels
    schema := prepared.schema
    labelRegistryLabelers := prepared.labelers
    requestContextStatus := prepared.requestContextStatus
    bundle := some prepared.bundle }

/-! ## Listing -/

/-- `sort_unstable` and `dedup` of both filters. -/
def normalizeListFilters (groups namespaces : List String) : List String × List String :=
  ((groups.insertionSort (· ≤ ·)).destutter (· ≠ ·),
    (namespaces.insertionSort (· ≤ ·)).destutter (· ≠ ·))

def listPoliciesKey (user : String) (groups namespaces : List String) :
    ListPoliciesCacheKey :=
  let (groups, namespaces) := normalizeListFilters groups namespaces
  { user, groups, namespaces }

def listPoliciesForKey (engine : X.PreparedEngine) (key : ListPoliciesCacheKey) :
    Except ServiceError (PolicyCandidates X.CedarPolicy) :=
  (X.listPoliciesForUser engine key.user key.groups key.namespaces).mapError
    .fromPolicyError

/-- The raw listing the engine gives for a key. -/
def renderRaw (engine : X.PreparedEngine) (key : ListPoliciesCacheKey) :
    Except ServiceError String := do
  let policies ← listPoliciesForKey engine key
  return formatPoliciesRaw X policies

/-- The JSON listing the engine gives for a key. -/
def renderJson (engine : X.PreparedEngine) (key : ListPoliciesCacheKey) :
    Except ServiceError (UserPolicies X.Json) := do
  let policies ← listPoliciesForKey engine key
  UserPolicies.tryFrom X policies

def listPoliciesRaw (user : String) (groups namespaces : List String) :
    StoreM X String := do
  let key := listPoliciesKey user groups namespaces
  let cache ← (← get).listPoliciesRawCache.lock "raw"
  let (cached, cache) := cache.get key
  modify fun s => { s with listPoliciesRawCache := ⟨cache, false⟩ }
  match cached with
  | some content => return content
  | none =>
      let content ← renderRaw (← get).engine key
      let cache ← (← get).listPoliciesRawCache.lock "raw"
      modify fun s => { s with listPoliciesRawCache := ⟨cache.touch key content, false⟩ }
      return content

def listPoliciesJson (user : String) (groups namespaces : List String) :
    StoreM X (UserPolicies X.Json) := do
  let key := listPoliciesKey user groups namespaces
  let cache ← (← get).listPoliciesJsonCache.lock "json"
  let (cached, cache) := cache.get key
  modify fun s => { s with listPoliciesJsonCache := ⟨cache, false⟩ }
  match cached with
  | some response => return response
  | none =>
      let response ← renderJson (← get).engine key
      let cache ← (← get).listPoliciesJsonCache.lock "json"
      modify fun s => { s with listPoliciesJsonCache := ⟨cache.touch key response, false⟩ }
      return response

end TreetopStore
