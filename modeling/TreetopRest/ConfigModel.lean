import TreetopRest.AdmissionModel
import TreetopRest.UploadModel
import TreetopRest.HandlerModel

/-! # Configuration and start-up

    The command line as the service reads it, the checks it must pass, and
    what `main` makes of it before it serves: the settings of the handlers, a
    configured store, and the fetchers it spawns.  Key files and the machine
    (its processors, environment, thread pool and network) are parameters; log
    lines and the metrics registry, which is always made, are left out. -/

namespace TreetopConfig

open FallibleState
open TreetopErrors TreetopCrates TreetopMetadata TreetopWire TreetopStore
open TreetopFetcher TreetopBundleFetcher TreetopSections TreetopRequest TreetopUpload
open TreetopAdmission TreetopHandlers

/-! ## The command line -/

inductive BundleSignaturePolicy where
  | allowUnsigned
  | required
deriving DecidableEq, Repr

structure Config where
  host : String
  port : UInt16
  workers : Option Nat
  rayonThreads : Option Nat
  parThreshold : Option Nat
  allowUpload : Bool
  policyUrl : Option Endpoint
  updateFrequency : Option UInt32
  labelsUrl : Option Endpoint
  labelsRefresh : Option UInt32
  schemaUrl : Option Endpoint
  schemaRefresh : Option UInt32
  schemaValidationMode : SchemaValidationMode
  bundleUrl : Option Endpoint
  bundleRefresh : UInt32
  bundleEngineMode : BundleEngineMode
  maxBundleCompressedBytes : Nat
  maxBundleUncompressedBytes : Nat
  bundleTrustedKeys : List String
  bundleSignaturePolicy : BundleSignaturePolicy
  maxContextBytes : Nat
  maxContextDepth : Nat
  maxContextKeys : Nat
  maxBatchSize : Nat
  maxRequestSize : Nat
  version : Bool
deriving DecidableEq, Repr

/-- The command line without a flag. -/
def Config.default : Config where
  host := "127.0.0.1"
  port := 9999
  workers := none
  rayonThreads := none
  parThreshold := some 8
  allowUpload := false
  policyUrl := none
  updateFrequency := none
  labelsUrl := none
  labelsRefresh := none
  schemaUrl := none
  schemaRefresh := none
  schemaValidationMode := .permissive
  bundleUrl := none
  bundleRefresh := 60
  bundleEngineMode := .monolithic
  maxBundleCompressedBytes := 10485760
  maxBundleUncompressedBytes := 52428800
  bundleTrustedKeys := []
  bundleSignaturePolicy := .allowUnsigned
  maxContextBytes := 16384
  maxContextDepth := 8
  maxContextKeys := 64
  maxBatchSize := 1024
  maxRequestSize := 10485760
  version := false

/-- What the start-up takes from the bundle crate: trusted keys and the two
    signature policies. -/
structure KeyCrate (X : Crates) where
  TrustedKey : Type
  fromSpkiPemFile : String → Except String TrustedKey
  trustStoreFromKeys : List TrustedKey → Except String X.TrustStore
  trustStoreIsEmpty : X.TrustStore → Bool
  allowUnsigned : X.SignaturePolicy
  required : X.SignaturePolicy

variable {X : Crates} {N : NetCrate}

def BundleSignaturePolicy.into (K : KeyCrate X) : BundleSignaturePolicy → X.SignaturePolicy
  | .allowUnsigned => K.allowUnsigned
  | .required => K.required

/-- The checks of the bundle settings; nothing is spawned before they pass. -/
def Config.bundleRuntimeConfig (K : KeyCrate X) (config : Config) :
    Except ServiceError (BundleRuntimeConfig X) := do
  if config.bundleUrl.isSome
      && (config.policyUrl.isSome || config.labelsUrl.isSome || config.schemaUrl.isSome) then
    throw (.validationError
      "TREETOP_BUNDLE_URL is mutually exclusive with policy, labels, and schema URLs")
  if config.maxBundleCompressedBytes = 0 ∨ config.maxBundleUncompressedBytes = 0 then
    throw (.validationError "bundle size limits must be greater than zero")
  if config.bundleUrl.isSome && config.bundleRefresh == 0 then
    throw (.validationError "bundle refresh frequency must be greater than zero")
  let keys ← (config.bundleTrustedKeys.mapM K.fromSpkiPemFile).mapError
    ServiceError.validationError
  let trustStore ← (K.trustStoreFromKeys keys).mapError ServiceError.validationError
  if config.bundleSignaturePolicy = .required ∧ K.trustStoreIsEmpty trustStore then
    throw (.validationError "required bundle signatures need at least one trusted key")
  return {
    signaturePolicy := config.bundleSignaturePolicy.into K
    trustStore
    maxRequestBytes := config.maxRequestSize
    maxCompressedBytes := config.maxBundleCompressedBytes
    maxUncompressedBytes := config.maxBundleUncompressedBytes }

/-! ## The machine -/

/-- The machine `main` runs on: its processors, if they can be counted, its
    environment, where a value may be no text, whether a pool of so many
    threads can be built, and whether a server can listen at an address. -/
structure Host where
  availableParallelism : Option Nat
  env : String → Except Unit (Option String)
  buildGlobal : Nat → Bool
  bind : String → UInt16 → Except String Unit

def envValue (host : Host) (name : String) : Except ServiceError (Option String) :=
  match host.env name with
  | .ok value => .ok value
  | .error () => .error (.validationError (name ++ " is not valid Unicode"))

def admissionFromEnv (X : Crates) (N : NetCrate) (host : Host) :
    Except ServiceError (AdmissionConfig N) := do
  let clientAllowlist ← envValue host "TREETOP_CLIENT_ALLOWLIST"
  let accessTokens ← envValue host "TREETOP_ACCESS_TOKENS"
  let trustedProxies ← envValue host "TREETOP_TRUSTED_PROXIES"
  AdmissionConfig.parse X N clientAllowlist accessTokens trustedProxies

/-- Why the server did not start: an error it reports, or a panic. -/
inductive StartError where
  | invalidInput (message : String)
  | invalidLimits (error : BundleError)
  | notBound (error : String)
  | panicked (message : String)
deriving DecidableEq, Repr

/-- All the tuning parameters; the handlers read the inherited ones. -/
structure ParallelConfig extends TreetopHandlers.ParallelConfig where
  workers : Nat
  cpuCount : Nat
  rayonThreads : Nat
deriving DecidableEq, Repr

def ParallelConfig.new (cpuCount rayonThreads : Nat) (parThreshold : Option Nat) :
    ParallelConfig where
  parThreshold :=
    match parThreshold with
    | some v => if v > 0 then v else max 8 (4 * rayonThreads)
    | none => max 8 (4 * rayonThreads)
  allowParallel := cpuCount > 1 && rayonThreads > 1
  workers := 1
  cpuCount := cpuCount
  rayonThreads := rayonThreads

/-- The number of Rayon threads the environment asks for. -/
def rayonNumThreads (host : Host) : Option Nat :=
  match host.env "RAYON_NUM_THREADS" with
  | .ok (some v) => parseUsize v.toList
  | _ => none

/-- Initialize worker threads and build the Rayon thread pool. -/
def initParallelism (host : Host) (workersOverride rayonOverride parThresholdOverride :
    Option Nat) : Except StartError ParallelConfig :=
  let cpuCount := host.availableParallelism.getD 1
  let defaultWorkers := max 1 (cpuCount / 2)
  let workers := max 1 (workersOverride.getD defaultWorkers)
  let rayonThreadsOverride := rayonOverride.or (rayonNumThreads host)
  let defaultRayon := max 1 (cpuCount - workers)
  let rayonThreads := max 1 (rayonThreadsOverride.getD defaultRayon)
  if host.buildGlobal rayonThreads then
    .ok { ParallelConfig.new cpuCount rayonThreads parThresholdOverride with workers := workers }
  else .error (.panicked "Failed to build Rayon thread pool")

/-! ## `main` -/

/-- Spawn the fetcher of a component that has a URL; its loop makes its first
    poll once `main` waits. -/
def spawnAt (kind : RemoteSourceKind) (url : Option Endpoint) (frequency : Option UInt32) :
    StoreM X Unit :=
  match url with
  | some url => spawn kind url (frequency.getD 60).toUInt64
  | none => pure ()

/-- What `main` does to a fresh store before it looks at the bundle source. -/
def configureStore (config : Config) (token : String) : StoreM X Unit := do
  if config.allowUpload then
    modify fun s => { s with allowUpload := true }
    modify fun s => { s with uploadToken := some token }
  setSchemaValidationMode config.schemaValidationMode
  spawnAt .policies config.policyUrl config.updateFrequency
  spawnAt .labels config.labelsUrl config.labelsRefresh
  spawnAt .schema config.schemaUrl config.schemaRefresh

/-- The bundle fetcher of a configuration with a bundle URL. -/
def bundleFetcherFor (config : Config) (runtime : BundleRuntimeConfig X) (url : Endpoint) :
    Except StartError (BundleFetcher X) := do
  let limits ← (X.archiveLimitsNew runtime.maxCompressedBytes runtime.maxUncompressedBytes).mapError
    StartError.invalidLimits
  (BundleFetcher.newWithEngineMode url config.bundleRefresh limits runtime.signaturePolicy
      runtime.trustStore config.bundleEngineMode).mapError fun error =>
    .invalidInput ("invalid bundle fetch configuration: " ++ error.message)

/-- The bundle fetcher of a configuration, if it has a bundle URL. -/
def configuredBundleFetcher (config : Config) (runtime : BundleRuntimeConfig X) :
    Except StartError (Option (BundleFetcher X)) :=
  match config.bundleUrl with
  | none => .ok none
  | some url => (bundleFetcherFor config runtime url).map some

/-- The URL of a component. -/
def Config.url (config : Config) : Component → Option Endpoint
  | .policies => config.policyUrl
  | .labels => config.labelsUrl
  | .schema => config.schemaUrl

/-- A server about to serve. -/
structure Launched (X : Crates) (N : NetCrate) where
  admission : AdmissionConfig N
  parallel : ParallelConfig
  authorizeRuntime : AuthorizeRuntimeConfig
  bundleRuntime : BundleRuntimeConfig X
  bundleEngineMode : BundleEngineMode
  store : PolicyStore X
  fetchers : Component → Option GenericFetcher
  bundleFetcher : Option (BundleFetcher X)

/-- Run a store program of `main`; none of them fails. -/
def runMain (m : StoreM X Unit) (s : PolicyStore X) : PolicyStore X := (exec m s).2

/-- `main`, up to the server it runs; none if it only prints its version.
    `token` is the upload token it makes up, `now` its clock. -/
def launch (X : Crates) (N : NetCrate) (K : KeyCrate X) (host : Host) (now : Timestamp)
    (token : String) (config : Config) : Except StartError (Option (Launched X N)) :=
  if config.version then .ok none
  else do
    let bundleRuntime ← (config.bundleRuntimeConfig K).mapError fun error =>
      .invalidInput ("invalid bundle configuration: " ++ error.message)
    let admission ← (admissionFromEnv X N host).mapError fun error =>
      .invalidInput ("invalid admission configuration: " ++ error.message)
    let parallel ← initParallelism host config.workers config.rayonThreads config.parThreshold
    let fresh ← (PolicyStore.new X now).mapError fun error => .panicked error.message
    let store := runMain (configureStore config token) fresh
    let bundleFetcher ← configuredBundleFetcher config bundleRuntime
    (host.bind config.host config.port).mapError StartError.notBound
    return some {
      admission, parallel, bundleRuntime
      authorizeRuntime :=
        { maxBatchSize := config.maxBatchSize
          maxContextBytes := config.maxContextBytes
          maxContextDepth := config.maxContextDepth
          maxContextKeys := config.maxContextKeys }
      bundleEngineMode := config.bundleEngineMode
      store :=
        match bundleFetcher with
        | none => store
        | some f => runMain f.spawn store
      fetchers := fun k => (config.url k).map fun url => GenericFetcher.new url.url
      bundleFetcher }

end TreetopConfig
