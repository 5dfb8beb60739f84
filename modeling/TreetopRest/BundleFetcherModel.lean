import TreetopRest.FetcherModel
import TreetopRest.Lib.BoundedBufferProofs

/-! # The bundle fetcher

    One conditional GET per poll; the archive is read under a size limit,
    hashed, validated and prepared without a lock, and committed under the
    write lock.  The fetcher keeps the validators and the hash of the archive
    it committed last.  Metrics and log lines are left out. -/

namespace TreetopBundleFetcher

open FallibleState ConditionalFetch BoundedBuffer
open TreetopErrors TreetopCrates TreetopMetadata TreetopWire TreetopStore TreetopFetcher

/-- The response to a conditional GET: its head, and its body as the chunks
    the stream yields, an error ending it. -/
structure BundleResponse where
  status : Nat
  contentLength : Option Nat
  etag : Option HeaderValue
  lastModified : Option HeaderValue
  stream : List (Except String (List UInt8))

/-- Conditional, bounded fetcher for complete policy bundles. -/
structure BundleFetcher (X : Crates) where
  url : Endpoint
  refreshSecs : UInt32
  limits : ArchiveLimits
  signaturePolicy : X.SignaturePolicy
  trustStore : X.TrustStore
  engineMode : BundleEngineMode
  etag : Option String
  lastModified : Option String
  archiveSha256 : Option String

/-- The hash of an archive (`hex_sha256`). -/
def hexSha256 (X : Crates) (bytes : List UInt8) : String := hexDigest (X.sha256 bytes)

/-- An archive, with the validators it came under. -/
structure Download where
  bytes : List UInt8
  validators : Validators String

/-- The critical section of a bundle poll. -/
def applyBundleAndMark {X : Crates} (prepared : PreparedBundle X) : StoreM X Unit := do
  applyPreparedBundle prepared
  markRemoteSourceLoaded .bundle

namespace BundleFetcher

variable {X : Crates}

def newWithEngineMode (url : Endpoint) (refreshSecs : UInt32) (limits : ArchiveLimits)
    (signaturePolicy : X.SignaturePolicy) (trustStore : X.TrustStore)
    (engineMode : BundleEngineMode) : Except ServiceError (BundleFetcher X) :=
  if refreshSecs = 0 then
    .error (.validationError "bundle refresh frequency must be greater than zero")
  else .ok {
    url, refreshSecs, limits, signaturePolicy, trustStore, engineMode
    etag := none, lastModified := none, archiveSha256 := none }

/-- `spawn`: configure the source before the first poll. -/
def spawn (f : BundleFetcher X) : StoreM X Unit :=
  configureRemoteSource .bundle f.url f.refreshSecs

def validators (f : BundleFetcher X) : Validators String := ⟨f.etag, f.lastModified⟩

def sizeLimitError (f : BundleFetcher X) : FetchError :=
  .sizeLimit (X.sizeLimitDisplay "compressed" f.limits.maxCompressedBytes)

/-- Collect the chunks of a body, as long as they fit. -/
def readStream (f : BundleFetcher X) :
    List (Except String (List UInt8)) → List UInt8 → Except FetchError (List UInt8)
  | [], bytes => .ok bytes
  | .error e :: _, _ => .error (.request e)
  | .ok chunk :: rest, bytes =>
      if bytes.length + chunk.length > f.limits.maxCompressedBytes then
        .error f.sizeLimitError
      else readStream f rest (bytes ++ chunk)

theorem readStream_eq_collect (f : BundleFetcher X) (stream : List (Except String (List UInt8))) :
    ∀ bytes, f.readStream stream bytes
      = collect f.limits.maxCompressedBytes f.sizeLimitError FetchError.request stream bytes := by
  induction stream with
  | nil =>
      intro bytes
      rfl
  | cons item rest ih =>
      intro bytes
      cases item with
      | error e => rfl
      | ok chunk => rw [readStream, collect, ih]

/-- The archive a poll gets, if it is not answered "not modified". -/
def download (f : BundleFetcher X) (answer : Except String BundleResponse) :
    Except FetchError (Option Download) := do
  let response ← answer.mapError FetchError.request
  if response.status = notModified then return none
  if !isSuccess response.status then throw (.status f.url.url response.status)
  if response.contentLength.any (fun length => length > f.limits.maxCompressedBytes) then
    throw f.sizeLimitError
  let bytes ← f.readStream response.stream []
  return some ⟨bytes,
    ⟨response.etag.bind HeaderValue.toStr, response.lastModified.bind HeaderValue.toStr⟩⟩

/-- Validate and prepare an archive in a blocking task, which may itself die. -/
def prepare (f : BundleFetcher X) (clock : BundleClock) (taskFailure : Option String)
    (bytes : List UInt8) (mode : SchemaValidationMode) :
    Except FetchError (PreparedBundle X) :=
  match taskFailure with
  | some msg => .error (.preparationTask msg)
  | none => do
      let validated ← (X.validateArchive bytes f.signaturePolicy f.trustStore f.limits).mapError
        (fun e => FetchError.service (.fromBundleError e))
      (prepareBundleWithEngineMode clock validated (some f.url) (some f.refreshSecs) mode
        f.engineMode).mapError FetchError.service

/-- The fetcher after it took over the validators of a response. -/
def adopt (f : BundleFetcher X) (v : Validators String) : BundleFetcher X :=
  { f with etag := v.etag, lastModified := v.lastModified }

/-- What a poll meets: the answer to its GET, by the validators it presents,
    the store when it reads the validation mode, the clock, and whether the
    preparation task dies. -/
structure Surroundings (X : Crates) where
  get : Validators String → Except String BundleResponse
  atRead : SharedStore X
  clock : BundleClock
  taskFailure : Option String

/-- What a poll has before it takes the write lock. -/
inductive Fetched (X : Crates) where
  | notModified
  | unchanged (validators : Validators String)
  | replacement (d : Download) (prepared : PreparedBundle X)

/-- Everything before the write lock: download, compare, prepare. -/
def fetch (f : BundleFetcher X) (env : Surroundings X) : Except FetchError (Fetched X) :=
  match f.download (env.get f.validators) with
  | .error e => .error e
  | .ok none => .ok .notModified
  | .ok (some d) =>
      if f.archiveSha256 = some (hexSha256 X d.bytes) then .ok (.unchanged d.validators)
      else if env.atRead.poisoned then .error (.lockPoisoned "policy")
      else
        match f.prepare env.clock env.taskFailure d.bytes
            env.atRead.value.schemaValidationMode with
        | .error e => .error e
        | .ok prepared => .ok (.replacement d prepared)

/-- One poll; `shared` is the store when the poll commits. -/
def checkAndUpdate (f : BundleFetcher X) (env : Surroundings X) (shared : SharedStore X) :
    Except FetchError Unit × BundleFetcher X × SharedStore X :=
  match f.fetch env with
  | .error e => (.error e, f, shared)
  | .ok .notModified => (.ok (), f, shared)
  -- adopt rotated validators even when the representation is unchanged
  | .ok (.unchanged validators) => (.ok (), f.adopt validators, shared)
  | .ok (.replacement d prepared) =>
      match shared.write "policy" (applyBundleAndMark prepared) with
      | (.error e, shared) => (.error e, f, shared)
      | (.ok (), shared) =>
          (.ok (), { f.adopt d.validators with
            archiveSha256 := some (hexSha256 X d.bytes) }, shared)

end BundleFetcher

end TreetopBundleFetcher
