import TreetopRest.ServerModel
import TreetopRest.Lib.RecordedProofs

/-! # The service metrics

    What the updates of a running server count: bundle replacements and their
    failures by reason, schema replacements, and validation failures of
    schemas.  The functions that count are written again, statement by
    statement, with their records; the versions without are those of the
    other models. -/

namespace TreetopServiceMetrics

open FallibleState ConditionalFetch Text Recording
open TreetopErrors TreetopCrates TreetopMetadata TreetopWire TreetopStore
open TreetopFetcher TreetopBundleFetcher TreetopSections TreetopRequest TreetopUpload
open TreetopServer
open TreetopUploadSafety (Service)

/-! ## Counters -/

/-- Fixed bundle failure reasons keep the Prometheus label set bounded. -/
inductive BundleFailureReason where
  | fetch
  | sizeLimit
  | archive
  | validation
  | signatureMissing
  | untrustedKey
  | invalidSignature
  | store
deriving DecidableEq, Repr

def BundleFailureReason.asStr : BundleFailureReason → String
  | .fetch => "fetch"
  | .sizeLimit => "size_limit"
  | .archive => "archive"
  | .validation => "validation"
  | .signatureMissing => "signature_missing"
  | .untrustedKey => "untrusted_key"
  | .invalidSignature => "invalid_signature"
  | .store => "store"

def reasonForBundleError : BundleError → BundleFailureReason
  | .sizeLimit _ _ _ => .sizeLimit
  | .archive message _ =>
      if message = "signature_missing" then .signatureMissing
      else if message = "untrusted_key" then .untrustedKey
      else if message = "invalid_signature" then .invalidSignature
      else .archive
  | .validation _ => .validation
  | .other _ => .archive

/-- The reason of a bundle that was ready and was not applied. -/
def reasonForApply : ServiceError → BundleFailureReason
  | .schemaValidationError _ => .validation
  | _ => .store

/-- An increment of a counter of `ServiceMetrics`, with its label. -/
inductive Count where
  | bundleReload
  | bundleFailure (reason : String)
  | schemaReload
  | schemaValidationFailure (reason : String)
deriving DecidableEq, Repr

/-- The label of a bundle failure. -/
def Count.failureLabel : Count → Option String
  | .bundleFailure reason => some reason
  | _ => none

/-- `record_bundle_failure` -/
def recordBundleFailure (reason : BundleFailureReason) : Count := .bundleFailure reason.asStr

variable {X : Crates}

/-! ## The bundle fetcher -/

/-- A part of a poll, with the failures it counts. -/
abbrev Poll (α : Type) := Recorded BundleFailureReason FetchError α

namespace Fetcher

def readStream (f : BundleFetcher X) :
    List (Except String (List UInt8)) → List UInt8 → Poll (List UInt8)
  | [], bytes => pure bytes
  | .error e :: _, _ => failWith .fetch (.request e)
  | .ok chunk :: rest, bytes =>
      if bytes.length + chunk.length > f.limits.maxCompressedBytes then
        failWith .sizeLimit f.sizeLimitError
      else readStream f rest (bytes ++ chunk)

def download (f : BundleFetcher X) (answer : Except String BundleResponse) :
    Poll (Option Download) := do
  let response ← (quiet (answer.mapError FetchError.request)).inspectErr fun _ => .fetch
  if response.status = notModified then return none
  if !isSuccess response.status then failWith .fetch (.status f.url.url response.status)
  if response.contentLength.any (fun length => length > f.limits.maxCompressedBytes) then
    failWith .sizeLimit f.sizeLimitError
  let bytes ← readStream f response.stream []
  return some ⟨bytes,
    ⟨response.etag.bind HeaderValue.toStr, response.lastModified.bind HeaderValue.toStr⟩⟩

/-- A task that dies counts nothing. -/
def prepare (f : BundleFetcher X) (clock : BundleClock) (taskFailure : Option String)
    (bytes : List UInt8) (mode : SchemaValidationMode) : Poll (PreparedBundle X) :=
  match taskFailure with
  | some msg => quiet (.error (.preparationTask msg))
  | none => do
      let validated ← ((quiet (X.validateArchive bytes f.signaturePolicy f.trustStore
        f.limits)).inspectErr reasonForBundleError).mapError
          (fun e => FetchError.service (.fromBundleError e))
      ((quiet (prepareBundleWithEngineMode clock validated (some f.url) (some f.refreshSecs) mode
        f.engineMode)).inspectErr fun _ => .validation).mapError FetchError.service

/-- Everything before the write lock. -/
def fetch (f : BundleFetcher X) (env : BundleFetcher.Surroundings X) :
    Poll (BundleFetcher.Fetched X) := do
  match ← download f (env.get f.validators) with
  | none => return .notModified
  | some d =>
      if f.archiveSha256 = some (hexSha256 X d.bytes) then return .unchanged d.validators
      else if env.atRead.poisoned then failWith .store (.lockPoisoned "policy")
      else do
        let prepared ← prepare f env.clock env.taskFailure d.bytes
          env.atRead.value.schemaValidationMode
        return .replacement d prepared

end Fetcher

/-- What the application of a bundle counts, in a poll and in an upload. -/
def applyCounts (prepared : PreparedBundle X) (s : PolicyStore X) : List Count :=
  match (exec (applyPreparedBundle prepared) s).1 with
  | .error e => [recordBundleFailure (reasonForApply e)]
  | .ok () => [.bundleReload]

/-- What a step of the bundle fetcher counts. -/
def bundleStepCounts (get : Validators String → Except String BundleResponse)
    (clock : BundleClock) (taskFailure : Option String) (t : BundleTask X)
    (shared : SharedStore X) : List Count :=
  match t.ready with
  | none => (Fetcher.fetch t.fetcher ⟨get, shared, clock, taskFailure⟩).log.map recordBundleFailure
  | some (_, prepared) =>
      if shared.poisoned then [recordBundleFailure .store] else applyCounts prepared shared.value

/-! ## Bundle uploads -/

/-- A part of a bundle upload, with the failures it counts. -/
abbrev Receive (α : Type) := Recorded BundleFailureReason ServiceError α

namespace Handler

/-- A chunk that does not arrive counts nothing. -/
def readPayload (limit : Nat) : List (Except String (List UInt8)) → List UInt8 →
    Receive (List UInt8)
  | [], bytes => pure bytes
  | .error e :: _, _ => quiet (.error (.invalidBundle e))
  | .ok chunk :: rest, bytes =>
      if bytes.length + chunk.length > limit then failWith .sizeLimit (uploadTooLarge limit)
      else readPayload limit rest (bytes ++ chunk)

def archiveOfPayload (config : BundleRuntimeConfig X) (headers : HeaderMap)
    (payload : List (Except String (List UInt8))) : Receive (List UInt8) := do
  if headers.contentType ≠ "application/gzip".toList
      ∧ headers.contentType ≠ "application/x-gzip".toList then
    quiet (.error .unsupportedBundleMediaType)
  let uploadLimit := min config.maxCompressedBytes config.maxRequestBytes
  let declaredSize := ((headers.get "content-length").bind HeaderValue.toStr).bind
    fun value => parseUsize value.toList
  if declaredSize.any (fun size => size > uploadLimit) then
    failWith .sizeLimit (uploadTooLarge uploadLimit)
  readPayload uploadLimit payload []

def prepareArchive (config : BundleRuntimeConfig X) (engineMode : Option BundleEngineMode)
    (clock : BundleClock) (taskFailure : Option String) (bytes : List UInt8)
    (captured : Captured) : Receive (Candidate X) := do
  let limits ← quiet ((X.archiveLimitsNew config.maxCompressedBytes
    config.maxUncompressedBytes).mapError ServiceError.fromBundleError)
  match taskFailure with
  | some msg => quiet (.error (.evaluationError ("bundle preparation task failed: " ++ msg)))
  | none =>
      let validated ← ((quiet (X.validateArchive bytes config.signaturePolicy config.trustStore
        limits)).inspectErr reasonForBundleError).mapError ServiceError.fromBundleError
      let prepared ← (quiet (prepareBundleWithEngineMode clock validated none none
        captured.schemaValidationMode (engineMode.getD .monolithic))).inspectErr
          fun _ => .validation
      return .bundle prepared
        (prepared.metadata captured.allowUpload captured.schemaValidationMode)

def prepare (config : BundleRuntimeConfig X) (engineMode : Option BundleEngineMode)
    (u : Upload) (captured : Captured) : Receive (Candidate X) :=
  match u with
  | .policies headers body => quiet ((policiesOfBody X headers body).map .policies)
  | .schema headers body => quiet ((schemaOfBody X headers body).map .schema)
  | .bundle headers payload clock taskFailure => do
      let bytes ← archiveOfPayload config headers payload
      prepareArchive config engineMode clock taskFailure bytes captured

end Handler

/-! ## The store -/

/-- Policies that do not validate against a schema. -/
def policySchemaMismatch : Count := .schemaValidationFailure "policy_schema_mismatch"

/-- What `runtime_schema_for_dsl` counts, in either mode. -/
def runtimeSchemaCounts (X : Crates) (dsl : String) : Option X.CedarSchema → List Count
  | none => []
  | some schema =>
      match validatePoliciesWithSchema X dsl schema with
      | .ok () => []
      | .error _ => [policySchemaMismatch]

/-- What `set_dsl` counts, with the checks it makes before. -/
def setDslCounts (now : Timestamp) (dsl : String) (source : Option Endpoint)
    (refreshFrequency : Option UInt32) (s : PolicyStore X) : List Count :=
  let schema : Except ServiceError (Option X.CedarSchema) := do
    ensureSchemaPresentForPolicyReload s
    let _ ← Metadata.new X .ofPolicies now dsl (source.or s.policies.source)
      (refreshFrequency.or s.policies.refreshFrequency)
    currentSchema s
  match schema with
  | .error _ => []
  | .ok schema => runtimeSchemaCounts X dsl schema

/-- What `set_schema` counts. -/
def setSchemaCounts (now : Timestamp) (schema : String) (source : Option Endpoint)
    (refreshFrequency : Option UInt32) (s : PolicyStore X) : List Count :=
  match Metadata.new X .ofSchema now schema (source.or s.schema.source)
      (refreshFrequency.or s.schema.refreshFrequency) with
  | .error _ => [.schemaValidationFailure "schema_parse"]
  | .ok _ =>
      match parseSchema X schema with
      | .error _ => [.schemaValidationFailure "schema_parse"]
      | .ok parsedSchema =>
          match ensureLabelsFitSchema s schema with
          | .error _ => []
          | .ok () =>
              runtimeSchemaCounts X s.policies.content (some parsedSchema)
                ++ (match (exec (setSchema now schema source refreshFrequency) s).1 with
                  | .error _ => []
                  | .ok () => [.schemaReload])

/-- What `set_labels` counts, with the checks it makes before. -/
def setLabelsCounts (labels : String) (s : PolicyStore X) : List Count :=
  let schema : Except ServiceError (Option X.CedarSchema) := do
    let labelSet ← (X.labelSetFromJsonStr labels).mapError ServiceError.fromBundleError
    ensureSchemaFitsLabels s labelSet
    currentSchema s
  match schema with
  | .error _ => []
  | .ok schema => runtimeSchemaCounts X s.policies.content schema

/-- What the update of a component counts. -/
def updateCounts (k : Component) (now : Timestamp) (text : String) (s : PolicyStore X) :
    List Count :=
  match k with
  | .policies => setDslCounts now text none none s
  | .schema => setSchemaCounts now text none none s
  | .labels => setLabelsCounts text s

/-- What the commit of an upload counts, after its recheck. -/
def candidateCounts (headers : HeaderMap) (now : Timestamp) (c : Candidate X)
    (shared : SharedStore X) : List Count :=
  if shared.poisoned then []
  else
    match c with
    | .policies dslString =>
        match checkIndependentUpload headers shared.value with
        | .error _ => []
        | .ok () => setDslCounts now dslString none none shared.value
    | .schema schemaString =>
        match checkIndependentUpload headers shared.value with
        | .error _ => []
        | .ok () => setSchemaCounts now schemaString none none shared.value
    | .bundle prepared _ =>
        match checkUploadAuth headers shared.value.allowUpload shared.value.uploadToken with
        | .error _ => []
        | .ok () => applyCounts prepared shared.value

/-! ## The server -/

/-- What the step of a component fetcher counts. -/
def fetcherStepCounts (k : Component) (now : Timestamp) (t : TreetopStartup.Task)
    (shared : SharedStore X) : List Count :=
  match t.phase with
  | .bodyRead body _ => if shared.poisoned then [] else updateCounts k now body shared.value
  | _ => []

variable {ι : Type} [DecidableEq ι] (uploads : ι → Upload) (config : BundleRuntimeConfig X)
  (engineMode : Option BundleEngineMode)

/-- What the step of a request counts. -/
def uploadCounts (i : ι) (now : Timestamp) (service : Service X ι) : List Count :=
  match service.phase i with
  | .checked captured =>
      (Handler.prepare config engineMode (uploads i) captured).log.map recordBundleFailure
  | .prepared c => candidateCounts (uploads i).headers now c service.shared
  | _ => []

/-- What a step of the server counts. -/
def counts (e : Event X ι) (srv : Server X ι) : List Count :=
  match e with
  | .fetch k _ now =>
      match srv.fetchers k with
      | none => []
      | some t => fetcherStepCounts k now t srv.shared
  | .fetchBundle get clock taskFailure =>
      match srv.bundleFetcher with
      | none => []
      | some t => bundleStepCounts get clock taskFailure t srv.shared
  | .upload i now => uploadCounts uploads config engineMode i now srv.service
  | _ => []

/-- The event is a step of a poll of the bundle source. -/
def isPoll : Event X ι → Bool
  | .fetchBundle _ _ _ => true
  | _ => false

/-- The event is a step of this request. -/
def isStepOf (i : ι) : Event X ι → Bool
  | .upload j _ => j = i
  | _ => false

/-- What the events of a run count, as far as `counted` goes. -/
def countsOf (counted : Event X ι → Bool) : List (Event X ι) → Server X ι → List Count
  | [], _ => []
  | e :: events, srv =>
      (if counted e then counts uploads config engineMode e srv else [])
        ++ countsOf counted events (step uploads config engineMode e srv).2

/-- Everything a run counts. -/
abbrev allCounts (events : List (Event X ι)) (srv : Server X ι) : List Count :=
  countsOf uploads config engineMode (fun _ => true) events srv

/-- The publication of a whole bundle. -/
def isBundle : Publication X → Bool
  | .bundle _ => true
  | .component _ _ => false

/-- The publication of a schema on its own. -/
def isSchema : Publication X → Bool
  | .component k _ => k = .schema
  | .bundle _ => false

/-- Whether a mismatch was counted with the last publication of a run. -/
def mismatchCounted : List (Event X ι) → Server X ι → Bool → Bool
  | [], _, counted => counted
  | e :: events, srv, counted =>
      mismatchCounted events (step uploads config engineMode e srv).2
        (if (step uploads config engineMode e srv).1.publication.isSome then
          (counts uploads config engineMode e srv).contains policySchemaMismatch
        else counted)

/-! ## Failed polls -/

/-- A poll of the bundle source that failed: what its GET was answered, its
    task before the step it failed in, and its error. -/
structure FailedPoll (X : Crates) where
  get : Validators String → Except String BundleResponse
  task : BundleTask X
  error : FetchError

/-- The poll that fails in this step, if there is one. -/
def failedPoll (e : Event X ι) (srv : Server X ι) : Option (FailedPoll X) :=
  match e with
  | .fetchBundle get clock taskFailure =>
      match srv.bundleFetcher with
      | none => none
      | some t =>
          match (bundleStep get clock taskFailure t srv.shared).1 with
          | some (.error error) => some ⟨get, t, error⟩
          | _ => none
  | _ => none

/-- The polls of the bundle source that fail in a run, oldest first. -/
def failedPolls : List (Event X ι) → Server X ι → List (FailedPoll X)
  | [], _ => []
  | e :: events, srv =>
      (failedPoll e srv).toList ++ failedPolls events (step uploads config engineMode e srv).2

end TreetopServiceMetrics
