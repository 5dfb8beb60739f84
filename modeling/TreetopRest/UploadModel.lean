import TreetopRest.RequestModel
import TreetopRest.SectionProofs

/-! # Uploads

    The three upload handlers.  Each checks the request under the read lock,
    works on the body with no lock held, and checks again and commits under
    the write lock; the three parts are definitions of their own, so that
    requests can be interleaved.  Metrics and log lines are left out. -/

namespace TreetopUpload

open FallibleState Text
open TreetopErrors TreetopCrates TreetopMetadata TreetopWire TreetopStore
open TreetopFetcher TreetopRequest

variable {X : Crates}

/-- The runtime configuration of bundle uploads. -/
structure BundleRuntimeConfig (X : Crates) where
  signaturePolicy : X.SignaturePolicy
  trustStore : X.TrustStore
  maxRequestBytes : Nat
  maxCompressedBytes : Nat
  maxUncompressedBytes : Nat

/-- An upload request: its headers and its body, which a bundle upload reads
    chunk by chunk, with the clock and the fate of its blocking task. -/
inductive Upload where
  | policies (headers : HeaderMap) (body : List UInt8)
  | schema (headers : HeaderMap) (body : List UInt8)
  | bundle (headers : HeaderMap) (payload : List (Except String (List UInt8)))
      (clock : BundleClock) (taskFailure : Option String)

def Upload.headers : Upload → HeaderMap
  | .policies headers _ | .schema headers _ | .bundle headers _ _ _ => headers

def Upload.isBundle : Upload → Bool
  | .bundle .. => true
  | _ => false

/-! ## Checks -/

def checkUploadAuth (req : HeaderMap) (allowUpload : Bool) (token : Option String) :
    Except ServiceError Unit :=
  if !allowUpload then .error .uploadNotAllowed
  else match token with
    | none => .error .uploadTokenNotSet
    | some expectedToken =>
        if (req.get "x-upload-token").all (fun h => h.toStr.getD "" != expectedToken) then
          .error .invalidUploadToken
        else .ok ()

/-- The check of policy and schema uploads. -/
def checkIndependentUpload (req : HeaderMap) (s : PolicyStore X) : Except ServiceError Unit := do
  checkUploadAuth req s.allowUpload s.uploadToken
  if s.bundleUrlMode then throw .bundleModeConflict

/-- What a bundle upload remembers from its check. -/
structure Captured where
  allowUpload : Bool
  schemaValidationMode : SchemaValidationMode

/-- The check under the read lock. -/
def Upload.check (u : Upload) (s : PolicyStore X) : Except ServiceError Captured := do
  match u with
  | .policies headers _ | .schema headers _ => checkIndependentUpload headers s
  | .bundle headers _ _ _ => checkUploadAuth headers s.allowUpload s.uploadToken
  return ⟨s.allowUpload, s.schemaValidationMode⟩

/-! ## Bodies -/

/-- `String::from_utf8`. -/
def textOfBody (body : List UInt8) : Except ServiceError String :=
  match String.fromUTF8? ⟨body.toArray⟩ with
  | some text => .ok text
  | none => .error .invalidTextPayload

def isJson (headers : HeaderMap) : Bool :=
  "application/json".toList.isPrefixOf headers.contentType

variable (X) in
/-- The policy text of an upload. -/
def policiesOfBody (headers : HeaderMap) (body : List UInt8) : Except ServiceError String := do
  let dslString ←
    if isJson headers then (X.uploadFromSlice body).mapError ServiceError.invalidJsonPayload
    else textOfBody body
  if dslString.isEmpty then throw .invalidTextPayload
  return dslString

variable (X) in
/-- The schema text of an upload. -/
def schemaOfBody (headers : HeaderMap) (body : List UInt8) : Except ServiceError String := do
  let schemaString ←
    if isJson headers then do
      match ← (X.schemaUploadFromSlice body).mapError ServiceError.invalidJsonPayload with
      | .wrapped schema => .ok schema
      | .raw value => (X.jsonToString value).mapError ServiceError.invalidJsonPayload
    else textOfBody body
  if (trim schemaString.toList).isEmpty then throw .invalidTextPayload
  return schemaString

def uploadTooLarge (limit : Nat) : ServiceError :=
  .bundleTooLarge ("compressed bundle exceeds " ++ toString limit ++ " bytes")

/-- Collect the chunks of a bundle upload, as long as they fit. -/
def readPayload (limit : Nat) : List (Except String (List UInt8)) → List UInt8 →
    Except ServiceError (List UInt8)
  | [], bytes => .ok bytes
  | .error e :: _, _ => .error (.invalidBundle e)
  | .ok chunk :: rest, bytes =>
      if bytes.length + chunk.length > limit then .error (uploadTooLarge limit)
      else readPayload limit rest (bytes ++ chunk)

/-- The archive of a bundle upload. -/
def archiveOfPayload (config : BundleRuntimeConfig X) (headers : HeaderMap)
    (payload : List (Except String (List UInt8))) : Except ServiceError (List UInt8) := do
  if headers.contentType ≠ "application/gzip".toList
      ∧ headers.contentType ≠ "application/x-gzip".toList then
    throw .unsupportedBundleMediaType
  let uploadLimit := min config.maxCompressedBytes config.maxRequestBytes
  let declaredSize := ((headers.get "content-length").bind HeaderValue.toStr).bind
    fun value => parseUsize value.toList
  if declaredSize.any (fun size => size > uploadLimit) then throw (uploadTooLarge uploadLimit)
  readPayload uploadLimit payload []

/-- What an upload is ready to commit. -/
inductive Candidate (X : Crates) where
  | policies (dslString : String)
  | schema (schemaString : String)
  | bundle (prepared : PreparedBundle X) (response : PoliciesMetadata)

/-- Validate and prepare an uploaded archive in a blocking task. -/
def prepareArchive (config : BundleRuntimeConfig X) (engineMode : Option BundleEngineMode)
    (clock : BundleClock) (taskFailure : Option String) (bytes : List UInt8)
    (captured : Captured) : Except ServiceError (Candidate X) := do
  let limits ← (X.archiveLimitsNew config.maxCompressedBytes config.maxUncompressedBytes).mapError
    ServiceError.fromBundleError
  match taskFailure with
  | some msg => throw (.evaluationError ("bundle preparation task failed: " ++ msg))
  | none =>
      let validated ← (X.validateArchive bytes config.signaturePolicy config.trustStore
        limits).mapError ServiceError.fromBundleError
      let prepared ← prepareBundleWithEngineMode clock validated none none
        captured.schemaValidationMode (engineMode.getD .monolithic)
      return .bundle prepared
        (prepared.metadata captured.allowUpload captured.schemaValidationMode)

/-- The work with no lock held. -/
def Upload.prepare (config : BundleRuntimeConfig X) (engineMode : Option BundleEngineMode)
    (u : Upload) (captured : Captured) : Except ServiceError (Candidate X) :=
  match u with
  | .policies headers body => (policiesOfBody X headers body).map .policies
  | .schema headers body => (schemaOfBody X headers body).map .schema
  | .bundle headers payload clock taskFailure => do
      let bytes ← archiveOfPayload config headers payload
      prepareArchive config engineMode clock taskFailure bytes captured

/-! ## Commits -/

/-- The recheck and the commit, under the write lock. -/
def Candidate.commit (headers : HeaderMap) (now : Timestamp) (c : Candidate X) :
    StoreM X PoliciesMetadata :=
  match c with
  | .policies dslString => do
      checkIndependentUpload headers (← get)
      setDsl now dslString none none
      return (← get).metadata
  | .schema schemaString => do
      checkIndependentUpload headers (← get)
      setSchema now schemaString none none
      return (← get).metadata
  | .bundle prepared response => do
      checkUploadAuth headers (← get).allowUpload (← get).uploadToken
      let response := { response with
        allowUpload := (← get).allowUpload
        schemaValidationMode := (← get).schemaValidationMode.display }
      applyPreparedBundle prepared
      return response

/-- What a poisoned lock answers. -/
def lockPoison : ServiceError := .lockPoison "poisoned lock: another task failed inside"

/-- `store.read()?` -/
def readStore (shared : SharedStore X) : Except ServiceError (PolicyStore X) :=
  if shared.poisoned then .error lockPoison else .ok shared.value

/-- Run a program while holding the write lock. -/
def writeStore {α : Type} (shared : SharedStore X) (m : StoreM X α) :
    Except ServiceError α × SharedStore X :=
  if shared.poisoned then (.error lockPoison, shared)
  else ((exec m shared.value).1, ⟨(exec m shared.value).2, false⟩)

variable (config : BundleRuntimeConfig X) (engineMode : Option BundleEngineMode)

/-- A whole handler: `upload_policies`, `upload_schema` or `upload_bundle`,
    with the store as its check and as its commit find it. -/
def Upload.handle (u : Upload) (now : Timestamp) (atCheck shared : SharedStore X) :
    Except ServiceError PoliciesMetadata × SharedStore X :=
  match (readStore atCheck).bind u.check with
  | .error e => (.error e, shared)
  | .ok captured =>
      match u.prepare config engineMode captured with
      | .error e => (.error e, shared)
      | .ok c => writeStore shared (c.commit u.headers now)

end TreetopUpload
