import TreetopRest.PipelineModel
import TreetopRest.ServerModel
import TreetopRest.Lib.FormProofs

/-! # Downloads, listings and the other reading routes

    The handlers that read the store and the query of a request, and every
    request a server has a route for.  How a query string is split is for the
    crates to say (`WebCrate`).  The framework's extractors run before a handler
    is called; of what they turn down, only bodies above the request limit are
    modelled. -/

namespace TreetopRoutes

open FallibleState Text
open TreetopErrors TreetopCrates TreetopMetadata TreetopWire TreetopStore
open TreetopFetcher TreetopRequest TreetopUpload TreetopHandlers
open TreetopAdmission TreetopConfig TreetopPipeline TreetopServer

/-- The reader of the `url` crate: the pairs of a query string. -/
structure WebCrate where
  formUrlencodedParse : String → List (String × String)

/-- `form_urlencoded` reads what the encoding of a form says, whatever it makes
    of bytes that are no UTF-8. -/
def FormLaw (W : WebCrate) : Prop :=
  ∃ fromUtf8 : List UInt8 → String, (∀ s : String, fromUtf8 (asBytes s.toList) = s)
    ∧ ∀ query, W.formUrlencodedParse query = Form.parse fromUtf8 query.toList

variable {X : Crates} {N : NetCrate} {C : EvalCrate X} {ι : Type} (W : WebCrate)

/-! ## Queries -/

/-- The three parameters of a listing, read on by one pair of the query. -/
def queryParam (found : List String × List String × Option String) (pair : String × String) :
    List String × List String × Option String :=
  let (groups, namespaces, format) := found
  if pair.1 = "groups" ∨ pair.1 = "groups[]" then (groups ++ [pair.2], namespaces, format)
  else if pair.1 = "namespaces" ∨ pair.1 = "namespaces[]" then
    (groups, namespaces ++ [pair.2], format)
  else if pair.1 = "format" then (groups, namespaces, some pair.2)
  else (groups, namespaces, format)

def parseQueryParams (query : String) : List String × List String × Option String :=
  (W.formUrlencodedParse query).foldl queryParam ([], [], none)

def shouldReturnRawFormat (format : Option String) : Bool :=
  format.any fun fmt =>
    eqIgnoreAsciiCase fmt.toList "raw".toList || eqIgnoreAsciiCase fmt.toList "text".toList

/-! ## Documents -/

/-- A body as plain text or as JSON. -/
inductive Document (α : Type) where
  | raw (content : String)
  | json (value : α)
deriving DecidableEq, Repr

def Document.contentType {α : Type} : Document α → String
  | .raw _ => "text/plain"
  | .json _ => "application/json"

/-- `GET /api/v1/policies` -/
def getPolicies (format : Option String) (shared : SharedStore X) :
    Except ServiceError (Document (Metadata .ofPolicies)) := do
  let s ← readStore shared
  if shouldReturnRawFormat format then return .raw s.policies.content
  else return .json s.policies

/-- `GET /api/v1/schema` -/
def getSchema (format : Option String) (shared : SharedStore X) :
    Except ServiceError (Document (Metadata .ofSchema)) := do
  let s ← readStore shared
  if shouldReturnRawFormat format then return .raw s.schema.content
  else return .json s.schema

/-- A listing as the store replies to it. -/
def Document.reply : Document (UserPolicies X.Json) → Reply X
  | .raw content => .raw content
  | .json response => .json response

/-- `GET /api/v1/policies/{user}`; under the read lock only the listing
    caches are written. -/
def listPolicies (user query : String) (shared : SharedStore X) :
    Except ServiceError (Document (UserPolicies X.Json)) × SharedStore X :=
  match readStore shared with
  | .error e => (.error e, shared)
  | .ok s =>
      let (groups, namespaces, format) := parseQueryParams W query
      if shouldReturnRawFormat format then
        let (answer, s) := exec (listPoliciesRaw user groups namespaces) s
        (answer.map .raw, ⟨s, shared.poisoned⟩)
      else
        let (answer, s) := exec (listPoliciesJson user groups namespaces) s
        (answer.map .json, ⟨s, shared.poisoned⟩)

/-- A listing request is an event of the server: it has the answer and the
    effect of that step. -/
theorem listPolicies_step [DecidableEq ι] (uploads : ι → Upload)
    (config : BundleRuntimeConfig X) (engineMode : Option BundleEngineMode) (srv : Server X ι)
    (user query : String) :
    step uploads config engineMode
        (.listPolicies (shouldReturnRawFormat (parseQueryParams W query).2.2) user
          (parseQueryParams W query).1 (parseQueryParams W query).2.1) srv
      = (.listed ((listPolicies W user query srv.shared).1.map Document.reply),
          srv.withShared (listPolicies W user query srv.shared).2) := by
  rw [step, listPolicies]
  cases hread : readStore srv.shared with
  | error e => rfl
  | ok s =>
      dsimp only
      cases hraw : shouldReturnRawFormat (parseQueryParams W query).2.2 with
      | true =>
          rw [listCall, if_pos rfl, if_pos rfl, Call.step]
          cases exec (listPoliciesRaw user _ _) s with
          | mk r s' => cases r <;> rfl
      | false =>
          rw [listCall, if_neg Bool.false_ne_true, if_neg Bool.false_ne_true, Call.step]
          cases exec (listPoliciesJson user _ _) s with
          | mk r s' => cases r <;> rfl

/-! ## Status and version -/

structure StatusResponse where
  policyConfiguration : PoliciesMetadata
  parallelConfiguration : TreetopConfig.ParallelConfig
  requestLimits : AuthorizeRuntimeConfig
  requestContext : RequestContextStatus

/-- `GET /api/v1/status`; the limits it reports have the fields of the runtime
    configuration. -/
def getStatus (l : Launched X N) (shared : SharedStore X) :
    Except ServiceError StatusResponse := do
  let s ← readStore shared
  return {
    policyConfiguration := s.metadata
    parallelConfiguration := l.parallel
    requestLimits := l.authorizeRuntime
    requestContext := s.requestContextStatus }

/-! ## Metrics -/

/-- `str::trim_matches` -/
def trimMatches (c : Char) (s : List Char) : List Char :=
  (s.dropWhile (· == c)).rdropWhile (· == c)

/-- The value of some digits. -/
def valueOfDigits (digits : List Char) : Nat :=
  digits.foldl (fun n c => 10 * n + (c.toNat - '0'.toNat)) 0

/-- The exponent of a number: a sign, and digits to the end. -/
def parseExponent (s : List Char) : Option Int :=
  let (negative, digits) :=
    match s with
    | '-' :: rest => (true, rest)
    | '+' :: rest => (false, rest)
    | _ => (false, s)
  if digits.isEmpty || !digits.all Char.isDigit then none
  else some (if negative then -valueOfDigits digits else valueOfDigits digits)

/-- A decimal number without a sign, as an integer and the power of ten it is
    to be multiplied by. -/
def parseDecimal (s : List Char) : Option (Nat × Int) :=
  let whole := s.takeWhile Char.isDigit
  let (fraction, rest) :=
    match s.dropWhile Char.isDigit with
    | '.' :: rest => (rest.takeWhile Char.isDigit, rest.dropWhile Char.isDigit)
    | rest => ([], rest)
  if whole.isEmpty && fraction.isEmpty then none
  else
    let scaled := fun exponent : Int =>
      (valueOfDigits (whole ++ fraction), exponent - fraction.length)
    match rest with
    | [] => some (scaled 0)
    | c :: rest =>
        if c = 'e' ∨ c = 'E' then (parseExponent rest).map scaled else none

/-- `parse::<f32>().is_ok_and(|value| value > 0.0)`: a number is rounded to zero
    up to half of the least positive value, which is 2 to the power of -149. -/
def isPositiveF32 (s : List Char) : Bool :=
  match s with
  | '-' :: _ => false
  | _ =>
      let s := if s.head? = some '+' then s.tail else s
      if eqIgnoreAsciiCase s "inf".toList || eqIgnoreAsciiCase s "infinity".toList then true
      else (parseDecimal s).any fun (value, exponent) =>
        10 ^ (-exponent).toNat < value * 10 ^ exponent.toNat * 2 ^ 150

/-- What the parameters of a media range have said so far. -/
structure MediaParameters where
  prometheusMetricFamily : Bool
  delimited : Bool
  enabled : Bool
deriving DecidableEq, Repr

def MediaParameters.read (p : MediaParameters) (parameter : List Char) : MediaParameters :=
  match splitOnce '=' parameter with
  | none => p
  | some (name, value) =>
      let value := trimMatches '"' (trim value)
      let name := String.ofList ((trim name).map toAsciiLower)
      if name = "proto" then
        { p with prometheusMetricFamily :=
            value == "io.prometheus.client.MetricFamily".toList }
      else if name = "encoding" then
        { p with delimited := eqIgnoreAsciiCase value "delimited".toList }
      else if name = "q" then { p with enabled := isPositiveF32 value }
      else p

/-- A media range that asks for the protobuf encoding. -/
def acceptsMediaRange (mediaRange : List Char) : Bool :=
  match (mediaRange.splitOn ';').map trim with
  | [] => false
  | mediaType :: parts =>
      if !eqIgnoreAsciiCase mediaType "application/vnd.google.protobuf".toList then false
      else
        let p := parts.foldl MediaParameters.read ⟨false, false, true⟩
        p.enabled && p.prometheusMetricFamily && p.delimited

def acceptsPrometheusProtobuf (headers : HeaderMap) : Bool :=
  (((headers.getAll "accept").filterMap HeaderValue.toStr).flatMap fun value =>
    value.toList.splitOn ',').any acceptsMediaRange

def openmetricsContentType : String :=
  "application/openmetrics-text; version=1.0.0; charset=utf-8"

def prometheusProtobufContentType : String :=
  "application/vnd.google.protobuf; proto=io.prometheus.client.MetricFamily; encoding=delimited"

/-- `GET /metrics`, with the registry in both encodings. -/
def metrics (headers : HeaderMap) (text protobuf : Except String (List UInt8)) :
    Except ServiceError (String × List UInt8) :=
  if acceptsPrometheusProtobuf headers then
    (protobuf.map fun body => (prometheusProtobufContentType, body)).mapError .evaluationError
  else
    (text.map fun body => (openmetricsContentType, body)).mapError .evaluationError

/-! ## Every route -/

/-- A request as its handler gets it: an upload is one of those that are under
    way, the stamp is that of the engine in force, and a store is `busy` when
    `try_read` would block. -/
inductive Request (C : EvalCrate X) (ι : Type) where
  | livez
  | readyz (busy : Bool)
  | openapiJson
  | getStatus
  | version (stamp : Stamp) (crateVersion : String)
  | authorize (stamp : Stamp) (detail : Option String) (requests : List (AuthRequest C))
      (schedule : ParallelMap.Schedule requests.length)
  | getPolicies (format : Option String)
  | getSchema (format : Option String)
  | upload (i : ι)
  | listPolicies (user query : String)
  | metrics (headers : HeaderMap) (text protobuf : Except String (List UInt8))

def uploadHandler : Upload → String
  | .policies .. => "upload_policies"
  | .schema .. => "upload_schema"
  | .bundle .. => "upload_bundle"

/-- The handler of a request, as the routes name it. -/
def Request.handler (uploads : ι → Upload) : Request C ι → String
  | .livez => "livez"
  | .readyz _ => "readyz"
  | .openapiJson => "openapi_json"
  | .getStatus => "get_status"
  | .version .. => "version"
  | .authorize .. => "authorize"
  | .getPolicies _ => "get_policies"
  | .getSchema _ => "get_schema"
  | .upload i => uploadHandler (uploads i)
  | .listPolicies .. => "list_policies"
  | .metrics .. => "metrics"

def statusOf {α : Type} : Except ServiceError α → Nat
  | .ok _ => 200
  | .error e => e.statusCode

/-- The status a request is answered with; none while an upload waits. -/
def Request.status (l : Launched X N) (srv : Server X ι) : Request C ι → Option Nat
  | .livez => some TreetopHandlers.livez.status
  | .readyz busy => some (TreetopHandlers.readyz busy srv.shared).status
  | .openapiJson => some 200
  | .getStatus => some (statusOf (TreetopRoutes.getStatus l srv.shared))
  | .version stamp crateVersion =>
      some (statusOf ((readStore srv.shared).map (TreetopHandlers.version C stamp crateVersion)))
  | .authorize stamp detail requests schedule =>
      some (statusOf (authorizeHandler l srv.shared stamp detail requests schedule).2)
  | .getPolicies format => some (statusOf (TreetopRoutes.getPolicies format srv.shared))
  | .getSchema format => some (statusOf (TreetopRoutes.getSchema format srv.shared))
  | .upload i =>
      match srv.service.phase i with
      | .answered r => some (statusOf r)
      | _ => none
  | .listPolicies user query =>
      some (statusOf (TreetopRoutes.listPolicies W user query srv.shared).1)
  | .metrics headers text protobuf =>
      some (statusOf (TreetopRoutes.metrics headers text protobuf))

/-- The handler takes its body as a whole, by an extractor that `main` has
    limited; a bundle is read chunk by chunk. -/
def Request.isBuffered (uploads : ι → Upload) : Request C ι → Bool
  | .authorize .. => true
  | .upload i => !(uploads i).isBundle
  | _ => false

/-- The status behind the body extractors: what they find too large does not
    reach its handler. -/
def Request.extracted (uploads : ι → Upload) (l : Launched X N) (srv : Server X ι)
    (bodySize : Nat) (r : Request C ι) : Option Nat :=
  if r.isBuffered uploads && l.bundleRuntime.maxRequestBytes < bodySize then some 413
  else r.status W l srv

/-- The same behind admission control, where that is enabled. -/
def Request.answered (uploads : ι → Upload) (l : Launched X N) (srv : Server X ι)
    (req : ServiceRequest) (bodySize : Nat) (r : Request C ι) : Option Nat :=
  if l.admission.enabled then
    match call X l.admission (fun _ => r.extracted W uploads l srv bodySize) req with
    | .inl status => status
    | .inr rejection => some rejection.status
  else r.extracted W uploads l srv bodySize

end TreetopRoutes
