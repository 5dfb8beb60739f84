import TreetopRest.ConfigModel
import TreetopRest.Lib.SharedLogProofs

/-! # The request pipeline

    A request goes through admission control, where that is installed, and
    through the tracing middleware to the routes.  On the way back it gets its
    two ids, and its counts and latencies are recorded in the shared registry,
    many requests at a time.  Routing and the clock are the framework's: what
    the routes do with a request is an argument, and so are its id and the time
    it took, in nanoseconds. -/

namespace TreetopPipeline

open Text Interleaving SharedLog
open TreetopErrors TreetopCrates TreetopMetadata TreetopStore
open TreetopAddress TreetopFetcher TreetopRequest TreetopUpload
open TreetopAdmission TreetopHandlers TreetopConfig

/-! ## Labels and series -/

structure HttpRequestLabels where
  method : String
  path : String
  statusCode : Nat
  clientIp : String
deriving DecidableEq, Repr

structure HttpDurationLabels where
  method : String
  path : String
  statusCode : Nat
deriving DecidableEq, Repr

structure ReasonLabels where
  reason : String
deriving DecidableEq, Repr

structure AuthorizationDurationLabels where
  batchSizeClass : String
deriving DecidableEq, Repr

/-- The label sets of the families a request can record in; the batch sizes
    are one histogram, a family of one. -/
inductive Series where
  | httpRequests (labels : HttpRequestLabels)
  | httpRequestDuration (labels : HttpDurationLabels)
  | authorizationBatchSize
  | authorizationRequestDuration (labels : AuthorizationDurationLabels)
  | admissionRejections (labels : ReasonLabels)
deriving DecidableEq, Repr

/-- What is done with a handle: a histogram observes nanoseconds or a size. -/
inductive Record where
  | inc
  | observe (value : Nat)
deriving DecidableEq, Repr

/-- What a request has to record, series by series. -/
abbrev Observations := Todo Series Record

/-! ## What is recorded -/

def asStr : AdmissionRejectionReason → String
  | .clientIpUnresolved => "client_ip_unresolved"
  | .clientIpNotAllowed => "client_ip_not_allowed"
  | .accessTokenMissing => "access_token_missing"
  | .accessTokenMalformed => "access_token_malformed"
  | .accessTokenInvalid => "access_token_invalid"

def recordAdmissionRejection (reason : AdmissionRejectionReason) : Observations :=
  [(.admissionRejections ⟨asStr reason⟩, .inc)]

/-- `HttpMetrics::observe` -/
def observeHttp (method path : String) (statusCode : Nat) (clientIp : Option String)
    (duration : Nat) : Observations :=
  [(.httpRequests { method, path, statusCode, clientIp := clientIp.getD "" }, .inc),
   (.httpRequestDuration { method, path, statusCode }, .observe duration)]

def authorizationBatchSizeBuckets : List Nat := [0, 1, 4, 8, 32, 128, 512]

structure AcceptedAuthorizationBatch where
  size : Nat
deriving DecidableEq, Repr

def AcceptedAuthorizationBatch.sizeClass (batch : AcceptedAuthorizationBatch) : String :=
  if batch.size = 0 then "0"
  else if batch.size = 1 then "1"
  else if batch.size ≤ 4 then "2-4"
  else if batch.size ≤ 8 then "5-8"
  else if batch.size ≤ 32 then "9-32"
  else if batch.size ≤ 128 then "33-128"
  else if batch.size ≤ 512 then "129-512"
  else "513+"

/-- `AuthorizationMetrics::observe` -/
def observeAuthorization (batch : AcceptedAuthorizationBatch) (duration : Nat) : Observations :=
  [(.authorizationBatchSize, .observe batch.size),
   (.authorizationRequestDuration ⟨batch.sizeClass⟩, .observe duration)]

/-! ## Responses -/

/-- A response on its way out, with what the middleware reads of its request:
    the pattern that matched it, and the batch `authorize` has accepted. -/
structure ServiceResponse where
  status : Nat
  headers : HeaderMap
  matchPattern : Option String
  batch : Option AcceptedAuthorizationBatch

/-- `HeaderMap::insert`: the one value under a name. -/
def insertHeader (headers : HeaderMap) (name : String) (value : HeaderValue) : HeaderMap :=
  headers.filter (fun h => h.1 != name) ++ [(name, value)]

/-- A byte a header value may have. -/
def isHeaderByte (b : UInt8) : Bool := (32 ≤ b && b != 127) || b == 9

/-- `HeaderValue::from_str` -/
def headerValueFromStr (text : String) : Option HeaderValue :=
  let bytes := asBytes text.toList
  if bytes.all isHeaderByte then some ⟨bytes⟩ else none

/-- `HeaderValue::from_static("<failed>")` -/
def failedValue : HeaderValue := ⟨asBytes "<failed>".toList⟩

/-! ## Handlers behind the middleware -/

variable {X : Crates} {N : NetCrate} {C : EvalCrate X}

/-- What the routes do with a request: `authorize` it, with the store as the
    handler finds it, answer it in any other way, or fail. -/
inductive Routed (C : EvalCrate X) where
  | authorize (shared : SharedStore X) (stamp : Stamp) (detail : Option String)
      (requests : List (AuthRequest C)) (schedule : ParallelMap.Schedule requests.length)
  | answer (status : Nat) (headers : HeaderMap) (matchPattern : Option String)
  | fail

/-- The handler of `POST /api/v1/authorize`: the batch it leaves on the request,
    also where it fails after that, and its answer. -/
def authorizeHandler (l : Launched X N) (shared : SharedStore X) (stamp : Stamp)
    (detail : Option String) (requests : List (AuthRequest C))
    (schedule : ParallelMap.Schedule requests.length) :
    Option AcceptedAuthorizationBatch × Except ServiceError (AuthorizeResponseVariant C) :=
  if requests.length > l.authorizeRuntime.maxBatchSize then
    (none, .error (.validationError ("authorization batch has too many requests: "
      ++ toString requests.length ++ " > " ++ toString l.authorizeRuntime.maxBatchSize)))
  else
    (some ⟨requests.length⟩, (readStore shared).bind fun s =>
      authorize C stamp s l.parallel.toParallelConfig (some l.authorizeRuntime) detail requests
        schedule)

/-- The response of the routes; its other headers are the framework's. -/
def Routed.respond (l : Launched X N) : Routed C → Option ServiceResponse
  | .authorize shared stamp detail requests schedule =>
      let (batch, result) := authorizeHandler l shared stamp detail requests schedule
      some {
        status := match result with
          | .ok _ => 200
          | .error e => e.statusCode
        headers := [("content-type", ⟨asBytes "application/json".toList⟩)]
        matchPattern := some "/api/v1/authorize"
        batch }
  | .answer status headers matchPattern => some { status, headers, matchPattern, batch := none }
  | .fail => none

/-! ## Tracing -/

/-- A request that arrives, with the id that is made for it, the time it takes
    and what the routes would do with it. -/
structure Arrival (C : EvalCrate X) where
  method : String
  path : String
  headers : HeaderMap
  peerAddr : Option SocketAddr
  requestId : String
  elapsed : Nat
  route : ServiceRequest → Routed C

/-- The request as the outermost middleware gets it. -/
def Arrival.request (a : Arrival C) : ServiceRequest where
  path := a.path
  headers := a.headers
  peerAddr := a.peerAddr
  resolvedClientIp := none

structure RequestIds where
  requestId : String
  correlationId : String
deriving DecidableEq, Repr

/-- The ids of a request; one that brings no correlation id gets its own. -/
def requestIds (headers : HeaderMap) (requestId : String) : RequestIds where
  requestId := requestId
  correlationId := ((headers.get "x-correlation-id").bind HeaderValue.toStr).getD requestId

/-- The response with both ids. -/
def ServiceResponse.withIds (res : ServiceResponse) (ids : RequestIds) : ServiceResponse :=
  { res with
    headers :=
      insertHeader
        (insertHeader res.headers "x-request-id"
          ((headerValueFromStr ids.requestId).getD failedValue))
        "x-correlation-id" ((headerValueFromStr ids.correlationId).getD failedValue) }

/-- The client address of a request: the one admission control has found, or
    its peer. -/
def clientIp (req : ServiceRequest) : Option IpAddr :=
  req.resolvedClientIp.or (req.peerAddr.map SocketAddr.ip)

/-- `TracingMiddlewareService::call`: the response, and what it records. -/
def trace (l : Launched X N) (a : Arrival C) (req : ServiceRequest) :
    Option ServiceResponse × Observations :=
  let ids := requestIds req.headers a.requestId
  let clientIpText := (clientIp req).map fun ip => String.ofList ip.display
  match (a.route req).respond l with
  | none => (none, [])
  | some res =>
      let metricsPath := res.matchPattern.getD "unmatched"
      let observed := observeHttp a.method metricsPath res.status clientIpText a.elapsed
      let observed :=
        match res.batch with
        | some batch => observed ++ observeAuthorization batch a.elapsed
        | none => observed
      (some (res.withIds ids), observed)

/-! ## The whole pipeline -/

/-- What a server does with a request: the middleware of `main`, admission
    control only where it is enabled. -/
def serve (l : Launched X N) (a : Arrival C) :
    (Option ServiceResponse × Observations) ⊕ Rejection :=
  if l.admission.enabled then call X l.admission (trace l a) a.request
  else .inl (trace l a a.request)

/-- All that a request records. -/
def observations (l : Launched X N) (a : Arrival C) : Observations :=
  match serve l a with
  | .inl (_, observed) => observed
  | .inr rejection => recordAdmissionRejection rejection.reason

/-- A request looks up every label set itself. -/
def seriesKey (_ : Unit) (series : Series) : Series := series

@[simp] theorem seriesKey_eq (u : Unit) (series : Series) : seriesKey u series = series := rfl

/-- The registry and the requests that still record in it, after a schedule of
    their steps. -/
def recording (l : Launched X N) (arrivals : List (Arrival C)) (schedule : List Nat) :
    List (Direct Unit Series Series Record) × Family Series Record :=
  run (Direct.step seriesKey) schedule
    (Direct.start (arrivals.map fun a => ((), observations l a)))

/-- A cumulative bucket of a histogram. -/
def bucket (families : Family Series Record) (series : Series) (bound : Nat) : Nat :=
  (families.log series).countP fun record =>
    match record with
    | .observe value => value ≤ bound
    | .inc => false

end TreetopPipeline
