import TreetopRest.Lib.ParallelMapProofs
import TreetopRest.StoreModel

/-! # Versions and authorization

    The handlers that answer from one snapshot of the store: the version
    report, and the batch evaluation behind `authorize` with its two
    execution strategies.  What they take from the policy core beyond the
    engines is a second parameter (`EvalCrate`).  The core stamps every engine
    with the time and a counter of its own as it is built; the engines of the
    model are without their stamp, so a handler is given that of the engine it
    finds.  Metric counters are left out, and a count of the platform (`usize`)
    is a natural number. -/

namespace TreetopHandlers

open FallibleState ParallelMap Text
open TreetopErrors TreetopCrates TreetopMetadata TreetopWire TreetopStore

/-- `treetop_core::AttrValue`; only sets are told apart. -/
inductive AttrValue (Atom : Type) where
  | atom (value : Atom)
  | set (values : List (AttrValue Atom))

/-- What an engine owes to the moment and the instance it was built at: the
    `loaded_at` and the `generation` of its policy version. -/
structure Stamp where
  loadedAt : Timestamp
  generation : UInt64
deriving DecidableEq, Repr

/-- What the handlers take from the core: snapshots and their evaluation,
    decisions, request contexts, and the build it is. -/
structure EvalCrate (X : Crates) where
  coreVersion : String
  cedarVersion : String
  -- the `hash` and the `label_set` of a version; the rest is the stamp
  PolicyVersion : Type
  versionHash : PolicyVersion → String
  versionLabelSet : PolicyVersion → Option String
  currentVersion : X.PreparedEngine → Stamp → PolicyVersion
  -- an evaluation session and what it answers
  Session : Type
  session : X.PreparedEngine → Stamp → Session
  sessionVersion : Session → PolicyVersion
  Request : Type
  RequestContext : Type
  Atom : Type
  contextNew : RequestContext
  contextInsert : RequestContext → String → AttrValue Atom → RequestContext
  contextToVec : List (String × AttrValue Atom) → Except String (List UInt8)
  Decision : Type
  evaluate : Session → Request → Except PolicyError Decision
  evaluateWithContext : Session → Request → RequestContext → Except PolicyError Decision
  policyErrorToString : PolicyError → String
  -- a decision
  PermitPolicy : Type
  isAllowed : Decision → Bool
  decisionVersion : Decision → PolicyVersion
  permitPolicies : Decision → Option (List PermitPolicy)
  permitPolicyIds : List PermitPolicy → List String

variable {X : Crates} {C : EvalCrate X} {T : Type}

/-! ## Versions -/

structure SchemaVersionInfo where
  hash : String
  loadedAt : Timestamp
deriving DecidableEq, Repr

structure VersionInfo (C : EvalCrate X) where
  version : String
  core : String × String
  policies : C.PolicyVersion
  schema : Option SchemaVersionInfo

/-- `GET /api/v1/version` -/
def version (C : EvalCrate X) (stamp : Stamp) (crateVersion : String) (s : PolicyStore X) :
    VersionInfo C :=
  { version := crateVersion
    core := (C.coreVersion, C.cedarVersion)
    policies := C.currentVersion s.engine stamp
    schema :=
      if s.schema.sha256.isEmpty then none
      else some { hash := s.schema.sha256, loadedAt := s.schema.timestamp } }

/-! ## Requests and results -/

/-- One request of a batch; the context is a map, in the order it iterates in. -/
structure AuthRequest (C : EvalCrate X) where
  id : Option String
  context : Option (List (String × AttrValue C.Atom))
  request : C.Request

structure AuthorizeRuntimeConfig where
  maxBatchSize : Nat
  maxContextBytes : Nat
  maxContextDepth : Nat
  maxContextKeys : Nat
deriving DecidableEq, Repr

def AuthorizeRuntimeConfig.default : AuthorizeRuntimeConfig :=
  ⟨1024, 16 * 1024, 8, 64⟩

/-- The settings of `ParallelConfig` that the evaluation reads. -/
structure ParallelConfig where
  parThreshold : Nat
  allowParallel : Bool
deriving DecidableEq, Repr

inductive DecisionBrief where
  | allow
  | deny
deriving DecidableEq, Repr

structure AuthorizeDecisionDetailed (C : EvalCrate X) where
  policy : List C.PermitPolicy
  decision : DecisionBrief
  version : C.PolicyVersion

def AuthorizeDecisionDetailed.fromDecision (decision : C.Decision) :
    AuthorizeDecisionDetailed C :=
  { policy := (C.permitPolicies decision).getD []
    decision := if C.isAllowed decision then .allow else .deny
    version := C.decisionVersion decision }

structure AuthorizeDecisionBrief (C : EvalCrate X) where
  decision : DecisionBrief
  version : C.PolicyVersion
  policyId : String

def AuthorizeDecisionBrief.fromDecision (decision : C.Decision) : AuthorizeDecisionBrief C :=
  { policyId := ((C.permitPolicies decision).map fun policies =>
      "; ".intercalate (C.permitPolicyIds policies)).getD ""
    decision := if C.isAllowed decision then .allow else .deny
    version := C.decisionVersion decision }

/-- Result of a single evaluation, either success or failure. -/
inductive BatchResult (T : Type) where
  | success (data : T)
  | failed (message : String)
deriving DecidableEq, Repr

def BatchResult.isSuccess : BatchResult T → Bool
  | .success _ => true
  | .failed _ => false

/-- A result with its index in the batch and the id of its request. -/
structure IndexedResult (T : Type) where
  index : Nat
  id : Option String
  result : BatchResult T
deriving DecidableEq, Repr

structure AuthorizeResponse (C : EvalCrate X) (T : Type) where
  results : List (IndexedResult T)
  version : C.PolicyVersion
  successful : Nat
  failed : Nat

/-- Response of the authorize endpoint, by the detail asked for. -/
inductive AuthorizeResponseVariant (C : EvalCrate X) where
  | brief (response : AuthorizeResponse C (AuthorizeDecisionBrief C))
  | detailed (response : AuthorizeResponse C (AuthorizeDecisionDetailed C))

/-! ## One request -/

mutual

def contextValueDepth {Atom : Type} : AttrValue Atom → Nat
  | .set values => 1 + maxValueDepth values
  | .atom _ => 1

/-- The greatest depth of some values; of none, zero. -/
def maxValueDepth {Atom : Type} : List (AttrValue Atom) → Nat
  | [] => 0
  | value :: values => max (contextValueDepth value) (maxValueDepth values)

end

def validateRequestContext (authReq : AuthRequest C) (runtime : AuthorizeRuntimeConfig)
    (strictSchema schemaLoaded : Bool) : Except ServiceError Unit :=
  match authReq.context with
  | none => .ok ()
  | some context => do
      if context.length > runtime.maxContextKeys then
        throw (.contextValidationError ("context has too many keys: "
          ++ toString context.length ++ " > " ++ toString runtime.maxContextKeys))
      let bytes ← ((C.contextToVec context).mapError ServiceError.contextValidationError).map
        List.length
      if bytes > runtime.maxContextBytes then
        throw (.contextValidationError ("context payload too large: " ++ toString bytes
          ++ " bytes > " ++ toString runtime.maxContextBytes ++ " bytes"))
      let depth := maxValueDepth (context.map Prod.snd)
      if depth > runtime.maxContextDepth then
        throw (.contextValidationError ("context nesting depth too high: " ++ toString depth
          ++ " > " ++ toString runtime.maxContextDepth))
      if strictSchema && !schemaLoaded then
        throw (.contextValidationError
          "context requires an uploaded schema in strict validation mode")

def toRequestContext (C : EvalCrate X) (context : Option (List (String × AttrValue C.Atom))) :
    Option C.RequestContext :=
  context.map fun context =>
    context.foldl (fun requestContext (key, value) => C.contextInsert requestContext key value)
      C.contextNew

/-- Evaluate a single authorization request and produce an indexed result. -/
def evalOne (session : C.Session) (runtime : AuthorizeRuntimeConfig)
    (strictSchema schemaLoaded : Bool) (mapFn : C.Decision → T) (index : Nat)
    (authReq : AuthRequest C) : IndexedResult T :=
  match validateRequestContext authReq runtime strictSchema schemaLoaded with
  | .error e => ⟨index, authReq.id, .failed e.message⟩
  | .ok () =>
      let evaluation := match toRequestContext C authReq.context with
        | some context => C.evaluateWithContext session authReq.request context
        | none => C.evaluate session authReq.request
      let result := match evaluation with
        | .ok decision => .success (mapFn decision)
        | .error e => .failed (C.policyErrorToString e)
      ⟨index, authReq.id, result⟩

/-! ## Batches -/

/-- The sequential loop: the results so far, and how many are successes. -/
def evalLoop (eval : Nat → AuthRequest C → IndexedResult T) :
    Nat → List (AuthRequest C) → List (IndexedResult T) × Nat → List (IndexedResult T) × Nat
  | _, [], found => found
  | index, authReq :: requests, (results, successful) =>
      let result := eval index authReq
      evalLoop eval (index + 1) requests
        (results ++ [result],
          if result.result.isSuccess then successful + 1 else successful)

/-- Evaluate a batch; how the parallel path is scheduled is an argument.
    Returns the results with the counts of successes and failures. -/
def evaluateBatchRequests (requests : List (AuthRequest C)) (schedule : Schedule requests.length)
    (session : C.Session) (parallel : ParallelConfig) (runtime : AuthorizeRuntimeConfig)
    (strictSchema schemaLoaded : Bool) (mapFn : C.Decision → T) :
    List (IndexedResult T) × Nat × Nat :=
  let eval := evalOne session runtime strictSchema schemaLoaded mapFn
  let useParallel := parallel.allowParallel && requests.length ≥ parallel.parThreshold
  let (results, successful) :=
    if useParallel then
      let results := parMapIdx requests schedule eval
      (results, (results.filter fun r => r.result.isSuccess).length)
    else evalLoop eval 0 requests ([], 0)
  (results, successful, results.length - successful)

inductive DetailLevel where
  | brief
  | full
deriving DecidableEq, Repr

def DetailLevel.fromQuery : Option String → DetailLevel
  | some d =>
      if eqIgnoreAsciiCase d.toList "full".toList
        || eqIgnoreAsciiCase d.toList "detailed".toList then .full
      else .brief
  | none => .brief

/-- The `schema_loaded` flag of a batch. -/
def schemaLoaded (s : PolicyStore X) : Bool := !s.schema.content.isEmpty

/-- `POST /api/v1/authorize` on the requests of its body. -/
def authorize (C : EvalCrate X) (stamp : Stamp) (s : PolicyStore X) (parallel : ParallelConfig)
    (runtimeCfg : Option AuthorizeRuntimeConfig) (detail : Option String)
    (requests : List (AuthRequest C)) (schedule : Schedule requests.length) :
    Except ServiceError (AuthorizeResponseVariant C) :=
  let runtime := runtimeCfg.getD .default
  if requests.length > runtime.maxBatchSize then
    .error (.validationError ("authorization batch has too many requests: "
      ++ toString requests.length ++ " > " ++ toString runtime.maxBatchSize))
  else
    let session := C.session s.engine stamp
    let version := C.sessionVersion session
    let strictSchema := s.schemaValidationMode = .strict
    match DetailLevel.fromQuery detail with
    | .full =>
        let (results, successful, failed) := evaluateBatchRequests requests schedule session
          parallel runtime strictSchema (schemaLoaded s) AuthorizeDecisionDetailed.fromDecision
        .ok (.detailed { results, version, successful, failed })
    | .brief =>
        let (results, successful, failed) := evaluateBatchRequests requests schedule session
          parallel runtime strictSchema (schemaLoaded s) AuthorizeDecisionBrief.fromDecision
        .ok (.brief { results, version, successful, failed })

/-! ## Probes -/

/-- The response to a probe. -/
structure ProbeResponse where
  status : Nat
  cacheControl : String
  contentType : String
  body : String
deriving DecidableEq, Repr

def probeResponse (ready : Bool) : ProbeResponse where
  status := if ready then 200 else 503
  cacheControl := "no-store"
  contentType := "text/plain; charset=utf-8"
  body := if ready then "ok\n" else "not ready\n"

/-- `GET /livez`. -/
def livez : ProbeResponse := probeResponse true

/-- `GET /readyz`; a store is `busy` when `try_read` would block: someone holds
    it for writing, or waits to. -/
def readyz (busy : Bool) (shared : Mutex (PolicyStore X)) : ProbeResponse :=
  let tryRead := if busy || shared.poisoned then none else some shared.value
  probeResponse ((tryRead.map configuredSourcesLoaded).getD false)

end TreetopHandlers
