import TreetopRest.BatchProofs
import TreetopRest.SampleCrates

/-! # Answers without the stamps of their engines

    A policy version carries the time its engine was built at and a counter of
    the instance that built it, so no two engines have the same.  An answer
    WITHOUT these two (`AuthorizeResponseVariant.unstamped`) is a function of
    the policies and the request: two stores with one engine, whatever its two
    stamps, answer a batch alike (`authorize_unstamped`). -/

namespace TreetopStamps

open FallibleState ParallelMap
open TreetopErrors TreetopCrates TreetopStore TreetopHandlers TreetopBatch

variable {X : Crates} {C : EvalCrate X} {T U : Type}

/-! ## Without the stamp -/

/-- A policy version without `loaded_at` and `generation`. -/
structure UnstampedVersion where
  hash : String
  labelSet : Option String
deriving DecidableEq, Repr

def unstampedVersion (v : C.PolicyVersion) : UnstampedVersion :=
  ⟨C.versionHash v, C.versionLabelSet v⟩

structure UnstampedDecision (C : EvalCrate X) where
  allowed : Bool
  policies : Option (List C.PermitPolicy)
  version : UnstampedVersion

def unstampedDecision (d : C.Decision) : UnstampedDecision C :=
  ⟨C.isAllowed d, C.permitPolicies d, unstampedVersion (C.decisionVersion d)⟩

structure UnstampedBrief where
  decision : DecisionBrief
  version : UnstampedVersion
  policyId : String
deriving DecidableEq, Repr

structure UnstampedDetailed (C : EvalCrate X) where
  policy : List C.PermitPolicy
  decision : DecisionBrief
  version : UnstampedVersion

def AuthorizeDecisionBrief.unstamped (d : AuthorizeDecisionBrief C) : UnstampedBrief :=
  ⟨d.decision, unstampedVersion d.version, d.policyId⟩

def AuthorizeDecisionDetailed.unstamped (d : AuthorizeDecisionDetailed C) : UnstampedDetailed C :=
  ⟨d.policy, d.decision, unstampedVersion d.version⟩

structure UnstampedResponse (T : Type) where
  results : List (IndexedResult T)
  version : UnstampedVersion
  successful : Nat
  failed : Nat

inductive UnstampedAnswer (C : EvalCrate X) where
  | brief (response : UnstampedResponse UnstampedBrief)
  | detailed (response : UnstampedResponse (UnstampedDetailed C))

def UnstampedDecision.brief (d : UnstampedDecision C) : UnstampedBrief where
  decision := if d.allowed then .allow else .deny
  version := d.version
  policyId := (d.policies.map fun policies =>
    "; ".intercalate (C.permitPolicyIds policies)).getD ""

def UnstampedDecision.detailed (d : UnstampedDecision C) : UnstampedDetailed C where
  policy := d.policies.getD []
  decision := if d.allowed then .allow else .deny
  version := d.version

/-- An entry with its data mapped. -/
def mapEntry (f : T → U) (r : IndexedResult T) : IndexedResult U :=
  ⟨r.index, r.id, mapData f r.result⟩

def AuthorizeResponse.unstamped (f : T → U) (r : AuthorizeResponse C T) : UnstampedResponse U :=
  ⟨r.results.map (mapEntry f), unstampedVersion r.version, r.successful, r.failed⟩

/-- Everything of an answer but the stamps of its versions. -/
def AuthorizeResponseVariant.unstamped : AuthorizeResponseVariant C → UnstampedAnswer C
  | .brief response =>
      .brief (AuthorizeResponse.unstamped AuthorizeDecisionBrief.unstamped response)
  | .detailed response =>
      .detailed (AuthorizeResponse.unstamped AuthorizeDecisionDetailed.unstamped response)

/-- The stamp of an engine shows in the versions of its session and of its
    decisions, and there as `loaded_at` and `generation` only. -/
structure StampLaws (C : EvalCrate X) : Prop where
  version : ∀ engine stamp stamp',
    unstampedVersion (C.sessionVersion (C.session engine stamp'))
      = unstampedVersion (C.sessionVersion (C.session engine stamp))
  evaluate : ∀ engine stamp stamp' request,
    (C.evaluate (C.session engine stamp') request).map unstampedDecision
      = (C.evaluate (C.session engine stamp) request).map unstampedDecision
  evaluateWithContext : ∀ engine stamp stamp' request context,
    (C.evaluateWithContext (C.session engine stamp') request context).map unstampedDecision
      = (C.evaluateWithContext (C.session engine stamp) request context).map unstampedDecision

/-! ## One request -/

/-- Both renderings of a decision leave its stamp to the version. -/
theorem brief_fromDecision (d : C.Decision) :
    AuthorizeDecisionBrief.unstamped (AuthorizeDecisionBrief.fromDecision d)
      = UnstampedDecision.brief (unstampedDecision d) := rfl

theorem detailed_fromDecision (d : C.Decision) :
    AuthorizeDecisionDetailed.unstamped (AuthorizeDecisionDetailed.fromDecision d)
      = UnstampedDecision.detailed (unstampedDecision d) := rfl

theorem mapData_mapData {V : Type} (f : T → U) (g : U → V) (r : BatchResult T) :
    mapData g (mapData f r) = mapData (fun data => g (f data)) r := by
  cases r <;> rfl

/-- Evaluations that decide alike are reported alike. -/
theorem mapData_evaluation {x x' : Except PolicyError C.Decision}
    (h : x'.map unstampedDecision = x.map unstampedDecision) :
    mapData unstampedDecision (match x' with
      | .ok decision => .success decision
      | .error e => .failed (C.policyErrorToString e))
      = mapData unstampedDecision (match x with
        | .ok decision => .success decision
        | .error e => .failed (C.policyErrorToString e)) := by
  cases x with
  | ok d =>
      cases x' with
      | ok d' => exact congrArg BatchResult.success (Except.ok.inj h)
      | error e' => cases h
  | error e =>
      cases x' with
      | ok d' => cases h
      | error e' =>
          cases h
          rfl

/-- Mapping the data of entries leaves the number of successes. -/
theorem successes_mapEntry (f : T → U) (results : List (IndexedResult T)) :
    successes (results.map (mapEntry f)) = successes results := by
  have hsame : ∀ r : IndexedResult T, (mapEntry f r).result.isSuccess = r.result.isSuccess := by
    rintro ⟨_, _, _ | _⟩ <;> rfl
  rw [successes, successes, List.filter_map, List.length_map]
  simp only [Function.comp_def, hsame]

/-- The response to a batch that one session answers. -/
def responseOf (session : C.Session) (runtime : AuthorizeRuntimeConfig)
    (strictSchema loaded : Bool) (mapFn : C.Decision → T) (requests : List (AuthRequest C)) :
    AuthorizeResponse C T :=
  let results := requests.mapIdx (evalOne session runtime strictSchema loaded mapFn)
  ⟨results, C.sessionVersion session, successes results, requests.length - successes results⟩

section Outcomes

variable (hC : StampLaws C) (engine : X.PreparedEngine) (stamp stamp' : Stamp)
  (runtime : AuthorizeRuntimeConfig) (strictSchema loaded : Bool)
include hC

/-- A request comes to the same but for the stamp. -/
theorem outcome_unstamped (authReq : AuthRequest C) :
    mapData unstampedDecision
        (outcome (C.session engine stamp') runtime strictSchema loaded authReq)
      = mapData unstampedDecision
        (outcome (C.session engine stamp) runtime strictSchema loaded authReq) := by
  rw [outcome, outcome, evalOne, evalOne]
  cases validateRequestContext authReq runtime strictSchema loaded with
  | error e => rfl
  | ok _ =>
      dsimp only [id]
      cases toRequestContext C authReq.context with
      | some context =>
          exact mapData_evaluation (hC.evaluateWithContext engine stamp stamp' _ context)
      | none =>
          exact mapData_evaluation (hC.evaluate engine stamp stamp' _)

/-! ## Batches -/

/-- Entries whose rendering factors through the decision without its stamp. -/
theorem entries_unstamped {mapFn : C.Decision → T} {f : T → U} {g : UnstampedDecision C → U}
    (hf : ∀ d, f (mapFn d) = g (unstampedDecision d)) (requests : List (AuthRequest C)) :
    (requests.mapIdx (evalOne (C.session engine stamp') runtime strictSchema loaded mapFn)).map
        (mapEntry f)
      = (requests.mapIdx (evalOne (C.session engine stamp) runtime strictSchema loaded mapFn)).map
        (mapEntry f) := by
  have hentry : ∀ (session : C.Session) index (authReq : AuthRequest C),
      mapEntry f (evalOne session runtime strictSchema loaded mapFn index authReq)
        = ⟨index, authReq.id, mapData g (mapData unstampedDecision
          (outcome session runtime strictSchema loaded authReq))⟩ := by
    intro session index authReq
    rw [mapEntry, evalOne_eq, mapData_mapData, mapData_mapData]
    simp only [hf]
  refine List.ext_getElem? fun i => ?_
  rw [List.getElem?_map, List.getElem?_map, List.getElem?_mapIdx, List.getElem?_mapIdx]
  cases requests[i]? with
  | none => rfl
  | some authReq =>
      show some (mapEntry f _) = some (mapEntry f _)
      rw [hentry, hentry, outcome_unstamped hC engine stamp stamp']

/-- A response with its counts. -/
theorem response_unstamped {mapFn : C.Decision → T} {f : T → U} {g : UnstampedDecision C → U}
    (hf : ∀ d, f (mapFn d) = g (unstampedDecision d)) (requests : List (AuthRequest C)) :
    AuthorizeResponse.unstamped f (responseOf (C.session engine stamp') runtime strictSchema
        loaded mapFn requests)
      = AuthorizeResponse.unstamped f (responseOf (C.session engine stamp) runtime strictSchema
        loaded mapFn requests) := by
  have hentries := entries_unstamped hC engine stamp stamp' runtime strictSchema loaded hf
    requests
  have hsuccesses := congrArg successes hentries
  rw [successes_mapEntry, successes_mapEntry] at hsuccesses
  simp only [AuthorizeResponse.unstamped, responseOf, hentries, hsuccesses,
    hC.version engine stamp stamp']

end Outcomes

/-- **UNSTAMPED**: a batch looks at the engine, at the mode and whether there
    is a schema; the stamp of the engine is in the versions of the answer, and
    nowhere else. -/
theorem authorize_unstamped (hC : StampLaws C) {s s' : PolicyStore X}
    (hengine : s'.engine = s.engine) (hmode : s'.schemaValidationMode = s.schemaValidationMode)
    (hschema : s'.schema.content = s.schema.content) (stamp stamp' : Stamp)
    (parallel parallel' : TreetopHandlers.ParallelConfig)
    (runtimeCfg : Option AuthorizeRuntimeConfig) (detail : Option String)
    (requests : List (AuthRequest C)) (schedule schedule' : Schedule requests.length) :
    (authorize C stamp' s' parallel' runtimeCfg detail requests schedule').map
        AuthorizeResponseVariant.unstamped
      = (authorize C stamp s parallel runtimeCfg detail requests schedule).map
        AuthorizeResponseVariant.unstamped := by
  rw [authorize, authorize, schemaLoaded, schemaLoaded, hengine, hmode, hschema]
  by_cases hlarge : requests.length > (runtimeCfg.getD .default).maxBatchSize
  · rw [if_pos hlarge, if_pos hlarge]
  rw [if_neg hlarge, if_neg hlarge]
  simp only [evaluateBatchRequests_eq]
  cases DetailLevel.fromQuery detail with
  | full =>
      exact congrArg (fun response => Except.ok (UnstampedAnswer.detailed response))
        (response_unstamped hC s.engine stamp stamp' _ _ _ detailed_fromDecision requests)
  | brief =>
      exact congrArg (fun response => Except.ok (UnstampedAnswer.brief response))
        (response_unstamped hC s.engine stamp stamp' _ _ _ brief_fromDecision requests)

/-! ## The small instance -/

open TreetopSample

theorem evaluated_small (user : String) (engine : Engine) (stamp stamp' : Stamp) :
    (if user = "" then .error (.entityError "empty principal") else .ok (engine, stamp') :
        Except PolicyError (Engine × Stamp)).map (unstampedDecision (C := smallEval))
      = (if user = "" then .error (.entityError "empty principal") else .ok (engine, stamp) :
        Except PolicyError (Engine × Stamp)).map (unstampedDecision (C := smallEval)) := by
  by_cases hempty : user = ""
  · rw [if_pos hempty, if_pos hempty]
  · rw [if_neg hempty, if_neg hempty]
    rfl

theorem stampLaws_small : StampLaws smallEval where
  version _ _ _ := rfl
  evaluate engine stamp stamp' user := evaluated_small user engine stamp stamp'
  evaluateWithContext engine stamp stamp' user _ := evaluated_small user engine stamp stamp'

end TreetopStamps
