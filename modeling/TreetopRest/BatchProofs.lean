import TreetopRest.HandlerModel

/-! # Batches — one result per request, whatever the strategy

    A request is evaluated by a function of the request alone, up to the index
    it is given (`evalOne_eq`).  The parallel path maps that function over
    positions and counts afterwards, the sequential path counts as it goes;
    both give the list of indexed results with its number of successes
    (`evaluateBatchRequests_eq`), so the strategy, the schedule and the other
    requests do not show. -/

namespace TreetopBatch

open ParallelMap
open TreetopErrors TreetopCrates TreetopStore TreetopHandlers

variable {X : Crates} {C : EvalCrate X} {T U : Type}

/-! ## One request -/

/-- A result with its data mapped. -/
def mapData (f : T → U) : BatchResult T → BatchResult U
  | .success data => .success (f data)
  | .failed message => .failed message

/-- What a request comes to on its own, before the decision is rendered. -/
def outcome (session : C.Session) (runtime : AuthorizeRuntimeConfig)
    (strictSchema schemaLoaded : Bool) (authReq : AuthRequest C) : BatchResult C.Decision :=
  (evalOne session runtime strictSchema schemaLoaded id 0 authReq).result

variable {session : C.Session} {runtime : AuthorizeRuntimeConfig}
  {strictSchema schemaLoaded : Bool} {mapFn : C.Decision → T}

/-- The index goes through, and the rendering only touches the data. -/
theorem evalOne_eq (index : Nat) (authReq : AuthRequest C) :
    evalOne session runtime strictSchema schemaLoaded mapFn index authReq
      = ⟨index, authReq.id,
          mapData mapFn (outcome session runtime strictSchema schemaLoaded authReq)⟩ := by
  rw [outcome, evalOne, evalOne]
  cases validateRequestContext authReq runtime strictSchema schemaLoaded with
  | error e => rfl
  | ok _ =>
      dsimp only
      cases toRequestContext C authReq.context with
      | some context =>
          dsimp only
          cases C.evaluateWithContext session authReq.request context <;> rfl
      | none =>
          dsimp only
          cases C.evaluate session authReq.request <;> rfl

/-! ## The two strategies -/

/-- The number of successes among some results. -/
def successes (results : List (IndexedResult T)) : Nat :=
  (results.filter fun r => r.result.isSuccess).length

/-- The loop appends the results of the remaining requests and adds their
    successes to the running count. -/
theorem evalLoop_eq (eval : Nat → AuthRequest C → IndexedResult T)
    (requests : List (AuthRequest C)) :
    ∀ (index : Nat) (results : List (IndexedResult T)) (successful : Nat),
      evalLoop eval index requests (results, successful)
        = (results ++ requests.mapIdx fun i => eval (index + i),
            successful + successes (requests.mapIdx fun i => eval (index + i))) := by
  induction requests with
  | nil =>
      intro index results successful
      rw [evalLoop, List.mapIdx_nil, List.append_nil]
      rfl
  | cons authReq requests ih =>
      intro index results successful
      have hshift : (fun i => eval (index + 1 + i)) = fun i => eval (index + (i + 1)) := by
        funext i
        rw [Nat.add_assoc, Nat.add_comm 1 i]
      rw [evalLoop, ih, List.mapIdx_cons, hshift, List.append_assoc, List.singleton_append,
        Nat.add_zero, successes, successes, List.filter_cons]
      cases (eval index authReq).result.isSuccess with
      | false => rfl
      | true =>
          refine congrArg _ ?_
          show successful + 1 + _ = successful + (_ + 1)
          omega

/-- **STRATEGY**: parallel or not, the batch is the list of indexed results
    with its counts. -/
theorem evaluateBatchRequests_eq (requests : List (AuthRequest C))
    (schedule : Schedule requests.length) (parallel : ParallelConfig) :
    evaluateBatchRequests requests schedule session parallel runtime strictSchema schemaLoaded
        mapFn
      = (requests.mapIdx (evalOne session runtime strictSchema schemaLoaded mapFn),
          successes (requests.mapIdx (evalOne session runtime strictSchema schemaLoaded mapFn)),
          requests.length
            - successes
              (requests.mapIdx (evalOne session runtime strictSchema schemaLoaded mapFn))) := by
  have hlength : (requests.mapIdx
      (evalOne session runtime strictSchema schemaLoaded mapFn)).length = requests.length :=
    List.length_mapIdx
  rw [evaluateBatchRequests]
  by_cases hpar : (parallel.allowParallel && requests.length ≥ parallel.parThreshold) = true
  · dsimp only
    rw [if_pos hpar, parMapIdx_eq]
    dsimp only
    rw [hlength]
    rfl
  · dsimp only
    rw [if_neg hpar, evalLoop_eq]
    simp only [List.nil_append, Nat.zero_add, hlength]

/-! ## Renderings -/

/-- Two results of the same evaluation, rendered by `f` and by `g`. -/
inductive SameOutcome (f : C.Decision → T) (g : C.Decision → U) :
    BatchResult T → BatchResult U → Prop where
  | success (decision : C.Decision) :
      SameOutcome f g (.success (f decision)) (.success (g decision))
  | failed (message : String) : SameOutcome f g (.failed message) (.failed message)

theorem sameOutcome_mapData (f : C.Decision → T) (g : C.Decision → U)
    (r : BatchResult C.Decision) : SameOutcome f g (mapData f r) (mapData g r) := by
  cases r with
  | success decision => exact .success decision
  | failed message => exact .failed message

/-- Two entries of the same request. -/
structure SameEntry (f : C.Decision → T) (g : C.Decision → U) (r : IndexedResult T)
    (r' : IndexedResult U) : Prop where
  index : r.index = r'.index
  id : r.id = r'.id
  result : SameOutcome f g r.result r'.result

/-- A brief and a detailed entry that tell the same. -/
structure DetailAgrees (r : IndexedResult (AuthorizeDecisionBrief C))
    (r' : IndexedResult (AuthorizeDecisionDetailed C)) : Prop where
  index : r.index = r'.index
  id : r.id = r'.id
  result : (∃ b d, r.result = .success b ∧ r'.result = .success d
      ∧ b.decision = d.decision ∧ b.version = d.version)
    ∨ ∃ message, r.result = .failed message ∧ r'.result = .failed message

theorem SameEntry.detailAgrees {r : IndexedResult (AuthorizeDecisionBrief C)}
    {r' : IndexedResult (AuthorizeDecisionDetailed C)}
    (h : SameEntry AuthorizeDecisionBrief.fromDecision AuthorizeDecisionDetailed.fromDecision
      r r') : DetailAgrees r r' := by
  refine ⟨h.index, h.id, ?_⟩
  cases r with
  | mk index id result =>
      cases r' with
      | mk index' id' result' =>
          cases h.result with
          | success decision => exact Or.inl ⟨_, _, rfl, rfl, rfl, rfl⟩
          | failed message => exact Or.inr ⟨message, rfl, rfl⟩

/-- Under two renderings a batch has the same entries. -/
theorem mapIdx_sameEntry (f : C.Decision → T) (g : C.Decision → U)
    (requests : List (AuthRequest C)) :
    List.Forall₂ (SameEntry f g)
      (requests.mapIdx (evalOne session runtime strictSchema schemaLoaded f))
      (requests.mapIdx (evalOne session runtime strictSchema schemaLoaded g)) := by
  rw [List.forall₂_iff_get]
  refine ⟨by rw [List.length_mapIdx, List.length_mapIdx], ?_⟩
  intro i hi hi'
  rw [List.get_eq_getElem, List.get_eq_getElem, List.getElem_mapIdx, List.getElem_mapIdx,
    evalOne_eq, evalOne_eq]
  exact ⟨rfl, rfl, sameOutcome_mapData f g _⟩

/-! ## Batches -/

/-- What a batch answers, for the requests one by one and in numbers. -/
structure Exact (requests : List (AuthRequest C)) (session : C.Session)
    (runtime : AuthorizeRuntimeConfig) (strictSchema schemaLoaded : Bool)
    (mapFn : C.Decision → T) (answer : List (IndexedResult T) × Nat × Nat) : Prop where
  length : answer.1.length = requests.length
  /-- Each result is that of its request alone, at the index of the request. -/
  entry : ∀ i (h : i < requests.length), ∃ r, answer.1[i]? = some r ∧ r.index = i
    ∧ r.id = requests[i].id
    ∧ ∀ (schedule : Schedule [requests[i]].length) (parallel : ParallelConfig),
        ∃ alone, (evaluateBatchRequests [requests[i]] schedule session parallel runtime
          strictSchema schemaLoaded mapFn).1 = [alone] ∧ alone.result = r.result
  successful : answer.2.1 = (answer.1.filter fun r => r.result.isSuccess).length
  failed : answer.2.2 = (answer.1.filter fun r => !r.result.isSuccess).length
  /-- The subtraction that gives the failures is within range. -/
  inRange : answer.2.1 ≤ answer.1.length

theorem evaluateBatchRequests_exact (requests : List (AuthRequest C))
    (schedule : Schedule requests.length) (parallel : ParallelConfig) :
    Exact requests session runtime strictSchema schemaLoaded mapFn
      (evaluateBatchRequests requests schedule session parallel runtime strictSchema schemaLoaded
        mapFn) := by
  rw [evaluateBatchRequests_eq]
  have hlength : (requests.mapIdx
      (evalOne session runtime strictSchema schemaLoaded mapFn)).length = requests.length :=
    List.length_mapIdx
  refine ⟨hlength, ?_, rfl, ?_, List.length_filter_le _ _⟩
  · intro i hi
    refine ⟨evalOne session runtime strictSchema schemaLoaded mapFn i requests[i], ?_, ?_, ?_, ?_⟩
    · rw [List.getElem?_mapIdx, List.getElem?_eq_getElem hi]
      rfl
    · rw [evalOne_eq]
    · rw [evalOne_eq]
    · intro schedule' parallel'
      refine ⟨evalOne session runtime strictSchema schemaLoaded mapFn 0 requests[i], ?_, ?_⟩
      · rw [evaluateBatchRequests_eq]
        rfl
      · rw [evalOne_eq, evalOne_eq]
  · -- the two filters split the results
    have hsplit := List.length_eq_length_filter_add (fun r => r.result.isSuccess)
      (l := requests.mapIdx (evalOne session runtime strictSchema schemaLoaded mapFn))
    rw [hlength] at hsplit
    dsimp only
    rw [successes]
    omega

/-- **BATCHES**: every split and order of the parallel path answers like the
    sequential loop; each result is that of its request alone, the counts
    count, and the rendering decides nothing. -/
theorem batch_independent (requests : List (AuthRequest C))
    (schedule : Schedule requests.length) (session : C.Session) (parallel : ParallelConfig)
    (runtime : AuthorizeRuntimeConfig) (strictSchema schemaLoaded : Bool)
    (mapFn : C.Decision → T) (mapFn' : C.Decision → U) :
    evaluateBatchRequests requests schedule session parallel runtime strictSchema schemaLoaded
        mapFn
      = evaluateBatchRequests requests schedule session { parallel with allowParallel := false }
          runtime strictSchema schemaLoaded mapFn
    ∧ Exact requests session runtime strictSchema schemaLoaded mapFn
        (evaluateBatchRequests requests schedule session parallel runtime strictSchema
          schemaLoaded mapFn)
    ∧ List.Forall₂ (SameEntry mapFn mapFn')
        (evaluateBatchRequests requests schedule session parallel runtime strictSchema
          schemaLoaded mapFn).1
        (evaluateBatchRequests requests schedule session parallel runtime strictSchema
          schemaLoaded mapFn').1
    ∧ List.Forall₂ DetailAgrees
        (evaluateBatchRequests requests schedule session parallel runtime strictSchema
          schemaLoaded AuthorizeDecisionBrief.fromDecision).1
        (evaluateBatchRequests requests schedule session parallel runtime strictSchema
          schemaLoaded AuthorizeDecisionDetailed.fromDecision).1 := by
  refine ⟨?_, evaluateBatchRequests_exact requests schedule parallel, ?_, ?_⟩
  · rw [evaluateBatchRequests_eq, evaluateBatchRequests_eq]
  · rw [evaluateBatchRequests_eq, evaluateBatchRequests_eq]
    exact mapIdx_sameEntry mapFn mapFn' requests
  · rw [evaluateBatchRequests_eq, evaluateBatchRequests_eq]
    exact (mapIdx_sameEntry _ _ requests).imp fun _ _ h => h.detailAgrees

end TreetopBatch
