import TreetopRest.RequestWireModel
import TreetopRest.BatchProofs
import TreetopRest.ResponseProofs
import TreetopRest.LaunchProofs

/-! # What a client gets for its batch

    A request comes out of the wire as it went in, but for the order of its
    context (`AuthRequest.deserialize_serialize`), and its evaluation does not
    depend on that.  The results are those of the requests one by one, and an
    id finds the first of them on the one side and on the other.  Whatever the
    detail asked for, a client that looks its id up therefore finds what the
    engine in force decides on THE REQUEST IT SENT (`decisions_delivered`);
    this holds even where a detailed response is read back as a brief one. -/

namespace TreetopRequestWire

open Serde FallibleState
open TreetopErrors TreetopCrates TreetopWire TreetopStore TreetopFetcher TreetopUpload
open TreetopAdmission TreetopConfig TreetopHandlers TreetopPipeline TreetopResponses
open TreetopBatch

variable {X : Crates} {N : NetCrate} {C : EvalCrate X} (R : RequestWire C) (W : CoreWire C)
  {order : List (String × AttrValue C.Atom) → List (String × AttrValue C.Atom)}

/-! ## Requests -/

/-- The context of a request has each key once. -/
def ContextIsMap (r : AuthRequest C) : Prop :=
  ∀ context, r.context = some context → (context.map Prod.fst).Nodup

/-- The request, with its context in another order. -/
def reordered (order : List (String × AttrValue C.Atom) → List (String × AttrValue C.Atom))
    (r : AuthRequest C) : AuthRequest C :=
  { r with context := r.context.map order }

/-- **REQUESTS** survive the wire, up to the order of their contexts. -/
theorem AuthRequest.deserialize_serialize {r : AuthRequest C} (hmap : ContextIsMap r) :
    AuthRequest.deserialize R order (AuthRequest.serialize R r) = some (reordered order r) := by
  obtain ⟨id, context, request⟩ := r
  have hnames := R.names request
  have hflat : flattened ["id", "context"] (R.request request) = R.request request := by
    refine flattened_self fun e he hmem => ?_
    rcases List.mem_pair.mp hmem with hid | hcontext
    · exact (hnames e he).1 hid
    · exact (hnames e he).2 hcontext
  have hrequest : R.readRequest (flattened ["id", "context"] (R.request request))
      = some request := by
    rw [hflat, R.read_write]
  -- the entries behind the id, with or without a context
  have hrest : ∀ rest, rest = ((context.map fun context =>
        ("context", Json.obj (context.map fun e => (e.1, R.attrValue.write e.2)))).toList
          ++ R.request request) →
      (∀ e ∈ rest, e.1 ≠ "id")
        ∧ optionalField rest "context" (hashMap order R.attrValue.read)
          = some (context.map order)
        ∧ flattened ["id", "context"] rest
          = flattened ["id", "context"] (R.request request) := by
    rintro rest rfl
    cases context with
    | none =>
        exact ⟨fun e he => (hnames e he).1, optionalField_absent fun e he => (hnames e he).2, rfl⟩
    | some context =>
        have hread : hashMap order R.attrValue.read
            (.obj (context.map fun e => (e.1, R.attrValue.write e.2))) = some (order context) :=
          hashMap_write R.attrValue.read_write order (hmap context rfl)
        refine ⟨?_, ?_, flattened_cons (by decide) _ _⟩
        · intro e he
          rcases List.mem_cons.mp he with rfl | he
          · show "context" ≠ "id"
            decide
          · exact (hnames e he).1
        · show optionalField (("context", _) :: R.request request) "context" _ = _
          rw [optionalField_cons_self (fun e he => (hnames e he).2) (by simp), hread]
          rfl
  obtain ⟨hid, hcontext, hflatten⟩ := hrest _ rfl
  rw [AuthRequest.serialize]
  dsimp only
  generalize (context.map fun context =>
    ("context", Json.obj (context.map fun e => (e.1, R.attrValue.write e.2)))).toList
      ++ R.request request = rest at hid hcontext hflatten ⊢
  have hidField : optionalField (("id", (id.map Json.str).getD .null) :: rest) "id" string
      = some id := by
    cases id with
    | none => exact optionalField_cons_null hid
    | some id => exact optionalField_cons_self hid (by simp)
  have hcontextField : optionalField (("id", (id.map Json.str).getD .null) :: rest) "context"
      (hashMap order R.attrValue.read) = some (context.map order) := by
    rw [optionalField_cons_ne (by decide), hcontext]
  have hrequestField : R.readRequest
      (flattened ["id", "context"] (("id", (id.map Json.str).getD .null) :: rest))
        = some request := by
    rw [flattened_cons (by decide), hflatten, hrequest]
  simp only [AuthRequest.deserialize, mapFields, Option.bind_eq_bind, Option.bind_some, hidField,
    hcontextField, hrequestField]
  rfl

/-- A batch survives if its requests do. -/
theorem AuthorizeRequest.deserialize_serialize {batch : AuthorizeRequest C}
    (hmaps : ∀ r ∈ batch.requests, ContextIsMap r) :
    AuthorizeRequest.deserialize R order (AuthorizeRequest.serialize R batch)
      = some ⟨batch.requests.map (reordered order)⟩ := by
  have hrequests : vec (AuthRequest.deserialize R order)
      (.arr (batch.requests.map (AuthRequest.serialize R)))
        = some (batch.requests.map (reordered order)) :=
    mapM_write (reordered order) batch.requests fun r hr =>
      AuthRequest.deserialize_serialize R (hmaps r hr)
  simp [AuthorizeRequest.deserialize, AuthorizeRequest.serialize, structFields, hrequests]

/-! ## Building -/

theorem contextIsMap_new (request : C.Request) : ContextIsMap (AuthRequest.new request) :=
  fun _ h => nomatch h

theorem contextIsMap_withId (id : String) (request : C.Request) :
    ContextIsMap (AuthRequest.withId id request) :=
  fun _ h => nomatch h

theorem ContextIsMap.withContext {r : AuthRequest C} (hr : ContextIsMap r)
    {context : List (String × AttrValue C.Atom)} (hnodup : (context.map Prod.fst).Nodup) :
    ContextIsMap (AuthRequest.withContext r context) := by
  rw [AuthRequest.withContext]
  by_cases hempty : context.isEmpty = true
  · rw [if_pos hempty]
    exact hr
  · rw [if_neg hempty]
    intro context' hcontext
    cases hcontext
    exact hnodup

/-- Appending one by one is appending at once. -/
theorem foldl_append_request {E : Type} (f : E → AuthRequest C) (entries : List E) :
    ∀ batch : AuthorizeRequest C,
      entries.foldl (fun batch entry => ⟨batch.requests ++ [f entry]⟩) batch
        = ⟨batch.requests ++ entries.map f⟩ := by
  induction entries with
  | nil =>
      intro batch
      show batch = ⟨batch.requests ++ []⟩
      rw [List.append_nil]
  | cons entry entries ih =>
      intro batch
      rw [List.foldl_cons, ih, List.append_assoc]
      rfl

theorem built_withIds (requests : List (String × C.Request)) :
    requests.foldl (fun batch entry => batch.addWithId entry.1 entry.2) AuthorizeRequest.new
      = AuthorizeRequest.withIds requests :=
  foldl_append_request (fun entry => AuthRequest.withId entry.1 entry.2) requests _

theorem built_fromRequests (requests : List C.Request) :
    requests.foldl AuthorizeRequest.addRequest AuthorizeRequest.new
      = AuthorizeRequest.fromRequests requests :=
  foldl_append_request AuthRequest.new requests _

/-- The first request with an id is the first that was given it. -/
theorem find?_withIds {E : Type} (f : AuthRequest C → E) (requests : List (String × C.Request))
    (id : String) :
    ((AuthorizeRequest.withIds requests).requests.find? fun r => r.id = some id).map f
      = (requests.lookup id).map fun request => f (AuthRequest.withId id request) := by
  induction requests with
  | nil => rfl
  | cons entry requests ih =>
      obtain ⟨name, request⟩ := entry
      show ((AuthRequest.withId name request
        :: (AuthorizeRequest.withIds requests).requests).find? _).map f = _
      rw [List.find?_cons, List.lookup_cons]
      by_cases hname : name = id
      · subst hname
        simp [AuthRequest.withId]
      · have hne : (id == name) = false := beq_false_of_ne (Ne.symm hname)
        have hno : decide ((AuthRequest.withId name request).id = some id) = false := by
          simpa [AuthRequest.withId] using hname
        rw [hne, hno]
        exact ih

/-! ## Evaluation -/

/-- A request context is a map: an evaluation does not depend on the order in
    which it was filled, and neither does the size it is written in. -/
structure ContextLaws (C : EvalCrate X) : Prop where
  evaluate : ∀ session request context context', context.Perm context' →
    (context.map Prod.fst).Nodup →
    (toRequestContext C (some context)).map (C.evaluateWithContext session request)
      = (toRequestContext C (some context')).map (C.evaluateWithContext session request)
  toVec : ∀ context context', context.Perm context' → (context.map Prod.fst).Nodup →
    (C.contextToVec context).map List.length = (C.contextToVec context').map List.length

theorem maxValueDepth_perm {Atom : Type} {values values' : List (AttrValue Atom)}
    (h : values.Perm values') : maxValueDepth values = maxValueDepth values' := by
  induction h with
  | nil => rfl
  | cons value _ ih => rw [maxValueDepth, maxValueDepth, ih]
  | swap value value' values =>
      rw [maxValueDepth, maxValueDepth, maxValueDepth, maxValueDepth]
      omega
  | trans _ _ ih ih' => exact ih.trans ih'

/-- The order of a context does not show in what its request comes to. -/
theorem outcome_reordered (hC : ContextLaws C) (horder : ∀ context, (order context).Perm context)
    {r : AuthRequest C} (hmap : ContextIsMap r) (session : C.Session)
    (runtime : AuthorizeRuntimeConfig) (strictSchema schemaLoaded : Bool) :
    outcome session runtime strictSchema schemaLoaded (reordered order r)
      = outcome session runtime strictSchema schemaLoaded r := by
  obtain ⟨id, context, request⟩ := r
  cases context with
  | none => rfl
  | some context =>
      have hnodup := hmap context rfl
      have hperm : context.Perm (order context) := (horder context).symm
      have hsize : ((C.contextToVec (order context)).mapError
            ServiceError.contextValidationError).map List.length
          = ((C.contextToVec context).mapError
            ServiceError.contextValidationError).map List.length := by
        rw [map_mapError, map_mapError, hC.toVec context (order context) hperm hnodup]
      have hdepth : maxValueDepth ((order context).map Prod.snd)
          = maxValueDepth (context.map Prod.snd) :=
        maxValueDepth_perm (hperm.map _).symm
      have hvalid : validateRequestContext (reordered order ⟨id, some context, request⟩) runtime
          strictSchema schemaLoaded
            = validateRequestContext ⟨id, some context, request⟩ runtime strictSchema
              schemaLoaded := by
        rw [validateRequestContext, validateRequestContext]
        show (if (order context).length > _ then _ else _) = _
        rw [hsize, hdepth, ← hperm.length_eq]
      have hevaluate := Option.some.inj (hC.evaluate session request context (order context) hperm
        hnodup)
      -- the checks agree, and behind them the evaluations
      rw [outcome, outcome, evalOne, evalOne, hvalid]
      cases validateRequestContext ⟨id, some context, request⟩ runtime strictSchema
          schemaLoaded with
      | error e => rfl
      | ok u =>
          dsimp only [reordered, toRequestContext, Option.map]
          rw [← hevaluate]

/-! ## Responses -/

/-- What a result says, whatever its detail. -/
def verdict {T : Type} (decision : T → DecisionBrief) :
    BatchResult T → Except String DecisionBrief
  | .success data => .ok (decision data)
  | .failed message => .error message

/-- The index, the id and the decision of each result of a response. -/
def entriesOf {T : Type} (decision : T → DecisionBrief) (response : AuthorizeResponse C T) :
    List (Nat × Option String × Except String DecisionBrief) :=
  response.results.map fun r => (r.index, r.id, verdict decision r.result)

def AuthorizeResponseVariant.entries :
    AuthorizeResponseVariant C → List (Nat × Option String × Except String DecisionBrief)
  | .brief response => entriesOf AuthorizeDecisionBrief.decision response
  | .detailed response => entriesOf AuthorizeDecisionDetailed.decision response

def AuthorizeResponseVariant.version : AuthorizeResponseVariant C → C.PolicyVersion
  | .brief response => response.version
  | .detailed response => response.version

/-- What a client finds under an id. -/
def AuthorizeResponseVariant.decisionFor (v : AuthorizeResponseVariant C) (id : String) :
    Option (Except String DecisionBrief) :=
  match v with
  | .brief response =>
      (AuthorizeResponse.findById response id).map fun r => verdict (·.decision) r.result
  | .detailed response =>
      (AuthorizeResponse.findById response id).map fun r => verdict (·.decision) r.result

/-- What a client finds at a position. -/
def AuthorizeResponseVariant.decisionAt (v : AuthorizeResponseVariant C) (index : Nat) :
    Option (Except String DecisionBrief) :=
  match v with
  | .brief response =>
      (AuthorizeResponse.getAt response index).map fun r => verdict (·.decision) r.result
  | .detailed response =>
      (AuthorizeResponse.getAt response index).map fun r => verdict (·.decision) r.result

/-- A position is looked up among the entries. -/
theorem decisionAt_eq (v : AuthorizeResponseVariant C) (index : Nat) :
    AuthorizeResponseVariant.decisionAt v index
      = (AuthorizeResponseVariant.entries v)[index]?.map (·.2.2) := by
  cases v with
  | brief response =>
      rw [AuthorizeResponseVariant.entries, entriesOf, List.getElem?_map, Option.map_map]
      rfl
  | detailed response =>
      rw [AuthorizeResponseVariant.entries, entriesOf, List.getElem?_map, Option.map_map]
      rfl

/-- An id is looked up among the entries. -/
theorem decisionFor_eq (v : AuthorizeResponseVariant C) (id : String) :
    AuthorizeResponseVariant.decisionFor v id
      = ((AuthorizeResponseVariant.entries v).find? fun e => e.2.1 = some id).map (·.2.2) := by
  cases v with
  | brief response =>
      rw [AuthorizeResponseVariant.entries, entriesOf, List.find?_map, Option.map_map]
      rfl
  | detailed response =>
      rw [AuthorizeResponseVariant.entries, entriesOf, List.find?_map, Option.map_map]
      rfl

/-- **RESPONSES** survive the wire as far as their entries go: a detailed one
    without a success is read as a brief one that says the same. -/
theorem deserialize_entries (v : AuthorizeResponseVariant C) :
    ∃ v', AuthorizeResponseVariant.deserialize W (AuthorizeResponseVariant.serialize W v)
        = some v'
      ∧ AuthorizeResponseVariant.version v' = AuthorizeResponseVariant.version v
      ∧ AuthorizeResponseVariant.entries v' = AuthorizeResponseVariant.entries v := by
  cases v with
  | brief response =>
      have hbrief := AuthorizeResponse.roundTrip W (AuthorizeDecisionBrief.roundTrip W) response
      refine ⟨.brief response, untagged_first ?_, rfl, rfl⟩
      rw [AuthorizeResponseVariant.serialize, hbrief]
      rfl
  | detailed response =>
      have hdetailed :=
        AuthorizeResponse.roundTrip W (AuthorizeDecisionDetailed.roundTrip W) response
      -- the brief reading comes first, and fails exactly if there is a success
      have hbrief := AuthorizeResponse.deserialize_detailed W response
      rw [AuthorizeResponseVariant.deserialize, AuthorizeResponseVariant.serialize]
      by_cases hsuccess : (response.results.any fun entry => entry.result.isSuccess) = true
      · rw [if_pos hsuccess] at hbrief
        rw [untagged_skip (by rw [hbrief]; rfl), untagged_first (by rw [hdetailed]; rfl)]
        exact ⟨.detailed response, rfl, rfl, rfl⟩
      · rw [if_neg hsuccess] at hbrief
        rw [untagged_first (by rw [hbrief]; rfl)]
        refine ⟨_, rfl, rfl, ?_⟩
        rw [AuthorizeResponseVariant.entries, AuthorizeResponseVariant.entries, entriesOf,
          entriesOf, List.map_map]
        refine List.map_congr_left fun r hr => ?_
        obtain ⟨index, id, result⟩ := r
        cases result with
        | success data => exact absurd (List.any_eq_true.mpr ⟨_, hr, rfl⟩) hsuccess
        | failed message => rfl

/-! ## Decisions -/

/-- What a request comes to, for a session and the settings around it. -/
def decided (session : C.Session) (runtime : AuthorizeRuntimeConfig)
    (strictSchema schemaLoaded : Bool) (r : AuthRequest C) : Except String DecisionBrief :=
  verdict (fun decision => if C.isAllowed decision then .allow else .deny)
    (outcome session runtime strictSchema schemaLoaded r)

/-- The entries of a batch, with the rendering of its decisions. -/
theorem entries_mapIdx {T : Type} {decision : T → DecisionBrief} {mapFn : C.Decision → T}
    (hmapFn : ∀ d, decision (mapFn d) = if C.isAllowed d then .allow else .deny)
    (session : C.Session) (runtime : AuthorizeRuntimeConfig) (strictSchema schemaLoaded : Bool)
    (requests : List (AuthRequest C)) :
    (requests.mapIdx (evalOne session runtime strictSchema schemaLoaded mapFn)).map
        (fun r => (r.index, r.id, verdict decision r.result))
      = requests.mapIdx fun i r =>
          (i, r.id, decided session runtime strictSchema schemaLoaded r) := by
  refine (List.mapIdx_eq_iff.mpr fun i => ?_).symm
  rw [List.getElem?_map, List.getElem?_mapIdx, Option.map_map]
  refine congrArg (fun f => requests[i]?.map f) (funext fun r => ?_)
  show (_, _, verdict decision _) = _
  rw [evalOne_eq, decided]
  cases outcome session runtime strictSchema schemaLoaded r with
  | success d =>
      show (i, r.id, Except.ok (decision (mapFn d))) = _
      rw [hmapFn]
      rfl
  | failed message => rfl

/-- What a server comes to with the store as it finds it. -/
def serverDecision (l : Launched X N) (shared : SharedStore X) (stamp : Stamp) :
    AuthRequest C → Except String DecisionBrief :=
  decided (C.session shared.value.engine stamp) l.authorizeRuntime
    (shared.value.schemaValidationMode = .strict) (schemaLoaded shared.value)

/-- A batch that is not too large is answered with the entries of its requests. -/
theorem authorize_entries (l : Launched X N) {shared : SharedStore X}
    (hlock : shared.poisoned = false) (stamp : Stamp) (detail : Option String)
    {requests : List (AuthRequest C)} (hsize : requests.length ≤ l.authorizeRuntime.maxBatchSize)
    (schedule : ParallelMap.Schedule requests.length) :
    ∃ v, (authorizeHandler l shared stamp detail requests schedule).2 = .ok v
      ∧ AuthorizeResponseVariant.version v
        = C.sessionVersion (C.session shared.value.engine stamp)
      ∧ AuthorizeResponseVariant.entries v
        = requests.mapIdx fun i r => (i, r.id, serverDecision l shared stamp r) := by
  have hread : readStore shared = .ok shared.value := by
    rw [readStore, if_neg (by rw [hlock]; exact Bool.false_ne_true)]
  have hfits : ¬ requests.length > l.authorizeRuntime.maxBatchSize := Nat.not_lt.mpr hsize
  have hanswer : (authorizeHandler l shared stamp detail requests schedule).2
      = authorize C stamp shared.value l.parallel.toParallelConfig (some l.authorizeRuntime) detail
        requests schedule := by
    rw [authorizeHandler, if_neg hfits, hread]
    rfl
  rw [hanswer, authorize]
  dsimp only [Option.getD_some]
  rw [if_neg hfits]
  cases DetailLevel.fromQuery detail with
  | full =>
      dsimp only
      rw [evaluateBatchRequests_eq]
      exact ⟨_, rfl, rfl, entries_mapIdx (fun _ => rfl) _ _ _ _ _⟩
  | brief =>
      dsimp only
      rw [evaluateBatchRequests_eq]
      exact ⟨_, rfl, rfl, entries_mapIdx (fun _ => rfl) _ _ _ _ _⟩

/-- If the order of the contexts does not show in the decisions, it does not
    show in the entries. -/
theorem entries_reordered {l : Launched X N} {shared : SharedStore X} {stamp : Stamp}
    {requests : List (AuthRequest C)}
    (hsame : ∀ r ∈ requests,
      serverDecision l shared stamp (reordered order r) = serverDecision l shared stamp r) :
    ((requests.map (reordered order)).mapIdx fun i r => (i, r.id, serverDecision l shared stamp r))
      = requests.mapIdx fun i r => (i, r.id, serverDecision l shared stamp r) := by
  refine List.ext_getElem? fun i => ?_
  rw [List.getElem?_mapIdx, List.getElem?_mapIdx, List.getElem?_map]
  cases hr : requests[i]? with
  | none => rfl
  | some r =>
      show some (i, r.id, serverDecision l shared stamp (reordered order r)) = some _
      rw [hsame r (List.mem_of_getElem? hr)]

/-- The first entry of an id is that of the first request with it. -/
theorem find?_entries {E : Type} (f : AuthRequest C → E) (requests : List (AuthRequest C))
    (id : String) :
    ((requests.mapIdx fun i r => (i, r.id, f r)).find? fun e => e.2.1 = some id).map (·.2.2)
      = (requests.find? fun r => r.id = some id).map f := by
  have hentries : (requests.mapIdx fun i r => (i, r.id, f r)).map Prod.snd
      = requests.map fun r => (r.id, f r) := by
    refine List.ext_getElem? fun i => ?_
    rw [List.getElem?_map, List.getElem?_mapIdx, List.getElem?_map, Option.map_map]
    rfl
  have hfind := congrArg (fun entries : List (Option String × E) =>
    (entries.find? fun e => e.1 = some id).map Prod.snd) hentries
  rw [List.find?_map, List.find?_map, Option.map_map, Option.map_map] at hfind
  exact hfind

/-- The exchange of a batch that is not too large. -/
theorem exchange_answers (l : Launched X N) {shared : SharedStore X}
    (hlock : shared.poisoned = false) (stamp : Stamp) (detail : Option String)
    (schedule : ∀ n, ParallelMap.Schedule n) {batch : AuthorizeRequest C}
    (hmaps : ∀ r ∈ batch.requests, ContextIsMap r)
    (hsame : ∀ r ∈ batch.requests,
      serverDecision l shared stamp (reordered order r) = serverDecision l shared stamp r)
    (hsize : batch.requests.length ≤ l.authorizeRuntime.maxBatchSize) :
    ∃ v, exchange R order W l shared stamp detail schedule batch = some (.ok v)
      ∧ AuthorizeResponseVariant.version v
        = C.sessionVersion (C.session shared.value.engine stamp)
      ∧ AuthorizeResponseVariant.entries v
        = batch.requests.mapIdx fun i r => (i, r.id, serverDecision l shared stamp r) := by
  have hlength : (batch.requests.map (reordered order)).length
      ≤ l.authorizeRuntime.maxBatchSize := by
    rw [List.length_map]
    exact hsize
  obtain ⟨sent, hanswer, hversion, hentries⟩ :=
    authorize_entries l hlock stamp detail hlength (schedule _)
  obtain ⟨v, hread, hsameVersion, hsameEntries⟩ := deserialize_entries W sent
  -- what was sent and what is read may differ in their variant, but not in their entries
  refine ⟨v, ?_, hsameVersion.trans hversion, ?_⟩
  · rw [exchange, AuthorizeRequest.deserialize_serialize R hmaps]
    simp only [Option.bind_eq_bind, Option.bind_some]
    rw [hanswer]
    simp only [hread]
    rfl
  · rw [hsameEntries, hentries, entries_reordered hsame]

/-- **DELIVERED**: a client gets for its batch what the engine in force decides
    on each request it sent, in the order of the batch and under the engine's
    version, whatever the detail and whatever the threads make of it; it finds
    a decision under its position, and under an id that on its first request
    with that id.  The batch is within the limits of the server: not too many
    requests, and a text that `--max-request-size` and serde_json's nesting
    limit let through. -/
theorem decisions_delivered (hC : ContextLaws C)
    (horder : ∀ context, (order context).Perm context) (l : Launched X N)
    {shared : SharedStore X} (hlock : shared.poisoned = false) (stamp : Stamp)
    (detail : Option String) (schedule : ∀ n, ParallelMap.Schedule n) {batch : AuthorizeRequest C}
    (hmaps : ∀ r ∈ batch.requests, ContextIsMap r)
    (hsize : batch.requests.length ≤ l.authorizeRuntime.maxBatchSize) :
    ∃ v, exchange R order W l shared stamp detail schedule batch = some (.ok v)
      ∧ AuthorizeResponseVariant.version v
        = C.sessionVersion (C.session shared.value.engine stamp)
      ∧ (AuthorizeResponseVariant.entries v
        = batch.requests.mapIdx fun i r => (i, r.id, serverDecision l shared stamp r))
      ∧ (∀ i, AuthorizeResponseVariant.decisionAt v i
        = batch.requests[i]?.map (serverDecision l shared stamp))
      ∧ ∀ id, AuthorizeResponseVariant.decisionFor v id
        = (batch.requests.find? fun r => r.id = some id).map (serverDecision l shared stamp) := by
  have hsame : ∀ r ∈ batch.requests,
      serverDecision l shared stamp (reordered order r) = serverDecision l shared stamp r := by
    intro r hr
    rw [serverDecision, decided, outcome_reordered hC horder (hmaps r hr)]
    rfl
  obtain ⟨v, hanswer, hversion, hentries⟩ :=
    exchange_answers R W l hlock stamp detail schedule hmaps hsame hsize
  refine ⟨v, hanswer, hversion, hentries, ?_, ?_⟩
  · intro i
    rw [decisionAt_eq, hentries, List.getElem?_mapIdx, Option.map_map]
    rfl
  · intro id
    rw [decisionFor_eq, hentries, find?_entries]

/-- Without contexts there is nothing to reorder. -/
theorem exchange_contextless (l : Launched X N) {shared : SharedStore X}
    (hlock : shared.poisoned = false) (stamp : Stamp) (detail : Option String)
    (schedule : ∀ n, ParallelMap.Schedule n) {batch : AuthorizeRequest C}
    (hnone : ∀ r ∈ batch.requests, r.context = none)
    (hsize : batch.requests.length ≤ l.authorizeRuntime.maxBatchSize) :
    ∃ v, exchange R order W l shared stamp detail schedule batch = some (.ok v)
      ∧ AuthorizeResponseVariant.entries v
        = batch.requests.mapIdx fun i r => (i, r.id, serverDecision l shared stamp r) := by
  have hmaps : ∀ r ∈ batch.requests, ContextIsMap r := by
    intro r hr context hcontext
    rw [hnone r hr] at hcontext
    cases hcontext
  have hsame : ∀ r ∈ batch.requests,
      serverDecision l shared stamp (reordered order r) = serverDecision l shared stamp r := by
    intro r hr
    have hself : reordered order r = r := by
      obtain ⟨id, context, request⟩ := r
      have hcontext : context = none := hnone _ hr
      rw [reordered, hcontext]
      rfl
    rw [hself]
  obtain ⟨v, hanswer, _, hentries⟩ :=
    exchange_answers R W l hlock stamp detail schedule hmaps hsame hsize
  exact ⟨v, hanswer, hentries⟩

/-- **IDS**: a client that adds its requests one by one, each under an id, finds
    under each id the decision on the first request it added under it; and if
    it adds them without ids, it finds each decision at the request's position. -/
theorem ids_answered (l : Launched X N) {shared : SharedStore X}
    (hlock : shared.poisoned = false) (stamp : Stamp) (detail : Option String)
    (schedule : ∀ n, ParallelMap.Schedule n) (requests : List (String × C.Request))
    (hsize : requests.length ≤ l.authorizeRuntime.maxBatchSize) :
    (∃ v, exchange R order W l shared stamp detail schedule
        (requests.foldl (fun batch entry => batch.addWithId entry.1 entry.2) AuthorizeRequest.new)
          = some (.ok v)
      ∧ ∀ id, AuthorizeResponseVariant.decisionFor v id
        = (requests.lookup id).map fun request =>
          serverDecision l shared stamp (AuthRequest.withId id request))
    ∧ ∃ v, exchange R order W l shared stamp detail schedule
        ((requests.map Prod.snd).foldl AuthorizeRequest.addRequest AuthorizeRequest.new)
          = some (.ok v)
      ∧ ∀ i, AuthorizeResponseVariant.decisionAt v i
        = (requests.map Prod.snd)[i]?.map fun request =>
          serverDecision l shared stamp (AuthRequest.new request) := by
  constructor
  · have hnone : ∀ r ∈ (AuthorizeRequest.withIds requests).requests, r.context = none := by
      intro r hr
      obtain ⟨entry, _, rfl⟩ := List.mem_map.mp hr
      rfl
    have hlength : (AuthorizeRequest.withIds requests).requests.length
        ≤ l.authorizeRuntime.maxBatchSize := by
      rw [AuthorizeRequest.withIds, List.length_map]
      exact hsize
    obtain ⟨v, hanswer, hentries⟩ :=
      exchange_contextless R W l hlock stamp detail schedule hnone hlength
    refine ⟨v, ?_, ?_⟩
    · rw [built_withIds]
      exact hanswer
    · intro id
      rw [decisionFor_eq, hentries, find?_entries, find?_withIds]
  · have hnone : ∀ r ∈ (AuthorizeRequest.fromRequests (requests.map Prod.snd)).requests,
        r.context = none := by
      intro r hr
      obtain ⟨request, _, rfl⟩ := List.mem_map.mp hr
      rfl
    have hlength : (AuthorizeRequest.fromRequests (requests.map Prod.snd)).requests.length
        ≤ l.authorizeRuntime.maxBatchSize := by
      rw [AuthorizeRequest.fromRequests, List.length_map, List.length_map]
      exact hsize
    obtain ⟨v, hanswer, hentries⟩ :=
      exchange_contextless R W l hlock stamp detail schedule hnone hlength
    refine ⟨v, ?_, ?_⟩
    · rw [built_fromRequests]
      exact hanswer
    · intro i
      rw [decisionAt_eq, hentries, List.getElem?_mapIdx, Option.map_map,
        AuthorizeRequest.fromRequests, List.getElem?_map, Option.map_map]
      rfl

/-! ## A batch of two -/

open TreetopSample TreetopLaunch

mutual

/-- A text is a string, and a set an array. -/
def writeValue : AttrValue String → Json
  | .atom value => .str value
  | .set values => .arr (writeValues values)

def writeValues : List (AttrValue String) → List Json
  | [] => []
  | value :: values => writeValue value :: writeValues values

end

mutual

def readValue : Json → Option (AttrValue String)
  | .str value => some (.atom value)
  | .arr values => (readValues values).map .set
  | _ => none

def readValues : List Json → Option (List (AttrValue String))
  | [] => some []
  | value :: values => do return (← readValue value) :: (← readValues values)

end

mutual

theorem readValue_writeValue : ∀ value, readValue (writeValue value) = some value
  | .atom value => rfl
  | .set values => by
      rw [writeValue, readValue, readValues_writeValues values]
      rfl

theorem readValues_writeValues : ∀ values, readValues (writeValues values) = some values
  | [] => rfl
  | value :: values => by
      rw [writeValues, readValues, readValue_writeValue value, readValues_writeValues values]
      rfl

end

def smallRequests : RequestWire smallEval where
  attrValue := ⟨writeValue, readValue, readValue_writeValue⟩
  request user := [("principal", .str user)]
  readRequest entries := (entries.find? fun e => e.1 = "principal").bind fun e => string e.2
  read_write _ := rfl
  names _ e he := by
    rw [List.mem_singleton.mp he]
    have hprincipal : "principal" ≠ "id" ∧ "principal" ≠ "context" := by decide
    exact hprincipal

theorem contextLaws_small : ContextLaws smallEval where
  evaluate _ _ _ _ _ _ := rfl
  toVec context context' h _ := by
    have hbytes := (h.flatMap_right
      fun entry : String × AttrValue String => Text.asBytes entry.1.toList).length_eq
    exact congrArg Except.ok hbytes

/-- One request under an id and with a context, and one on its own. -/
def smallBatch : AuthorizeRequest smallEval :=
  ⟨[AuthRequest.withContext (AuthRequest.withId "view" "alice")
      [("mfa", .atom "yes"), ("tags", .set [.atom "travel"])],
    AuthRequest.new "bob"]⟩

theorem contextIsMap_small : ∀ r ∈ smallBatch.requests, ContextIsMap r := by
  intro r hr
  rcases List.mem_pair.mp hr with rfl | rfl
  · refine (contextIsMap_withId (C := smallEval) "view" "alice").withContext ?_
    decide
  · exact contextIsMap_new (C := smallEval) "bob"

/-- The server that has loaded nothing. -/
def emptyShared : SharedStore small := ⟨bundleServer.store, false⟩

/-- The server reads the context backwards. -/
theorem decisions_delivered_small :
    ∃ v, exchange smallRequests List.reverse smallWire bundleServer emptyShared ⟨1, 0⟩
        (some "full") (fun n => .single n) smallBatch = some (.ok v)
      ∧ AuthorizeResponseVariant.version v = versionOf bundleServer.store.engine ⟨1, 0⟩
      ∧ (AuthorizeResponseVariant.entries v
        = smallBatch.requests.mapIdx fun i r =>
          (i, r.id, serverDecision bundleServer emptyShared ⟨1, 0⟩ r))
      ∧ (∀ i, AuthorizeResponseVariant.decisionAt v i
        = smallBatch.requests[i]?.map (serverDecision bundleServer emptyShared ⟨1, 0⟩))
      ∧ ∀ id, AuthorizeResponseVariant.decisionFor v id
        = (smallBatch.requests.find? fun r => r.id = some id).map
          (serverDecision bundleServer emptyShared ⟨1, 0⟩) :=
  decisions_delivered smallRequests smallWire contextLaws_small List.reverse_perm bundleServer rfl
    ⟨1, 0⟩ (some "full") (fun n => .single n) contextIsMap_small (by decide)

/-- Two of the requests have one id. -/
def namedRequests : List (String × smallEval.Request) :=
  [("view", "alice"), ("edit", "bob"), ("view", "carol")]

/-- The client finds the first of the two. -/
theorem ids_answered_small :
    (∃ v, exchange smallRequests List.reverse smallWire bundleServer emptyShared ⟨1, 0⟩ none
        (fun n => .single n)
        (namedRequests.foldl (fun batch entry => batch.addWithId entry.1 entry.2)
          AuthorizeRequest.new) = some (.ok v)
      ∧ ∀ id, AuthorizeResponseVariant.decisionFor v id
        = (namedRequests.lookup id).map fun request =>
          serverDecision bundleServer emptyShared ⟨1, 0⟩ (AuthRequest.withId id request))
    ∧ ∃ v, exchange smallRequests List.reverse smallWire bundleServer emptyShared ⟨1, 0⟩ none
        (fun n => .single n)
        ((namedRequests.map Prod.snd).foldl AuthorizeRequest.addRequest AuthorizeRequest.new)
          = some (.ok v)
      ∧ ∀ i, AuthorizeResponseVariant.decisionAt v i
        = (namedRequests.map Prod.snd)[i]?.map fun request =>
          serverDecision bundleServer emptyShared ⟨1, 0⟩ (AuthRequest.new request) :=
  ids_answered smallRequests smallWire bundleServer rfl ⟨1, 0⟩ none (fun n => .single n)
    namedRequests (by decide)

end TreetopRequestWire
