import TreetopRest.OpenApiModel
import TreetopRest.AdmissionProofs
import TreetopRest.ListingProofs
import TreetopRest.StatusProofs

/-! # Every answer is documented

    Admission control rejects with a 401 or a 403 and only on the paths whose
    operations `modify` gives both responses, and whatever an attribute
    documents stays documented.  So every status that admission control, the
    body extractors' limit or a handler gives, at any moment of any run, is in
    the document under the route it has taken, but for FOUR answers that no
    attribute mentions (`responses_documented`). -/

namespace TreetopOpenApi

open FallibleState
open TreetopErrors TreetopCrates TreetopStore TreetopFetcher TreetopUpload TreetopHandlers
open TreetopAdmission TreetopConfig TreetopServer TreetopRoutes TreetopStatuses
open TreetopUploadSafety (Phase)

variable {X : Crates} {N : NetCrate} {C : EvalCrate X} {ι : Type} {W : WebCrate}

/-! ## The modified document -/

theorem lookup_orInsert {β : Type} {entries : List (String × β)} {key : String} {value : β}
    {key' : String} (h : (entries.lookup key').isSome = true) :
    ((orInsert entries key value).lookup key').isSome = true := by
  rw [orInsert]
  split
  · exact h
  · rw [List.lookup_append]
    simp [h]

theorem lookup_orInsert_self {β : Type} (entries : List (String × β)) (key : String) (value : β) :
    ((orInsert entries key value).lookup key).isSome = true := by
  rw [orInsert]
  split
  · assumption
  · rw [List.lookup_append]
    simp

/-- A response that is documented stays so. -/
theorem admissionOperation_documents {operation : Operation} {status : Nat}
    (h : operation.documents status) : (admissionOperation operation).documents status :=
  lookup_orInsert (lookup_orInsert h)

/-- Both rejections are documented. -/
theorem admissionOperation_rejections (operation : Operation) {status : Nat}
    (h : status = 401 ∨ status = 403) : (admissionOperation operation).documents status := by
  rcases h with rfl | rfl
  · exact lookup_orInsert (lookup_orInsert_self _ _ _)
  · exact lookup_orInsert_self _ _ _

theorem operation_mapOperations (f : Operation → Operation) (item : PathItem) (method : Method) :
    (item.mapOperations f).operation method = (item.operation method).map f := by
  cases method <;> rfl

/-- What `modify` makes of an operation. -/
theorem modify_operation (openapi : OpenApi) (path : String) (method : Method) :
    (modify openapi).operation path method
      = (openapi.operation path method).map
          (if isProtectedPath path then admissionOperation else id) := by
  rw [OpenApi.operation, OpenApi.operation, modify]
  dsimp only
  induction openapi.paths with
  | nil => rfl
  | cons entry paths ih =>
      obtain ⟨path', item⟩ := entry
      rw [List.map_cons, List.lookup_cons, List.lookup_cons]
      by_cases hpath : path = path'
      · subst hpath
        rw [beq_self_eq_true]
        dsimp only [Option.bind_some]
        by_cases hprotected : isProtectedPath path = true
        · rw [if_pos hprotected, if_pos hprotected, operation_mapOperations]
        · rw [if_neg hprotected, if_neg hprotected, Option.map_id]
          rfl
      · rw [beq_false_of_ne hpath]
        exact ih

/-! ## Routes and attributes -/

/-- Every route has an attribute, under its own path and method. -/
theorem attribute_of_route : ∀ route ∈ init, ∃ a ∈ apiDoc,
    a.handler = route.handler ∧ a.path = route.pattern ∧ a.method = route.method := by
  decide +kernel

/-- No two attributes are of one handler. -/
theorem attribute_unique : ∀ a ∈ apiDoc, ∀ b ∈ apiDoc, a.handler = b.handler → a = b := by
  decide +kernel

/-- Patterns are protected as the paths they match are. -/
theorem isProtectedPath_pattern : ∀ route ∈ init,
    (ApiRoute route ↔ isProtectedPath route.pattern = true) := by
  decide +kernel

/-- The two checks reject with a 401 or a 403. -/
def Rejects (rejection : Rejection) : Prop := rejection.status = 401 ∨ rejection.status = 403

theorem checkClient_raises (config : AdmissionConfig N) (req : ServiceRequest) :
    Raises Rejects (checkClient config req) := by
  rw [checkClient]
  split
  · split
    · split
      · exact raises_ok _
      · exact raises_error (Or.inr rfl)
    · exact raises_error (Or.inr rfl)
    · exact raises_error (Or.inr rfl)
  · exact raises_ok _

theorem checkToken_raises (X : Crates) (config : AdmissionConfig N)
    (headers : TreetopRequest.HeaderMap) : Raises Rejects (checkToken X config headers) := by
  rw [checkToken]
  split
  · exact raises_ok _
  · split
    · split
      · exact raises_ok _
      · exact raises_error (Or.inl rfl)
    · exact raises_error (Or.inl rfl)
    · exact raises_error (Or.inl rfl)

/-- Admission control passes a request on, or answers with a 401 or a 403 on a
    protected path. -/
theorem call_cases {ρ : Type} (config : AdmissionConfig N) (service : ServiceRequest → ρ)
    (req : ServiceRequest) :
    (∃ req', call X config service req = .inl (service req'))
      ∨ ∃ rejection, call X config service req = .inr rejection
        ∧ isProtectedPath req.path = true
        ∧ (rejection.status = 401 ∨ rejection.status = 403) := by
  rw [call]
  by_cases hpath : (!isProtectedPath req.path) = true
  · rw [if_pos hpath]
    exact Or.inl ⟨req, rfl⟩
  · rw [if_neg hpath]
    have hprotected : isProtectedPath req.path = true := by
      simpa using hpath
    cases hcheck : checkClient config req with
    | error rejection =>
        exact Or.inr ⟨rejection, rfl, hprotected, checkClient_raises config req rejection hcheck⟩
    | ok req' =>
        dsimp only
        cases hcheck' : checkToken X config req'.headers with
        | error rejection =>
            exact Or.inr ⟨rejection, rfl, hprotected,
              checkToken_raises X config req'.headers rejection hcheck'⟩
        | ok u => exact Or.inl ⟨req', rfl⟩

/-! ## Answers -/

/-- The status is documented for the operation of the route. -/
def Documented (openapi : OpenApi) (route : Route) (status : Nat) : Prop :=
  ∃ operation, (modify openapi).operation route.pattern route.method = some operation
    ∧ operation.operationId = some route.handler ∧ operation.documents status

/-- What an attribute documents is in the document. -/
theorem documented_of_attribute {openapi : OpenApi} (hgen : Generated openapi) {route : Route}
    (hroute : route ∈ init) {a : PathAttribute} (ha : a ∈ apiDoc)
    (hhandler : a.handler = route.handler) {status : Nat} (hstatus : status ∈ a.statuses) :
    Documented openapi route status := by
  obtain ⟨b, hb, hbhandler, hpath, hmethod⟩ := attribute_of_route route hroute
  obtain rfl : b = a := attribute_unique b hb a ha (hbhandler.trans hhandler.symm)
  obtain ⟨operation, hop, hid, hstatuses⟩ := hgen b hb
  rw [hpath, hmethod] at hop
  rw [Documented, modify_operation, hop]
  by_cases hprotected : isProtectedPath route.pattern = true
  · rw [if_pos hprotected]
    exact ⟨_, rfl, hid.trans (congrArg some hhandler),
      admissionOperation_documents (hstatuses status hstatus)⟩
  · rw [if_neg hprotected]
    exact ⟨_, rfl, hid.trans (congrArg some hhandler), hstatuses status hstatus⟩

/-- The rejections are in the document where they can happen. -/
theorem documented_rejection {openapi : OpenApi} (hgen : Generated openapi) {route : Route}
    (hroute : route ∈ init) (hprotected : isProtectedPath route.pattern = true) {status : Nat}
    (hstatus : status = 401 ∨ status = 403) : Documented openapi route status := by
  obtain ⟨a, ha, hhandler, hpath, hmethod⟩ := attribute_of_route route hroute
  obtain ⟨operation, hop, hid, _⟩ := hgen a ha
  rw [hpath, hmethod] at hop
  rw [Documented, modify_operation, hop, if_pos hprotected]
  exact ⟨_, rfl, hid.trans (congrArg some hhandler),
    admissionOperation_rejections operation hstatus⟩

/-- The answers that no attribute mentions: a buffered body above the request
    limit, the version with the lock poisoned, metrics that cannot be encoded,
    and a schema with labels in force that the crates refuse for their size. -/
inductive Undocumented (uploads : ι → Upload) (l : Launched X N) (shared : SharedStore X)
    (bodySize : Nat) : Request C ι → Nat → Prop where
  | body (r : Request C ι) :
      r.isBuffered uploads = true → l.bundleRuntime.maxRequestBytes < bodySize →
      Undocumented uploads l shared bodySize r 413
  | version (stamp : Stamp) (crateVersion : String) :
      shared.poisoned = true →
      Undocumented uploads l shared bodySize (.version stamp crateVersion) 500
  | metrics (headers : TreetopRequest.HeaderMap) (text protobuf : Except String (List UInt8)) :
      (text.isOk && protobuf.isOk) = false →
      Undocumented uploads l shared bodySize (.metrics headers text protobuf) 500
  | labels (i : ι) :
      uploadHandler (uploads i) = "upload_schema" → LabelsTooLarge X →
      Undocumented uploads l shared bodySize (.upload i) 413

/-- The status is in the attribute of the handler. -/
def InAttribute (handler : String) (status : Nat) : Prop :=
  ∃ a ∈ apiDoc, a.handler = handler ∧ status ∈ a.statuses

instance (handler : String) (status : Nat) : Decidable (InAttribute handler status) :=
  inferInstanceAs (Decidable (∃ a ∈ apiDoc, _))

/-- The three handlers that read documents, and `authorize` and `list_policies`. -/
theorem inAttribute_reading {handler : String}
    (h : handler ∈ ["authorize", "get_policies", "get_schema", "list_policies", "get_status"])
    {status : Nat} (hstatus : status ∈ [200, 400, 500]) : InAttribute handler status := by
  have hall : ∀ handler ∈ ["authorize", "get_policies", "get_schema", "list_policies",
      "get_status"], ∀ status ∈ [200, 400, 500], InAttribute handler status := by
    decide +kernel
  exact hall handler h status hstatus

/-- An upload's own errors. -/
theorem inAttribute_upload {u : Upload} {status : Nat} (h : status ∈ 200 :: uploadStatuses u) :
    InAttribute (uploadHandler u) status := by
  have hindependent : ∀ status ∈ [200, 400, 403, 409, 500],
      InAttribute "upload_policies" status ∧ InAttribute "upload_schema" status := by
    decide +kernel
  have hbundle : ∀ status ∈ [200, 400, 403, 413, 415, 500],
      InAttribute "upload_bundle" status := by
    decide +kernel
  cases u with
  | policies headers body => exact (hindependent status h).1
  | schema headers body => exact (hindependent status h).2
  | bundle headers payload clock taskFailure => exact hbundle status h

/-- Every status of a handler is in its attribute, or is one of the four. -/
theorem status_documented {uploads : ι → Upload} {l : Launched X N} {srv : Server X ι}
    (hphase : ∀ i, PhaseOk (uploads i) (srv.service.phase i)) (bodySize : Nat)
    (r : Request C ι) {status : Nat} (h : r.status W l srv = some status) :
    InAttribute (r.handler uploads) status
      ∨ Undocumented uploads l srv.shared bodySize r status := by
  cases r with
  | livez =>
      obtain rfl := Option.some.inj h
      exact Or.inl (show InAttribute "livez" livez.status by decide +kernel)
  | readyz busy =>
      obtain rfl := Option.some.inj h
      have hboth : InAttribute "readyz" (probeResponse true).status
          ∧ InAttribute "readyz" (probeResponse false).status := by
        decide +kernel
      refine Or.inl ?_
      show InAttribute "readyz" (probeResponse _).status
      cases Option.getD _ false with
      | true => exact hboth.1
      | false => exact hboth.2
  | openapiJson =>
      obtain rfl := Option.some.inj h
      exact Or.inl (show InAttribute "openapi_json" 200 by decide +kernel)
  | getStatus =>
      obtain rfl := Option.some.inj h
      have hraises := (readStore_raises srv.shared).bind fun s =>
        raises_ok (S := Within [400, 500]) (⟨s.metadata, l.parallel, l.authorizeRuntime,
          s.requestContextStatus⟩ : StatusResponse)
      exact Or.inl (inAttribute_reading (by simp [Request.handler]) (statusOf_mem hraises))
  | version stamp crateVersion =>
      obtain rfl := Option.some.inj h
      cases hpoison : srv.shared.poisoned with
      | true =>
          rw [readStore, if_pos hpoison]
          exact Or.inr (.version stamp crateVersion hpoison)
      | false =>
          rw [readStore, if_neg (by rw [hpoison]; exact Bool.false_ne_true)]
          exact Or.inl (show InAttribute "version" 200 by decide +kernel)
  | authorize stamp detail requests schedule =>
      obtain rfl := Option.some.inj h
      exact Or.inl (inAttribute_reading (by simp [Request.handler])
        (statusOf_mem (authorizeHandler_raises l srv.shared stamp detail requests schedule)))
  | getPolicies format =>
      obtain rfl := Option.some.inj h
      have hraises : Raises (Within [400, 500]) (TreetopRoutes.getPolicies format srv.shared) := by
        refine (readStore_raises srv.shared).bind fun s => ?_
        split <;> exact raises_ok _
      exact Or.inl (inAttribute_reading (by simp [Request.handler]) (statusOf_mem hraises))
  | getSchema format =>
      obtain rfl := Option.some.inj h
      have hraises : Raises (Within [400, 500]) (TreetopRoutes.getSchema format srv.shared) := by
        refine (readStore_raises srv.shared).bind fun s => ?_
        split <;> exact raises_ok _
      exact Or.inl (inAttribute_reading (by simp [Request.handler]) (statusOf_mem hraises))
  | upload i =>
      have hi := hphase i
      rw [Request.status] at h
      cases hanswer : srv.service.phase i with
      | received => rw [hanswer] at h; cases h
      | checked captured => rw [hanswer] at h; cases h
      | prepared c => rw [hanswer] at h; cases h
      | answered answer =>
          rw [hanswer] at h hi
          obtain rfl := Option.some.inj h
          cases answer with
          | ok response => exact Or.inl (inAttribute_upload (.head _))
          | error e =>
              -- only the label crate's limits are not in the attribute
              rcases hi e rfl with hwithin | ⟨hschema, hstatus, hlabels⟩
              · exact Or.inl (inAttribute_upload (.tail _ hwithin))
              · show _ ∨ Undocumented uploads l srv.shared bodySize (.upload i) e.statusCode
                rw [hstatus]
                exact Or.inr (.labels i hschema hlabels)
  | listPolicies user query =>
      obtain rfl := Option.some.inj h
      exact Or.inl (inAttribute_reading (by simp [Request.handler])
        (statusOf_mem (listPolicies_raises user query srv.shared)))
  | metrics headers text protobuf =>
      obtain rfl := Option.some.inj h
      rw [TreetopRoutes.metrics]
      have hok : InAttribute "metrics" 200 := by
        decide +kernel
      split
      · cases protobuf with
        | ok body => exact Or.inl hok
        | error e => exact Or.inr (.metrics headers text (.error e) (Bool.and_false _))
      · cases text with
        | ok body => exact Or.inl hok
        | error e => exact Or.inr (.metrics headers (.error e) protobuf rfl)

/-- **DOCUMENTED**: at every moment of every run, whatever admission control,
    the limit on bodies or a handler answers a request with, by whatever route
    its path has taken, is a response of that route's operation in the
    document, but for the four answers that no attribute mentions. -/
theorem responses_documented [DecidableEq ι] {openapi : OpenApi} (hgen : Generated openapi)
    {pathMatches : String → String → Bool} (hroutes : RouteLaws pathMatches)
    (uploads : ι → Upload) (l : Launched X N) (events : List (Event X ι)) {route : Route}
    (hroute : route ∈ init) (r : Request C ι) (hr : r.handler uploads = route.handler)
    (req : ServiceRequest) (bodySize : Nat)
    (hmatch : pathMatches route.pattern req.path = true) {status : Nat}
    (h : r.answered W uploads l (running uploads l events) req bodySize = some status) :
    Documented openapi route status
      ∨ Undocumented uploads l (running uploads l events).shared bodySize r status := by
  have hhandler : ∀ {status : Nat},
      r.extracted W uploads l (running uploads l events) bodySize = some status →
      Documented openapi route status
        ∨ Undocumented uploads l (running uploads l events).shared bodySize r status := by
    intro status h
    rw [Request.extracted] at h
    split at h
    · rename_i hlarge
      rw [Bool.and_eq_true, decide_eq_true_iff] at hlarge
      obtain rfl := Option.some.inj h
      exact Or.inr (.body r hlarge.1 hlarge.2)
    · rcases status_documented (run_phaseOk uploads l events) bodySize r h with
        ⟨a, ha, hha, hstatus⟩ | hno
      · exact Or.inl (documented_of_attribute hgen hroute ha (hha.trans hr) hstatus)
      · exact Or.inr hno
  rw [Request.answered] at h
  split at h
  -- the routes that admission control sees, and the ones outside of it
  · rcases call_cases (X := X) l.admission
      (fun _ => r.extracted W uploads l (running uploads l events) bodySize) req with
      ⟨_, hcall⟩ | ⟨rejection, hcall, hprotected, hstatus⟩
    · rw [hcall] at h
      exact hhandler h
    · rw [hcall] at h
      obtain rfl := Option.some.inj h
      have hpattern : isProtectedPath route.pattern = true :=
        (isProtectedPath_pattern route hroute).mp
          ((isProtectedPath_of_route hroutes hroute hmatch).mp hprotected)
      exact Or.inl (documented_rejection hgen hroute hpattern hstatus)
  · exact hhandler h

/-! ## A small document -/

open TreetopSample TreetopLaunch TreetopOrigins TreetopUploadSafety
open TreetopListings (smallWeb)

/-- The operation of an attribute, without texts. -/
def bareOperation (a : PathAttribute) : Operation where
  operationId := some a.handler
  responses := a.statuses.map fun status => (toString status, ⟨"", [], []⟩)
  security := none

/-- The document of the attributes. -/
def bareDocument : OpenApi where
  securitySchemes := []
  paths := (apiDoc.map PathAttribute.path).dedup.map fun path =>
    let at_ := fun method =>
      (apiDoc.find? fun a => a.path == path && a.method = method).map bareOperation
    (path, ⟨at_ .get, none, at_ .post, none, none, none, none, none⟩)

theorem generated_bare : Generated bareDocument := by
  have hoperation : ∀ a ∈ apiDoc,
      bareDocument.operation a.path a.method = some (bareOperation a) := by
    decide +kernel
  have hdocuments : ∀ a ∈ apiDoc, ∀ status ∈ a.statuses,
      ((bareOperation a).responses.lookup (toString status)).isSome = true := by
    decide +kernel
  intro a ha
  exact ⟨bareOperation a, hoperation a ha, rfl, hdocuments a ha⟩

/-- The server of the bundle, with an access token. -/
def guardedServer : Launched small smallNets :=
  { bundleServer with
    admission := ⟨.any, [], ⟨[hashToken small "photo-reader".toList]⟩⟩ }

/-- The upload is done, but its answer is for those that have the token. -/
theorem responses_documented_rejected :
    (Request.upload (C := smallEval) ()).answered smallWeb archiveUpload guardedServer
        (running archiveUpload guardedServer bundleRun) ⟨"/api/v1/bundle", [], none, none⟩ 5
      = some 401
    ∧ (Documented bareDocument ⟨"/api/v1/bundle", .post, "upload_bundle"⟩ 401
      ∨ Undocumented archiveUpload guardedServer
        (running archiveUpload guardedServer bundleRun).shared 5
        (Request.upload (C := smallEval) ()) 401) := by
  have hanswer : (Request.upload (C := smallEval) ()).answered smallWeb archiveUpload
      guardedServer (running archiveUpload guardedServer bundleRun)
      ⟨"/api/v1/bundle", [], none, none⟩ 5 = some 401 := by
    decide +kernel
  have hmatch : segmentMatches "/api/v1/bundle" "/api/v1/bundle" = true := by
    decide +kernel
  exact ⟨hanswer, responses_documented generated_bare routeLaws_segmentMatches archiveUpload
    guardedServer bundleRun (by decide +kernel) (.upload ()) rfl _ 5 hmatch hanswer⟩

end TreetopOpenApi
