import TreetopRest.PipelineModel
import TreetopRest.LaunchProofs

/-! # What the registry says of the requests

    A request is rejected by admission control, answered behind it, or not
    answered at all, and for each series it records once or not at all
    (`meant_observations`).  So whatever the order in which requests record,
    the series say exactly what happened to them (`requests_accounted`), and a
    scrape in between never sees a latency without its request
    (`scrapes_ordered`). -/

namespace TreetopPipeline

open Text FallibleState Interleaving SharedLog
open TreetopErrors TreetopCrates TreetopMetadata TreetopStore
open TreetopAddress TreetopFetcher TreetopRequest TreetopUpload
open TreetopAdmission TreetopHandlers TreetopConfig

variable {X : Crates} {N : NetCrate} {C : EvalCrate X} {l : Launched X N}

/-! ## Admission -/

/-- The request that the tracing middleware gets, or the rejection. -/
def admitted (l : Launched X N) (a : Arrival C) : Except Rejection ServiceRequest :=
  if isProtectedPath a.path then
    (checkClient l.admission a.request).bind fun req =>
      (checkToken X l.admission req.headers).map fun _ => req
  else .ok a.request

/-- Where admission control is not installed, it would let every request pass. -/
theorem admitted_of_not_enabled (h : l.admission.enabled = false) (a : Arrival C) :
    admitted l a = .ok a.request := by
  rw [AdmissionConfig.enabled, Bool.or_eq_false_iff, Bool.not_eq_false'] at h
  rw [admitted, checkClient, if_neg (Bool.eq_false_iff.mp h.1)]
  cases isProtectedPath a.path with
  | false => rfl
  | true =>
      show (checkToken X l.admission a.request.headers).map _ = _
      rw [checkToken, if_pos h.2]
      rfl

/-- A request is rejected, or traced as it was admitted. -/
theorem serve_eq (l : Launched X N) (a : Arrival C) :
    serve l a = match admitted l a with
      | .ok req => .inl (trace l a req)
      | .error rejection => .inr rejection := by
  rw [serve]
  cases henabled : l.admission.enabled with
  | false =>
      rw [admitted_of_not_enabled henabled]
      rfl
  | true =>
      rw [if_pos rfl, call, admitted]
      show (if (!isProtectedPath a.path) = true then _ else _) = _
      cases isProtectedPath a.path with
      | false => rfl
      | true =>
          rw [if_neg (by decide), if_pos rfl]
          cases checkClient l.admission a.request with
          | error rejection => rfl
          | ok req =>
              dsimp only [Except.bind]
              cases checkToken X l.admission req.headers with
              | error rejection => rfl
              | ok _ => rfl

theorem admitted_cases {a : Arrival C} {req : ServiceRequest} (h : admitted l a = .ok req) :
    (req = a.request ∧ (isProtectedPath a.path && l.admission.hasAcl) = false)
      ∨ ∃ ip, (isProtectedPath a.path && l.admission.hasAcl) = true
        ∧ resolveClientIp a.request l.admission.trustedProxies = .ok (some ip)
        ∧ l.admission.clientAllowlist.allows ip = true
        ∧ req = { a.request with resolvedClientIp := some ip } := by
  rw [admitted] at h
  cases hpath : isProtectedPath a.path with
  | false =>
      rw [hpath, if_neg Bool.false_ne_true] at h
      exact Or.inl ⟨(Except.ok.inj h).symm, rfl⟩
  | true =>
      rw [hpath, if_pos rfl] at h
      obtain ⟨req', hclient, h⟩ := bind_eq_ok.mp h
      obtain ⟨_, _, rfl⟩ := map_eq_ok.mp h
      rw [checkClient] at hclient
      cases hacl : l.admission.hasAcl with
      | false =>
          rw [hacl, if_neg Bool.false_ne_true] at hclient
          exact Or.inl ⟨(Except.ok.inj hclient).symm, rfl⟩
      | true =>
          rw [hacl, if_pos rfl] at hclient
          cases hresolved : resolveClientIp a.request l.admission.trustedProxies with
          | error e =>
              rw [hresolved] at hclient
              cases e
              cases hclient
          | ok found =>
              rw [hresolved] at hclient
              cases found with
              | none => cases hclient
              | some ip =>
                  dsimp only at hclient
                  cases hallows : l.admission.clientAllowlist.allows ip with
                  | false =>
                      rw [hallows, if_neg Bool.false_ne_true] at hclient
                      cases hclient
                  | true =>
                      rw [hallows, if_pos rfl] at hclient
                      exact Or.inr ⟨ip, rfl, rfl, hallows, (Except.ok.inj hclient).symm⟩

/-! ## Two small requests -/

open TreetopSample TreetopLaunch

/-- A check of one request, which brings a correlation id. -/
def authorizeArrival : Arrival smallEval where
  method := "POST"
  path := "/api/v1/authorize"
  headers := [("x-correlation-id", ⟨asBytes "trace-1".toList⟩)]
  peerAddr := some (.v4 ⟨10, 0, 0, 7⟩ 50000)
  requestId := "7f1d3a52-9c1e-4b7a-8f60-2d5b8c0e4a11"
  elapsed := 1500000
  route _ := .authorize ⟨fresh, false⟩ ⟨1, 0⟩ none [⟨none, none, "alice"⟩] (.single 1)

/-- A path that no route matches. -/
def strayArrival : Arrival smallEval where
  method := "GET"
  path := "/favicon.ico"
  headers := []
  peerAddr := none
  requestId := "c2b0e6f4-51c8-4d0e-9a2b-0f3c1d7e8b90"
  elapsed := 20000
  route _ := .answer 404 [] none

/-! ## Ids and clients -/

theorem encode_visible {b : UInt8} (h : isVisibleAscii b = true) :
    String.utf8EncodeChar (Char.ofNat b.toNat) = [b] ∧ isHeaderByte b = true := by
  have hlt : b.toNat < 128 := by
    rw [isVisibleAscii, Bool.or_eq_true, Bool.and_eq_true, decide_eq_true_eq] at h
    rcases h with ⟨_, hb⟩ | hb
    · exact Nat.lt_succ_of_lt (UInt8.lt_iff_toNat_lt.mp (of_decide_eq_true hb))
    · rw [eq_of_beq hb]
      decide
  have hone : ∀ n : Fin 128, isVisibleAscii (UInt8.ofNat n) = true →
      String.utf8EncodeChar (Char.ofNat n) = [UInt8.ofNat n]
        ∧ isHeaderByte (UInt8.ofNat n) = true := by
    decide +kernel
  have hof : UInt8.ofNat b.toNat = b := UInt8.ofNat_toNat
  have := hone ⟨b.toNat, hlt⟩
  rw [hof] at this
  exact this h

/-- A value that can be read as text is the value of that text. -/
theorem headerValueFromStr_toStr {value : HeaderValue} {text : String}
    (h : value.toStr = some text) : headerValueFromStr text = some value := by
  obtain ⟨bytes⟩ := value
  rw [HeaderValue.toStr] at h
  by_cases hvisible : bytes.all isVisibleAscii = true
  · rw [if_pos hvisible] at h
    cases h
    have hbytes : asBytes (bytes.map fun b => Char.ofNat b.toNat) = bytes := by
      rw [List.all_eq_true] at hvisible
      induction bytes with
      | nil => rfl
      | cons b bytes ih =>
          rw [List.map_cons, asBytes, List.flatMap_cons, ← asBytes,
            (encode_visible (hvisible b (List.mem_cons_self ..))).1,
            ih fun c hc => hvisible c (List.mem_cons_of_mem _ hc)]
          rfl
    have hall : bytes.all isHeaderByte = true := by
      rw [List.all_eq_true] at hvisible ⊢
      exact fun b hb => (encode_visible (hvisible b hb)).2
    rw [headerValueFromStr, String.toList_ofList, hbytes]
    exact if_pos hall
  · rw [if_neg hvisible] at h
    cases h

theorem getAll_insertHeader (headers : HeaderMap) (name other : String) (value : HeaderValue) :
    (insertHeader headers name value).getAll other
      = if other = name then [value] else headers.getAll other := by
  rw [insertHeader, HeaderMap.getAll, HeaderMap.getAll, List.filter_append, List.filter_filter,
    List.map_append]
  by_cases hname : other = name
  · rw [if_pos hname, hname]
    have hnone : headers.filter (fun h => h.1 == name && h.1 != name) = [] := by
      refine List.filter_eq_nil_iff.mpr fun h _ => ?_
      simp
    simp [hnone]
  · rw [if_neg hname]
    have hsame : (fun h : String × HeaderValue => h.1 == other && h.1 != name)
        = fun h => h.1 == other := by
      funext h
      by_cases hh : h.1 = other <;> simp [hh, hname]
    simp [hsame, Ne.symm hname]

/-! ## What becomes of a request -/

/-- The request that was answered behind the checks, and its response. -/
def answered (l : Launched X N) (a : Arrival C) : Option (ServiceRequest × ServiceResponse) :=
  match admitted l a with
  | .ok req => ((a.route req).respond l).map fun res => (req, res)
  | .error _ => none

/-- The labels of an answered request. -/
def labelsOf (l : Launched X N) (a : Arrival C) : Option HttpRequestLabels :=
  (answered l a).map fun (req, res) =>
    { method := a.method
      path := res.matchPattern.getD "unmatched"
      statusCode := res.status
      clientIp := ((clientIp req).map fun ip => String.ofList ip.display).getD "" }

/-- The labels without the client. -/
def HttpRequestLabels.forDuration (labels : HttpRequestLabels) : HttpDurationLabels where
  method := labels.method
  path := labels.path
  statusCode := labels.statusCode

/-- Why a request was rejected. -/
def reasonOf (l : Launched X N) (a : Arrival C) : Option AdmissionRejectionReason :=
  match admitted l a with
  | .ok _ => none
  | .error rejection => some rejection.reason

/-- The batch of a request for authorization, if it is within the limit. -/
def acceptedOf (l : Launched X N) (a : Arrival C) : Option AcceptedAuthorizationBatch :=
  match admitted l a with
  | .error _ => none
  | .ok req =>
      match a.route req with
      | .authorize _ _ _ requests _ =>
          if requests.length ≤ l.authorizeRuntime.maxBatchSize then some ⟨requests.length⟩
          else none
      | .answer .. | .fail => none

/-- The handler leaves its batch on the request exactly within the limit. -/
theorem authorizeHandler_batch (shared : SharedStore X) (stamp : Stamp) (detail : Option String)
    (requests : List (AuthRequest C)) (schedule : ParallelMap.Schedule requests.length) :
    (authorizeHandler l shared stamp detail requests schedule).1
      = if requests.length ≤ l.authorizeRuntime.maxBatchSize then some ⟨requests.length⟩
        else none := by
  unfold authorizeHandler
  by_cases hlarge : requests.length > l.authorizeRuntime.maxBatchSize
  · rw [if_pos hlarge, if_neg (Nat.not_le.mpr hlarge)]
  · rw [if_neg hlarge, if_pos (Nat.le_of_not_lt hlarge)]

/-- The batch that the middleware finds is the accepted one. -/
theorem batch_eq_acceptedOf {a : Arrival C} {req : ServiceRequest} {res : ServiceResponse}
    (hadmitted : admitted l a = .ok req) (hres : (a.route req).respond l = some res) :
    res.batch = acceptedOf l a := by
  rw [acceptedOf, hadmitted]
  dsimp only
  cases hroute : a.route req with
  | authorize shared stamp detail requests schedule =>
      rw [hroute] at hres
      cases hres
      exact authorizeHandler_batch shared stamp detail requests schedule
  | answer status headers matchPattern =>
      rw [hroute] at hres
      cases hres
      rfl
  | fail =>
      rw [hroute] at hres
      cases hres

theorem headerValueFromStr_isSome {text : String}
    (h : (headerValueFromStr text).isSome = true) :
    headerValueFromStr text = some ⟨asBytes text.toList⟩ := by
  rw [headerValueFromStr] at h ⊢
  by_cases hall : (asBytes text.toList).all isHeaderByte = true
  · exact if_pos hall
  · rw [if_neg hall] at h
    cases h

/-- The correlation id a response gets: the value that was sent, where it can
    be read. -/
theorem correlationId_value {requestId : String} (headers : HeaderMap)
    (hid : (headerValueFromStr requestId).isSome = true) :
    headerValueFromStr (requestIds headers requestId).correlationId
      = some (((headers.get "x-correlation-id").filter fun value => value.toStr.isSome).getD
        ⟨asBytes requestId.toList⟩) := by
  rw [requestIds]
  cases headers.get "x-correlation-id" with
  | none => exact headerValueFromStr_isSome hid
  | some value =>
      rw [Option.filter_some]
      show headerValueFromStr (value.toStr.getD requestId) = _
      cases htext : value.toStr with
      | none => exact headerValueFromStr_isSome hid
      | some text => exact headerValueFromStr_toStr htext

/-- An answer is that of the routes to the admitted request, with its ids. -/
theorem serve_answered {a : Arrival C} {res : ServiceResponse} {observed : Observations}
    (h : serve l a = .inl (some res, observed)) :
    ∃ req inner, admitted l a = .ok req ∧ (a.route req).respond l = some inner
      ∧ res = inner.withIds (requestIds a.headers a.requestId) := by
  rw [serve_eq] at h
  cases hadmitted : admitted l a with
  | error rejection =>
      rw [hadmitted] at h
      cases h
  | ok req =>
      rw [hadmitted] at h
      have hheaders : req.headers = a.headers := by
        rcases admitted_cases hadmitted with ⟨rfl, _⟩ | ⟨ip, _, _, _, rfl⟩ <;> rfl
      have htrace := congrArg Prod.fst (Sum.inl.inj h)
      rw [trace, hheaders] at htrace
      cases hres : (a.route req).respond l with
      | none =>
          rw [hres] at htrace
          cases htrace
      | some inner =>
          rw [hres] at htrace
          exact ⟨req, inner, rfl, hres, (Option.some.inj htrace).symm⟩

theorem labelsOf_answered {a : Arrival C} {req : ServiceRequest} {res : ServiceResponse}
    (hadmitted : admitted l a = .ok req) (hres : (a.route req).respond l = some res) :
    labelsOf l a = some {
      method := a.method
      path := res.matchPattern.getD "unmatched"
      statusCode := res.status
      clientIp := ((clientIp req).map fun ip => String.ofList ip.display).getD "" } := by
  rw [labelsOf, answered, hadmitted]
  show (((a.route req).respond l).map fun res => (req, res)).map _ = _
  rw [hres]
  rfl

/-- **IDENTITY**: an answered request gets back its own id, and the correlation
    id it came with, byte for byte, or else its own id again, each exactly once;
    and it is counted under the address the allowlist has let in, or under its
    peer where there was no such check. -/
theorem answered_identified {a : Arrival C} {res : ServiceResponse} {observed : Observations}
    (hid : (headerValueFromStr a.requestId).isSome = true)
    (h : serve l a = .inl (some res, observed)) :
    res.headers.getAll "x-request-id" = [⟨asBytes a.requestId.toList⟩]
      ∧ res.headers.getAll "x-correlation-id"
        = [((a.headers.get "x-correlation-id").filter fun value => value.toStr.isSome).getD
            ⟨asBytes a.requestId.toList⟩]
      ∧ ∃ labels client, labelsOf l a = some labels
        ∧ labels.clientIp = (client.map fun ip => String.ofList (IpAddr.display ip)).getD ""
        ∧ if (isProtectedPath a.path && l.admission.hasAcl) = true then
            ∃ ip, client = some ip ∧ l.admission.clientAllowlist.allows ip = true
              ∧ resolveClientIp a.request l.admission.trustedProxies = .ok (some ip)
          else client = a.peerAddr.map SocketAddr.ip := by
  obtain ⟨req, inner, hadmitted, hres, rfl⟩ := serve_answered h
  refine ⟨?_, ?_, _, clientIp req, labelsOf_answered hadmitted hres, rfl, ?_⟩
  · rw [ServiceResponse.withIds, getAll_insertHeader, if_neg (by decide), getAll_insertHeader,
      if_pos rfl, requestIds, headerValueFromStr_isSome hid]
    rfl
  · rw [ServiceResponse.withIds, getAll_insertHeader, if_pos rfl,
      correlationId_value a.headers hid]
    rfl
  · rcases admitted_cases hadmitted with ⟨rfl, hacl⟩ | ⟨ip, hacl, hresolved, hallows, rfl⟩
    · rw [if_neg (Bool.eq_false_iff.mp hacl)]
      rfl
    · rw [if_pos hacl]
      exact ⟨ip, rfl, hallows, hresolved⟩

/-- The correlation id comes back. -/
theorem answered_identified_small :
    ∃ res observed, serve remoteServer authorizeArrival = .inl (some res, observed)
      ∧ res.headers.getAll "x-correlation-id" = [⟨asBytes "trace-1".toList⟩] :=
  ⟨_, _, rfl,
    (answered_identified (l := remoteServer) (a := authorizeArrival) (by decide) rfl).2.1⟩

/-! ## Records -/

/-- What an answered request records. -/
def answeredObservations (labels : HttpRequestLabels) (batch : Option AcceptedAuthorizationBatch)
    (elapsed : Nat) : Observations :=
  (.httpRequests labels, .inc) :: (.httpRequestDuration labels.forDuration, .observe elapsed)
    :: match batch with
      | some batch => observeAuthorization batch elapsed
      | none => []

/-- A request is rejected, not answered or answered, and records accordingly. -/
theorem observations_cases (l : Launched X N) (a : Arrival C) :
    (∃ reason, reasonOf l a = some reason ∧ labelsOf l a = none ∧ acceptedOf l a = none
        ∧ observations l a = recordAdmissionRejection reason)
      ∨ (reasonOf l a = none ∧ labelsOf l a = none ∧ acceptedOf l a = none
        ∧ observations l a = [])
      ∨ ∃ labels, reasonOf l a = none ∧ labelsOf l a = some labels
        ∧ observations l a = answeredObservations labels (acceptedOf l a) a.elapsed := by
  rw [observations, serve_eq, reasonOf, labelsOf, answered]
  cases hadmitted : admitted l a with
  | error rejection =>
      refine Or.inl ⟨rejection.reason, rfl, rfl, ?_, rfl⟩
      rw [acceptedOf, hadmitted]
  | ok req =>
      refine Or.inr ?_
      dsimp only
      rw [trace]
      cases hres : (a.route req).respond l with
      | none =>
          refine Or.inl ⟨rfl, rfl, ?_, rfl⟩
          rw [acceptedOf, hadmitted]
          dsimp only
          -- only a request that is not routed to a handler fails
          cases hroute : a.route req with
          | authorize shared stamp detail requests schedule =>
              rw [hroute] at hres
              cases hres
          | answer status headers matchPattern => rfl
          | fail => rfl
      | some res =>
          refine Or.inr ⟨_, rfl, rfl, ?_⟩
          rw [← batch_eq_acceptedOf hadmitted hres]
          obtain ⟨status, headers, matchPattern, batch⟩ := res
          cases batch <;> rfl

/-- The one record of a request for a series. -/
def recordOf (l : Launched X N) (series : Series) (a : Arrival C) : Option Record :=
  match series with
  | .httpRequests labels => if labelsOf l a = some labels then some .inc else none
  | .httpRequestDuration labels =>
      if (labelsOf l a).map HttpRequestLabels.forDuration = some labels then
        some (.observe a.elapsed)
      else none
  | .authorizationBatchSize => (acceptedOf l a).map fun batch => .observe batch.size
  | .authorizationRequestDuration labels =>
      if (acceptedOf l a).map AcceptedAuthorizationBatch.sizeClass = some labels.batchSizeClass then
        some (.observe a.elapsed)
      else none
  | .admissionRejections labels =>
      if (reasonOf l a).map asStr = some labels.reason then some .inc else none

theorem toList_ite (p : Prop) [Decidable p] (r : Record) :
    ((if p then some r else none).toList : Multiset Record) = if p then {r} else 0 := by
  by_cases h : p
  · rw [if_pos h, if_pos h]
    rfl
  · rw [if_neg h, if_neg h]
    rfl

/-- For each series a request records once or not at all. -/
theorem meant_observations (l : Launched X N) (series : Series) (a : Arrival C) :
    meant seriesKey () (observations l a) series
      = ((recordOf l series a).toList : Multiset Record) := by
  rcases observations_cases l a with
    ⟨reason, hreason, hlabels, hbatch, hobs⟩ | ⟨hreason, hlabels, hbatch, hobs⟩
      | ⟨labels, hreason, hlabels, hobs⟩
  · rw [hobs, recordAdmissionRejection, meant_cons]
    cases series with
    | admissionRejections labels =>
        obtain ⟨text⟩ := labels
        simp [meant, recordOf, hreason, toList_ite]
    | _ => simp [meant, recordOf, hlabels, hbatch]
  · rw [hobs]
    cases series <;> simp [meant, recordOf, hreason, hlabels, hbatch]
  · rw [hobs]
    cases hbatch : acceptedOf l a with
    | none =>
        show meant _ () [_, _] series = _
        rw [meant_cons, meant_cons]
        cases series <;> simp [meant, recordOf, hreason, hlabels, hbatch, toList_ite]
    | some batch =>
        show meant _ () [_, _, _, _] series = _
        rw [meant_cons, meant_cons, meant_cons, meant_cons]
        cases series with
        | authorizationRequestDuration labels =>
            obtain ⟨sizeClass⟩ := labels
            simp [meant, recordOf, hbatch, toList_ite]
        | _ => simp [meant, recordOf, hreason, hlabels, hbatch, toList_ite]

/-! ## All requests -/

variable {arrivals : List (Arrival C)} {schedule : List Nat}

/-- Where all requests have recorded, a series holds the record of each that
    has one for it, and is there exactly if there is any. -/
theorem log_done (hdone : ∀ t ∈ (recording l arrivals schedule).1, t.Done) (series : Series) :
    ((recording l arrivals schedule).2.log series : Multiset Record)
        = (arrivals.filterMap (recordOf l series) : Multiset Record)
      ∧ ((recording l arrivals schedule).2.index series = none
        ↔ arrivals.filterMap (recordOf l series) = []) := by
  obtain ⟨hlog, hindex⟩ := direct_done seriesKey hdone series
  have hplanned := planned_filterMap seriesKey
    (fun a : Arrival C => ((), observations l a)) (meant_observations l series) arrivals
  rw [hplanned] at hlog hindex
  exact ⟨hlog, hindex.trans (Multiset.coe_eq_zero _)⟩

theorem length_done (hdone : ∀ t ∈ (recording l arrivals schedule).1, t.Done)
    (series : Series) :
    ((recording l arrivals schedule).2.log series).length
      = arrivals.countP fun a => (recordOf l series a).isSome := by
  have hcard := congrArg Multiset.card (log_done hdone series).1
  rw [Multiset.coe_card, Multiset.coe_card, List.length_filterMap_eq_countP] at hcard
  exact hcard

theorem asStr_inj {reason reason' : AdmissionRejectionReason} :
    asStr reason = asStr reason' ↔ reason = reason' := by
  cases reason <;> cases reason' <;> decide

/-- What the series say of some requests. -/
structure Accounted (l : Launched X N) (arrivals : List (Arrival C))
    (families : Family Series Record) : Prop where
  /-- Each label set counts its answered requests, -/
  requests : ∀ labels, (families.log (.httpRequests labels)).length
    = arrivals.countP fun a => labelsOf l a = some labels
  /-- the latencies are theirs, whoever the client, -/
  latencies : ∀ labels, (families.log (.httpRequestDuration labels) : Multiset Record)
    = (arrivals.filter fun a => (labelsOf l a).map HttpRequestLabels.forDuration = some labels).map
        fun a => Record.observe a.elapsed
  /-- each reason counts its rejections, and no text is that of two reasons, -/
  rejections : ∀ reason, (families.log (.admissionRejections ⟨asStr reason⟩)).length
    = arrivals.countP fun a => reasonOf l a = some reason
  /-- the sizes are those of the batches within the limit, -/
  sizes : (families.log .authorizationBatchSize : Multiset Record)
    = (arrivals.filterMap (acceptedOf l)).map fun batch => Record.observe batch.size
  /-- each class has the latencies of its batches, -/
  classes : ∀ name, (families.log (.authorizationRequestDuration ⟨name⟩) : Multiset Record)
    = (arrivals.filter fun a =>
          (acceptedOf l a).map AcceptedAuthorizationBatch.sizeClass = some name).map
        fun a => Record.observe a.elapsed
  /-- and a request is in the requests or in the rejections, and in one of them
      unless it failed. -/
  once : arrivals.length
    = (arrivals.countP fun a => (labelsOf l a).isSome)
      + (arrivals.countP fun a => (reasonOf l a).isSome)
      + arrivals.countP fun a => observations l a = []

theorem once_each (l : Launched X N) (arrivals : List (Arrival C)) :
    arrivals.length
      = (arrivals.countP fun a => (labelsOf l a).isSome)
        + (arrivals.countP fun a => (reasonOf l a).isSome)
        + arrivals.countP fun a => observations l a = [] := by
  induction arrivals with
  | nil => rfl
  | cons a arrivals ih =>
      rw [List.length_cons, ih, List.countP_cons, List.countP_cons, List.countP_cons]
      rcases observations_cases l a with
        ⟨reason, hreason, hlabels, _, hobs⟩ | ⟨hreason, hlabels, _, hobs⟩
          | ⟨labels, hreason, hlabels, hobs⟩
      · simp [hreason, hlabels, hobs, recordAdmissionRejection]
        omega
      · simp [hreason, hlabels, hobs]
        omega
      · simp [hreason, hlabels, hobs, answeredObservations]
        omega

/-- The latencies of the requests that something holds of. -/
theorem filterMap_ite (p : Arrival C → Prop) [DecidablePred p] (f : Arrival C → Record)
    (arrivals : List (Arrival C)) :
    (arrivals.filterMap fun a => if p a then some (f a) else none)
      = (arrivals.filter fun a => p a).map f := by
  induction arrivals with
  | nil => rfl
  | cons a arrivals ih =>
      rw [List.filterMap_cons, List.filter_cons, ih]
      by_cases h : p a <;> simp [h]

/-- **ACCOUNTING**: whatever the order in which the requests of a server record,
    once all have, every request is in the series of its labels, its reason or
    its batch, once, and in no other. -/
theorem requests_accounted (hdone : ∀ t ∈ (recording l arrivals schedule).1, t.Done) :
    Accounted l arrivals (recording l arrivals schedule).2 where
  requests labels := by
    rw [length_done hdone]
    refine List.countP_congr fun a _ => ?_
    by_cases h : labelsOf l a = some labels <;> simp [recordOf, h]
  latencies labels := by
    rw [(log_done hdone _).1, ← filterMap_ite]
    rfl
  rejections reason := by
    rw [length_done hdone]
    refine List.countP_congr fun a _ => ?_
    cases hreason : reasonOf l a with
    | none => simp [recordOf, hreason]
    | some reason' =>
        by_cases h : reason' = reason <;> simp [recordOf, hreason, asStr_inj, h]
  sizes := by
    rw [(log_done hdone _).1, List.map_filterMap]
    rfl
  classes name := by
    rw [(log_done hdone _).1, ← filterMap_ite]
    rfl
  once := once_each l arrivals

/-- The two requests, one record at a time. -/
theorem requests_accounted_small :
    Accounted remoteServer [authorizeArrival, strayArrival]
      (recording remoteServer [authorizeArrival, strayArrival]
        [0, 1, 0, 1, 0, 0, 1, 0, 1, 0, 0, 0]).2 := by
  refine requests_accounted ?_
  have htasks : (recording remoteServer [authorizeArrival, strayArrival]
      [0, 1, 0, 1, 0, 0, 1, 0, 1, 0, 0, 0]).1 = [.touch () [], .touch () []] := rfl
  rw [htasks]
  intro t ht
  rw [List.mem_pair] at ht
  rcases ht with rfl | rfl <;> exact ⟨(), rfl⟩

/-! ## Scrapes -/

/-- The classes of the batches of at most `bound` requests. -/
def classesUpTo (bound : Nat) : List String :=
  (([("0", 0), ("1", 1), ("2-4", 4), ("5-8", 8), ("9-32", 32), ("33-128", 128),
    ("129-512", 512)] : List (String × Nat)).filter fun c => c.2 ≤ bound).map Prod.fst

/-- At a boundary of the histogram the classes and the sizes agree. -/
theorem sizeClass_mem_classesUpTo {bound : Nat} (h : bound ∈ authorizationBatchSizeBuckets)
    (batch : AcceptedAuthorizationBatch) :
    batch.sizeClass ∈ classesUpTo bound ↔ batch.size ≤ bound := by
  rw [AcceptedAuthorizationBatch.sizeClass]
  simp only [authorizationBatchSizeBuckets, List.mem_cons, List.not_mem_nil, or_false] at h
  rcases h with rfl | rfl | rfl | rfl | rfl | rfl | rfl <;> split_ifs <;>
    simp [classesUpTo] <;> omega

/-- The series of the label sets of some requests, with or without the client. -/
def requestSeries (l : Launched X N) (arrivals : List (Arrival C)) (labels : HttpDurationLabels) :
    Finset Series :=
  ((arrivals.filterMap (labelsOf l)).toFinset.filter fun ls => ls.forDuration = labels).image
    Series.httpRequests

/-- The series of some batch size classes. -/
def classSeries (names : List String) : Finset Series :=
  (names.map fun name => Series.authorizationRequestDuration ⟨name⟩).toFinset

/-- Whether a record is of a number up to a bound. -/
def upTo (bound : Nat) : Record → Bool
  | .observe value => value ≤ bound
  | .inc => false

theorem bucket_eq_logCount (families : Family Series Record) (series : Series) (bound : Nat) :
    bucket families series bound
      = logCount {series} (upTo bound) fun k => (families.log k : Multiset Record) := by
  show _ = ∑ k ∈ {series},
    Multiset.countP (upTo bound · = true) (families.log k : Multiset Record)
  rw [Finset.sum_singleton, Multiset.coe_countP, bucket]
  refine List.countP_congr fun record _ => ?_
  cases record <;> simp [upTo]

theorem length_eq_logCount (families : Family Series Record) (ks : Finset Series) :
    ∑ series ∈ ks, (families.log series).length
      = logCount ks (fun _ => true) fun k => (families.log k : Multiset Record) := by
  refine Finset.sum_congr rfl fun series _ => ?_
  rw [Multiset.coe_countP, List.countP_eq_length.mpr fun _ _ => by simp]

/-- The latency of an answered request comes right behind its count. -/
theorem observations_paired_requests {a : Arrival C} (ha : a ∈ arrivals)
    (labels : HttpDurationLabels) :
    Paired (ofKind seriesKey () (requestSeries l arrivals labels) fun _ => true)
      (ofKind seriesKey () {.httpRequestDuration labels} fun _ => true) (observations l a) := by
  rcases observations_cases l a with
    ⟨reason, _, _, _, hobs⟩ | ⟨_, _, _, hobs⟩ | ⟨ls, _, hlabels, hobs⟩
  · rw [hobs, recordAdmissionRejection]
    exact .skip (by simp [ofKind, requestSeries]) (by simp [ofKind]) .nil
  · rw [hobs]
    exact .nil
  · rw [hobs]
    unfold answeredObservations
    have hmem : ∃ a ∈ arrivals, labelsOf l a = some ls := ⟨a, ha, hlabels⟩
    refine .pair ?_ (by simp [ofKind]) (by simp [ofKind, requestSeries]) ?_
    · simp [ofKind, requestSeries, hmem]
    · cases acceptedOf l a with
      | none => exact .nil
      | some batch =>
          exact .skip (by simp [ofKind, requestSeries]) (by simp [ofKind])
            (.skip (by simp [ofKind, requestSeries]) (by simp [ofKind]) .nil)

/-- The latency of an accepted batch comes right behind its size. -/
theorem observations_paired_batches {bound : Nat} (h : bound ∈ authorizationBatchSizeBuckets)
    (a : Arrival C) :
    Paired (ofKind seriesKey () {.authorizationBatchSize} (upTo bound))
      (ofKind seriesKey () (classSeries (classesUpTo bound)) fun _ => true)
      (observations l a) := by
  rcases observations_cases l a with
    ⟨reason, _, _, _, hobs⟩ | ⟨_, _, _, hobs⟩ | ⟨ls, _, _, hobs⟩
  · rw [hobs, recordAdmissionRejection]
    exact .skip (by simp [ofKind]) (by simp [ofKind, classSeries]) .nil
  · rw [hobs]
    exact .nil
  · rw [hobs]
    unfold answeredObservations
    refine .skip (by simp [ofKind]) (by simp [ofKind, classSeries])
      (.skip (by simp [ofKind]) (by simp [ofKind, classSeries]) ?_)
    cases acceptedOf l a with
    | none => exact .nil
    | some batch =>
        refine .pair ?_ (by simp [ofKind, classSeries]) (by simp [ofKind]) .nil
        simp [ofKind, classSeries, upTo, sizeClass_mem_classesUpTo h]

/-- **SCRAPES**: at every moment, with any number of requests under way, the
    latencies of a label set are not ahead of its requests, nor those of the
    classes up to a boundary ahead of the sizes in that bucket; and where no
    request is under way the buckets and the classes agree. -/
theorem scrapes_ordered (l : Launched X N) (arrivals : List (Arrival C)) (schedule : List Nat) :
    (∀ labels, ((recording l arrivals schedule).2.log (.httpRequestDuration labels)).length
      ≤ ∑ series ∈ requestSeries l arrivals labels,
          ((recording l arrivals schedule).2.log series).length)
    ∧ (∀ bound ∈ authorizationBatchSizeBuckets,
        ∑ series ∈ classSeries (classesUpTo bound),
            ((recording l arrivals schedule).2.log series).length
          ≤ bucket (recording l arrivals schedule).2 .authorizationBatchSize bound)
    ∧ ((∀ t ∈ (recording l arrivals schedule).1, t.Done) →
        ∀ bound ∈ authorizationBatchSizeBuckets,
          ∑ series ∈ classSeries (classesUpTo bound),
              ((recording l arrivals schedule).2.log series).length
            = bucket (recording l arrivals schedule).2 .authorizationBatchSize bound) := by
  let plans := arrivals.map fun a => ((), observations l a)
  have hrequests : ∀ labels, ∀ task ∈ plans,
      Paired (ofKind seriesKey task.1 (requestSeries l arrivals labels) fun _ => true)
        (ofKind seriesKey task.1 {.httpRequestDuration labels} fun _ => true) task.2 := by
    intro labels task htask
    obtain ⟨a, ha, rfl⟩ := List.mem_map.mp htask
    exact observations_paired_requests ha labels
  have hbatches : ∀ bound ∈ authorizationBatchSizeBuckets, ∀ task ∈ plans,
      Paired (ofKind seriesKey task.1 {.authorizationBatchSize} (upTo bound))
        (ofKind seriesKey task.1 (classSeries (classesUpTo bound)) fun _ => true) task.2 := by
    intro bound hbound task htask
    obtain ⟨a, _, rfl⟩ := List.mem_map.mp htask
    exact observations_paired_batches hbound a
  refine ⟨fun labels => ?_, fun bound hbound => ?_, fun hdone bound hbound => ?_⟩
  · have hprecedes := (paired_precedes seriesKey (hrequests labels) schedule).1
    rw [← length_eq_logCount, ← length_eq_logCount, Finset.sum_singleton] at hprecedes
    exact hprecedes
  · have hprecedes := (paired_precedes seriesKey (hbatches bound hbound) schedule).1
    rw [← length_eq_logCount, ← bucket_eq_logCount] at hprecedes
    exact hprecedes
  · have hagrees := (paired_precedes seriesKey (hbatches bound hbound)
      schedule).2 hdone
    rw [← length_eq_logCount, ← bucket_eq_logCount] at hagrees
    exact hagrees

end TreetopPipeline
