import TreetopRest.ServiceMetricsProofs
import TreetopRest.OriginProofs

/-! # What a bundle upload counts

    An upload is counted once, where it is answered, and under a reason that
    the STAGE it failed at determines: its body, its archive, or its commit
    (`failureReason`).  Its other steps count nothing (`advance_counts`), and
    no other step of the server counts for it, so a whole run counts what the
    answering step does (`run_counts`). -/

namespace TreetopUploadTally

open FallibleState ConditionalFetch Text Recording
open TreetopErrors TreetopCrates TreetopMetadata TreetopWire TreetopStore
open TreetopFetcher TreetopBundleFetcher TreetopSections TreetopRequest TreetopUpload
open TreetopServer TreetopServerSteps TreetopServiceMetrics
open TreetopUploadSafety (Service Phase)

variable {X : Crates} {ι : Type}

/-! ## The accounts of an upload -/

/-- While a body is read only its size is counted. -/
def receiveReason : ServiceError → Option BundleFailureReason
  | .bundleTooLarge _ => some .sizeLimit
  | _ => none

/-- The reason of an archive that was received and not made ready; a task that
    died, or limits that could not be made, have none. -/
def archiveReason (runtime : BundleRuntimeConfig X) (taskFailure : Option String)
    (bytes : List UInt8) : Option BundleFailureReason :=
  match X.archiveLimitsNew runtime.maxCompressedBytes runtime.maxUncompressedBytes with
  | .error _ => none
  | .ok limits =>
      match taskFailure with
      | some _ => none
      | none => some (unreadyReason bytes runtime.signaturePolicy runtime.trustStore limits)

/-- The reason of an upload that fails between its checks. -/
def prepareReason (runtime : BundleRuntimeConfig X) (u : Upload) (e : ServiceError) :
    Option BundleFailureReason :=
  match u with
  | .bundle headers payload _ taskFailure =>
      match archiveOfPayload runtime headers payload with
      | .error _ => receiveReason e
      | .ok bytes => archiveReason runtime taskFailure bytes
  | _ => none

/-- The reason of a commit that fails: the lock and the second check have none. -/
def commitReason (headers : HeaderMap) (shared : SharedStore X) (e : ServiceError) :
    Option BundleFailureReason :=
  if shared.poisoned then none
  else
    match checkUploadAuth headers shared.value.allowUpload shared.value.uploadToken with
    | .error _ => none
    | .ok () => some (reasonForApply e)

/-- The reason of an error of an upload, by the phase it is in and the store it
    meets; its first check has none. -/
def failureReason (runtime : BundleRuntimeConfig X) (u : Upload) (phase : Phase X)
    (shared : SharedStore X) (e : ServiceError) : Option BundleFailureReason :=
  match phase with
  | .checked _ => prepareReason runtime u e
  | .prepared _ => commitReason u.headers shared e
  | _ => none

/-- What an answer owes: a replacement, or the failure under its reason. -/
def owedByAnswer (runtime : BundleRuntimeConfig X) (u : Upload) (phase : Phase X)
    (shared : SharedStore X) : Except ServiceError PoliciesMetadata → List Count
  | .ok _ => [.bundleReload]
  | .error e => (failureReason runtime u phase shared e).toList.map recordBundleFailure

theorem readPayload_accounted (limit : Nat) (payload : List (Except String (List UInt8))) :
    ∀ bytes, (Handler.readPayload limit payload bytes).Accounted receiveReason := by
  induction payload with
  | nil => exact fun bytes => accounted_pure bytes
  | cons item rest ih =>
      intro bytes
      cases item with
      | error e =>
          refine accounted_quiet ?_
          rintro _ ⟨⟩
          rfl
      | ok chunk =>
          rw [Handler.readPayload]
          by_cases hbig : bytes.length + chunk.length > limit
          · rw [if_pos hbig]
            exact accounted_failWith rfl
          · rw [if_neg hbig]
            exact ih _

theorem archiveOfPayload_accounted (runtime : BundleRuntimeConfig X) (headers : HeaderMap)
    (payload : List (Except String (List UInt8))) :
    (Handler.archiveOfPayload runtime headers payload).Accounted receiveReason := by
  refine accounted_check ?_ ?_
  · intro _
    refine accounted_quiet ?_
    rintro _ ⟨⟩
    rfl
  · exact accounted_check (fun _ => accounted_failWith rfl) (readPayload_accounted _ _ _)

theorem prepareArchive_accounted (runtime : BundleRuntimeConfig X)
    (mode : Option BundleEngineMode) (clock : BundleClock) (taskFailure : Option String)
    (bytes : List UInt8) (captured : Captured) :
    (Handler.prepareArchive runtime mode clock taskFailure bytes captured).Accounted
      fun _ => archiveReason runtime taskFailure bytes := by
  refine accounted_bind (accounted_quiet ?_) ?_
  · intro e he
    rw [archiveReason]
    cases hlimits : X.archiveLimitsNew runtime.maxCompressedBytes
        runtime.maxUncompressedBytes with
    | ok limits =>
        rw [hlimits] at he
        cases he
    | error e' => rfl
  · intro limits hlimits
    rw [result_quiet] at hlimits
    have hmade := mapError_eq_ok.mp hlimits
    cases taskFailure with
    | some msg =>
        refine accounted_quiet ?_
        intro _ _
        rw [archiveReason, hmade]
    | none =>
        have hreason : archiveReason runtime none bytes
            = some (unreadyReason bytes runtime.signaturePolicy runtime.trustStore limits) := by
          rw [archiveReason, hmade]
        refine accounted_bind (accounted_mapError ?_) ?_
        · intro e he
          rw [hreason, unreadyReason, he]
        · intro validated hvalidated
          rw [result_mapError, result_inspectErr, result_quiet] at hvalidated
          refine accounted_bind (accounted_inspectErr ?_) fun _ _ => accounted_pure _
          intro e _
          rw [hreason, unreadyReason, mapError_eq_ok.mp hvalidated]

/-- **BETWEEN ITS CHECKS** an upload records what its failure owes. -/
theorem handler_prepare_accounted (runtime : BundleRuntimeConfig X)
    (mode : Option BundleEngineMode) {u : Upload} (hu : u.isBundle = true)
    (captured : Captured) :
    (Handler.prepare runtime mode u captured).Accounted (prepareReason runtime u) := by
  cases u with
  | policies headers body => cases hu
  | schema headers body => cases hu
  | bundle headers payload clock taskFailure =>
      have hreceived := archiveOfPayload_accounted runtime headers payload
      have hresult := archiveOfPayload_result runtime headers payload
      cases harchive : TreetopUpload.archiveOfPayload runtime headers payload with
      | error e =>
          rw [harchive] at hresult
          have hreason : prepareReason runtime (.bundle headers payload clock taskFailure)
              = receiveReason := by
            funext e'
            rw [prepareReason, harchive]
          rw [hreason]
          refine accounted_bind hreceived ?_
          intro bytes hbytes
          rw [hresult] at hbytes
          cases hbytes
      | ok bytes =>
          rw [harchive] at hresult
          have hreason : prepareReason runtime (.bundle headers payload clock taskFailure)
              = fun _ => archiveReason runtime taskFailure bytes := by
            funext e'
            rw [prepareReason, harchive]
          rw [hreason]
          refine accounted_bind (hreceived.of_ok hresult _) ?_
          intro bytes' hbytes
          rw [hresult] at hbytes
          cases hbytes
          exact prepareArchive_accounted runtime mode clock taskFailure bytes captured

/-! ## One step -/

/-- The answer of a request, once it has one. -/
def answerOf : Phase X → Option (Except ServiceError PoliciesMetadata)
  | .answered r => some r
  | _ => none

/-- A request that has prepared nothing but a bundle. -/
def BundlePhase : Phase X → Prop
  | .prepared c => ∃ bundle response, c = .bundle bundle response
  | _ => True

/-- The commit of a bundle upload counts what it answers. -/
theorem commit_counts (runtime : BundleRuntimeConfig X) (u : Upload) (now : Timestamp)
    (bundle : PreparedBundle X) (response : PoliciesMetadata) (shared : SharedStore X) :
    candidateCounts u.headers now (.bundle bundle response) shared
      = owedByAnswer runtime u (.prepared (.bundle bundle response)) shared
          (writeStore shared ((Candidate.bundle bundle response).commit u.headers now)).1 := by
  unfold candidateCounts
  rw [writeStore]
  by_cases hpoison : shared.poisoned = true
  · rw [if_pos hpoison, if_pos hpoison, owedByAnswer, failureReason, commitReason, if_pos hpoison]
    rfl
  · rw [if_neg hpoison, if_neg hpoison, Candidate.commit, exec_bind_get, exec_bind_get]
    cases hauth : checkUploadAuth u.headers shared.value.allowUpload
        shared.value.uploadToken with
    | error e =>
        rw [exec_bind_lift_error, owedByAnswer, failureReason, commitReason, if_neg hpoison, hauth]
        rfl
    | ok user =>
        rw [exec_bind_lift_ok, exec_bind_get, exec_bind_get, exec_bind]
        dsimp only
        rw [applyCounts]
        cases hrun : exec (applyPreparedBundle bundle) shared.value with
        | mk r s' =>
            cases r with
            | error e =>
                dsimp only
                rw [owedByAnswer, failureReason, commitReason, if_neg hpoison, hauth]
                rfl
            | ok u => rfl

variable [DecidableEq ι] (uploads : ι → Upload) (config : BundleRuntimeConfig X)
  (engineMode : Option BundleEngineMode)

/-- **STEP**: the step that answers a bundle upload counts what the answer
    owes, and the steps before and after it count nothing. -/
theorem advance_counts {svc : Service X ι} {i : ι} (hbundle : (uploads i).isBundle = true)
    (hphase : BundlePhase (svc.phase i)) (now : Timestamp) :
    BundlePhase ((svc.advance uploads config engineMode i now).phase i)
      ∧ ((answerOf (svc.phase i)).isSome = true →
          answerOf ((svc.advance uploads config engineMode i now).phase i)
              = answerOf (svc.phase i)
            ∧ uploadCounts uploads config engineMode i now svc = [])
      ∧ (answerOf (svc.phase i) = none →
          uploadCounts uploads config engineMode i now svc
            = match answerOf ((svc.advance uploads config engineMode i now).phase i) with
              | none => []
              | some r => owedByAnswer config (uploads i) (svc.phase i) svc.shared r) := by
  have hput : ∀ p shared, (svc.put i p shared).phase i = p :=
    fun p shared => Function.update_self ..
  rw [uploadCounts, Service.advance]
  cases hnow : svc.phase i with
  | received =>
      dsimp only
      refine ⟨?_, (fun h => by cases h), fun _ => ?_⟩
      · cases (readStore svc.shared).bind (uploads i).check with
        | error e =>
            rw [hput]
            trivial
        | ok captured =>
            rw [hput]
            trivial
      · cases (readStore svc.shared).bind (uploads i).check with
        | error e =>
            rw [hput]
            rfl
        | ok captured =>
            rw [hput]
            rfl
  | checked captured =>
      -- the preparation as it is recorded: its result, beside what it has counted
      have haccounts := handler_prepare_accounted config engineMode hbundle captured
      rw [Recorded.Accounted, handler_prepare_result] at haccounts
      dsimp only
      rw [haccounts]
      cases hprep : (uploads i).prepare config engineMode captured with
      | error e =>
          dsimp only
          rw [hput]
          exact ⟨trivial, (fun h => by cases h), fun _ => rfl⟩
      | ok c =>
          dsimp only
          rw [hput]
          refine ⟨?_, (fun h => by cases h), fun _ => rfl⟩
          obtain ⟨prepared, hprepared⟩ := TreetopServerRuns.prepare_isBundle _ _ hprep hbundle
          cases c with
          -- a bundle upload prepares nothing but a bundle
          | policies dslString => cases hprepared
          | schema schemaString => cases hprepared
          | bundle bundle response => exact ⟨bundle, response, rfl⟩
  | prepared c =>
      rw [hnow] at hphase
      obtain ⟨bundle, response, rfl⟩ := hphase
      dsimp only
      rw [hput]
      exact ⟨trivial, (fun h => by cases h),
        fun _ => commit_counts config (uploads i) now bundle response svc.shared⟩
  | answered r =>
      dsimp only
      rw [hnow]
      exact ⟨trivial, fun _ => ⟨rfl, rfl⟩, fun h => by cases h⟩

/-- A step of the server that is not the request's leaves it where it is. -/
theorem step_phase_ne {i : ι} (e : Event X ι) (h : isStepOf i e = false) (srv : Server X ι) :
    (step uploads config engineMode e srv).2.service.phase i = srv.service.phase i := by
  cases e with
  | upload j now =>
      have hij : i ≠ j := fun hij => absurd h (by rw [isStepOf, hij, decide_eq_true rfl]; decide)
      exact TreetopServerRuns.advance_ne uploads config engineMode _ hij now
  | fetch k net now =>
      rw [step]
      cases srv.fetchers k <;> rfl
  | fetchBundle get clock taskFailure =>
      rw [step]
      cases srv.bundleFetcher <;> rfl
  | listPolicies raw user groups namespaces =>
      rw [step]
      cases readStore srv.shared <;> rfl
  | poison => rfl

theorem own_step {i : ι} {e : Event X ι} (h : isStepOf i e = true) :
    ∃ now, e = .upload i now := by
  cases e with
  | upload j now =>
      rw [isStepOf, decide_eq_true_iff] at h
      exact ⟨now, by rw [h]⟩
  | fetch k net now => cases h
  | fetchBundle get clock taskFailure => cases h
  | listPolicies raw user groups namespaces => cases h
  | poison => cases h

/-! ## Runs -/

/-- What the steps of a request have counted in a run: nothing before its
    answer, and with it what the answering step owes where it was taken. -/
structure CountedOnce (i : ι) (events : List (Event X ι)) (srv : Server X ι) : Prop where
  pending : answerOf ((serverAfter uploads config engineMode events srv).service.phase i) = none →
    countsOf uploads config engineMode (isStepOf i) events srv = []
  answered : ∀ r,
    answerOf ((serverAfter uploads config engineMode events srv).service.phase i) = some r →
    ∃ before now after, events = before ++ .upload i now :: after
      ∧ answerOf ((serverAfter uploads config engineMode before srv).service.phase i) = none
      ∧ answerOf ((step uploads config engineMode (.upload i now)
          (serverAfter uploads config engineMode before srv)).2.service.phase i) = some r
      ∧ countsOf uploads config engineMode (isStepOf i) events srv
        = owedByAnswer config (uploads i)
            ((serverAfter uploads config engineMode before srv).service.phase i)
            (serverAfter uploads config engineMode before srv).shared r

variable {uploads config engineMode}

/-- A step that counts nothing for the request, in front of a run. -/
theorem CountedOnce.cons {i : ι} {e : Event X ι} {events : List (Event X ι)} {srv : Server X ι}
    (h : CountedOnce uploads config engineMode i events (step uploads config engineMode e srv).2)
    (hnothing : (if isStepOf i e then counts uploads config engineMode e srv else []) = []) :
    CountedOnce uploads config engineMode i (e :: events) srv where
  pending := by
    intro hnone
    rw [countsOf, hnothing]
    exact h.pending hnone
  answered := by
    intro r hr
    obtain ⟨before, now, after, rfl, hbefore, hstep, hcounts⟩ := h.answered r hr
    refine ⟨e :: before, now, after, rfl, hbefore, hstep, ?_⟩
    rw [countsOf, hnothing]
    exact hcounts

variable (uploads config engineMode)

/-- After its answer a request counts nothing, and keeps its answer. -/
theorem run_answered {i : ι} (hbundle : (uploads i).isBundle = true) (events : List (Event X ι)) :
    ∀ (srv : Server X ι) {r}, BundlePhase (srv.service.phase i) →
      answerOf (srv.service.phase i) = some r →
      answerOf ((serverAfter uploads config engineMode events srv).service.phase i) = some r
        ∧ countsOf uploads config engineMode (isStepOf i) events srv = [] := by
  induction events with
  | nil => exact fun _ _ _ hr => ⟨hr, rfl⟩
  | cons e events ih =>
      intro srv r hphase hr
      rw [countsOf]
      cases hown : isStepOf i e with
      | false =>
          have hsame := step_phase_ne uploads config engineMode e hown srv
          rw [← hsame] at hphase hr
          exact ih _ hphase hr
      | true =>
          obtain ⟨now, rfl⟩ := own_step hown
          obtain ⟨hnext, hkeeps, _⟩ :=
            advance_counts uploads config engineMode hbundle hphase now
          obtain ⟨hkept, hnothing⟩ := hkeeps (by rw [hr]; rfl)
          rw [if_pos rfl, counts, hnothing]
          exact ih _ hnext (hkept.trans hr)

/-- **RUN**: a request without an answer is counted once in what follows. -/
theorem run_counts {i : ι} (hbundle : (uploads i).isBundle = true) (events : List (Event X ι)) :
    ∀ {srv : Server X ι}, BundlePhase (srv.service.phase i) →
      answerOf (srv.service.phase i) = none →
      CountedOnce uploads config engineMode i events srv := by
  induction events with
  | nil =>
      intro srv _ hnone
      refine ⟨fun _ => rfl, ?_⟩
      intro r hr
      cases hnone.symm.trans hr
  | cons e events ih =>
      intro srv hphase hnone
      cases hown : isStepOf i e with
      | false =>
          have hsame := step_phase_ne uploads config engineMode e hown srv
          refine CountedOnce.cons (ih ?_ ?_) (by rw [hown]; rfl)
          · rw [hsame]
            exact hphase
          · rw [hsame]
            exact hnone
      | true =>
          obtain ⟨now, rfl⟩ := own_step hown
          obtain ⟨hnext, _, howed⟩ := advance_counts uploads config engineMode hbundle hphase now
          have hcounts := howed hnone
          cases hanswer :
              answerOf ((srv.service.advance uploads config engineMode i now).phase i) with
          | none =>
              rw [hanswer] at hcounts
              refine CountedOnce.cons (ih hnext hanswer) ?_
              rw [hown, if_pos rfl]
              exact hcounts
          | some r =>
              -- the answering step: what follows counts nothing
              rw [hanswer] at hcounts
              obtain ⟨hend, hrest⟩ := run_answered uploads config engineMode hbundle events
                (step uploads config engineMode (.upload i now) srv).2 hnext hanswer
              refine ⟨fun h => (by cases h.symm.trans hend), ?_⟩
              intro r' hr'
              cases hend.symm.trans hr'
              refine ⟨[], now, events, rfl, hnone, hanswer, ?_⟩
              rw [countsOf, hown, if_pos rfl, hrest, List.append_nil]
              exact hcounts

/-- **UPLOADS** are counted once: whatever else the server does meanwhile, a
    bundle upload counts nothing before its answer, and with it one
    replacement, or one failure under the reason of the stage it failed at, or
    nothing where that stage has none. -/
theorem uploads_counted {N : TreetopAdmission.NetCrate} (l : TreetopConfig.Launched X N) {i : ι}
    (hbundle : (uploads i).isBundle = true) (events : List (Event X ι)) :
    CountedOnce uploads l.bundleRuntime (some l.bundleEngineMode) i events (Server.start l) :=
  run_counts uploads l.bundleRuntime (some l.bundleEngineMode) hbundle events trivial rfl

open TreetopSample TreetopOrigins TreetopLaunch TreetopUploadSafety in
/-- The upload that overtakes a poll. -/
theorem uploads_counted_bundle :
    CountedOnce archiveUpload bundleServer.bundleRuntime (some bundleServer.bundleEngineMode)
      () bundleRun (Server.start bundleServer) :=
  uploads_counted archiveUpload bundleServer rfl bundleRun

end TreetopUploadTally
