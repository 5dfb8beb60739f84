import TreetopRest.ServiceMetricsModel
import TreetopRest.ServerRunProofs

/-! # What the service metrics tell

    The versions with records are the plain ones, once the records are
    forgotten.  A poll of the bundle source is a chain of parts that count
    their own failures, under a reason that its STAGE and its error determine
    (`pollReason`).  Each part accounts for its result, so the whole does: the
    reasons counted by the polls of a run are, in their order, those of the
    polls that failed (`polls_explained`).  Replacements are counted as
    they are published, in every run (`reloads_counted`). -/

namespace TreetopServiceMetrics

open FallibleState ConditionalFetch Text Recording
open TreetopErrors TreetopCrates TreetopMetadata TreetopWire TreetopStore
open TreetopFetcher TreetopBundleFetcher TreetopSections TreetopRequest TreetopUpload
open TreetopServer TreetopServerSteps
open TreetopUploadSafety (Service Phase)

variable {X : Crates} {ι : Type}

/-! ## Without the records -/

theorem readStream_result (f : BundleFetcher X) (stream : List (Except String (List UInt8))) :
    ∀ bytes, (Fetcher.readStream f stream bytes).result = f.readStream stream bytes := by
  induction stream with
  | nil =>
      intro bytes
      rfl
  | cons item rest ih =>
      intro bytes
      cases item with
      | error e => rfl
      | ok chunk =>
          rw [Fetcher.readStream, BundleFetcher.readStream]
          by_cases hbig : bytes.length + chunk.length > f.limits.maxCompressedBytes
          · rw [if_pos hbig, if_pos hbig]
            rfl
          · rw [if_neg hbig, if_neg hbig]
            exact ih _

/-- A check with a record is a check without. -/
theorem result_check {κ ε α : Type} {c : Prop} [Decidable c] (m : Recorded κ ε Unit) (e : ε)
    (hm : m.result = .error e) (f : Unit → Recorded κ ε α) :
    (if c then m >>= f else f ()).result
      = if c then (throw e : Except ε Unit) >>= fun u => (f u).result else (f ()).result := by
  by_cases hc : c
  · rw [if_pos hc, if_pos hc, result_bind, hm]
    rfl
  · rw [if_neg hc, if_neg hc]

theorem download_result (f : BundleFetcher X) (answer : Except String BundleResponse) :
    (Fetcher.download f answer).result = f.download answer := by
  rw [Fetcher.download, BundleFetcher.download, result_bind, result_inspectErr, result_quiet]
  refine congrArg _ (funext fun response => ?_)
  by_cases hsame : response.status = notModified
  · rw [if_pos hsame, if_pos hsame]
    rfl
  · rw [if_neg hsame, if_neg hsame]
    refine (result_check _ _ rfl _).trans ?_
    refine congrArg _ ?_
    refine (result_check _ _ rfl _).trans ?_
    refine congrArg _ ?_
    rw [result_bind, readStream_result]
    rfl

theorem prepare_result (f : BundleFetcher X) (clock : BundleClock) (taskFailure : Option String)
    (bytes : List UInt8) (mode : SchemaValidationMode) :
    (Fetcher.prepare f clock taskFailure bytes mode).result
      = f.prepare clock taskFailure bytes mode := by
  cases taskFailure with
  | some msg => rfl
  | none =>
      rw [Fetcher.prepare, BundleFetcher.prepare, result_bind]
      simp only [result_mapError, result_inspectErr, result_quiet]

/-- **Without its records** a fetch is a fetch. -/
theorem fetch_result (f : BundleFetcher X) (env : BundleFetcher.Surroundings X) :
    (Fetcher.fetch f env).result = f.fetch env := by
  rw [Fetcher.fetch, BundleFetcher.fetch, result_bind, download_result]
  cases f.download (env.get f.validators) with
  | error e => rfl
  | ok found =>
      cases found with
      | none => rfl
      | some d =>
          show Recorded.result (if _ then _ else _) = _
          dsimp only
          by_cases hsame : f.archiveSha256 = some (hexSha256 X d.bytes)
          · rw [if_pos hsame, if_pos hsame]
            rfl
          · rw [if_neg hsame, if_neg hsame]
            by_cases hpoison : env.atRead.poisoned = true
            · rw [if_pos hpoison, if_pos hpoison]
              rfl
            · rw [if_neg hpoison, if_neg hpoison, result_bind, prepare_result]
              cases f.prepare env.clock env.taskFailure d.bytes
                env.atRead.value.schemaValidationMode <;> rfl

theorem readPayload_result (limit : Nat) (payload : List (Except String (List UInt8))) :
    ∀ bytes, (Handler.readPayload limit payload bytes).result
      = TreetopUpload.readPayload limit payload bytes := by
  induction payload with
  | nil =>
      intro bytes
      rfl
  | cons item rest ih =>
      intro bytes
      cases item with
      | error e => rfl
      | ok chunk =>
          rw [Handler.readPayload, TreetopUpload.readPayload]
          by_cases hbig : bytes.length + chunk.length > limit
          · rw [if_pos hbig, if_pos hbig]
            rfl
          · rw [if_neg hbig, if_neg hbig]
            exact ih _

theorem archiveOfPayload_result (config : BundleRuntimeConfig X) (headers : HeaderMap)
    (payload : List (Except String (List UInt8))) :
    (Handler.archiveOfPayload config headers payload).result
      = TreetopUpload.archiveOfPayload config headers payload := by
  rw [Handler.archiveOfPayload, TreetopUpload.archiveOfPayload]
  refine (result_check _ _ rfl _).trans (congrArg _ ?_)
  refine (result_check _ _ rfl _).trans (congrArg _ ?_)
  exact readPayload_result _ _ _

theorem prepareArchive_result (config : BundleRuntimeConfig X)
    (engineMode : Option BundleEngineMode) (clock : BundleClock) (taskFailure : Option String)
    (bytes : List UInt8) (captured : Captured) :
    (Handler.prepareArchive config engineMode clock taskFailure bytes captured).result
      = TreetopUpload.prepareArchive config engineMode clock taskFailure bytes captured := by
  rw [Handler.prepareArchive, TreetopUpload.prepareArchive, result_bind, result_quiet]
  refine congrArg _ (funext fun limits => ?_)
  cases taskFailure with
  | some msg => rfl
  | none =>
      dsimp only
      rw [result_bind, result_mapError, result_inspectErr, result_quiet]
      refine congrArg _ (funext fun validated => ?_)
      rw [result_bind, result_inspectErr, result_quiet]
      rfl

/-- **Without its records** the work on a body is the work on a body. -/
theorem handler_prepare_result (config : BundleRuntimeConfig X)
    (engineMode : Option BundleEngineMode) (u : Upload) (captured : Captured) :
    (Handler.prepare config engineMode u captured).result
      = u.prepare config engineMode captured := by
  cases u with
  | policies headers body => rfl
  | schema headers body => rfl
  | bundle headers payload clock taskFailure =>
      rw [Handler.prepare, Upload.prepare, result_bind, archiveOfPayload_result]
      refine congrArg _ (funext fun bytes => ?_)
      exact prepareArchive_result config engineMode clock taskFailure bytes captured

/-! ## The accounts of a poll -/

/-- The reason of an archive that was not made ready: what its validation says,
    or else that its bundle could not be prepared. -/
def unreadyReason (bytes : List UInt8) (signaturePolicy : X.SignaturePolicy)
    (trustStore : X.TrustStore) (limits : ArchiveLimits) : BundleFailureReason :=
  match X.validateArchive bytes signaturePolicy trustStore limits with
  | .error e => reasonForBundleError e
  | .ok _ => .validation

/-- The reason of an error of the service: with a bundle that is ready it was
    turned down by the store, before that it is about the archive downloaded. -/
def serviceReason (get : Validators String → Except String BundleResponse) (t : BundleTask X)
    (e : ServiceError) : Option BundleFailureReason :=
  match t.ready with
  | some _ => some (reasonForApply e)
  | none =>
      match t.fetcher.download (get t.fetcher.validators) with
      | .ok (some d) => some (unreadyReason d.bytes t.fetcher.signaturePolicy
          t.fetcher.trustStore t.fetcher.limits)
      | _ => none

/-- The reason a failed poll has to be counted under, if it has to be. -/
def pollReason (get : Validators String → Except String BundleResponse) (t : BundleTask X) :
    FetchError → Option BundleFailureReason
  | .request _ | .status _ _ => some .fetch
  | .sizeLimit _ => some .sizeLimit
  | .lockPoisoned _ => some .store
  | .preparationTask _ => none
  | .service e => serviceReason get t e

def FailedPoll.reason (p : FailedPoll X) : Option BundleFailureReason :=
  pollReason p.get p.task p.error

/-- The preparation task of a poll died. -/
def Died (e : FetchError) : Prop := ∃ msg, e = .preparationTask msg

theorem readStream_accounted (get : Validators String → Except String BundleResponse)
    (t : BundleTask X) (f : BundleFetcher X) (stream : List (Except String (List UInt8))) :
    ∀ bytes, (Fetcher.readStream f stream bytes).Accounted (pollReason get t) := by
  induction stream with
  | nil => exact fun bytes => accounted_pure bytes
  | cons item rest ih =>
      intro bytes
      cases item with
      | error e => exact accounted_failWith rfl
      | ok chunk =>
          rw [Fetcher.readStream]
          by_cases hbig : bytes.length + chunk.length > f.limits.maxCompressedBytes
          · rw [if_pos hbig]
            exact accounted_failWith rfl
          · rw [if_neg hbig]
            exact ih _

theorem download_accounted (get : Validators String → Except String BundleResponse)
    (t : BundleTask X) (f : BundleFetcher X) (answer : Except String BundleResponse) :
    (Fetcher.download f answer).Accounted (pollReason get t) := by
  refine accounted_bind (accounted_inspectErr ?_) ?_
  · intro e he
    cases answer with
    | ok response => cases he
    | error msg =>
        cases he
        rfl
  · intro response _
    dsimp only
    by_cases hsame : response.status = notModified
    · rw [if_pos hsame]
      exact accounted_pure _
    · rw [if_neg hsame]
      refine accounted_check (fun _ => accounted_failWith rfl) ?_
      refine accounted_check (fun _ => accounted_failWith rfl) ?_
      exact accounted_bind (readStream_accounted get t f _ _) fun _ _ => accounted_pure _

/-- An archive that was downloaded is counted as it is turned down. -/
theorem prepare_accounted {get : Validators String → Except String BundleResponse}
    {f : BundleFetcher X} {d : Download} (hd : f.download (get f.validators) = .ok (some d))
    (clock : BundleClock) (taskFailure : Option String) (mode : SchemaValidationMode) :
    (Fetcher.prepare f clock taskFailure d.bytes mode).Accounted (pollReason get ⟨f, none⟩) := by
  have hreason : ∀ e, pollReason get ⟨f, none⟩ (.service e)
      = some (unreadyReason d.bytes f.signaturePolicy f.trustStore f.limits) := by
    intro e
    rw [pollReason, serviceReason]
    dsimp only
    rw [hd]
  cases taskFailure with
  | some msg =>
      refine accounted_quiet ?_
      rintro e ⟨⟩
      rfl
  | none =>
      refine accounted_bind (accounted_mapError ?_) ?_
      · intro e he
        rw [hreason, unreadyReason, he]
      · intro validated hvalidated
        rw [result_mapError, result_inspectErr, result_quiet] at hvalidated
        refine accounted_mapError ?_
        intro e _
        rw [hreason, unreadyReason, mapError_eq_ok.mp hvalidated]

theorem fetch_accounted (f : BundleFetcher X) (env : BundleFetcher.Surroundings X) :
    (Fetcher.fetch f env).Accounted (pollReason env.get ⟨f, none⟩) := by
  refine accounted_bind (download_accounted env.get ⟨f, none⟩ f _) ?_
  intro found hfound
  rw [download_result] at hfound
  cases found with
  | none => exact accounted_pure _
  | some d =>
      dsimp only
      by_cases hsame : f.archiveSha256 = some (hexSha256 X d.bytes)
      · rw [if_pos hsame]
        exact accounted_pure _
      · rw [if_neg hsame]
        by_cases hpoison : env.atRead.poisoned = true
        · rw [if_pos hpoison]
          exact accounted_failWith rfl
        · rw [if_neg hpoison]
          exact accounted_bind (prepare_accounted hfound _ _ _) fun _ _ => accounted_pure _

/-! ## The polls of a run -/

/-- A mark never fails. -/
theorem marked_result (m : StoreM X Unit) (kind : RemoteSourceKind) (s : PolicyStore X) :
    (exec (do m; markRemoteSourceLoaded kind) s).1 = (exec m s).1 := by
  rw [exec_bind]
  cases hrun : exec m s with
  | mk r s' =>
      cases r with
      | error e => rfl
      | ok u => cases kind <;> rfl

theorem failureLabel_records (reasons : List BundleFailureReason) :
    (reasons.map recordBundleFailure).filterMap Count.failureLabel
      = reasons.map BundleFailureReason.asStr := by
  rw [List.filterMap_map]
  exact congrFun List.filterMap_eq_map reasons

/-- What the end of a step of a poll owes: the reason of its error. -/
def owedByPoll (get : Validators String → Except String BundleResponse) (t : BundleTask X) :
    Option (Except FetchError Unit) → List BundleFailureReason
  | none => []
  | some r => owed (pollReason get t) r

/-- **STEP**: a step of the bundle fetcher counts the failure it ends its poll
    with, under the reason of its stage and error. -/
theorem bundleStep_accounted (get : Validators String → Except String BundleResponse)
    (clock : BundleClock) (taskFailure : Option String) (t : BundleTask X)
    (shared : SharedStore X) :
    (bundleStepCounts get clock taskFailure t shared).filterMap Count.failureLabel
      = (owedByPoll get t (bundleStep get clock taskFailure t shared).1).map
          BundleFailureReason.asStr := by
  obtain ⟨f, ready⟩ := t
  cases ready with
  | none =>
      -- up to the lock the reasons are the log of the fetch
      refine (failureLabel_records _).trans (congrArg _ ?_)
      refine (fetch_accounted f ⟨get, shared, clock, taskFailure⟩).trans ?_
      rw [fetch_result]
      simp only [bundleStep]
      cases f.fetch ⟨get, shared, clock, taskFailure⟩ with
      | error e => rfl
      | ok fetched => cases fetched <;> rfl
  | some archive =>
      -- behind it the commit fails for the lock or for the store
      obtain ⟨d, prepared⟩ := archive
      simp only [bundleStep, bundleStepCounts, SharedStore.write]
      by_cases hpoison : shared.poisoned = true
      · rw [if_pos hpoison, if_pos hpoison]
        rfl
      · rw [if_neg hpoison, if_neg hpoison, applyCounts]
        have hmarked := marked_result (applyPreparedBundle prepared) .bundle shared.value
        rw [applyBundleAndMark]
        cases hrun : exec (do applyPreparedBundle prepared; markRemoteSourceLoaded .bundle :
            StoreM X Unit) shared.value with
        | mk r s' =>
            rw [hrun] at hmarked
            rw [← hmarked]
            cases r with
            | error e => rfl
            | ok u => rfl

/-- An error that is not the service's own. -/
def Outside (e : FetchError) : Prop := ∀ e', e ≠ .service e'

theorem readStream_raises (f : BundleFetcher X) (stream : List (Except String (List UInt8))) :
    ∀ bytes, Raises Outside (f.readStream stream bytes) := by
  induction stream with
  | nil => exact fun bytes => raises_ok bytes
  | cons item rest ih =>
      intro bytes
      cases item with
      | error e => exact raises_error (fun _ he => by cases he)
      | ok chunk =>
          rw [BundleFetcher.readStream]
          by_cases hbig : bytes.length + chunk.length > f.limits.maxCompressedBytes
          · rw [if_pos hbig]
            exact raises_error (fun _ he => by cases he)
          · rw [if_neg hbig]
            exact ih _

/-- A download fails for reasons outside the service. -/
theorem download_raises (f : BundleFetcher X) (answer : Except String BundleResponse) :
    Raises Outside (f.download answer) := by
  refine Raises.bind (raises_mapError nofun) ?_
  intro response
  by_cases hsame : response.status = notModified
  · rw [if_pos hsame]
    exact raises_ok _
  · rw [if_neg hsame]
    refine raises_check nofun (raises_check nofun ?_)
    exact Raises.bind (readStream_raises f response.stream []) fun _ => raises_ok _

/-- So an error of the service is about an archive that was downloaded. -/
theorem fetch_service {f : BundleFetcher X} {env : BundleFetcher.Surroundings X}
    {e : ServiceError} (h : f.fetch env = .error (.service e)) :
    ∃ d, f.download (env.get f.validators) = .ok (some d) := by
  rw [BundleFetcher.fetch] at h
  cases hdownload : f.download (env.get f.validators) with
  | error e' =>
      rw [hdownload] at h
      cases h
      exact absurd rfl (download_raises f _ _ hdownload e)
  | ok found =>
      rw [hdownload] at h
      cases found with
      | none => cases h
      | some d => exact ⟨d, rfl⟩

/-- Only a preparation task that died leaves a failed step without a reason. -/
theorem pollReason_eq_none {get : Validators String → Except String BundleResponse}
    {clock : BundleClock} {taskFailure : Option String} {t : BundleTask X}
    {shared : SharedStore X} {e : FetchError}
    (h : (bundleStep get clock taskFailure t shared).1 = some (.error e)) :
    pollReason get t e = none ↔ Died e := by
  cases e with
  | preparationTask msg => exact ⟨fun _ => ⟨msg, rfl⟩, fun _ => rfl⟩
  | request msg => exact ⟨nofun, fun ⟨_, hdied⟩ => nomatch hdied⟩
  | status url code => exact ⟨nofun, fun ⟨_, hdied⟩ => nomatch hdied⟩
  | sizeLimit display => exact ⟨nofun, fun ⟨_, hdied⟩ => nomatch hdied⟩
  | lockPoisoned name => exact ⟨nofun, fun ⟨_, hdied⟩ => nomatch hdied⟩
  | service e =>
      refine ⟨?_, fun ⟨_, hdied⟩ => nomatch hdied⟩
      intro hnone
      obtain ⟨f, ready⟩ := t
      rw [pollReason, serviceReason] at hnone
      cases ready with
      | some archive => cases hnone
      | none =>
          -- before the bundle was ready, the archive had been downloaded
          have hfetch : f.fetch ⟨get, shared, clock, taskFailure⟩ = .error (.service e) := by
            simp only [bundleStep] at h
            revert h
            cases f.fetch ⟨get, shared, clock, taskFailure⟩ with
            | error e' =>
                intro h
                cases h
                rfl
            | ok fetched =>
                intro h
                cases fetched <;> cases h
          obtain ⟨d, hdownload⟩ := fetch_service hfetch
          dsimp only at hnone
          rw [hdownload] at hnone
          cases hnone

section Polls

variable (uploads : ι → Upload) (config : BundleRuntimeConfig X)
  (engineMode : Option BundleEngineMode)

/-- The same for any step of a poll. -/
theorem poll_step (e : Event X ι) (srv : Server X ι) :
    (if isPoll e then counts uploads config engineMode e srv else []).filterMap
        Count.failureLabel
      = ((failedPoll e srv).toList.filterMap FailedPoll.reason).map BundleFailureReason.asStr
    ∧ ∀ p, failedPoll e srv = some p → (p.reason = none ↔ Died p.error) := by
  cases e with
  | fetchBundle get clock taskFailure =>
      rw [isPoll, if_pos rfl, counts, failedPoll]
      cases srv.bundleFetcher with
      | none =>
          refine ⟨rfl, ?_⟩
          intro p hp
          cases hp
      | some t =>
          dsimp only
          rw [bundleStep_accounted]
          cases hend : (bundleStep get clock taskFailure t srv.shared).1 with
          | none => exact ⟨rfl, fun _ hp => nomatch hp⟩
          | some r =>
              cases r with
              | ok u => exact ⟨rfl, fun _ hp => nomatch hp⟩
              | error error =>
                  refine ⟨congrArg _ ?_, ?_⟩
                  · show (pollReason get t error).toList
                      = [(⟨get, t, error⟩ : FailedPoll X)].filterMap FailedPoll.reason
                    rw [List.filterMap_cons, FailedPoll.reason]
                    cases pollReason get t error <;> rfl
                  · rintro p ⟨⟩
                    exact pollReason_eq_none hend
  | fetch k net now => exact ⟨rfl, fun _ hp => nomatch hp⟩
  | upload i now => exact ⟨rfl, fun _ hp => nomatch hp⟩
  | listPolicies raw user groups namespaces => exact ⟨rfl, fun _ hp => nomatch hp⟩
  | poison => exact ⟨rfl, fun _ hp => nomatch hp⟩

variable [DecidableEq ι]

/-- **FAILED POLLS** are counted: in every run, from any server, the reasons
    that the polls of the bundle source count are, in order, those of the polls
    that failed, each determined by the stage it failed in and its error.  Only
    a poll whose preparation task died has none. -/
theorem polls_explained (events : List (Event X ι)) :
    ∀ srv : Server X ι,
      (countsOf uploads config engineMode isPoll events srv).filterMap Count.failureLabel
          = ((failedPolls uploads config engineMode events srv).filterMap
              FailedPoll.reason).map BundleFailureReason.asStr
        ∧ ∀ p ∈ failedPolls uploads config engineMode events srv,
          p.reason = none ↔ Died p.error := by
  induction events with
  | nil => exact fun srv => ⟨rfl, fun p hp => (List.not_mem_nil hp).elim⟩
  | cons e events ih =>
      intro srv
      obtain ⟨hlabels, hdied⟩ := poll_step uploads config engineMode e srv
      obtain ⟨hmore, hrest⟩ := ih (step uploads config engineMode e srv).2
      refine ⟨?_, ?_⟩
      · rw [countsOf, List.filterMap_append, hlabels, hmore, failedPolls, List.filterMap_append,
          List.map_append]
      · intro p hp
        rcases List.mem_append.mp hp with hone | hlater
        · exact hdied p (Option.mem_toList.mp hone)
        · exact hrest p hlater

end Polls

/-! ## Replacements -/

/-- No replacement is counted here. -/
def NoReload (cs : List Count) : Prop := ∀ c ∈ cs, c ≠ .bundleReload ∧ c ≠ .schemaReload

theorem NoReload.counts {cs : List Count} (h : NoReload cs) :
    cs.count .bundleReload = 0 ∧ cs.count .schemaReload = 0 :=
  ⟨List.count_eq_zero.mpr fun hmem => (h _ hmem).1 rfl,
    List.count_eq_zero.mpr fun hmem => (h _ hmem).2 rfl⟩

theorem noReload_nil : NoReload [] := fun _ h => nomatch h

theorem noReload_failures (reasons : List BundleFailureReason) :
    NoReload (reasons.map recordBundleFailure) := by
  intro c hc
  obtain ⟨reason, _, rfl⟩ := List.mem_map.mp hc
  exact ⟨nofun, nofun⟩

theorem noReload_runtimeSchema (dsl : String) (schema : Option X.CedarSchema) :
    NoReload (runtimeSchemaCounts X dsl schema) := by
  cases schema with
  | none => exact noReload_nil
  | some schema =>
      rw [runtimeSchemaCounts]
      cases validatePoliciesWithSchema X dsl schema with
      | ok u => exact noReload_nil
      | error e =>
          intro c hc
          rw [List.mem_singleton.mp hc]
          exact ⟨nofun, nofun⟩

theorem noReload_setDsl (now : Timestamp) (dsl : String) (source : Option Endpoint)
    (refreshFrequency : Option UInt32) (s : PolicyStore X) :
    NoReload (setDslCounts now dsl source refreshFrequency s) := by
  unfold setDslCounts
  dsimp only
  split
  · exact noReload_nil
  · exact noReload_runtimeSchema dsl _

theorem noReload_setLabels (labels : String) (s : PolicyStore X) :
    NoReload (setLabelsCounts labels s) := by
  unfold setLabelsCounts
  dsimp only
  split
  · exact noReload_nil
  · exact noReload_runtimeSchema _ _

/-- One, if it went well. -/
def oneIf (b : Bool) : Nat := if b then 1 else 0

/-- A schema update counts its replacement exactly where it succeeds. -/
theorem setSchemaCounts_reload (now : Timestamp) (schema : String) (source : Option Endpoint)
    (refreshFrequency : Option UInt32) (s : PolicyStore X) :
    (setSchemaCounts now schema source refreshFrequency s).count .bundleReload = 0
      ∧ (setSchemaCounts now schema source refreshFrequency s).count .schemaReload
        = oneIf (exec (setSchema now schema source refreshFrequency) s).1.isOk := by
  have hruntime := fun parsed => (noReload_runtimeSchema (X := X) s.policies.content
    (some parsed)).counts
  rcases setSchema_cases s now schema source refreshFrequency with ⟨e, hno⟩ | ⟨u, s', hrun, hok⟩
  · -- wherever it was refused, a mismatch is all it may have counted
    rw [setSchemaCounts, hno]
    cases Metadata.new X .ofSchema now schema (source.or s.schema.source)
        (refreshFrequency.or s.schema.refreshFrequency) with
    | error e => exact ⟨rfl, rfl⟩
    | ok metadata =>
        cases parseSchema X schema with
        | error e => exact ⟨rfl, rfl⟩
        | ok parsed =>
            cases ensureLabelsFitSchema s schema with
            | error e => exact ⟨rfl, rfl⟩
            | ok u =>
                dsimp only
                rw [List.append_nil]
                exact ⟨(hruntime parsed).1, (hruntime parsed).2⟩
  · obtain ⟨metadata, parsed, _, _, hmd, hparsed, hfit, _, _⟩ := hok
    rw [setSchemaCounts, hmd, hrun]
    dsimp only
    rw [hparsed]
    dsimp only
    rw [hfit]
    dsimp only
    rw [List.count_append, List.count_append, (hruntime parsed).1, (hruntime parsed).2]
    exact ⟨rfl, rfl⟩

/-- So does the application of a bundle. -/
theorem applyCounts_reload (prepared : PreparedBundle X) (s : PolicyStore X) :
    (applyCounts prepared s).count .bundleReload
        = oneIf (exec (applyPreparedBundle prepared) s).1.isOk
      ∧ (applyCounts prepared s).count .schemaReload = 0 := by
  rw [applyCounts]
  cases (exec (applyPreparedBundle prepared) s).1 with
  | error e => exact ⟨rfl, rfl⟩
  | ok u => exact ⟨rfl, rfl⟩

/-- The replacements that are counted are those of the outcome. -/
def ReloadsAgree (cs : List Count) (o : Outcome X) : Prop :=
  cs.count .bundleReload = o.publication.toList.countP isBundle
    ∧ cs.count .schemaReload = o.publication.toList.countP isSchema

theorem reloadsAgree_nothing {cs : List Count} (h : NoReload cs) :
    ReloadsAgree cs (.nothing : Outcome X) := h.counts

/-- What a result publishes: a bundle, a schema, or something nobody counts. -/
theorem reloadsAgree_publishing {ε α : Type} {cs : List Count} {p : Publication X}
    {r : Except ε α} (hb : cs.count .bundleReload = oneIf (r.isOk && isBundle p))
    (hs : cs.count .schemaReload = oneIf (r.isOk && isSchema p)) :
    ReloadsAgree cs (publishing p r) := by
  rw [ReloadsAgree, hb, hs]
  cases r with
  | error e => exact ⟨rfl, rfl⟩
  | ok a =>
      show oneIf (isBundle p) = List.countP isBundle [p]
        ∧ oneIf (isSchema p) = List.countP isSchema [p]
      rw [List.countP_singleton, List.countP_singleton]
      exact ⟨rfl, rfl⟩

/-- A component other than the schema is published without a reload. -/
theorem reloadsAgree_component {ε α : Type} (k : Component) (hk : k ≠ .schema) {text : String}
    {cs : List Count} (h : NoReload cs) (r : Except ε α) :
    ReloadsAgree cs (publishing (.component k text : Publication X) r) := by
  refine reloadsAgree_publishing ?_ ?_
  · rw [h.counts.1, isBundle, Bool.and_false]
    rfl
  · rw [h.counts.2, isSchema, decide_eq_false hk, Bool.and_false]
    rfl

theorem isOk_mapError {ε ε' α : Type} (r : Except ε α) (g : ε → ε') :
    (r.mapError g).isOk = r.isOk := by
  cases r <;> rfl

/-- What an adapter counts is what it publishes. -/
theorem adapter_reloads (k : Component) (now : Timestamp) (body : String)
    (shared : SharedStore X) :
    ReloadsAgree (if shared.poisoned then [] else updateCounts k now body shared.value)
      (publishing (.component k body)
        ((k.adapter X).applySuccessfulResponse now body shared).1 : Outcome X) := by
  by_cases hpoison : shared.poisoned = true
  · rw [if_pos hpoison]
    cases k <;>
    · simp only [Component.adapter, PolicyFetchAdapter, LabelFetchAdapter, SchemaFetchAdapter,
        SharedStore.write, if_pos hpoison]
      exact ⟨rfl, rfl⟩
  · rw [if_neg hpoison]
    cases k with
    | policies =>
        exact reloadsAgree_component .policies (by decide)
          (noReload_setDsl now body none none shared.value) _
    | labels =>
        exact reloadsAgree_component .labels (by decide) (noReload_setLabels body shared.value) _
    | schema =>
        have hcounts := setSchemaCounts_reload now body none none shared.value
        refine reloadsAgree_publishing ?_ ?_
        · rw [updateCounts, hcounts.1, isBundle, Bool.and_false]
          rfl
        · simp only [Component.adapter, SchemaFetchAdapter, SharedStore.write, if_neg hpoison,
            applyAndMark, marked_result, isOk_mapError]
          rw [updateCounts, hcounts.2, isSchema, decide_eq_true rfl, Bool.and_true]

/-- What the bundle fetcher counts is what it publishes. -/
theorem bundleStep_reloads (get : Validators String → Except String BundleResponse)
    (clock : BundleClock) (taskFailure : Option String) (t : BundleTask X)
    (shared : SharedStore X) :
    ReloadsAgree (bundleStepCounts get clock taskFailure t shared)
      (bundleFetched t (bundleStep get clock taskFailure t shared).1) := by
  obtain ⟨f, ready⟩ := t
  cases ready with
  | none => exact reloadsAgree_nothing (noReload_failures _)
  | some archive =>
      obtain ⟨d, prepared⟩ := archive
      simp only [bundleStep, bundleStepCounts, SharedStore.write]
      by_cases hpoison : shared.poisoned = true
      · rw [if_pos hpoison, if_pos hpoison]
        exact reloadsAgree_nothing (noReload_failures [.store])
      · rw [if_neg hpoison, if_neg hpoison]
        obtain ⟨hb, hs⟩ := applyCounts_reload prepared shared.value
        have hmarked := marked_result (applyPreparedBundle prepared) .bundle shared.value
        rw [applyBundleAndMark]
        cases hrun : exec (do applyPreparedBundle prepared; markRemoteSourceLoaded .bundle :
            StoreM X Unit) shared.value with
        | mk r s' =>
            rw [hrun] at hmarked
            rw [← hmarked] at hb
            cases r with
            | error e => exact ⟨hb, hs⟩
            | ok u => exact ⟨hb, hs⟩

/-- A checked update goes well if its check and its update do. -/
theorem isOk_checked (headers : HeaderMap) (m : StoreM X Unit) (s : PolicyStore X) :
    (exec (do
      checkIndependentUpload headers (← get)
      m
      return (← get).metadata : StoreM X PoliciesMetadata) s).1.isOk
      = ((checkIndependentUpload headers s).isOk && (exec m s).1.isOk) := by
  rw [exec_bind_get]
  cases checkIndependentUpload headers s with
  | error e =>
      rw [exec_bind_lift_error]
      rfl
  | ok u =>
      rw [exec_bind_lift_ok, exec_bind]
      cases hrun : exec m s with
      | mk r s' => cases r <;> rfl

/-- What the commit of an upload counts is what it publishes. -/
theorem commit_reloads (headers : HeaderMap) (now : Timestamp) (c : Candidate X)
    (shared : SharedStore X) :
    ReloadsAgree (candidateCounts headers now c shared)
      (publishing (publicationOf c) (writeStore shared (c.commit headers now)).1) := by
  unfold candidateCounts
  rw [writeStore]
  by_cases hpoison : shared.poisoned = true
  · rw [if_pos hpoison, if_pos hpoison]
    exact reloadsAgree_nothing noReload_nil
  · rw [if_neg hpoison, if_neg hpoison]
    cases c with
    | policies dslString =>
        cases checkIndependentUpload headers shared.value with
        | error e => exact reloadsAgree_component .policies (by decide) noReload_nil _
        | ok u =>
            exact reloadsAgree_component .policies (by decide)
              (noReload_setDsl now dslString none none shared.value) _
    | schema schemaString =>
        -- whether the check passes or the update fails, the reload is the success
        obtain ⟨hb, hs⟩ := setSchemaCounts_reload now schemaString none none shared.value
        have hok := isOk_checked headers (setSchema now schemaString none none) shared.value
        rw [← Candidate.commit] at hok
        cases hcheck : checkIndependentUpload headers shared.value with
        | error e =>
            rw [hcheck] at hok
            refine reloadsAgree_publishing ?_ ?_
            · rw [publicationOf, isBundle, Bool.and_false]
              rfl
            · rw [hok]
              rfl
        | ok u =>
            rw [hcheck] at hok
            refine reloadsAgree_publishing ?_ ?_
            · rw [publicationOf, isBundle, Bool.and_false]
              exact hb
            · rw [hok, publicationOf, isSchema, decide_eq_true rfl, Bool.and_true]
              exact hs
    | bundle prepared response =>
        obtain ⟨hb, hs⟩ := applyCounts_reload prepared shared.value
        rw [Candidate.commit, exec_bind_get, exec_bind_get]
        cases checkUploadAuth headers shared.value.allowUpload shared.value.uploadToken with
        | error e =>
            rw [exec_bind_lift_error]
            exact ⟨rfl, rfl⟩
        | ok u =>
            rw [exec_bind_lift_ok, exec_bind_get, exec_bind_get, exec_bind]
            cases hrun : exec (applyPreparedBundle prepared) shared.value with
            | mk r s' =>
                rw [hrun] at hb
                cases r with
                | error e => exact ⟨hb, hs⟩
                | ok u => exact ⟨hb, hs⟩

variable [DecidableEq ι] (uploads : ι → Upload) (config : BundleRuntimeConfig X)
  (engineMode : Option BundleEngineMode)

/-- What the step of a request counts is what it publishes. -/
theorem upload_reloads (i : ι) (now : Timestamp) (svc : Service X ι) :
    ReloadsAgree (uploadCounts uploads config engineMode i now svc)
      (uploaded (svc.phase i) ((svc.advance uploads config engineMode i now).phase i)) := by
  rw [uploadCounts]
  cases hphase : svc.phase i with
  | received => exact reloadsAgree_nothing noReload_nil
  | checked captured => exact reloadsAgree_nothing (noReload_failures _)
  | answered r => exact reloadsAgree_nothing noReload_nil
  | prepared c =>
      have hadvance : (svc.advance uploads config engineMode i now).phase i
          = .answered (writeStore svc.shared (c.commit (uploads i).headers now)).1 := by
        rw [Service.advance, hphase]
        exact Function.update_self ..
      rw [hadvance]
      exact commit_reloads (uploads i).headers now c svc.shared

/-- **STEP**: replacements are counted as they are published. -/
theorem step_reloads (e : Event X ι) (srv : Server X ι) :
    ReloadsAgree (counts uploads config engineMode e srv)
      (step uploads config engineMode e srv).1 := by
  cases e with
  | fetch k net now =>
      rw [counts, step]
      cases srv.fetchers k with
      | none => exact reloadsAgree_nothing noReload_nil
      | some t =>
          obtain ⟨f, phase⟩ := t
          cases phase with
          | idle => exact reloadsAgree_nothing noReload_nil
          | headDone => exact reloadsAgree_nothing noReload_nil
          | bodyRead body newHash =>
              have hadapter := adapter_reloads k now body srv.shared
              simp only [fetcherStep, GenericFetcher.onApply]
              cases hrun : (k.adapter X).applySuccessfulResponse now body srv.shared with
              | mk r shared' =>
                  rw [hrun] at hadapter
                  cases r <;> exact hadapter
  | fetchBundle get clock taskFailure =>
      rw [counts, step]
      cases srv.bundleFetcher with
      | none => exact reloadsAgree_nothing noReload_nil
      | some t => exact bundleStep_reloads get clock taskFailure t srv.shared
  | upload i now => exact upload_reloads uploads config engineMode i now srv.service
  | listPolicies raw user groups namespaces =>
      show ReloadsAgree [] _
      rw [step]
      cases readStore srv.shared <;> exact reloadsAgree_nothing noReload_nil
  | poison => exact reloadsAgree_nothing noReload_nil

/-- **REPLACEMENTS** are counted exactly as they happen: in every run, from any
    server, there are as many bundle reloads as bundles published, and as many
    schema reloads as schemas published on their own. -/
theorem reloads_counted (events : List (Event X ι)) :
    ∀ srv : Server X ι,
      (allCounts uploads config engineMode events srv).count .bundleReload
          = (publications uploads config engineMode events srv).countP isBundle
        ∧ (allCounts uploads config engineMode events srv).count .schemaReload
          = (publications uploads config engineMode events srv).countP isSchema := by
  induction events with
  | nil => exact fun srv => ⟨rfl, rfl⟩
  | cons e events ih =>
      intro srv
      obtain ⟨hb, hs⟩ := step_reloads uploads config engineMode e srv
      obtain ⟨hmoreb, hmores⟩ := ih (step uploads config engineMode e srv).2
      rw [TreetopServerRuns.publications_cons, List.countP_append, List.countP_append, ← hb, ← hs,
        ← hmoreb, ← hmores, allCounts, countsOf, if_pos rfl, List.count_append, List.count_append]
      exact ⟨rfl, rfl⟩

end TreetopServiceMetrics
