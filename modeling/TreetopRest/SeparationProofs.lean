import TreetopRest.OriginProofs
import TreetopRest.Lib.PurgeProofs

/-! # Requests without the token do not interfere

    An upload request that is not entitled (uploads are off, or it does not
    present the token, or it is no bundle in bundle mode) is turned down at its
    check and takes no further step.  Nobody else can tell whether it was ever
    made: the run without all such requests publishes the same, lists the
    same, and ends with the same store, the same fetchers and the same state
    of every other request (`unentitled_unseen`). -/

namespace TreetopSeparation

open FallibleState UpdateRun Purge
open TreetopErrors TreetopCrates TreetopMetadata TreetopWire TreetopStore
open TreetopFetcher TreetopBundleFetcher TreetopSections TreetopRequest TreetopUpload
open TreetopAdmission TreetopConfig TreetopServer TreetopServerSteps TreetopLaunch
open TreetopServerRuns TreetopOrigins
open TreetopUploadSafety (Service Phase presentedToken archiveUpload)

variable {X : Crates} {N : NetCrate} {K : KeyCrate X} {ι : Type} {host : Host}
  {now : Timestamp} {token : String} {config : Config} {l : Launched X N} {uploads : ι → Upload}

/-! ## Hidden steps -/

/-- The request is entitled to upload, as a test. -/
def entitled (config : Config) (token : String) (u : Upload) : Bool :=
  config.allowUpload && (presentedToken u.headers == some token
    && (u.isBundle || config.bundleUrl.isNone))

theorem entitled_iff {u : Upload} :
    entitled config token u = true ↔ Entitled config token u := by
  rw [entitled, Bool.and_eq_true, Bool.and_eq_true, beq_iff_eq, Bool.or_eq_true]
  constructor
  · rintro ⟨hallow, htoken, hkind⟩
    refine ⟨hallow, htoken, ?_⟩
    intro hnot
    rcases hkind with hbundle | hnone
    · rw [hnot] at hbundle
      cases hbundle
    · exact Option.isNone_iff_eq_none.mp hnone
  · intro h
    refine ⟨h.allowed, h.token, ?_⟩
    cases hkind : u.isBundle with
    | true => exact Or.inl rfl
    | false => exact Or.inr (Option.isNone_iff_eq_none.mpr (h.independent hkind))

/-- The step of a request that is not entitled. -/
def unentitled (config : Config) (token : String) (uploads : ι → Upload) : Event X ι → Bool
  | .upload i _ => !entitled config token (uploads i)
  | _ => false

/-- Two servers that differ at most in requests that are not entitled. -/
structure SameForOthers (config : Config) (token : String) (uploads : ι → Upload)
    (srv srv' : Server X ι) : Prop where
  fetchers : srv.fetchers = srv'.fetchers
  bundleFetcher : srv.bundleFetcher = srv'.bundleFetcher
  shared : srv.shared = srv'.shared
  requests : ∀ i, entitled config token (uploads i) = true →
    srv.service.phase i = srv'.service.phase i

theorem SameForOthers.refl (srv : Server X ι) : SameForOthers config token uploads srv srv :=
  ⟨rfl, rfl, rfl, fun _ _ => rfl⟩

/-- Something was delivered for everything that is under way. -/
def Reachable (config : Config) (l : Launched X N) (uploads : ι → Upload) (srv : Server X ι) :
    Prop := ∃ past, Underway config l uploads past srv

/-- A request that is not entitled never gets past its check. -/
theorem unentitled_phase (hl : LaunchedFor K host token config l) (htoken : token ≠ "")
    {srv : Server X ι} (hr : Reachable config l uploads srv) {i : ι}
    (hi : entitled config token (uploads i) = false) :
    srv.service.phase i = .received ∨ ∃ r, srv.service.phase i = .answered r := by
  obtain ⟨past, hu⟩ := hr
  have hcarried := hu.requests i
  have hnever : ∀ captured, (uploads i).check l.store ≠ .ok captured := by
    intro captured hcheck
    have hentitled := entitled_iff.mpr (check_entitled hl htoken hcheck).1
    rw [hi] at hentitled
    cases hentitled
  cases hphase : srv.service.phase i with
  | received => exact Or.inl rfl
  | checked captured =>
      rw [hphase] at hcarried
      exact absurd hcarried (hnever captured)
  | prepared c =>
      rw [hphase] at hcarried
      obtain ⟨captured, hcheck, _⟩ := hcarried
      exact absurd hcheck (hnever captured)
  | answered r => exact Or.inr ⟨r, rfl⟩

variable [DecidableEq ι]

/-! ## Unwinding -/

section Advance

variable (uploads : ι → Upload) (runtime : BundleRuntimeConfig X)
  (engineMode : Option BundleEngineMode)

/-- What a request's step does depends on its phase and on the store. -/
theorem advance_congr {svc svc' : Service X ι} {i : ι} (hphase : svc.phase i = svc'.phase i)
    (hshared : svc.shared = svc'.shared) (at' : Timestamp) :
    (svc.advance uploads runtime engineMode i at').shared
        = (svc'.advance uploads runtime engineMode i at').shared
      ∧ (svc.advance uploads runtime engineMode i at').phase i
        = (svc'.advance uploads runtime engineMode i at').phase i := by
  have hput : ∀ p shared, (svc.put i p shared).phase i = (svc'.put i p shared).phase i := by
    intro p shared
    show Function.update svc.phase i p i = Function.update svc'.phase i p i
    rw [Function.update_self, Function.update_self]
  rw [Service.advance, Service.advance, ← hphase, ← hshared]
  cases hp : svc.phase i with
  | received =>
      dsimp only
      cases (readStore svc.shared).bind (uploads i).check with
      | error e => exact ⟨rfl, hput _ _⟩
      | ok captured => exact ⟨rfl, hput _ _⟩
  | checked captured =>
      dsimp only
      cases (uploads i).prepare runtime engineMode captured with
      | error e => exact ⟨rfl, hput _ _⟩
      | ok c => exact ⟨rfl, hput _ _⟩
  | prepared c => exact ⟨rfl, hput _ _⟩
  | answered r => exact ⟨hshared, hphase⟩

/-- The step of a request that is at its check, and fails it, or that has been
    answered, leaves the store alone. -/
theorem advance_idle {svc : Service X ι} {i : ι}
    (h : svc.phase i = .received ∨ ∃ r, svc.phase i = .answered r) (at' : Timestamp) :
    (svc.advance uploads runtime engineMode i at').shared = svc.shared := by
  rw [Service.advance]
  rcases h with hphase | ⟨r, hphase⟩
  · rw [hphase]
    dsimp only
    cases (readStore svc.shared).bind (uploads i).check <;> rfl
  · rw [hphase]

end Advance

/-- The server's step on servers that differ in requests that are not entitled. -/
theorem step_same {srv srv' : Server X ι} (h : SameForOthers config token uploads srv srv')
    {e : Event X ι} (he : unentitled config token uploads e = false) :
    (step uploads l.bundleRuntime (some l.bundleEngineMode) e srv).1
        = (step uploads l.bundleRuntime (some l.bundleEngineMode) e srv').1
      ∧ SameForOthers config token uploads
        (step uploads l.bundleRuntime (some l.bundleEngineMode) e srv).2
        (step uploads l.bundleRuntime (some l.bundleEngineMode) e srv').2 := by
  obtain ⟨fetchers, bundleFetcher, ⟨phase, shared⟩⟩ := srv
  obtain ⟨fetchers', bundleFetcher', ⟨phase', shared'⟩⟩ := srv'
  obtain ⟨hf, hb, hs, hr⟩ := h
  have hf : fetchers = fetchers' := hf
  have hb : bundleFetcher = bundleFetcher' := hb
  have hs : shared = shared' := hs
  subst hf hb hs
  cases e with
  | fetch k net at' =>
      simp only [step]
      cases fetchers k with
      | none => exact ⟨rfl, rfl, rfl, rfl, hr⟩
      | some t => exact ⟨rfl, rfl, rfl, rfl, hr⟩
  | fetchBundle get clock taskFailure =>
      simp only [step]
      cases bundleFetcher with
      | none => exact ⟨rfl, rfl, rfl, rfl, hr⟩
      | some t => exact ⟨rfl, rfl, rfl, rfl, hr⟩
  | upload i at' =>
      have hi : entitled config token (uploads i) = true := by
        rwa [unentitled, Bool.not_eq_false'] at he
      have hphase : phase i = phase' i := hr i hi
      have hsvc : (⟨phase, shared⟩ : Service X ι).phase i
          = (⟨phase', shared⟩ : Service X ι).phase i := hphase
      obtain ⟨hshared, hafter⟩ := advance_congr uploads l.bundleRuntime
        (some l.bundleEngineMode) hsvc rfl at'
      refine ⟨?_, rfl, rfl, hshared, ?_⟩
      · show uploaded (phase i) _ = uploaded (phase' i) _
        rw [hphase]
        exact congrArg (uploaded (phase' i)) hafter
      · intro j hj
        by_cases hji : j = i
        · subst hji
          exact hafter
        · show (Service.advance _ _ _ ⟨phase, shared⟩ i at').phase j
            = (Service.advance _ _ _ ⟨phase', shared⟩ i at').phase j
          rw [advance_ne _ _ _ _ hji, advance_ne _ _ _ _ hji]
          exact hr j hj
  | listPolicies raw user groups namespaces =>
      simp only [step, Server.shared]
      cases readStore shared with
      | error e => exact ⟨rfl, rfl, rfl, rfl, hr⟩
      | ok s => exact ⟨rfl, rfl, rfl, rfl, hr⟩
  | poison => exact ⟨rfl, rfl, rfl, rfl, hr⟩

/-- **UNWINDING**: steps of requests that are not entitled are hidden from
    everybody else. -/
theorem unwinding (hl : LaunchedFor K host token config l) (htoken : token ≠ "") :
    Unwinding (step uploads l.bundleRuntime (some l.bundleEngineMode))
      (unentitled config token uploads) (Reachable config l uploads)
      (SameForOthers config token uploads) where
  keeps := by
    rintro srv e ⟨past, hu⟩
    exact ⟨past ++ [e], step_underway hl htoken hu e⟩
  hides := by
    intro srv srv' e he hr hsame
    cases e with
    | upload i at' =>
        have hi : entitled config token (uploads i) = false := by
          rwa [unentitled, Bool.not_eq_true'] at he
        refine ⟨hsame.fetchers, hsame.bundleFetcher, ?_, ?_⟩
        · exact (advance_idle _ _ _ (unentitled_phase hl htoken hr hi) at').trans hsame.shared
        · intro j hj
          have hne : j ≠ i := by
            rintro rfl
            rw [hi] at hj
            cases hj
          exact (advance_ne _ _ _ _ hne at').trans (hsame.requests j hj)
    | fetch k net at' => cases he
    | fetchBundle get clock taskFailure => cases he
    | listPolicies raw user groups namespaces => cases he
    | poison => cases he
  shows := fun _ _ _ he _ _ hsame => step_same hsame he

/-! ## Runs -/

/-- The upload of the archive, and one of policies under a wrong token. -/
def twoUploads : Bool → Upload
  | true => archiveUpload ()
  | false => .policies [("x-upload-token", ⟨[120]⟩)] (Text.asBytes TreetopSample.permitAll.toList)

/-- The two of them, and a listing, interleaved. -/
def mixedRun : List (Event TreetopSample.small Bool) :=
  [.upload true 1, .upload false 1, .upload true 2, .listPolicies true "alice" [] [],
    .upload true 3, .upload false 2]

/-- **SEPARATION**: delete from a run every step of a request that is not
    entitled.  Every other step answers and publishes as before, and the store
    and its lock, the fetchers and all other requests end as before. -/
theorem unentitled_unseen (h : launch X N K host now token config = .ok (some l))
    (htoken : token ≠ "") (events : List (Event X ι)) :
    SameForOthers config token uploads (running uploads l events)
      (running uploads l (purge (unentitled config token uploads) events))
    ∧ (trace (step uploads l.bundleRuntime (some l.bundleEngineMode)) events
        (Server.start l)).filter (fun e => !unentitled config token uploads e.1)
      = trace (step uploads l.bundleRuntime (some l.bundleEngineMode))
        (purge (unentitled config token uploads) events) (Server.start l) := by
  have hl := launch_spec h
  have hstart : Reachable config l uploads (Server.start l) := ⟨[], underway_start hl⟩
  exact ⟨final_purge (unwinding hl htoken) events _ _ hstart hstart (.refl _),
    trace_purge (unwinding hl htoken) events _ _ hstart hstart (.refl _)⟩

/-- Without the request that has the wrong token. -/
theorem unentitled_unseen_bundle :
    purge (unentitled bundleConfig "t" twoUploads) mixedRun
        = [.upload true 1, .upload true 2, .listPolicies true "alice" [] [], .upload true 3]
      ∧ SameForOthers bundleConfig "t" twoUploads (running twoUploads bundleServer mixedRun)
        (running twoUploads bundleServer (purge (unentitled bundleConfig "t" twoUploads) mixedRun))
      ∧ (trace (step twoUploads bundleServer.bundleRuntime (some bundleServer.bundleEngineMode))
            mixedRun (Server.start bundleServer)).filter
          (fun e => !unentitled bundleConfig "t" twoUploads e.1)
        = trace (step twoUploads bundleServer.bundleRuntime (some bundleServer.bundleEngineMode))
          (purge (unentitled bundleConfig "t" twoUploads) mixedRun) (Server.start bundleServer) :=
  ⟨rfl, unentitled_unseen launch_bundleServer (by decide) mixedRun⟩

/-! ## Refusals -/

/-- The errors a request that is not entitled is answered with. -/
def Refusal (config : Config) (e : ServiceError) : Prop :=
  e = (if config.allowUpload then .invalidUploadToken else .uploadNotAllowed)
    ∨ (e = .bundleModeConflict ∧ config.bundleUrl.isSome = true) ∨ e = lockPoison

omit [DecidableEq ι] in
/-- What a check says no with, in a store with the settings of the launch. -/
theorem check_refusal (hl : LaunchedFor K host token config l) {u : Upload} {e : ServiceError}
    (hcheck : u.check l.store = .error e) : Refusal config e := by
  have hauth : ∀ headers e, checkUploadAuth headers l.store.allowUpload l.store.uploadToken
      = .error e → Refusal config e := by
    intro headers e herr
    refine Or.inl ?_
    rw [hl.allowUpload, hl.uploadToken] at herr
    cases hallow : config.allowUpload with
    | false =>
        rw [hallow] at herr
        cases herr
        rfl
    | true =>
        rw [hallow, if_pos rfl, checkUploadAuth, if_neg (by decide)] at herr
        by_cases hbad : (headers.get "x-upload-token").all
            (fun h => h.toStr.getD "" != token) = true
        · rw [if_pos hbad] at herr
          cases herr
          rfl
        · rw [if_neg hbad] at herr
          cases herr
  have hindependent : ∀ headers e, checkIndependentUpload headers l.store = .error e →
      Refusal config e := by
    intro headers e herr
    rcases bind_eq_error.mp herr with hfail | ⟨_, _, hmode⟩
    · exact hauth headers e hfail
    · refine Or.inr (Or.inl ?_)
      rw [← hl.bundleUrlMode]
      cases hurl : l.store.bundleUrlMode with
      | false =>
          rw [hurl] at hmode
          cases hmode
      | true =>
          rw [hurl] at hmode
          cases hmode
          exact ⟨rfl, rfl⟩
  cases u with
  | policies headers body =>
      rcases bind_eq_error.mp hcheck with hfail | ⟨_, _, hend⟩
      · exact hindependent headers e hfail
      · cases hend
  | schema headers body =>
      rcases bind_eq_error.mp hcheck with hfail | ⟨_, _, hend⟩
      · exact hindependent headers e hfail
      · cases hend
  | bundle headers payload clock taskFailure =>
      rcases bind_eq_error.mp hcheck with hfail | ⟨_, _, hend⟩
      · exact hauth headers e hfail
      · cases hend

omit [DecidableEq ι] in
/-- Who reads the store reads the server's. -/
theorem readStore_value {srv : Server X ι} {s : PolicyStore X}
    (h : readStore srv.service.shared = .ok s) : s = srv.store := by
  rw [readStore] at h
  by_cases hpoison : srv.service.shared.poisoned = true
  · rw [if_pos hpoison] at h
    cases h
  · rw [if_neg hpoison] at h
    cases h
    rfl

/-- **REFUSAL**: a request that is not entitled is answered by its handler with
    one of these errors, if it is answered at all.  One that admission or the
    extractor of its body refuses never gets to the handler. -/
theorem unentitled_refused (h : launch X N K host now token config = .ok (some l))
    (htoken : token ≠ "") (events : List (Event X ι)) (i : ι)
    (hi : entitled config token (uploads i) = false)
    (r : Except ServiceError PoliciesMetadata)
    (hr : (running uploads l events).service.phase i = .answered r) :
    ∃ e, r = .error e ∧ Refusal config e := by
  have hl := launch_spec h
  have hall : (running uploads l events).service.phase i = .received
      ∨ ∃ e, (running uploads l events).service.phase i = .answered (.error e)
        ∧ Refusal config e := by
    refine running_induct (fun _ srv => srv.service.phase i = .received
      ∨ ∃ e, srv.service.phase i = .answered (.error e) ∧ Refusal config e) (Or.inl rfl) ?_ events
    intro past e ih
    have hu : Underway config l uploads past (running uploads l past) :=
      run_underway hl htoken past
    -- a step of anyone else leaves the request where it is
    have hother : (step uploads l.bundleRuntime (some l.bundleEngineMode) e
        (running uploads l past)).2.service.phase i = (running uploads l past).service.phase i →
        (step uploads l.bundleRuntime (some l.bundleEngineMode) e
          (running uploads l past)).2.service.phase i = .received
        ∨ ∃ err, (step uploads l.bundleRuntime (some l.bundleEngineMode) e
          (running uploads l past)).2.service.phase i = .answered (.error err)
          ∧ Refusal config err := by
      intro hsame
      rw [hsame]
      exact ih
    cases e with
    | fetch k net at' =>
        refine hother ?_
        simp only [step]
        cases (running uploads l past).fetchers k <;> rfl
    | fetchBundle get clock taskFailure =>
        refine hother ?_
        simp only [step]
        cases (running uploads l past).bundleFetcher <;> rfl
    | listPolicies raw user groups namespaces =>
        refine hother ?_
        simp only [step]
        cases readStore (running uploads l past).shared <;> rfl
    | poison => exact hother rfl
    | upload j at' =>
        by_cases hj : i = j
        · subst hj
          rcases ih with hphase | ⟨err, hphase, href⟩
          · refine Or.inr ?_
            have hput : ∀ p shared, ((running uploads l past).service.put i p shared).phase i = p :=
              fun p shared => Function.update_self ..
            show ∃ err, (Service.advance _ _ _ (running uploads l past).service i at').phase i
              = .answered (.error err) ∧ Refusal config err
            rw [Service.advance, hphase]
            dsimp only
            cases hcheck : (readStore (running uploads l past).service.shared).bind
                (uploads i).check with
            | error err =>
                refine ⟨err, hput _ _, ?_⟩
                rcases bind_eq_error.mp hcheck with hread | ⟨s, hread, hfail⟩
                · refine Or.inr (Or.inr ?_)
                  rw [readStore] at hread
                  by_cases hpoison : (running uploads l past).service.shared.poisoned = true
                  · rw [if_pos hpoison] at hread
                    cases hread
                    rfl
                  · rw [if_neg hpoison] at hread
                    cases hread
                · rw [readStore_value hread] at hfail
                  rw [check_congr hu.inOrder.settings] at hfail
                  exact check_refusal hl hfail
            | ok captured =>
                obtain ⟨s, hread, hcheck⟩ := bind_eq_ok.mp hcheck
                rw [readStore_value hread, check_congr hu.inOrder.settings] at hcheck
                have hentitled := entitled_iff.mpr (check_entitled hl htoken hcheck).1
                rw [hi] at hentitled
                cases hentitled
          · refine Or.inr ⟨err, ?_, href⟩
            show (Service.advance _ _ _ (running uploads l past).service i at').phase i = _
            rw [Service.advance, hphase]
            exact hphase
        · exact hother (advance_ne _ _ _ _ hj at')
  rcases hall with hreceived | ⟨e, hanswered, href⟩
  · rw [hr] at hreceived
    cases hreceived
  · rw [hr] at hanswered
    cases hanswered
    exact ⟨e, rfl, href⟩

/-- The request that has the wrong token. -/
theorem unentitled_refused_bundle :
    ∃ e, (running twoUploads bundleServer mixedRun).service.phase false = .answered (.error e)
      ∧ Refusal bundleConfig e := by
  have hphase : (running twoUploads bundleServer mixedRun).service.phase false
      = .answered (.error .invalidUploadToken) := rfl
  obtain ⟨e, he, href⟩ := unentitled_refused launch_bundleServer (by decide) mixedRun false rfl _
    hphase
  cases he
  exact ⟨.invalidUploadToken, hphase, href⟩

end TreetopSeparation
