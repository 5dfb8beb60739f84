import TreetopRest.OriginProofs

/-! # The second check of an upload

    An upload is checked under the read lock, worked on with no lock held, and
    checked again under the write lock, because the settings could have changed
    in between.  In a launched server they never do: the second check is a
    NO-OP (`recheck_passes`).  And what was prepared was prepared for the mode
    it is committed in, so a bundle that got that far, by upload or by the
    bundle fetcher, is never turned down (`prepared_bundle_commits`). -/

namespace TreetopRechecks

open FallibleState UpdateRun
open TreetopErrors TreetopCrates TreetopMetadata TreetopWire TreetopStore
open TreetopFetcher TreetopBundleFetcher TreetopSections TreetopRequest TreetopUpload
open TreetopAdmission TreetopConfig TreetopServer TreetopServerSteps TreetopLaunch
open TreetopServerRuns TreetopOrigins
open TreetopUploadSafety (Service Phase prepare_bundle archiveUpload)

variable {X : Crates} {N : NetCrate} {K : KeyCrate X} {ι : Type} [DecidableEq ι]
  {host : Host} {now : Timestamp} {token : String} {config : Config} {l : Launched X N}
  {uploads : ι → Upload}

/-! ## Without the second check -/

/-- The update of a candidate, with no check in front of it and the answer
    that was made before the lock. -/
def update (now : Timestamp) : Candidate X → StoreM X PoliciesMetadata
  | .policies dslString => do
      setDsl now dslString none none
      return (← get).metadata
  | .schema schemaString => do
      setSchema now schemaString none none
      return (← get).metadata
  | .bundle prepared response => do
      applyPreparedBundle prepared
      return response

/-- A check that passes leaves the rest of a program. -/
theorem exec_check_ok {β : Type} {x : Except ServiceError Unit} (hx : x = .ok ())
    (m : StoreM X β) (s : PolicyStore X) :
    exec (do liftM x; m : StoreM X β) s = exec m s := by
  rw [hx, exec_bind_lift_ok]

/-- **A commit is its update**, in a store with the settings of the check. -/
theorem commit_eq_update {runtime : BundleRuntimeConfig X} {engineMode : Option BundleEngineMode}
    {s₀ s : PolicyStore X} (hsame : SameSettings s₀ s) {u : Upload} {c : Candidate X}
    (hcarried : Carried runtime engineMode s₀ u (.prepared c)) (now : Timestamp) :
    exec (c.commit u.headers now) s = exec (update now c) s := by
  obtain ⟨captured, hcheck, hprep⟩ := hcarried
  rw [← check_congr hsame] at hcheck
  obtain ⟨hcaptured, hindependent, hauth⟩ := check_ok hcheck
  cases u with
  | policies headers body =>
      obtain ⟨dslString, _, rfl⟩ := map_eq_ok.mp hprep
      rw [Candidate.commit, exec_bind_get]
      exact exec_check_ok (hindependent rfl) _ s
  | schema headers body =>
      obtain ⟨schemaString, _, rfl⟩ := map_eq_ok.mp hprep
      rw [Candidate.commit, exec_bind_get]
      exact exec_check_ok (hindependent rfl) _ s
  | bundle headers payload clock taskFailure =>
      obtain ⟨v, prepared, rfl, _, _⟩ := prepare_bundle hprep
      subst hcaptured
      rw [Candidate.commit, exec_bind_get, exec_bind_get]
      refine (exec_check_ok (hauth rfl) _ s).trans ?_
      -- the answer is rewritten with the settings it was made with
      rw [exec_bind_get, exec_bind_get]
      rfl

/-- The commit of a request that is under way is its update. -/
theorem writeStore_commit {events : List (Event X ι)}
    (hu : Underway config l uploads events (running uploads l events)) {i : ι} {c : Candidate X}
    (hphase : (running uploads l events).service.phase i = .prepared c) (at' : Timestamp) :
    writeStore (running uploads l events).shared (c.commit (uploads i).headers at')
      = writeStore (running uploads l events).shared (update at' c) := by
  have hcarried := hu.requests i
  rw [hphase] at hcarried
  have heq := commit_eq_update hu.inOrder.settings hcarried at'
  have hvalue : (running uploads l events).shared.value = (running uploads l events).store := rfl
  rw [writeStore, writeStore, hvalue, heq]

/-- **RECHECK**: in a launched server, what a request commits is decided by its
    update alone; the check under the write lock never turns it down. -/
theorem recheck_passes (h : launch X N K host now token config = .ok (some l))
    (htoken : token ≠ "") (events : List (Event X ι)) (i : ι) (c : Candidate X)
    (hphase : (running uploads l events).service.phase i = .prepared c) (at' : Timestamp) :
    writeStore (running uploads l events).shared (c.commit (uploads i).headers at')
      = writeStore (running uploads l events).shared (update at' c) :=
  writeStore_commit (run_underway (launch_spec h) htoken events) hphase at'

/-- The bundle of an upload in bundle mode, about to be committed. -/
theorem recheck_passes_bundle :
    ∃ c, (running archiveUpload bundleServer (bundleRun.take 4)).service.phase () = .prepared c
      ∧ writeStore (running archiveUpload bundleServer (bundleRun.take 4)).shared
          (c.commit (archiveUpload ()).headers 3)
        = writeStore (running archiveUpload bundleServer (bundleRun.take 4)).shared
          (update 3 c) :=
  ⟨_, rfl, recheck_passes launch_bundleServer (by decide) (bundleRun.take 4) () _ rfl 3⟩

/-! ## Bundles that were prepared -/

/-- A bundle that was prepared for a mode passes the gate of that mode. -/
theorem prepared_passes (hlaws : BundleLaws X) (hempty : EmptyTextLaws X) {clock : BundleClock}
    {v : X.ValidatedBundle} {source : Option Endpoint} {frequency : Option UInt32}
    {mode : SchemaValidationMode} {engineMode : BundleEngineMode} {p : PreparedBundle X}
    (h : prepareBundleWithEngineMode clock v source frequency mode engineMode = .ok p) :
    ensureBundleSchemaPresent mode (!p.schema.content.isEmpty) = .ok () := by
  obtain ⟨txt, hprint, hcontent⟩ := (prepared_parts h).schema
  rw [prepareBundleWithEngineMode] at h
  obtain ⟨_, hgate, _⟩ := bind_eq_ok.mp h
  rw [ensureBundleSchemaPresent] at hgate ⊢
  refine if_neg ?_
  rintro ⟨hstrict, hnone⟩
  rw [hstrict] at hgate
  -- the validated bundle has a schema, and a schema is printed as no empty text
  have hsome : (X.schemaJson v).isSome = true := by
    cases hs : (X.schemaJson v).isSome with
    | true => rfl
    | false =>
        rw [hs, if_pos ⟨rfl, rfl⟩] at hgate
        cases hgate
  have hprinted := (hlaws.schema_printed v txt hprint).mpr hsome
  cases txt with
  | none => cases hprinted
  | some text =>
      obtain ⟨sch, hparse, _⟩ := hlaws.schema_validates v text hprint
      rw [hcontent, Bool.not_not] at hnone
      have htext : text = "" := String.isEmpty_iff.mp hnone
      rw [htext] at hparse
      exact hempty.schema_empty sch hparse

/-- A bundle that passes the gate is published. -/
theorem exec_applyPreparedBundle {s : PolicyStore X} (hu : CachesUsable s)
    {p : PreparedBundle X}
    (hgate : ensureBundleSchemaPresent s.schemaValidationMode (!p.schema.content.isEmpty)
      = .ok ()) :
    exec (applyPreparedBundle p) s = (.ok (), s.published p) := by
  rw [applyPreparedBundle, exec_bind_get, hgate, exec_bind_lift_ok, exec_bind,
    exec_clearListPoliciesCache hu]
  exact exec_modify _ _

/-- **COMMITS**: in a launched server whose lock is not poisoned, a bundle that
    was prepared is published by the next step of whoever prepared it, and an
    upload gets the answer that was made before the lock. -/
theorem prepared_bundle_commits (hlaws : BundleLaws X) (hempty : EmptyTextLaws X)
    (h : launch X N K host now token config = .ok (some l)) (htoken : token ≠ "")
    (events : List (Event X ι)) (hopen : (running uploads l events).shared.poisoned = false) :
    (∀ i prepared response at',
      (running uploads l events).service.phase i = .prepared (.bundle prepared response) →
      (step uploads l.bundleRuntime (some l.bundleEngineMode) (.upload i at')
        (running uploads l events)).1 = .published (.bundle prepared)
      ∧ (step uploads l.bundleRuntime (some l.bundleEngineMode) (.upload i at')
        (running uploads l events)).2.service.phase i = .answered (.ok response))
    ∧ ∀ t d prepared get clock taskFailure,
      (running uploads l events).bundleFetcher = some t → t.ready = some (d, prepared) →
      (step uploads l.bundleRuntime (some l.bundleEngineMode)
        (.fetchBundle get clock taskFailure) (running uploads l events)).1
        = .published (.bundle prepared) := by
  have hl := launch_spec h
  have hu : Underway config l uploads events (running uploads l events) :=
    run_underway hl htoken events
  have hvalue : (running uploads l events).shared.value = (running uploads l events).store := rfl
  have hmode : (running uploads l events).store.schemaValidationMode
      = config.schemaValidationMode := hu.inOrder.settings.mode.trans hl.mode
  constructor
  · intro i prepared response at' hphase
    have hrecheck := writeStore_commit hu hphase at'
    have hcarried := hu.requests i
    rw [hphase] at hcarried
    obtain ⟨captured, hcheck, hprep⟩ := hcarried
    have hcaptured := (check_ok hcheck).1
    -- it was prepared for the mode that the check captured, the mode of the launch
    have hgate : ensureBundleSchemaPresent
        (running uploads l events).store.schemaValidationMode
        (!prepared.schema.content.isEmpty) = .ok () := by
      obtain ⟨v, clock, _, hmade⟩ := prepare_of_bundle _ _ hprep rfl
      rw [hmode, ← hl.mode]
      rw [hcaptured] at hmade
      exact prepared_passes hlaws hempty hmade
    have hrun : exec (update at' (.bundle prepared response))
        (running uploads l events).store
        = (.ok response, (running uploads l events).store.published prepared) := by
      rw [update, exec_bind, exec_applyPreparedBundle hu.inOrder.usable hgate]
      rfl
    have hcommit : writeStore (running uploads l events).service.shared
        (Candidate.commit (uploads i).headers at' (.bundle prepared response))
        = (.ok response, ⟨(running uploads l events).store.published prepared, false⟩) := by
      refine hrecheck.trans ?_
      rw [writeStore, if_neg (by rw [hopen]; exact Bool.false_ne_true), hvalue, hrun]
    have hadvance : (running uploads l events).service.advance uploads l.bundleRuntime
        (some l.bundleEngineMode) i at'
        = (running uploads l events).service.put i (.answered (.ok response))
          ⟨(running uploads l events).store.published prepared, false⟩ := by
      rw [Service.advance, hphase]
      dsimp only
      rw [hcommit]
    have hanswered : ((running uploads l events).service.put i (.answered (.ok response))
        ⟨(running uploads l events).store.published prepared, false⟩).phase i
        = .answered (.ok response) := Function.update_self ..
    rw [step, hadvance]
    dsimp only
    rw [hanswered, hphase]
    exact ⟨rfl, rfl⟩
  · intro t d prepared get clock taskFailure ht hready
    obtain ⟨limits, url, v, clock', hfrom⟩ := hu.archive t d prepared ht hready
    have hgate : ensureBundleSchemaPresent
        (running uploads l events).store.schemaValidationMode
        (!prepared.schema.content.isEmpty) = .ok () := by
      rw [hmode]
      exact prepared_passes hlaws hempty hfrom.made
    have hrun : exec (applyBundleAndMark prepared) (running uploads l events).store
        = (.ok (), ((running uploads l events).store.published prepared).marked .bundle) := by
      rw [applyBundleAndMark, exec_bind, exec_applyPreparedBundle hu.inOrder.usable hgate]
      rfl
    have hwrite : (running uploads l events).shared.write "policy" (applyBundleAndMark prepared)
        = (.ok (),
          ⟨((running uploads l events).store.published prepared).marked .bundle, false⟩) := by
      rw [SharedStore.write, if_neg (by rw [hopen]; exact Bool.false_ne_true), hvalue, hrun]
      rfl
    obtain ⟨f, ready⟩ := t
    have hready : ready = some (d, prepared) := hready
    subst hready
    rw [step]
    simp only [ht, bundleStep]
    rw [hwrite]
    rfl

/-- The same server in strict mode. -/
def strictConfig : Config := { bundleConfig with schemaValidationMode := .strict }

def strictServer : Launched TreetopSample.small smallNets := (smallServer strictConfig).get rfl

theorem launch_strictServer :
    launch TreetopSample.small smallNets smallKeys smallHost 0 "t" strictConfig
      = .ok (some strictServer) := rfl

/-- The request holds a bundle that is ready to be committed. -/
def holdsBundle : Phase X → Bool
  | .prepared (.bundle _ _) => true
  | _ => false

omit [DecidableEq ι] in
theorem holdsBundle_iff {p : Phase X} :
    holdsBundle p = true ↔ ∃ prepared response, p = .prepared (.bundle prepared response) := by
  constructor
  · intro h
    cases p with
    | prepared c =>
        cases c with
        | bundle prepared response => exact ⟨prepared, response, rfl⟩
        | policies dslString => cases h
        | schema schemaString => cases h
    | received => cases h
    | checked captured => cases h
    | answered r => cases h
  · rintro ⟨prepared, response, rfl⟩
    rfl

/-- The uploaded bundle has a schema, so it passes the gate of strict mode after
    the poll has committed its own. -/
theorem prepared_bundle_commits_strict :
    ∃ prepared response,
      (running archiveUpload strictServer (bundleRun.take 4)).service.phase ()
        = .prepared (.bundle prepared response)
      ∧ (step archiveUpload strictServer.bundleRuntime (some strictServer.bundleEngineMode)
          (.upload () 3) (running archiveUpload strictServer (bundleRun.take 4))).1
        = .published (.bundle prepared) := by
  have hopen : (running archiveUpload strictServer (bundleRun.take 4)).shared.poisoned = false := by
    decide +kernel
  have hholds : holdsBundle
      ((running archiveUpload strictServer (bundleRun.take 4)).service.phase ()) = true := by
    decide +kernel
  obtain ⟨prepared, response, hphase⟩ := holdsBundle_iff.mp hholds
  exact ⟨prepared, response, hphase, ((prepared_bundle_commits TreetopSample.bundleLaws_small
    TreetopSample.emptyTextLaws_small launch_strictServer (by decide) (bundleRun.take 4) hopen).1
    () prepared response 3 hphase).1⟩

end TreetopRechecks
