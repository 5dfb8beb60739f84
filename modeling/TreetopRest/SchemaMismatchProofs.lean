import TreetopRest.ServiceMetricsModel
import TreetopRest.BundleModeProofs

/-! # Schemas that are dropped, and counted

    In permissive mode an update whose policies do not validate goes through
    without the schema.  Every publication counts a mismatch exactly if it
    leaves the store in that state, and nothing else brings the store there or
    out of it, so the counts of a run tell the state (`incompatible_counted`). -/

namespace TreetopSchemaMismatch

open FallibleState ConditionalFetch Text Recording
open TreetopErrors TreetopCrates TreetopMetadata TreetopWire TreetopStore
open TreetopFetcher TreetopBundleFetcher TreetopSections TreetopRequest TreetopUpload
open TreetopServer TreetopServerSteps TreetopServiceMetrics
open TreetopUploadSafety (Service Phase)

variable {X : Crates} {ι : Type}

/-! ## Schemas that are dropped -/

/-- The counts say whether the update ended without its schema. -/
def MismatchAgrees (cs : List Count) (s' : PolicyStore X) : Prop :=
  policySchemaMismatch ∈ cs ↔ s'.requestContextStatus = .schemaIncompatible

/-- A rebuild counts a mismatch exactly where it drops the schema. -/
theorem rebuilt_mismatch {s : PolicyStore X} {dsl : String} {schema : Option X.CedarSchema}
    {labelers : List X.Labeler} {version : String} {engine : X.PreparedEngine}
    {status : RequestContextStatus}
    (h : Rebuilt s dsl schema labelers version engine status) :
    policySchemaMismatch ∈ runtimeSchemaCounts X dsl schema ↔ status = .schemaIncompatible := by
  obtain ⟨runtime, hrt, _⟩ := h.built
  cases schema with
  | none =>
      cases hrt
      exact iff_of_false (List.not_mem_nil) nofun
  | some schema =>
      unfold runtimeSchemaForDsl at hrt
      rw [runtimeSchemaCounts]
      dsimp only at hrt
      cases hvalid : validatePoliciesWithSchema X dsl schema with
      | ok u =>
          rw [hvalid] at hrt
          cases hrt
          exact iff_of_false (List.not_mem_nil) nofun
      | error e =>
          rw [hvalid] at hrt
          dsimp only at hrt
          -- strict mode refuses instead, so nothing was rebuilt there
          by_cases hmode : s.schemaValidationMode = .permissive
          · rw [if_pos hmode] at hrt
            cases hrt
            exact iff_of_true (List.mem_singleton_self _) rfl
          · rw [if_neg hmode] at hrt
            cases hrt

theorem setDsl_mismatch {s s' : PolicyStore X} (hu : CachesUsable s) {now : Timestamp}
    {dsl : String} (h : exec (setDsl now dsl none none) s = (.ok (), s')) :
    MismatchAgrees (setDslCounts now dsl none none s) s' := by
  rcases setDsl_cases hu now dsl none none with ⟨e, hno⟩ | ⟨_, s₁, hrun, hok⟩
  · rw [h] at hno
    cases hno
  · rw [h] at hrun
    cases hrun
    obtain ⟨metadata, schema, engine, status, hgate, hmd, hschema, hre, rfl⟩ := hok
    have hcounts : setDslCounts now dsl none none s = runtimeSchemaCounts X dsl schema := by
      unfold setDslCounts
      rw [hgate, hmd, hschema]
      rfl
    rw [MismatchAgrees, hcounts]
    exact rebuilt_mismatch hre

theorem setSchema_mismatch {s s' : PolicyStore X} {now : Timestamp} {schema : String}
    (h : exec (setSchema now schema none none) s = (.ok (), s')) :
    MismatchAgrees (setSchemaCounts now schema none none s) s' := by
  rcases setSchema_cases s now schema none none with ⟨e, hno⟩ | ⟨_, s₁, hrun, hok⟩
  · rw [h] at hno
    cases hno
  · have hsame := h.symm.trans hrun
    cases hsame
    obtain ⟨metadata, parsed, engine, status, hmd, hparsed, hfit, hre, rfl⟩ := hok
    rw [MismatchAgrees, setSchemaCounts, hmd, hrun]
    dsimp only
    rw [hparsed]
    dsimp only
    rw [hfit]
    dsimp only
    rw [List.mem_append, rebuilt_mismatch hre]
    refine or_iff_left_of_imp ?_
    intro hmem
    cases List.mem_singleton.mp hmem

theorem setLabels_mismatch {s s' : PolicyStore X} (hu : CachesUsable s) {now : Timestamp}
    {labels : String} (h : exec (setLabels now labels none none) s = (.ok (), s')) :
    MismatchAgrees (setLabelsCounts labels s) s' := by
  rcases setLabels_cases hu now labels none none with ⟨e, hno⟩ | ⟨_, s₁, hrun, hok⟩
  · rw [h] at hno
    cases hno
  · rw [h] at hrun
    cases hrun
    obtain ⟨labelSet, schema, engine, status, hparse, hfit, hschema, hre, rfl⟩ := hok
    have hread : (do
        let labelSet ← (X.labelSetFromJsonStr labels).mapError ServiceError.fromBundleError
        ensureSchemaFitsLabels s labelSet
        currentSchema s) = .ok schema := by
      rw [hparse]
      show (do ensureSchemaFitsLabels s labelSet; currentSchema s) = _
      rw [hfit]
      exact hschema
    have hcounts : setLabelsCounts labels s
        = runtimeSchemaCounts X s.policies.content schema := by
      rw [setLabelsCounts, hread]
    rw [MismatchAgrees, hcounts]
    exact rebuilt_mismatch hre

/-- A bundle comes with its own schema or with none, and counts no mismatch. -/
theorem apply_mismatch {s s' : PolicyStore X} (hu : CachesUsable s) {prepared : PreparedBundle X}
    (hgenuine : prepared.Genuine)
    (h : exec (applyPreparedBundle prepared) s = (.ok (), s')) :
    MismatchAgrees (applyCounts prepared s) s' := by
  rcases applyPreparedBundle_cases hu prepared with ⟨e, hno⟩ | ⟨_, s₁, hrun, hok⟩
  · rw [h] at hno
    cases hno
  · rw [h] at hrun
    cases hrun
    obtain ⟨_, rfl⟩ := hok
    obtain ⟨v, hv⟩ := genuine_parts hgenuine
    rw [MismatchAgrees, applyCounts, h]
    refine iff_of_false ?_ ?_
    · intro hmem
      cases List.mem_singleton.mp hmem
    · show prepared.requestContextStatus ≠ .schemaIncompatible
      rw [hv.status]
      split <;> exact nofun

/-- A marked update that was made under the lock. -/
theorem write_marked_ok {m : StoreM X Unit} {kind : RemoteSourceKind} {name : String}
    {shared shared' : SharedStore X}
    (h : shared.write name (do m; markRemoteSourceLoaded kind) = (.ok (), shared')) :
    shared.poisoned = false
      ∧ ∃ s₁, exec m shared.value = (.ok (), s₁) ∧ shared'.value = s₁.marked kind := by
  rw [SharedStore.write] at h
  by_cases hpoison : shared.poisoned = true
  · rw [if_pos hpoison] at h
    cases h
  · rw [if_neg hpoison, exec_bind] at h
    refine ⟨Bool.eq_false_iff.mpr hpoison, ?_⟩
    cases hrun : exec m shared.value with
    | mk r s₁ =>
        rw [hrun] at h
        cases r with
        | error e => cases h
        | ok u =>
            refine ⟨s₁, rfl, ?_⟩
            have hstore := congrArg (fun p => p.2.value) h
            exact hstore.symm

theorem status_marked (s : PolicyStore X) (kind : RemoteSourceKind) :
    (s.marked kind).requestContextStatus = s.requestContextStatus := by
  cases kind <;> rfl

/-- What a fetcher counts with its publication says what became of the schema. -/
theorem adapter_mismatch {shared shared' : SharedStore X} (hu : CachesUsable shared.value)
    {k : Component} {now : Timestamp} {body : String}
    (h : (k.adapter X).applySuccessfulResponse now body shared = (.ok (), shared')) :
    MismatchAgrees (if shared.poisoned then [] else updateCounts k now body shared.value)
      shared'.value := by
  cases k with
  | policies =>
      have hwrite : shared.write "policy" (do
          setDsl now body none none
          markRemoteSourceLoaded .policies) = (.ok (), shared') := h
      obtain ⟨hopen, s₁, hrun, hmarked⟩ := write_marked_ok hwrite
      rw [hopen, if_neg Bool.false_ne_true, MismatchAgrees, hmarked, status_marked]
      exact setDsl_mismatch hu hrun
  | labels =>
      have hwrite : shared.write "label" (do
          setLabels now body none none
          markRemoteSourceLoaded .labels) = (.ok (), shared') := h
      obtain ⟨hopen, s₁, hrun, hmarked⟩ := write_marked_ok hwrite
      rw [hopen, if_neg Bool.false_ne_true, MismatchAgrees, hmarked, status_marked]
      exact setLabels_mismatch hu hrun
  | schema =>
      have hwrite : shared.write "schema" (do
          setSchema now body none none
          markRemoteSourceLoaded .schema) = (.ok (), shared') := h
      obtain ⟨hopen, s₁, hrun, hmarked⟩ := write_marked_ok hwrite
      rw [hopen, if_neg Bool.false_ne_true, MismatchAgrees, hmarked, status_marked]
      exact setSchema_mismatch hrun

/-- A checked update that was made. -/
theorem checked_ok {headers : HeaderMap} {m : StoreM X Unit} {s s' : PolicyStore X}
    {answer : PoliciesMetadata}
    (h : exec (do
      checkIndependentUpload headers (← get)
      m
      return (← get).metadata : StoreM X PoliciesMetadata) s = (.ok answer, s')) :
    checkIndependentUpload headers s = .ok () ∧ exec m s = (.ok (), s') := by
  rw [exec_bind_get] at h
  cases hcheck : checkIndependentUpload headers s with
  | error e =>
      rw [hcheck, exec_bind_lift_error] at h
      cases h
  | ok u =>
      rw [hcheck, exec_bind_lift_ok, exec_bind] at h
      cases hrun : exec m s with
      | mk r s₁ =>
          rw [hrun] at h
          cases r with
          | error e => cases h
          | ok u =>
              cases h
              exact ⟨rfl, rfl⟩

/-- What an upload counts with its publication says what became of the schema. -/
theorem commit_mismatch {shared : SharedStore X} (hu : CachesUsable shared.value)
    {headers : HeaderMap} {now : Timestamp} {c : Candidate X}
    (hgenuine : ∀ prepared, publicationOf c = .bundle prepared → prepared.Genuine)
    {answer : PoliciesMetadata}
    (h : (writeStore shared (c.commit headers now)).1 = .ok answer) :
    MismatchAgrees (candidateCounts headers now c shared)
      (writeStore shared (c.commit headers now)).2.value := by
  unfold candidateCounts
  rw [writeStore] at h ⊢
  by_cases hpoison : shared.poisoned = true
  · rw [if_pos hpoison] at h
    cases h
  · rw [if_neg hpoison] at h
    rw [if_neg hpoison, if_neg hpoison]
    cases hrun : exec (c.commit headers now) shared.value with
    | mk r s' =>
        rw [hrun] at h
        have hr : r = .ok answer := h
        subst hr
        cases c with
        | policies dslString =>
            obtain ⟨hcheck, hset⟩ := checked_ok hrun
            dsimp only
            rw [hcheck]
            exact setDsl_mismatch hu hset
        | schema schemaString =>
            obtain ⟨hcheck, hset⟩ := checked_ok hrun
            dsimp only
            rw [hcheck]
            exact setSchema_mismatch hset
        | bundle prepared response =>
            rw [Candidate.commit, exec_bind_get, exec_bind_get] at hrun
            dsimp only
            cases hauth : checkUploadAuth headers shared.value.allowUpload
                shared.value.uploadToken with
            | error e =>
                rw [hauth, exec_bind_lift_error] at hrun
                cases hrun
            | ok u =>
                rw [hauth, exec_bind_lift_ok, exec_bind_get, exec_bind_get, exec_bind] at hrun
                dsimp only
                cases happly : exec (applyPreparedBundle prepared) shared.value with
                | mk r₁ s₁ =>
                    rw [happly] at hrun
                    cases r₁ with
                    | error e => cases hrun
                    | ok u =>
                        cases hrun
                        exact apply_mismatch hu (hgenuine prepared rfl) happly

/-- The bundles that are under way are genuine. -/
structure GenuineUnderway (srv : Server X ι) : Prop where
  archive : ∀ t d prepared, srv.bundleFetcher = some t → t.ready = some (d, prepared) →
    prepared.Genuine
  requests : ∀ i c prepared, srv.service.phase i = .prepared c →
    publicationOf c = .bundle prepared → prepared.Genuine

variable [DecidableEq ι] (uploads : ι → Upload) (config : BundleRuntimeConfig X)
  (engineMode : Option BundleEngineMode)

/-- **STEP**: what is counted with a publication says what became of the schema. -/
theorem step_mismatch {srv : Server X ι} (hu : CachesUsable srv.store)
    (hgenuine : GenuineUnderway srv) (e : Event X ι)
    (hp : (step uploads config engineMode e srv).1.publication.isSome = true) :
    MismatchAgrees (counts uploads config engineMode e srv)
      (step uploads config engineMode e srv).2.store := by
  cases e with
  | fetch k net now =>
      rw [step] at hp ⊢
      rw [counts]
      cases ht : srv.fetchers k with
      | none =>
          rw [ht] at hp
          cases hp
      | some t =>
          rw [ht] at hp
          obtain ⟨f, phase⟩ := t
          -- only the last step of a poll publishes
          cases phase with
          | idle => cases hp
          | headDone => cases hp
          | bodyRead body newHash =>
              simp only [fetcherStep, GenericFetcher.onApply] at hp ⊢
              cases hrun : (k.adapter X).applySuccessfulResponse now body srv.shared with
              | mk r shared' =>
                  rw [hrun] at hp
                  cases r with
                  | error e => cases hp
                  | ok u => exact adapter_mismatch hu hrun
  | fetchBundle get clock taskFailure =>
      rw [step] at hp ⊢
      rw [counts]
      cases ht : srv.bundleFetcher with
      | none =>
          rw [ht] at hp
          cases hp
      | some t =>
          rw [ht] at hp
          obtain ⟨f, ready⟩ := t
          cases ready with
          | none => cases hp
          | some archive =>
              obtain ⟨d, prepared⟩ := archive
              simp only [bundleStep, applyBundleAndMark] at hp ⊢
              cases hrun : srv.shared.write "policy"
                  (do applyPreparedBundle prepared; markRemoteSourceLoaded .bundle) with
              | mk r shared' =>
                  rw [hrun] at hp
                  cases r with
                  | error e => cases hp
                  | ok u =>
                      obtain ⟨hopen, s₁, happly, hmarked⟩ := write_marked_ok hrun
                      -- the mark behind the update leaves the status alone
                      show MismatchAgrees (bundleStepCounts get clock taskFailure _ srv.shared)
                        shared'.value
                      rw [MismatchAgrees, hmarked, status_marked, bundleStepCounts]
                      dsimp only
                      rw [hopen, if_neg Bool.false_ne_true]
                      exact apply_mismatch hu (hgenuine.archive _ d prepared ht rfl) happly
  | upload i now =>
      rw [step] at hp ⊢
      rw [counts, uploadCounts]
      have hstore : ∀ srv' : Server X ι, srv'.store = srv'.service.shared.value := fun _ => rfl
      rw [hstore]
      dsimp only at hp ⊢
      cases hphase : srv.service.phase i with
      | received =>
          rw [hphase] at hp
          cases hp
      | checked captured =>
          rw [hphase] at hp
          cases hp
      | answered r =>
          rw [hphase] at hp
          cases hp
      | prepared c =>
          have hadvance : srv.service.advance uploads config engineMode i now
              = srv.service.put i
                (.answered (writeStore srv.shared (c.commit (uploads i).headers now)).1)
                (writeStore srv.shared (c.commit (uploads i).headers now)).2 := by
            rw [Service.advance, hphase]
            rfl
          have hput : ∀ p shared, (srv.service.put i p shared).phase i = p :=
            fun p shared => Function.update_self ..
          rw [hphase, hadvance, hput] at hp
          rw [hadvance]
          cases hrun : (writeStore srv.shared (c.commit (uploads i).headers now)).1 with
          | error e =>
              rw [hrun] at hp
              cases hp
          | ok answer =>
              exact commit_mismatch hu (fun prepared hc => hgenuine.requests i c prepared hphase hc)
                hrun
  | listPolicies raw user groups namespaces =>
      rw [step] at hp
      cases hread : readStore srv.shared with
      | error e =>
          rw [hread] at hp
          cases hp
      | ok s =>
          rw [hread] at hp
          cases hp
  | poison => cases hp

/-- One more step of a run. -/
theorem mismatchCounted_append (past : List (Event X ι)) (e : Event X ι) :
    ∀ (srv : Server X ι) (counted : Bool),
      mismatchCounted uploads config engineMode (past ++ [e]) srv counted
        = if (step uploads config engineMode e
              (serverAfter uploads config engineMode past srv)).1.publication.isSome then
            (counts uploads config engineMode e
              (serverAfter uploads config engineMode past srv)).contains policySchemaMismatch
          else mismatchCounted uploads config engineMode past srv counted := by
  induction past with
  | nil =>
      intro srv counted
      rfl
  | cons e' past ih =>
      intro srv counted
      exact ih _ _

section Launched

open TreetopAdmission TreetopConfig TreetopLaunch TreetopServerRuns TreetopOrigins
open TreetopBundleMode

variable {N : NetCrate} {K : KeyCrate X} {host : Host} {now : Timestamp} {token : String}
  {settings : Config} {l : Launched X N} {requests : ι → Upload}

/-- Every bundle that is under way in a launched server was prepared. -/
theorem genuineUnderway (hl : LaunchedFor K host token settings l) (htoken : token ≠ "")
    (events : List (Event X ι)) : GenuineUnderway (running requests l events) := by
  have hu : Underway settings l requests events (running requests l events) :=
    run_underway hl htoken events
  refine ⟨?_, ?_⟩
  · intro t d prepared ht hready
    obtain ⟨limits, url, v, clock, hfrom⟩ := hu.archive t d prepared ht hready
    exact ⟨_, _, _, _, _, _, hfrom.made⟩
  · intro i c prepared hphase hc
    have hcarried := hu.requests i
    rw [hphase] at hcarried
    obtain ⟨captured, _, hprep⟩ := hcarried
    obtain ⟨v, clock, _, hmade⟩ := prepare_of_bundle _ _ hprep hc
    exact ⟨_, _, _, _, _, _, hmade⟩

/-- The last publication of a run has said what became of the schema. -/
theorem run_mismatch (hl : LaunchedFor K host token settings l) (htoken : token ≠ "")
    (events : List (Event X ι)) :
    mismatchCounted requests l.bundleRuntime (some l.bundleEngineMode) events (Server.start l)
        false = true
      ↔ (running requests l events).store.requestContextStatus = .schemaIncompatible := by
  refine running_induct (fun past srv => mismatchCounted requests l.bundleRuntime
    (some l.bundleEngineMode) past (Server.start l) false = true
      ↔ srv.store.requestContextStatus = .schemaIncompatible) ?_ ?_ events
  · obtain ⟨_, s, hnew, hsame⟩ := hl.fresh
    refine iff_of_false Bool.false_ne_true ?_
    show l.store.requestContextStatus ≠ .schemaIncompatible
    obtain ⟨_, _, rfl⟩ := new_eq hnew
    rw [hsame.status]
    exact nofun
  · intro past e ih
    have hu : Underway settings l requests past (running requests l past) :=
      run_underway hl htoken past
    rw [mismatchCounted_append]
    -- a publication says it anew; any other step counts nothing and keeps the status
    by_cases hp : (step requests l.bundleRuntime (some l.bundleEngineMode) e
        (running requests l past)).1.publication.isSome = true
    · rw [if_pos hp, List.contains_iff_mem]
      exact step_mismatch requests l.bundleRuntime (some l.bundleEngineMode) hu.inOrder.usable
        (genuineUnderway hl htoken past) e hp
    · rw [if_neg hp]
      rcases step_cases requests l.bundleRuntime (some l.bundleEngineMode) hu.inOrder.usable
        (hu.inOrder.token (uploadToken_ne hl htoken)) e with ⟨_, hsame⟩ | ⟨who, p, hpub⟩
      · obtain ⟨_, _, heq⟩ := hsame.same
        rw [heq]
        exact ih
      · rw [hpub.outcome] at hp
        exact absurd rfl hp

/-- **DROPPED SCHEMAS** are counted: at every moment of a run of a launched
    server, its requests go without the schema it has recorded exactly if the
    last publication counted a mismatch. -/
theorem incompatible_counted (h : launch X N K host now token settings = .ok (some l))
    (htoken : token ≠ "") (events : List (Event X ι)) :
    mismatchCounted requests l.bundleRuntime (some l.bundleEngineMode) events (Server.start l)
        false = true
      ↔ (running requests l events).store.requestContextStatus = .schemaIncompatible :=
  run_mismatch (launch_spec h) htoken events

end Launched

/-! ## A schema that the policies outgrow -/

open TreetopSample TreetopAdmission TreetopConfig TreetopLaunch TreetopUploadSafety

/-- Policies and their schema, from two URLs. -/
def schemaConfig : Config :=
  { TreetopLaunch.remoteConfig with
    schemaUrl := some ⟨"https://policies.example/photos.cedarschema.json"⟩ }

def schemaServer : Launched small smallNets := (smallServer schemaConfig).get rfl

/-- What a poll of a component meets. -/
def answering (body : String) : Exchange where
  head _ := .ok ⟨200, none, none⟩
  get := .ok ⟨200, .ok body⟩

/-- The schema, and then policies that do not validate against it. -/
def outgrownRun : List (Event small Unit) :=
  List.replicate 3 (.fetch .schema (answering photoSchema) 1)
    ++ List.replicate 3 (.fetch .policies (answering permitOps) 2)

/-- The service goes on without the schema, and has said so. -/
theorem incompatible_counted_outgrown :
    (mismatchCounted archiveUpload schemaServer.bundleRuntime
        (some schemaServer.bundleEngineMode) outgrownRun (Server.start schemaServer) false = true
      ↔ (running archiveUpload schemaServer outgrownRun).store.requestContextStatus
        = .schemaIncompatible)
    ∧ (running archiveUpload schemaServer outgrownRun).store.requestContextStatus
        = .schemaIncompatible :=
  ⟨incompatible_counted (show launch small smallNets smallKeys smallHost 0 "t" schemaConfig
    = .ok (some schemaServer) from rfl) (by decide) outgrownRun, by decide +kernel⟩

end TreetopSchemaMismatch
