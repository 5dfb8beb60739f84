import TreetopRest.ServerModel
import TreetopRest.ListCacheProofs

/-! # What a step of the server can do

    Whatever the network, the requests and the schedule do, a step of the
    running server either leaves everything but the listing caches alone, or
    is ONE publication: an update that went through all its checks, by the
    fetcher that had the body, by the bundle fetcher that had the archive, or
    by an authorised upload (`step_cases`).  Everything about runs of the
    server is derived from this. -/

namespace TreetopServerSteps

open FallibleState UpdateRun
open TreetopErrors TreetopCrates TreetopMetadata TreetopWire TreetopStore
open TreetopFetcher TreetopBundleFetcher TreetopSections TreetopRequest TreetopUpload
open TreetopServer
open TreetopStartup (Task)
open TreetopListCache (CachesFresh cachesFresh_stepOk)
open TreetopUploadSafety (Service checkUploadAuth_ok checkIndependentUpload_ok presentedToken
  stepOk_token)

variable {X : Crates} {ι : Type} [DecidableEq ι]

/-! ## Settings -/

/-- Two stores with the same settings. -/
structure SameSettings (s s' : PolicyStore X) : Prop where
  allowUpload : s'.allowUpload = s.allowUpload
  uploadToken : s'.uploadToken = s.uploadToken
  mode : s'.schemaValidationMode = s.schemaValidationMode
  bundleUrlMode : s'.bundleUrlMode = s.bundleUrlMode

theorem SameSettings.refl (s : PolicyStore X) : SameSettings s s := ⟨rfl, rfl, rfl, rfl⟩

theorem SameSettings.trans {s s' s'' : PolicyStore X} (h : SameSettings s s')
    (h' : SameSettings s' s'') : SameSettings s s'' :=
  ⟨h'.allowUpload.trans h.allowUpload, h'.uploadToken.trans h.uploadToken,
    h'.mode.trans h.mode, h'.bundleUrlMode.trans h.bundleUrlMode⟩

theorem sameSettings_marked (s : PolicyStore X) (kind : RemoteSourceKind) :
    SameSettings s (s.marked kind) := by
  cases kind <;> exact ⟨rfl, rfl, rfl, rfl⟩

/-! ## Publications -/

/-- The update behind a publication went through, from `s` to `s'`. -/
def Installs (s : PolicyStore X) : Publication X → PolicyStore X → Prop
  | .component k text, s' => ∃ now, StepOk s (k.update now text none none) s'
  | .bundle prepared, s' => BundlePublished s prepared s'

/-- The store after a fetcher has marked its source; an upload marks none. -/
def markedBy : Option RemoteSourceKind → PolicyStore X → PolicyStore X
  | some kind, s => s.marked kind
  | none, s => s

/-- A publication from `s` to `s'`, by the fetcher of a kind or by an upload. -/
def Published (who : Option RemoteSourceKind) (s : PolicyStore X) (p : Publication X)
    (s' : PolicyStore X) : Prop :=
  ∃ s₁, Installs s p s₁ ∧ s' = markedBy who s₁

/-- What an upload needs to publish: the settings admit it. -/
structure Admits (s : PolicyStore X) (headers : HeaderMap) (p : Publication X) : Prop where
  allowed : s.allowUpload = true
  token : ∃ t, s.uploadToken = some t ∧ presentedToken headers = some t
  independent : ∀ k text, p = .component k text → s.bundleUrlMode = false

/-- What an update replaces, it replaces by what was published. -/
theorem installs_board {s s' : PolicyStore X} {p : Publication X} (h : Installs s p s') :
    boardOf s' = (boardOf s).post p := by
  cases p with
  | bundle prepared =>
      obtain ⟨_, rfl⟩ := h
      rfl
  | component k text =>
      obtain ⟨now, h⟩ := h
      cases k with
      | policies =>
          obtain ⟨metadata, _, _, _, _, hmd, _, _, rfl⟩ := h
          show Board.mk metadata.content s.labels.content s.schema.content = _
          rw [(Metadata.new_records hmd).1]
          rfl
      | schema =>
          obtain ⟨metadata, _, _, _, hmd, _, _, _, rfl⟩ := h
          show Board.mk s.policies.content s.labels.content metadata.content = _
          rw [(Metadata.new_records hmd).1]
          rfl
      | labels =>
          obtain ⟨_, _, _, _, _, _, _, _, rfl⟩ := h
          rfl

theorem installs_usable {s s' : PolicyStore X} {p : Publication X} (hu : CachesUsable s)
    (h : Installs s p s') : CachesUsable s' := by
  cases p with
  | bundle prepared =>
      obtain ⟨_, rfl⟩ := h
      exact ⟨rfl, rfl⟩
  | component k text =>
      obtain ⟨now, h⟩ := h
      exact stepOk_usable hu h

theorem installs_settings {s s' : PolicyStore X} {p : Publication X} (h : Installs s p s') :
    SameSettings s s' := by
  cases p with
  | bundle prepared =>
      obtain ⟨_, rfl⟩ := h
      exact ⟨rfl, rfl, rfl, rfl⟩
  | component k text =>
      obtain ⟨now, h⟩ := h
      cases k with
      | policies =>
          obtain ⟨_, _, _, _, _, _, _, _, rfl⟩ := h
          exact ⟨rfl, rfl, rfl, rfl⟩
      | schema =>
          obtain ⟨_, _, _, _, _, _, _, _, rfl⟩ := h
          exact ⟨rfl, rfl, rfl, rfl⟩
      | labels =>
          obtain ⟨_, _, _, _, _, _, _, _, rfl⟩ := h
          exact ⟨rfl, rfl, rfl, rfl⟩

/-- A mark writes origins and flags. -/
theorem boardOf_marked (s : PolicyStore X) (kind : RemoteSourceKind) :
    boardOf (s.marked kind) = boardOf s := by
  have hcontent : ∀ {T : ContentKind} (md : Metadata T) (c : Option (Endpoint × UInt32)),
      (withConfigured md c).content = md.content :=
    fun md c => (withConfigured_documents md c).1
  cases kind with
  | policies =>
      show Board.mk (withConfigured s.policies _).content _ _ = _
      rw [hcontent]
      rfl
  | labels =>
      show Board.mk _ (withConfigured s.labels _).content _ = _
      rw [hcontent]
      rfl
  | schema =>
      show Board.mk _ _ (withConfigured s.schema _).content = _
      rw [hcontent]
      rfl
  | bundle => rfl

theorem usable_marked {s : PolicyStore X} (h : CachesUsable s) (kind : RemoteSourceKind) :
    CachesUsable (s.marked kind) := by
  cases kind <;> exact ⟨h.raw, h.json⟩

section Published

variable {who : Option RemoteSourceKind} {s s' : PolicyStore X} {p : Publication X}

/-- **A publication replaces what it publishes**, and nothing else that is served. -/
theorem published_board (h : Published who s p s') : boardOf s' = (boardOf s).post p := by
  obtain ⟨s₁, hinst, rfl⟩ := h
  rw [← installs_board hinst]
  cases who with
  | none => rfl
  | some kind => exact boardOf_marked s₁ kind

theorem published_usable (hu : CachesUsable s) (h : Published who s p s') :
    CachesUsable s' := by
  obtain ⟨s₁, hinst, rfl⟩ := h
  cases who with
  | none => exact installs_usable hu hinst
  | some kind => exact usable_marked (installs_usable hu hinst) kind

theorem published_settings (h : Published who s p s') : SameSettings s s' := by
  obtain ⟨s₁, hinst, rfl⟩ := h
  cases who with
  | none => exact installs_settings hinst
  | some kind => exact (installs_settings hinst).trans (sameSettings_marked s₁ kind)

end Published

/-! ## Critical sections -/

/-- An update and the mark after it, under the lock. -/
theorem write_marked_cases {m : StoreM X Unit} {shared : SharedStore X}
    {P : PolicyStore X → Prop} (hm : AllOrNothing m shared.value (fun _ s' => P s'))
    (kind : RemoteSourceKind) (name : String) :
    (∃ e, shared.write name (do m; markRemoteSourceLoaded kind) = (.error e, shared))
      ∨ ∃ s₁, P s₁ ∧ shared.poisoned = false
        ∧ shared.write name (do m; markRemoteSourceLoaded kind)
          = (.ok (), ⟨s₁.marked kind, false⟩) := by
  rw [SharedStore.write]
  by_cases hpoison : shared.poisoned = true
  · rw [if_pos hpoison]
    exact Or.inl ⟨_, rfl⟩
  · rw [if_neg hpoison]
    have hopen : shared.poisoned = false := Bool.eq_false_iff.mpr hpoison
    have hboth : AllOrNothing (do m; markRemoteSourceLoaded kind : StoreM X Unit) shared.value
        (fun _ s' => ∃ s₁, P s₁ ∧ s' = s₁.marked kind) := by
      refine hm.bind ?_
      intro _ s₁ hp
      refine ⟨(), s₁.marked kind, ?_, s₁, hp, rfl⟩
      cases kind <;> rfl
    rcases hboth with ⟨e, hno⟩ | ⟨_, s', hrun, s₁, hp, rfl⟩
    · rw [hno, ← hopen]
      exact Or.inl ⟨_, rfl⟩
    · rw [hrun]
      exact Or.inr ⟨s₁, hp, hopen, rfl⟩

/-- **What an adapter does with a body**: nothing, or its publication. -/
theorem adapter_cases {shared : SharedStore X} (hu : CachesUsable shared.value) (k : Component)
    (now : Timestamp) (body : String) :
    (∃ e, (k.adapter X).applySuccessfulResponse now body shared = (.error e, shared))
      ∨ ∃ s', Published (some k.kind) shared.value (.component k body) s'
        ∧ shared.poisoned = false
        ∧ (k.adapter X).applySuccessfulResponse now body shared = (.ok (), ⟨s', false⟩) := by
  cases k with
  | policies =>
      rcases write_marked_cases (setDsl_cases hu now body none none) .policies "policy"
        with ⟨e, hno⟩ | ⟨s₁, hinst, hopen, hrun⟩
      · exact Or.inl ⟨e, hno⟩
      · exact Or.inr ⟨_, ⟨s₁, ⟨now, hinst⟩, rfl⟩, hopen, hrun⟩
  | labels =>
      rcases write_marked_cases (setLabels_cases hu now body none none) .labels "label"
        with ⟨e, hno⟩ | ⟨s₁, hinst, hopen, hrun⟩
      · exact Or.inl ⟨e, hno⟩
      · exact Or.inr ⟨_, ⟨s₁, ⟨now, hinst⟩, rfl⟩, hopen, hrun⟩
  | schema =>
      rcases write_marked_cases (setSchema_cases shared.value now body none none) .schema
          "schema"
        with ⟨e, hno⟩ | ⟨s₁, hinst, hopen, hrun⟩
      · exact Or.inl ⟨e, hno⟩
      · exact Or.inr ⟨_, ⟨s₁, ⟨now, hinst⟩, rfl⟩, hopen, hrun⟩

/-- **What the bundle fetcher does with an archive**. -/
theorem applyBundle_cases {shared : SharedStore X} (hu : CachesUsable shared.value)
    (prepared : PreparedBundle X) :
    (∃ e, shared.write "policy" (applyBundleAndMark prepared) = (.error e, shared))
      ∨ ∃ s', Published (some .bundle) shared.value (.bundle prepared) s'
        ∧ shared.poisoned = false
        ∧ shared.write "policy" (applyBundleAndMark prepared) = (.ok (), ⟨s', false⟩) := by
  rcases write_marked_cases (applyPreparedBundle_cases hu prepared) .bundle "policy"
    with ⟨e, hno⟩ | ⟨s₁, hinst, hopen, hrun⟩
  · exact Or.inl ⟨e, hno⟩
  · exact Or.inr ⟨_, ⟨s₁, hinst, rfl⟩, hopen, hrun⟩

/-- A checked update, as the commit of an upload. -/
theorem checked_cases {headers : HeaderMap} {s : PolicyStore X} {m : StoreM X Unit}
    {k : Component} {text : String} (hne : s.uploadToken ≠ some "")
    (hm : AllOrNothing m s (fun _ s' => Installs s (.component k text) s')) :
    AllOrNothing (do
      checkIndependentUpload headers (← get)
      m
      return (← get).metadata : StoreM X PoliciesMetadata) s
      (fun _ s' => Admits s headers (.component k text) ∧ Installs s (.component k text) s') := by
  refine allOrNothing_bind_get (allOrNothing_bind_lift ?_)
  intro _ hcheck
  obtain ⟨hauth, hmode⟩ := checkIndependentUpload_ok hcheck
  obtain ⟨hallow, htoken⟩ := checkUploadAuth_ok hne hauth
  refine hm.bind ?_
  intro _ s' hinst
  exact ⟨s'.metadata, s', rfl, ⟨hallow, htoken, fun _ _ _ => hmode⟩, hinst⟩

/-- **What the commit of an upload does**. -/
theorem commit_cases {s : PolicyStore X} (hu : CachesUsable s) (hne : s.uploadToken ≠ some "")
    (headers : HeaderMap) (now : Timestamp) (c : Candidate X) :
    AllOrNothing (c.commit headers now) s (fun _ s' =>
      Admits s headers (publicationOf c) ∧ Installs s (publicationOf c) s') := by
  cases c with
  | policies dslString =>
      exact checked_cases hne ((setDsl_cases hu now dslString none none).imp
        fun _ _ h => ⟨now, h⟩)
  | schema schemaString =>
      exact checked_cases hne ((setSchema_cases s now schemaString none none).imp
        fun _ _ h => ⟨now, h⟩)
  | bundle prepared response =>
      refine allOrNothing_bind_get (allOrNothing_bind_get (allOrNothing_bind_lift ?_))
      intro _ hauth
      obtain ⟨hallow, htoken⟩ := checkUploadAuth_ok hne hauth
      refine allOrNothing_bind_get (allOrNothing_bind_get
        ((applyPreparedBundle_cases hu prepared).bind ?_))
      intro _ s' hinst
      refine ⟨_, s', rfl, ⟨hallow, htoken, ?_⟩, hinst⟩
      intro k text h
      cases h

/-- The same, under the lock. -/
theorem writeStore_commit {shared : SharedStore X} (hu : CachesUsable shared.value)
    (hne : shared.value.uploadToken ≠ some "") (headers : HeaderMap) (now : Timestamp)
    (c : Candidate X) :
    (∃ e, writeStore shared (c.commit headers now) = (.error e, shared))
      ∨ ∃ body s', Admits shared.value headers (publicationOf c)
        ∧ Installs shared.value (publicationOf c) s' ∧ shared.poisoned = false
        ∧ writeStore shared (c.commit headers now) = (.ok body, ⟨s', false⟩) := by
  rw [writeStore]
  by_cases hpoison : shared.poisoned = true
  · rw [if_pos hpoison]
    exact Or.inl ⟨_, rfl⟩
  · rw [if_neg hpoison]
    have hopen : shared.poisoned = false := Bool.eq_false_iff.mpr hpoison
    rcases commit_cases hu hne headers now c with ⟨e, hno⟩ | ⟨body, s', hrun, hadmits, hinst⟩
    · rw [hno, ← hopen]
      exact Or.inl ⟨e, rfl⟩
    · rw [hrun]
      exact Or.inr ⟨body, s', hadmits, hinst, hopen, rfl⟩

/-! ## What the bundle fetcher has ready -/

/-- The answer to a conditional GET carries this archive, all of it. -/
def CarriesArchive (answer : Except String BundleResponse) (bytes : List UInt8) : Prop :=
  ∃ response chunks, answer = .ok response ∧ isSuccess response.status = true
    ∧ response.stream = List.map .ok chunks ∧ bytes = List.flatten chunks

/-- A download that came to an archive read all of it, within the limit. -/
theorem download_archive {f : BundleFetcher X} {answer : Except String BundleResponse}
    {d : Download} (h : f.download answer = .ok (some d)) :
    CarriesArchive answer d.bytes ∧ d.bytes.length ≤ f.limits.maxCompressedBytes := by
  obtain ⟨response, hanswer, h⟩ := bind_eq_ok.mp h
  dsimp only at h
  by_cases hsame : response.status = notModified
  · rw [if_pos hsame] at h
    cases h
  · rw [if_neg hsame] at h
    obtain ⟨hstatus, h⟩ := check_eq_ok.mp h
    obtain ⟨_, h⟩ := check_eq_ok.mp h
    obtain ⟨bytes, hread, h⟩ := bind_eq_ok.mp h
    cases h
    rw [BundleFetcher.readStream_eq_collect] at hread
    obtain ⟨hfits, chunks, hstream, hbytes⟩ := BoundedBuffer.collect_eq_ok (Nat.zero_le _) hread
    refine ⟨⟨response, chunks, mapError_eq_ok.mp hanswer, ?_, hstream, hbytes⟩, hfits⟩
    rwa [Bool.not_eq_true, Bool.not_eq_false'] at hstatus

/-- An archive is valid under the fetcher's settings, and the bundle was
    prepared from it for the fetcher's source. -/
def PreparedFrom (f : BundleFetcher X) (mode : SchemaValidationMode) (bytes : List UInt8)
    (prepared : PreparedBundle X) : Prop :=
  ∃ v clock, X.validateArchive bytes f.signaturePolicy f.trustStore f.limits = .ok v
    ∧ prepareBundleWithEngineMode clock v (some f.url) (some f.refreshSecs) mode f.engineMode
      = .ok prepared

/-- **What is ready** was delivered, is not what was committed last, and is valid. -/
theorem fetch_replacement {f : BundleFetcher X} {env : BundleFetcher.Surroundings X}
    {d : Download} {prepared : PreparedBundle X}
    (h : f.fetch env = .ok (.replacement d prepared)) :
    CarriesArchive (env.get f.validators) d.bytes
      ∧ d.bytes.length ≤ f.limits.maxCompressedBytes
      ∧ f.archiveSha256 ≠ some (hexSha256 X d.bytes)
      ∧ PreparedFrom f env.atRead.value.schemaValidationMode d.bytes prepared := by
  rw [BundleFetcher.fetch] at h
  cases hdl : f.download (env.get f.validators) with
  | error e =>
      rw [hdl] at h
      cases h
  | ok answer =>
      rw [hdl] at h
      cases answer with
      | none => cases h
      | some d' =>
          dsimp only at h
          by_cases hsame : f.archiveSha256 = some (hexSha256 X d'.bytes)
          · rw [if_pos hsame] at h
            cases h
          · rw [if_neg hsame] at h
            by_cases hpoison : env.atRead.poisoned = true
            · rw [if_pos hpoison] at h
              cases h
            · rw [if_neg hpoison] at h
              cases hprep : f.prepare env.clock env.taskFailure d'.bytes
                  env.atRead.value.schemaValidationMode with
              | error e =>
                  rw [hprep] at h
                  cases h
              | ok p =>
                  rw [hprep] at h
                  cases h
                  obtain ⟨hcarries, hfits⟩ := download_archive hdl
                  refine ⟨hcarries, hfits, hsame, ?_⟩
                  unfold BundleFetcher.prepare at hprep
                  cases htask : env.taskFailure with
                  | some msg =>
                      rw [htask] at hprep
                      cases hprep
                  | none =>
                      rw [htask] at hprep
                      obtain ⟨v, hv, hp⟩ := bind_eq_ok.mp hprep
                      exact ⟨v, env.clock, mapError_eq_ok.mp hv, mapError_eq_ok.mp hp⟩

/-! ## Steps of the tasks -/

/-- A HEAD takes over validators at most. -/
theorem onHead_hash (f : GenericFetcher) (answer : Except String HeadResponse) :
    (f.onHead answer).2.hash = f.hash := by
  cases answer with
  | error e => rfl
  | ok head =>
      dsimp only [GenericFetcher.onHead]
      by_cases hsame : head.status = notModified
      · rw [if_pos hsame]
      · rw [if_neg hsame]
        by_cases hok : isSuccess head.status = true
        · rw [if_pos hok]
        · rw [if_neg hok]

/-- A step of a component fetcher leaves the store alone and what it remembers,
    or publishes the body it had read and remembers its hash. -/
theorem fetcherStep_cases {shared : SharedStore X} (hu : CachesUsable shared.value)
    (net : Exchange) (k : Component) (now : Timestamp) (t : Task) :
    ((fetched k t (fetcherStep net (k.adapter X) now t shared).1 : Outcome X) = .nothing
        ∧ (fetcherStep net (k.adapter X) now t shared).2.2 = shared
        ∧ (fetcherStep net (k.adapter X) now t shared).2.1.fetcher.hash = t.fetcher.hash)
      ∨ ∃ f body newHash s', t = ⟨f, .bodyRead body newHash⟩
        ∧ Published (some k.kind) shared.value (.component k body) s'
        ∧ shared.poisoned = false
        ∧ (fetched k t (fetcherStep net (k.adapter X) now t shared).1 : Outcome X)
          = .published (.component k body)
        ∧ (fetcherStep net (k.adapter X) now t shared).2.2 = ⟨s', false⟩
        ∧ (fetcherStep net (k.adapter X) now t shared).2.1.fetcher.hash = some newHash := by
  obtain ⟨f, phase⟩ := t
  cases phase with
  | idle =>
      refine Or.inl ⟨rfl, ?_⟩
      have hhead := onHead_hash f (net.head f.validators)
      simp only [fetcherStep]
      cases hrun : f.onHead (net.head f.validators) with
      | mk r f' =>
          rw [hrun] at hhead
          cases r with
          | error e => exact ⟨rfl, hhead⟩
          | ok goesOn => cases goesOn <;> exact ⟨rfl, hhead⟩
  | headDone =>
      refine Or.inl ⟨rfl, ?_⟩
      simp only [fetcherStep]
      cases f.onGet X net.get with
      | error e => exact ⟨rfl, rfl⟩
      | ok changed => cases changed <;> exact ⟨rfl, rfl⟩
  | bodyRead body newHash =>
      simp only [fetcherStep, GenericFetcher.onApply]
      rcases adapter_cases hu k now body with ⟨e, hno⟩ | ⟨s', hpub, hopen, hrun⟩
      · rw [hno]
        exact Or.inl ⟨rfl, rfl, rfl⟩
      · rw [hrun]
        exact Or.inr ⟨f, body, newHash, s', rfl, hpub, hopen, rfl, rfl, rfl⟩

/-- A step of the bundle fetcher leaves the store alone and what it remembers,
    or publishes the bundle it had prepared and remembers its archive. -/
theorem bundleStep_cases {shared : SharedStore X} (hu : CachesUsable shared.value)
    (get : ConditionalFetch.Validators String → Except String BundleResponse)
    (clock : BundleClock) (taskFailure : Option String) (t : BundleTask X) :
    ((bundleFetched t (bundleStep get clock taskFailure t shared).1 : Outcome X) = .nothing
        ∧ (bundleStep get clock taskFailure t shared).2.2 = shared
        ∧ (bundleStep get clock taskFailure t shared).2.1.fetcher.archiveSha256
          = t.fetcher.archiveSha256)
      ∨ ∃ f d prepared s', t = ⟨f, some (d, prepared)⟩
        ∧ Published (some .bundle) shared.value (.bundle prepared) s'
        ∧ shared.poisoned = false
        ∧ (bundleFetched t (bundleStep get clock taskFailure t shared).1 : Outcome X)
          = .published (.bundle prepared)
        ∧ (bundleStep get clock taskFailure t shared).2.2 = ⟨s', false⟩
        ∧ (bundleStep get clock taskFailure t shared).2.1.fetcher.archiveSha256
          = some (hexSha256 X d.bytes) := by
  obtain ⟨f, ready⟩ := t
  cases ready with
  | none =>
      refine Or.inl ⟨rfl, ?_⟩
      simp only [bundleStep]
      cases f.fetch ⟨get, shared, clock, taskFailure⟩ with
      | error e => exact ⟨rfl, rfl⟩
      | ok fetched => cases fetched <;> exact ⟨rfl, rfl⟩
  | some archive =>
      obtain ⟨d, prepared⟩ := archive
      simp only [bundleStep]
      rcases applyBundle_cases hu prepared with ⟨e, hno⟩ | ⟨s', hpub, hopen, hrun⟩
      · rw [hno]
        exact Or.inl ⟨rfl, rfl, rfl⟩
      · rw [hrun]
        exact Or.inr ⟨f, d, prepared, s', rfl, hpub, hopen, rfl, rfl, rfl⟩

variable (uploads : ι → Upload) (config : BundleRuntimeConfig X)
  (engineMode : Option BundleEngineMode)

/-- A step of a request leaves the store alone, or publishes the candidate it
    had prepared, admitted by the store it finds. -/
theorem advance_cases {svc : Service X ι} (hu : CachesUsable svc.shared.value)
    (hne : svc.shared.value.uploadToken ≠ some "") (i : ι) (now : Timestamp) :
    (uploaded (svc.phase i) ((svc.advance uploads config engineMode i now).phase i) = .nothing
        ∧ (svc.advance uploads config engineMode i now).shared = svc.shared)
      ∨ ∃ c s', svc.phase i = .prepared c
        ∧ Admits svc.shared.value (uploads i).headers (publicationOf c)
        ∧ Installs svc.shared.value (publicationOf c) s'
        ∧ svc.shared.poisoned = false
        ∧ uploaded (svc.phase i) ((svc.advance uploads config engineMode i now).phase i)
          = .published (publicationOf c)
        ∧ (svc.advance uploads config engineMode i now).shared = ⟨s', false⟩ := by
  rw [Service.advance]
  cases hphase : svc.phase i with
  | received =>
      refine Or.inl ⟨rfl, ?_⟩
      dsimp only
      cases (readStore svc.shared).bind (uploads i).check <;> rfl
  | checked captured =>
      refine Or.inl ⟨rfl, ?_⟩
      dsimp only
      cases (uploads i).prepare config engineMode captured <;> rfl
  | answered r => exact Or.inl ⟨rfl, rfl⟩
  | prepared c =>
      dsimp only
      have hphases : ∀ r shared, (svc.put i (.answered r) shared).phase i = .answered r :=
        fun r shared => Function.update_self ..
      rcases writeStore_commit hu hne (uploads i).headers now c with
        ⟨e, hno⟩ | ⟨body, s', hadmits, hinst, hopen, hrun⟩
      · rw [hno, hphases]
        exact Or.inl ⟨rfl, rfl⟩
      · rw [hrun, hphases]
        exact Or.inr ⟨c, s', rfl, hadmits, hinst, hopen, rfl, rfl⟩

/-! ## Steps of the server -/

/-- Everything but the two listing caches is as before; they are usable, and
    as fresh as they were. -/
structure SameButCaches (s s' : PolicyStore X) : Prop where
  same : ∃ raw json, s' = { s with listPoliciesRawCache := raw, listPoliciesJsonCache := json }
  usable : CachesUsable s'
  fresh : CachesFresh s → CachesFresh s'

theorem SameButCaches.refl {s : PolicyStore X} (hu : CachesUsable s) : SameButCaches s s :=
  ⟨⟨_, _, rfl⟩, hu, id⟩

/-- Who publishes in a step of the server, and what. -/
inductive PublishedBy (srv : Server X ι) :
    Event X ι → Option RemoteSourceKind → Publication X → Prop where
  | fetcher (k : Component) (net : Exchange) (now : Timestamp) (f : GenericFetcher)
      (body newHash : String) (h : srv.fetchers k = some ⟨f, .bodyRead body newHash⟩) :
      PublishedBy srv (.fetch k net now) (some k.kind) (.component k body)
  | bundleFetcher (get : ConditionalFetch.Validators String → Except String BundleResponse)
      (clock : BundleClock) (taskFailure : Option String) (f : BundleFetcher X) (d : Download)
      (prepared : PreparedBundle X) (h : srv.bundleFetcher = some ⟨f, some (d, prepared)⟩) :
      PublishedBy srv (.fetchBundle get clock taskFailure) (some .bundle) (.bundle prepared)
  | upload (i : ι) (now : Timestamp) (c : Candidate X) (h : srv.service.phase i = .prepared c)
      (ha : Admits srv.store (uploads i).headers (publicationOf c)) :
      PublishedBy srv (.upload i now) none (publicationOf c)

/-- A step published: something went through all its checks, under a lock that
    could be taken. -/
structure Publishes (srv : Server X ι) (e : Event X ι) (who : Option RemoteSourceKind)
    (p : Publication X) : Prop where
  outcome : (step uploads config engineMode e srv).1 = .published p
  published : Published who srv.store p (step uploads config engineMode e srv).2.store
  by' : PublishedBy uploads srv e who p
  unpoisoned : srv.shared.poisoned = false

/-- A listing touches its cache and nothing else. -/
theorem listCall_sameButCaches {s : PolicyStore X} (hu : CachesUsable s) (raw : Bool)
    (user : String) (groups namespaces : List String) :
    SameButCaches s ((listCall raw user groups namespaces).step s).2 := by
  refine step_keeps hu _ (.refl hu) fun s' hok => ?_
  have hkeeps : CachesFresh s → CachesFresh s' := by
    intro hfresh
    refine cachesFresh_stepOk hfresh hok ?_
    cases raw <;> trivial
  refine ⟨?_, stepOk_usable hu hok, hkeeps⟩
  cases raw with
  | true =>
      have hs : s' = _ := hok
      exact ⟨_, s.listPoliciesJsonCache, hs⟩
  | false =>
      have hs : s' = _ := hok
      exact ⟨s.listPoliciesRawCache, _, hs⟩

/-- **EVERY STEP** of the server leaves all but the listing caches alone, or is
    one publication. -/
theorem step_cases {srv : Server X ι} (hu : CachesUsable srv.store)
    (hne : srv.store.uploadToken ≠ some "") (e : Event X ι) :
    ((step uploads config engineMode e srv).1.publication = none
        ∧ SameButCaches srv.store (step uploads config engineMode e srv).2.store)
      ∨ ∃ who p, Publishes uploads config engineMode srv e who p := by
  cases e with
  | fetch k net now =>
      cases ht : srv.fetchers k with
      | none =>
          refine Or.inl ?_
          rw [step]
          simp only [ht]
          exact ⟨rfl, .refl hu⟩
      | some t =>
          have hstep : step uploads config engineMode (.fetch k net now) srv
              = (fetched k t (fetcherStep net (k.adapter X) now t srv.shared).1,
                { srv.withShared (fetcherStep net (k.adapter X) now t srv.shared).2.2 with
                  fetchers := Function.update srv.fetchers k
                    (some (fetcherStep net (k.adapter X) now t srv.shared).2.1) }) := by
            rw [step]
            simp only [ht]
          rcases fetcherStep_cases hu net k now t with
            ⟨hnone, hsame, _⟩ | ⟨f, body, newHash, s', rfl, hpub, hopen, hout, hstore, _⟩
          · refine Or.inl ?_
            rw [hstep, hnone, hsame]
            exact ⟨rfl, .refl hu⟩
          · refine Or.inr ⟨some k.kind, .component k body, ?_, ?_, ?_, hopen⟩
            · rw [hstep, hout]
            · rw [hstep, hstore]
              exact hpub
            · exact .fetcher k net now f body newHash ht
  | fetchBundle get clock taskFailure =>
      cases ht : srv.bundleFetcher with
      | none =>
          refine Or.inl ?_
          rw [step]
          simp only [ht]
          exact ⟨rfl, .refl hu⟩
      | some t =>
          have hstep : step uploads config engineMode (.fetchBundle get clock taskFailure) srv
              = (bundleFetched t (bundleStep get clock taskFailure t srv.shared).1,
                { srv.withShared (bundleStep get clock taskFailure t srv.shared).2.2 with
                  bundleFetcher :=
                    some (bundleStep get clock taskFailure t srv.shared).2.1 }) := by
            rw [step]
            simp only [ht]
          rcases bundleStep_cases hu get clock taskFailure t with
            ⟨hnone, hsame, _⟩ | ⟨f, d, prepared, s', rfl, hpub, hopen, hout, hstore, _⟩
          · refine Or.inl ?_
            rw [hstep, hnone, hsame]
            exact ⟨rfl, .refl hu⟩
          · refine Or.inr ⟨some .bundle, .bundle prepared, ?_, ?_, ?_, hopen⟩
            · rw [hstep, hout]
            · rw [hstep, hstore]
              exact hpub
            · exact .bundleFetcher get clock taskFailure f d prepared ht
  | upload i now =>
      rcases advance_cases uploads config engineMode hu hne i now with
        ⟨hnone, hsame⟩ | ⟨c, s', hphase, hadmits, hinst, hopen, hout, hstore⟩
      · refine Or.inl ⟨?_, ?_⟩
        · rw [step, hnone]
          rfl
        · show SameButCaches srv.store
            (srv.service.advance uploads config engineMode i now).shared.value
          rw [hsame]
          exact .refl hu
      · refine Or.inr ⟨none, publicationOf c, ?_, ⟨s', hinst, ?_⟩, ?_, hopen⟩
        · rw [step, hout]
        · show (srv.service.advance uploads config engineMode i now).shared.value = s'
          rw [hstore]
        · exact .upload i now c hphase hadmits
  | listPolicies raw user groups namespaces =>
      refine Or.inl ?_
      rw [step, readStore]
      by_cases hpoison : srv.shared.poisoned = true
      · rw [if_pos hpoison]
        exact ⟨rfl, .refl hu⟩
      · rw [if_neg hpoison]
        exact ⟨rfl, listCall_sameButCaches hu raw user groups namespaces⟩
  | poison => exact Or.inl ⟨rfl, .refl hu⟩

end TreetopServerSteps
