import TreetopRest.ServerRunProofs

/-! # Where everything that is served comes from

    A launched server serves what was published, and nothing was published
    that did not come in by one of three ways: a body that a configured source
    delivered, an archive that the configured bundle source delivered and that
    is valid under the configured keys, or a request that presents the upload
    token to a server that takes uploads.  A task in flight is the only memory
    of what came in, so the invariant is about TASKS (`Underway`). -/

namespace TreetopOrigins

open FallibleState UpdateRun
open TreetopErrors TreetopCrates TreetopMetadata TreetopWire TreetopStore
open TreetopFetcher TreetopBundleFetcher TreetopSections TreetopRequest TreetopUpload
open TreetopAdmission TreetopConfig TreetopServer TreetopServerSteps TreetopLaunch TreetopServerRuns
open TreetopStartup (Task)
open TreetopUploadSafety (Service Phase Authorized presentedToken checkUploadAuth_ok
  checkIndependentUpload_ok archiveUpload)

variable {X : Crates} {N : NetCrate} {K : KeyCrate X} {ι : Type}
  {host : Host} {now : Timestamp} {token : String} {config : Config} {l : Launched X N}
  {uploads : ι → Upload}

/-! ## Origins -/

/-- The last step that the fetcher of a source made was one with `P`. -/
def LastStep (kind : RemoteSourceKind) (P : Event X ι → Prop) (past : List (Event X ι)) : Prop :=
  ∃ before e after, past = before ++ e :: after ∧ e.source = some kind ∧ P e
    ∧ ∀ e' ∈ after, e'.source ≠ some kind

/-- An archive that was delivered and is valid under the settings of the
    launch, made ready for the configured bundle source. -/
structure FromBundleSource (config : Config) (l : Launched X N) (past : List (Event X ι))
    (prepared : PreparedBundle X) (bytes : List UInt8) (limits : ArchiveLimits) (url : Endpoint)
    (v : X.ValidatedBundle) (clock : BundleClock) : Prop where
  source : config.bundleUrl = some url
  delivered : ∃ e ∈ past, DeliversArchive bytes e
  limited : X.archiveLimitsNew l.bundleRuntime.maxCompressedBytes
    l.bundleRuntime.maxUncompressedBytes = .ok limits
  fits : bytes.length ≤ limits.maxCompressedBytes
  valid : X.validateArchive bytes l.bundleRuntime.signaturePolicy l.bundleRuntime.trustStore
    limits = .ok v
  made : prepareBundleWithEngineMode clock v (some url) (some config.bundleRefresh)
    config.schemaValidationMode config.bundleEngineMode = .ok prepared

/-- An upload that a launched server takes: uploads are on, the request
    presents the token, and in bundle mode it is a bundle. -/
structure Entitled (config : Config) (token : String) (u : Upload) : Prop where
  allowed : config.allowUpload = true
  token : presentedToken u.headers = some token
  independent : u.isBundle = false → config.bundleUrl = none

/-- Where a publication may come from, after some events: the fetcher of a
    configured source holds what it is about to apply since its last step,
    whose GET delivered it, or an entitled upload was prepared. -/
inductive Origin [DecidableEq ι] (config : Config) (l : Launched X N) (token : String)
    (uploads : ι → Upload) (past : List (Event X ι)) : Event X ι → Publication X → Prop where
  | source (k : Component) (net : Exchange) (now : Timestamp) (body : String)
      (hsource : (config.url k).isSome = true)
      (hphase : ∃ f newHash,
        (running uploads l past).fetchers k = some ⟨f, .bodyRead body newHash⟩)
      (hdelivered : LastStep k.kind (Delivers k body) past) :
      Origin config l token uploads past (.fetch k net now) (.component k body)
  | bundleSource (get : ConditionalFetch.Validators String → Except String BundleResponse)
      (clock : BundleClock) (taskFailure : Option String) (prepared : PreparedBundle X)
      (d : Download)
      (hphase : ∃ f, (running uploads l past).bundleFetcher = some ⟨f, some (d, prepared)⟩)
      (hdelivered : LastStep .bundle (DeliversArchive d.bytes) past)
      (h : ∃ limits url v clock,
        FromBundleSource config l past prepared d.bytes limits url v clock) :
      Origin config l token uploads past (.fetchBundle get clock taskFailure) (.bundle prepared)
  | upload (i : ι) (now : Timestamp) (c : Candidate X)
      (hentitled : Entitled config token (uploads i))
      (hprep : (uploads i).prepare l.bundleRuntime (some l.bundleEngineMode)
        ⟨true, config.schemaValidationMode⟩ = .ok c) :
      Origin config l token uploads past (.upload i now) (publicationOf c)

/-- The token `main` makes up is not empty. -/
theorem uploadToken_ne (h : LaunchedFor K host token config l) (htoken : token ≠ "") :
    l.store.uploadToken ≠ some "" := by
  rw [h.uploadToken]
  cases config.allowUpload with
  | false =>
      intro habs
      cases habs
  | true =>
      intro habs
      exact htoken (Option.some.inj habs)

/-- A request that passed its check against the store of a launch is entitled. -/
theorem check_entitled (h : LaunchedFor K host token config l) (htoken : token ≠ "")
    {u : Upload} {captured : Captured} (hcheck : u.check l.store = .ok captured) :
    Entitled config token u ∧ captured = ⟨true, config.schemaValidationMode⟩ := by
  obtain ⟨hcaptured, hindependent, hauth⟩ := check_ok hcheck
  -- whatever its kind, the token was looked at
  have hok : checkUploadAuth u.headers l.store.allowUpload l.store.uploadToken = .ok () := by
    cases hkind : u.isBundle with
    | true => exact hauth hkind
    | false => exact (checkIndependentUpload_ok (hindependent hkind)).1
  obtain ⟨hallow, t, ht, hpresented⟩ := checkUploadAuth_ok (uploadToken_ne h htoken) hok
  rw [h.allowUpload] at hallow
  rw [h.uploadToken, hallow] at ht
  cases ht
  refine ⟨⟨hallow, hpresented, ?_⟩, ?_⟩
  · intro hkind
    have hmode := (checkIndependentUpload_ok (hindependent hkind)).2
    rw [h.bundleUrlMode] at hmode
    exact Option.not_isSome_iff_eq_none.mp (Bool.eq_false_iff.mp hmode)
  · rw [hcaptured, h.allowUpload, h.mode, hallow]

/-! ## Tasks in flight -/

/-- Everything that is under way was delivered by the events so far, or made of
    a request's own body. -/
structure Underway (config : Config) (l : Launched X N) (uploads : ι → Upload)
    (past : List (Event X ι)) (srv : Server X ι) : Prop where
  inOrder : InOrder l.store srv
  configured : ∀ k, (srv.fetchers k).isSome = (config.url k).isSome
  bodies : ∀ k f body newHash, srv.fetchers k = some ⟨f, .bodyRead body newHash⟩ →
    LastStep k.kind (Delivers k body) past
  bundleFetcher : ∀ t, srv.bundleFetcher = some t →
    ConfiguredFetcher config l.bundleRuntime t.fetcher
  archive : ∀ t d prepared, srv.bundleFetcher = some t → t.ready = some (d, prepared) →
    ∃ limits url v clock,
      FromBundleSource config l past prepared d.bytes limits url v clock
  archiveLast : ∀ t d prepared, srv.bundleFetcher = some t → t.ready = some (d, prepared) →
    LastStep .bundle (DeliversArchive d.bytes) past
  requests : ∀ i, Carried l.bundleRuntime (some l.bundleEngineMode) l.store (uploads i)
    (srv.service.phase i)

/-- Nothing is under way at first. -/
theorem underway_start (h : LaunchedFor K host token config l) :
    Underway config l uploads [] (Server.start l : Server X ι) where
  inOrder := ⟨h.usable, .refl _⟩
  configured k := by
    show ((l.fetchers k).map _).isSome = _
    rw [h.fetchers k, Option.isSome_map, Option.isSome_map]
  bodies := by
    intro k f body newHash hk
    obtain ⟨g, _, hg⟩ := Option.map_eq_some_iff.mp hk
    cases hg
  bundleFetcher := by
    intro t ht
    obtain ⟨f, hf, rfl⟩ := Option.map_eq_some_iff.mp ht
    exact (h.bundleFetcher f hf).toConfiguredFetcher
  archive := by
    intro t d prepared ht hready
    obtain ⟨f, _, rfl⟩ := Option.map_eq_some_iff.mp ht
    cases hready
  archiveLast := by
    intro t d prepared ht hready
    obtain ⟨f, _, rfl⟩ := Option.map_eq_some_iff.mp ht
    cases hready
  requests _ := trivial

section Past

variable {past : List (Event X ι)} {srv : Server X ι}

/-- What an earlier event delivered stays delivered. -/
theorem delivered_later {P : Event X ι → Prop} (h : ∃ e ∈ past, P e) (e : Event X ι) :
    ∃ e' ∈ past ++ [e], P e' := by
  obtain ⟨e', hmem, hp⟩ := h
  exact ⟨e', List.mem_append_left _ hmem, hp⟩

/-- The step that is made now is the last one. -/
theorem lastStep_now {kind : RemoteSourceKind} {P : Event X ι → Prop} {e : Event X ι}
    (he : e.source = some kind) (hp : P e) : LastStep kind P (past ++ [e]) :=
  ⟨past, e, [], rfl, he, hp, fun _ h => absurd h List.not_mem_nil⟩

/-- Steps of others leave it the last one. -/
theorem LastStep.later {kind : RemoteSourceKind} {P : Event X ι → Prop}
    (h : LastStep kind P past) {e : Event X ι} (he : e.source ≠ some kind) :
    LastStep kind P (past ++ [e]) := by
  obtain ⟨before, e₀, after, rfl, hsource, hp, hafter⟩ := h
  refine ⟨before, e₀, after ++ [e], by rw [List.append_assoc, List.cons_append], hsource, hp, ?_⟩
  intro e' he'
  rcases List.mem_append.mp he' with hold | hnew
  · exact hafter e' hold
  · rw [List.mem_singleton.mp hnew]
    exact he

theorem kind_injective {k k' : Component} (h : k.kind = k'.kind) : k = k' := by
  cases k <;> cases k' <;> first | rfl | cases h

theorem kind_ne_bundle (k : Component) : k.kind ≠ .bundle := by
  cases k <;> exact RemoteSourceKind.noConfusion

theorem FromBundleSource.later {prepared : PreparedBundle X} {bytes : List UInt8}
    {limits : ArchiveLimits} {url : Endpoint} {v : X.ValidatedBundle} {clock : BundleClock}
    (h : FromBundleSource config l past prepared bytes limits url v clock) (e : Event X ι) :
    FromBundleSource config l (past ++ [e]) prepared bytes limits url v clock :=
  ⟨h.source, delivered_later h.delivered e, h.limited, h.fits, h.valid, h.made⟩

/-- Where no task moves, everything stays under way. -/
theorem Underway.of_same {srv' : Server X ι} (h : Underway config l uploads past srv)
    (hin : InOrder l.store srv') (hfetchers : srv'.fetchers = srv.fetchers)
    (hbundle : srv'.bundleFetcher = srv.bundleFetcher) (e : Event X ι)
    (hidle : ∀ k, e.source = some k.kind → srv.fetchers k = none)
    (hidleBundle : e.source = some .bundle → srv.bundleFetcher = none)
    (hrequests : ∀ i, Carried l.bundleRuntime (some l.bundleEngineMode) l.store (uploads i)
      (srv'.service.phase i)) :
    Underway config l uploads (past ++ [e]) srv' where
  inOrder := hin
  configured := by rw [hfetchers]; exact h.configured
  bodies := by
    intro k f body newHash hk
    rw [hfetchers] at hk
    refine (h.bodies k f body newHash hk).later ?_
    intro he
    rw [hidle k he] at hk
    cases hk
  bundleFetcher := by rw [hbundle]; exact h.bundleFetcher
  archive := by
    intro t d prepared ht hready
    rw [hbundle] at ht
    obtain ⟨limits, url, v, clock, hfrom⟩ := h.archive t d prepared ht hready
    exact ⟨limits, url, v, clock, hfrom.later e⟩
  archiveLast := by
    intro t d prepared ht hready
    rw [hbundle] at ht
    refine (h.archiveLast t d prepared ht hready).later ?_
    intro he
    rw [hidleBundle he] at ht
    cases ht
  requests := hrequests

/-- What the bundle fetcher has fetched comes from its source. -/
theorem fromBundleSource_of_fetch {f : BundleFetcher X}
    (hf : ConfiguredFetcher config l.bundleRuntime f) {shared : SharedStore X}
    (hmode : shared.value.schemaValidationMode = config.schemaValidationMode)
    {get : ConditionalFetch.Validators String → Except String BundleResponse}
    {clock : BundleClock} {taskFailure : Option String} {d : Download}
    {prepared : PreparedBundle X}
    (h : f.fetch ⟨get, shared, clock, taskFailure⟩ = .ok (.replacement d prepared)) :
    ∃ limits url v clock', FromBundleSource config l
      (past ++ [.fetchBundle get clock taskFailure]) prepared d.bytes limits url v clock' := by
  obtain ⟨hcarries, hfits, _, v, clock', hvalid, hprep⟩ := fetch_replacement h
  refine ⟨f.limits, f.url, v, clock', hf.url, ?_, hf.limits, hfits, ?_, ?_⟩
  · exact ⟨_, List.mem_append_right _ (List.mem_singleton_self _), f.validators, hcarries⟩
  · rw [← hf.signaturePolicy, ← hf.trustStore]
    exact hvalid
  · rw [hmode, hf.refreshSecs, hf.engineMode] at hprep
    exact hprep

variable [DecidableEq ι]

/-- A step of a component fetcher keeps everything under way; a body it has now
    read was delivered by this step. -/
theorem Underway.fetch (hu : Underway config l uploads past srv) {k : Component} {net : Exchange}
    {now : Timestamp} {t : TreetopStartup.Task} (ht : srv.fetchers k = some t)
    (hin : InOrder l.store (step uploads l.bundleRuntime (some l.bundleEngineMode)
      (.fetch k net now) srv).2) :
    Underway config l uploads (past ++ [.fetch k net now])
      (step uploads l.bundleRuntime (some l.bundleEngineMode) (.fetch k net now) srv).2 := by
  rw [step] at hin ⊢
  simp only [ht] at hin ⊢
  refine ⟨hin, ?_, ?_, hu.bundleFetcher, ?_, ?_, hu.requests⟩
  · intro k'
    rw [← hu.configured k']
    by_cases hk : k' = k
    · subst hk
      dsimp only
      rw [Function.update_self, ht]
      rfl
    · dsimp only
      rw [Function.update_of_ne hk]
  · intro k' f body newHash hf
    by_cases hk : k' = k
    · subst hk
      dsimp only at hf
      rw [Function.update_self] at hf
      have hphase := congrArg Task.phase (Option.some.inj hf)
      exact lastStep_now rfl ⟨rfl, (fetcherStep_reads hphase).2⟩
    · dsimp only at hf
      rw [Function.update_of_ne hk] at hf
      refine (hu.bodies k' f body newHash hf).later ?_
      intro hkind
      exact hk (kind_injective (Option.some.inj hkind)).symm
  · intro t' d prepared ht' hready
    obtain ⟨limits, url, v, clock, hfrom⟩ := hu.archive t' d prepared ht' hready
    exact ⟨limits, url, v, clock, hfrom.later _⟩
  · intro t' d prepared ht' hready
    refine (hu.archiveLast t' d prepared ht' hready).later ?_
    intro hkind
    exact kind_ne_bundle k (Option.some.inj hkind)

/-- So does a step of the bundle fetcher, with the bundle it has made ready. -/
theorem Underway.fetchBundle (h : LaunchedFor K host token config l)
    (hu : Underway config l uploads past srv)
    {get : ConditionalFetch.Validators String → Except String BundleResponse}
    {clock : BundleClock} {taskFailure : Option String} {t : BundleTask X}
    (ht : srv.bundleFetcher = some t)
    (hin : InOrder l.store (step uploads l.bundleRuntime (some l.bundleEngineMode)
      (.fetchBundle get clock taskFailure) srv).2) :
    Underway config l uploads (past ++ [.fetchBundle get clock taskFailure])
      (step uploads l.bundleRuntime (some l.bundleEngineMode)
        (.fetchBundle get clock taskFailure) srv).2 := by
  rw [step] at hin ⊢
  simp only [ht] at hin ⊢
  refine ⟨hin, hu.configured, ?_, ?_, ?_, ?_, hu.requests⟩
  · intro k f body newHash hf
    refine (hu.bodies k f body newHash hf).later ?_
    intro hk
    exact kind_ne_bundle k (Option.some.inj hk).symm
  · rintro t' ⟨⟩
    exact bundleStep_configured (hu.bundleFetcher t ht)
  · rintro t' d prepared ⟨⟩ hready
    refine fromBundleSource_of_fetch (hu.bundleFetcher t ht) ?_ (bundleStep_ready hready)
    exact hu.inOrder.settings.mode.trans h.mode
  · rintro t' d prepared ⟨⟩ hready
    obtain ⟨hcarries, _⟩ := fetch_replacement (bundleStep_ready hready)
    exact lastStep_now rfl ⟨t.fetcher.validators, hcarries⟩

/-- **STEP**: what comes under way in a step was delivered by it. -/
theorem step_underway (h : LaunchedFor K host token config l) (htoken : token ≠ "")
    (hu : Underway config l uploads past srv) (e : Event X ι) :
    Underway config l uploads (past ++ [e])
      (step uploads l.bundleRuntime (some l.bundleEngineMode) e srv).2 := by
  have hin := step_inOrder uploads l.bundleRuntime (some l.bundleEngineMode)
    (uploadToken_ne h htoken) hu.inOrder e
  cases e with
  | fetch k net now =>
      cases ht : srv.fetchers k with
      | none =>
          have hstay : step uploads l.bundleRuntime (some l.bundleEngineMode)
              (.fetch k net now) srv = (.nothing, srv) := by
            rw [step]
            simp only [ht]
          rw [hstay]
          refine hu.of_same hu.inOrder rfl rfl _ ?_ ?_ hu.requests
          · intro k' hk'
            rw [← kind_injective (Option.some.inj hk')]
            exact ht
          · intro hk'
            exact absurd (Option.some.inj hk') (kind_ne_bundle k)
      | some t => exact hu.fetch ht hin
  | fetchBundle get clock taskFailure =>
      cases ht : srv.bundleFetcher with
      | none =>
          have hstay : step uploads l.bundleRuntime (some l.bundleEngineMode)
              (.fetchBundle get clock taskFailure) srv = (.nothing, srv) := by
            rw [step]
            simp only [ht]
          rw [hstay]
          refine hu.of_same hu.inOrder rfl rfl _ ?_ (fun _ => ht) hu.requests
          intro k hk
          exact absurd (Option.some.inj hk).symm (kind_ne_bundle k)
      | some t => exact Underway.fetchBundle h hu ht hin
  | upload i now =>
      exact hu.of_same hin rfl rfl _ (fun _ he => by cases he) (fun he => by cases he)
        (advance_carried uploads l.bundleRuntime (some l.bundleEngineMode) hu.inOrder.settings
          hu.requests i now)
  | listPolicies raw user groups namespaces =>
      have hparts : ∀ shared : SharedStore X,
          InOrder l.store (srv.withShared shared) →
          Underway config l uploads (past ++ [.listPolicies raw user groups namespaces])
            (srv.withShared shared) :=
        fun shared hin => hu.of_same hin rfl rfl _ (fun _ he => by cases he)
          (fun he => by cases he) hu.requests
      rw [step] at hin ⊢
      cases hread : readStore srv.shared with
      | error e =>
          exact hparts _ hu.inOrder
      | ok s =>
          rw [hread] at hin
          exact hparts _ hin
  | poison =>
      exact hu.of_same hin rfl rfl _ (fun _ he => by cases he) (fun he => by cases he) hu.requests

end Past

variable [DecidableEq ι]

/-- The rule for launched servers: a relation between the events so far and the
    server, kept by every step, holds at every moment of a run. -/
theorem running_induct (P : List (Event X ι) → Server X ι → Prop)
    (hstart : P [] (Server.start l))
    (hstep : ∀ past e, P past (running uploads l past) → P (past ++ [e])
      (step uploads l.bundleRuntime (some l.bundleEngineMode) e (running uploads l past)).2)
    (events : List (Event X ι)) : P events (running uploads l events) := by
  have hall : running uploads l events = running uploads l events
      ∧ P events (running uploads l events) := by
    refine past_induct (fun past srv => srv = running uploads l past ∧ P past srv)
      ⟨rfl, hstart⟩ ?_ events
    rintro past _ e ⟨rfl, hp⟩
    refine ⟨?_, hstep past e hp⟩
    rw [running, running, serverAfter, serverAfter, final_append]
    rfl
  exact hall.2

/-- **RUN**: at every moment what is under way has been delivered. -/
theorem run_underway (h : LaunchedFor K host token config l) (htoken : token ≠ "")
    (events : List (Event X ι)) :
    Underway config l uploads events (running uploads l events) :=
  past_induct (Underway config l uploads) (underway_start h)
    (fun _ _ e hu => step_underway h htoken hu e) events

/-! ## Small runs -/

open TreetopSample

/-- A policy server that answers both requests of a poll. -/
def policyNet : Exchange where
  head _ := .ok ⟨200, none, none⟩
  get := .ok ⟨200, .ok permitAll⟩

/-- One poll of the policies. -/
def remoteRun : List (Event small Unit) :=
  [.fetch .policies policyNet 1, .fetch .policies policyNet 1, .fetch .policies policyNet 2]

/-- A poll of the bundle source and an upload of the same archive, interleaved. -/
def bundleRun : List (Event small Unit) :=
  [.upload () 1,
    .fetchBundle (fun _ => .ok ⟨200, none, none, none, [.ok archiveBytes]⟩) ⟨1, 1, 1, 1⟩ none,
    .upload () 2, .fetchBundle (fun _ => .error "timeout") ⟨2, 2, 2, 2⟩ none, .upload () 3]

/-! ## What is served -/

/-- What was published is posted on the board of a server that starts empty. -/
theorem run_served (hl : LaunchedFor K host token config l) (htoken : token ≠ "")
    (events : List (Event X ι)) :
    boardOf (running uploads l events).store
      = board (publications uploads l.bundleRuntime (some l.bundleEngineMode) events
          (Server.start l)) := by
  have hstart : InOrder l.store (Server.start l : Server X ι) := ⟨hl.usable, .refl _⟩
  rw [run_board uploads l.bundleRuntime (some l.bundleEngineMode) (uploadToken_ne hl htoken)
    events hstart]
  show List.foldl Board.post (boardOf l.store) _ = _
  rw [hl.board]
  rfl

/-- **SERVED**: the documents of a launched server are its publications, the
    last one of each kind, and none that was not published. -/
theorem served_is_board (h : launch X N K host now token config = .ok (some l))
    (htoken : token ≠ "") (events : List (Event X ι)) :
    boardOf (running uploads l events).store
      = board (publications uploads l.bundleRuntime (some l.bundleEngineMode) events
          (Server.start l)) :=
  run_served (launch_spec h) htoken events

/-- One poll later the policies are served. -/
theorem served_is_board_remote :
    boardOf (running archiveUpload remoteServer remoteRun).store
        = board (publications archiveUpload remoteServer.bundleRuntime
          (some remoteServer.bundleEngineMode) remoteRun (Server.start remoteServer))
      ∧ boardOf (running archiveUpload remoteServer remoteRun).store = ⟨permitAll, "", ""⟩ :=
  ⟨served_is_board launch_remoteServer (by decide) remoteRun, by decide +kernel⟩

/-- What a step publishes was under way, and that came from somewhere. -/
theorem origin_of_published (hl : LaunchedFor K host token config l) (htoken : token ≠ "")
    (past : List (Event X ι)) (e : Event X ι) (p : Publication X)
    (hp : (step uploads l.bundleRuntime (some l.bundleEngineMode) e
      (running uploads l past)).1 = .published p) :
    Origin config l token uploads past e p := by
  have hne := uploadToken_ne hl htoken
  have hu : Underway config l uploads past (running uploads l past) := run_underway hl htoken past
  rcases step_cases uploads l.bundleRuntime (some l.bundleEngineMode) hu.inOrder.usable
    (hu.inOrder.token hne) e with ⟨hnone, _⟩ | ⟨who, p', hpub⟩
  · rw [hp] at hnone
    cases hnone
  · have hsame : p' = p := by
      have hout := hpub.outcome.symm.trans hp
      cases hout
      rfl
    subst hsame
    cases hpub.by' with
    | fetcher k net now f body newHash ht =>
        refine .source k net now body ?_ ⟨f, newHash, ht⟩ (hu.bodies k f body newHash ht)
        rw [← hu.configured k, ht]
        rfl
    | bundleFetcher get clock taskFailure f d prepared ht =>
        exact .bundleSource get clock taskFailure prepared d ⟨f, ht⟩
          (hu.archiveLast _ d prepared ht rfl) (hu.archive _ d prepared ht rfl)
    | upload i now c hphase _ =>
        have hcarried := hu.requests i
        rw [hphase] at hcarried
        obtain ⟨captured, hcheck, hprep⟩ := hcarried
        obtain ⟨hentitled, rfl⟩ := check_entitled hl htoken hcheck
        exact .upload i now c hentitled hprep

/-- **ORIGINS**: whatever a launched server publishes, in any run, its fetcher
    got from the configured source in the step before, or it came from an
    entitled upload. -/
theorem publications_originate (h : launch X N K host now token config = .ok (some l))
    (htoken : token ≠ "") (past : List (Event X ι)) (e : Event X ι) (p : Publication X)
    (hp : (step uploads l.bundleRuntime (some l.bundleEngineMode) e
      (running uploads l past)).1 = .published p) :
    Origin config l token uploads past e p :=
  origin_of_published (launch_spec h) htoken past e p hp

/-- The policies of that poll came from their source. -/
theorem publications_originate_remote :
    Origin remoteConfig remoteServer "t" archiveUpload (remoteRun.take 2)
      (.fetch .policies policyNet 2) (.component .policies permitAll) :=
  publications_originate launch_remoteServer (by decide) (remoteRun.take 2)
    (.fetch .policies policyNet 2) (.component .policies permitAll) rfl

end TreetopOrigins
