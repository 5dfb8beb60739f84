import TreetopRest.ReadyProofs

/-! # Polls and what is served, with uploads off

    A fetcher compares what it downloads with what it REMEMBERS, and not with
    the store.  Where uploads are off nobody else writes its documents, so the
    memory of every fetcher is the digest of what is served, at every moment
    of every run (`memory_true`); a poll that skips a body skips nothing, and
    a poll that succeeds leaves the body served (`successful_poll_serves`).  A
    poll that nobody interrupts does succeed, if its source answers and the
    store accepts the document (`poll_serves`). -/

namespace TreetopConvergence

open FallibleState UpdateRun
open TreetopErrors TreetopCrates TreetopMetadata TreetopWire TreetopStore
open TreetopFetcher TreetopBundleFetcher TreetopSections TreetopRequest TreetopUpload
open TreetopAdmission TreetopConfig TreetopServer TreetopServerSteps
open TreetopLaunch TreetopServerRuns TreetopOrigins TreetopBundleMode
open TreetopStartup (Task)
open TreetopSample (permitAll)
open TreetopUploadSafety (archiveUpload)

variable {X : Crates} {N : NetCrate} {K : KeyCrate X} {ι : Type} {host : Host}
  {now : Timestamp} {token : String} {config : Config} {l : Launched X N} {uploads : ι → Upload}

/-! ## Memories -/

theorem document_post_self (b : Board) (k : Component) (text : String) :
    Board.document (b.post (.component k text : Publication X)) k = text := by
  cases k <;> rfl

theorem document_post_ne (b : Board) {k k' : Component} (hk : k' ≠ k) (text : String) :
    Board.document (b.post (.component k text : Publication X)) k' = Board.document b k' := by
  cases k with
  | policies => cases k' <;> first | rfl | exact absurd rfl hk
  | labels => cases k' <;> first | rfl | exact absurd rfl hk
  | schema => cases k' <;> first | rfl | exact absurd rfl hk

/-- What every fetcher remembers is true of the store. -/
structure Remembers (config : Config) (l : Launched X N) (past : List (Event X ι))
    (srv : Server X ι) : Prop where
  reading : ∀ k f body newHash, srv.fetchers k = some ⟨f, .bodyRead body newHash⟩ →
    newHash = makeHash X body
  applied : ∀ k t hash, srv.fetchers k = some t → t.fetcher.hash = some hash →
    hash = makeHash X ((boardOf srv.store).document k)
  archive : ∀ t sha, srv.bundleFetcher = some t → t.fetcher.archiveSha256 = some sha →
    ∃ bytes prepared limits url v clock, sha = hexSha256 X bytes
      ∧ FromBundleSource config l past prepared bytes limits url v clock
      ∧ Serves srv.store prepared

theorem remembers_start (hl : LaunchedFor K host token config l) :
    Remembers config l [] (Server.start l : Server X ι) where
  reading := by
    intro k f body newHash hk
    obtain ⟨g, _, hg⟩ := Option.map_eq_some_iff.mp hk
    cases hg
  applied := by
    intro k t hash hk hhash
    obtain ⟨g, hg, rfl⟩ := Option.map_eq_some_iff.mp hk
    rw [hl.fetchers k] at hg
    obtain ⟨url, _, rfl⟩ := Option.map_eq_some_iff.mp hg
    cases hhash
  archive := by
    intro t sha ht hsha
    obtain ⟨f, hf, rfl⟩ := Option.map_eq_some_iff.mp ht
    have hnone : f.archiveSha256 = none := (hl.bundleFetcher f hf).forgotten.2.2
    have hsome : f.archiveSha256 = some sha := hsha
    rw [hnone] at hsome
    cases hsome

/-- A step that publishes nothing and moves no fetcher. -/
theorem Remembers.of_same {past : List (Event X ι)} {srv srv' : Server X ι}
    (h : Remembers config l past srv) (hsame : SameButCaches srv.store srv'.store)
    (hfetchers : srv'.fetchers = srv.fetchers) (hbundle : srv'.bundleFetcher = srv.bundleFetcher)
    (e : Event X ι) : Remembers config l (past ++ [e]) srv' where
  reading := by rw [hfetchers]; exact h.reading
  applied := by rw [hfetchers, boardOf_sameButCaches hsame]; exact h.applied
  archive := by
    intro t sha ht hsha
    rw [hbundle] at ht
    obtain ⟨bytes, prepared, limits, url, v, clock, hsha, hfrom, hserves⟩ := h.archive t sha ht hsha
    exact ⟨bytes, prepared, limits, url, v, clock, hsha, hfrom.later e, hserves.of_same hsame⟩

/-- Component fetchers and a bundle fetcher do not run side by side. -/
theorem exclusive_fetchers (hl : LaunchedFor K host token config l) {past : List (Event X ι)}
    {srv : Server X ι} (hu : Underway config l uploads past srv) {k : Component} {t : Task}
    (ht : srv.fetchers k = some t) : srv.bundleFetcher = none := by
  cases hb : srv.bundleFetcher with
  | none => rfl
  | some b =>
      have hurl := (hu.bundleFetcher b hb).url
      obtain ⟨hpolicy, hlabels, hschema⟩ :=
        hl.bundleSettings.exclusive (by rw [hurl]; rfl)
      have hconf := hu.configured k
      rw [ht] at hconf
      cases k with
      | policies =>
          rw [Config.url, hpolicy] at hconf
          cases hconf
      | labels =>
          rw [Config.url, hlabels] at hconf
          cases hconf
      | schema =>
          rw [Config.url, hschema] at hconf
          cases hconf

variable [DecidableEq ι]

section Step

variable {past : List (Event X ι)} {srv : Server X ι}

/-- A fetcher's own step: it remembers what it has just applied. -/
theorem fetch_remembers (hl : LaunchedFor K host token config l)
    (hu : Underway config l uploads past srv) (h : Remembers config l past srv)
    {k : Component} {net : Exchange} {at' : Timestamp} {t : Task} (ht : srv.fetchers k = some t) :
    Remembers config l (past ++ [.fetch k net at'])
      (step uploads l.bundleRuntime (some l.bundleEngineMode) (.fetch k net at') srv).2 := by
  have hnobundle := exclusive_fetchers hl hu ht
  have hstored : CachesUsable srv.shared.value := hu.inOrder.usable
  rw [step]
  simp only [ht]
  refine ⟨?_, ?_, ?_⟩
  · intro k' f body newHash hk
    dsimp only at hk
    by_cases hk' : k' = k
    · subst hk'
      rw [Function.update_self] at hk
      exact (fetcherStep_reads (congrArg Task.phase (Option.some.inj hk))).1
    · rw [Function.update_of_ne hk'] at hk
      exact h.reading k' f body newHash hk
  · intro k' t' hash hk hhash
    dsimp only at hk
    show hash = makeHash X (Board.document (boardOf
      (fetcherStep net (k.adapter X) at' t srv.shared).2.2.value) k')
    rcases fetcherStep_cases hstored net k at' t with
      ⟨_, hstay, hmemory⟩ | ⟨f, body, newHash, s', rfl, hpub, _, _, hstore, hmemory⟩
    · rw [hstay]
      by_cases hk' : k' = k
      · subst hk'
        rw [Function.update_self] at hk
        cases hk
        rw [hmemory] at hhash
        exact h.applied k' t hash ht hhash
      · rw [Function.update_of_ne hk'] at hk
        exact h.applied k' t' hash hk hhash
    · rw [hstore, published_board hpub]
      by_cases hk' : k' = k
      · subst hk'
        rw [Function.update_self] at hk
        cases hk
        rw [hmemory] at hhash
        cases hhash
        rw [document_post_self]
        exact h.reading k' f body hash ht
      · rw [document_post_ne _ hk']
        rw [Function.update_of_ne hk'] at hk
        exact h.applied k' t' hash hk hhash
  · intro t' sha ht' hsha
    have hbundle : srv.bundleFetcher = some t' := ht'
    rw [hnobundle] at hbundle
    cases hbundle

/-- The bundle fetcher's own step. -/
theorem fetchBundle_remembers (hl : LaunchedFor K host token config l)
    (hu : Underway config l uploads past srv) (h : Remembers config l past srv)
    {get : ConditionalFetch.Validators String → Except String BundleResponse}
    {clock : BundleClock} {taskFailure : Option String} {t : BundleTask X}
    (ht : srv.bundleFetcher = some t) :
    Remembers config l (past ++ [.fetchBundle get clock taskFailure])
      (step uploads l.bundleRuntime (some l.bundleEngineMode)
        (.fetchBundle get clock taskFailure) srv).2 := by
  have hstored : CachesUsable srv.shared.value := hu.inOrder.usable
  have hnofetcher : ∀ k t', srv.fetchers k ≠ some t' := by
    intro k t' hk
    rw [exclusive_fetchers hl hu hk] at ht
    cases ht
  rw [step]
  simp only [ht]
  refine ⟨?_, ?_, ?_⟩
  · intro k f body newHash hk
    exact absurd hk (hnofetcher k _)
  · intro k t' hash hk
    exact absurd hk (hnofetcher k t')
  · rintro t' sha ⟨⟩ hsha
    show ∃ bytes prepared limits url v clock', sha = hexSha256 X bytes
      ∧ FromBundleSource config l (past ++ [.fetchBundle get clock taskFailure]) prepared bytes
        limits url v clock'
      ∧ Serves (bundleStep get clock taskFailure t srv.shared).2.2.value prepared
    rcases bundleStep_cases hstored get clock taskFailure t with
      ⟨_, hstay, hmemory⟩ | ⟨f, d, prepared, s', rfl, hpub, _, _, hstore, hmemory⟩
    · rw [hmemory] at hsha
      rw [hstay]
      obtain ⟨bytes, prepared, limits, url, v, clock', hsha, hfrom, hserves⟩ :=
        h.archive t sha ht hsha
      exact ⟨bytes, prepared, limits, url, v, clock', hsha, hfrom.later _, hserves⟩
    · rw [hmemory] at hsha
      cases hsha
      rw [hstore]
      obtain ⟨limits, url, v, clock', hfrom⟩ := hu.archive _ d prepared ht rfl
      refine ⟨d.bytes, prepared, limits, url, v, clock', rfl, hfrom.later _, ?_⟩
      obtain ⟨s₁, ⟨_, rfl⟩, rfl⟩ := hpub
      exact Serves.marked_bundle ⟨rfl, rfl, rfl, rfl, rfl, rfl, rfl⟩

/-- Only a fetcher's step moves a fetcher. -/
theorem step_fetchers (e : Event X ι) (he : e.source = none) :
    (step uploads l.bundleRuntime (some l.bundleEngineMode) e srv).2.fetchers = srv.fetchers
      ∧ (step uploads l.bundleRuntime (some l.bundleEngineMode) e srv).2.bundleFetcher
        = srv.bundleFetcher := by
  cases e with
  | fetch k net at' => cases he
  | fetchBundle get clock taskFailure => cases he
  | upload i at' => exact ⟨rfl, rfl⟩
  | listPolicies raw user groups namespaces =>
      rw [step]
      cases readStore srv.shared <;> exact ⟨rfl, rfl⟩
  | poison => exact ⟨rfl, rfl⟩

end Step

/-! ## Runs -/

/-- With uploads off, nobody but a fetcher publishes. -/
theorem quiet_of_uploads_off (hl : LaunchedFor K host token config l)
    (htoken : token ≠ "") (hoff : config.allowUpload = false) (past : List (Event X ι))
    (e : Event X ι) (he : e.source = none) :
    SameButCaches (running uploads l past).store
      (step uploads l.bundleRuntime (some l.bundleEngineMode) e
        (running uploads l past)).2.store := by
  have hu : Underway config l uploads past (running uploads l past) := run_underway hl htoken past
  rcases step_cases uploads l.bundleRuntime (some l.bundleEngineMode) hu.inOrder.usable
    (hu.inOrder.token (uploadToken_ne hl htoken)) e with ⟨_, hsame⟩ | ⟨who, p, hpub⟩
  · exact hsame
  · cases origin_of_published hl htoken past e p hpub.outcome with
    | source k net at' body hsource _ _ => cases he
    | bundleSource get clock taskFailure prepared d _ _ _ => cases he
    | upload i at' c hentitled hprep =>
        rw [hentitled.allowed] at hoff
        cases hoff

/-- A step of a fetcher keeps its memory true, and no other step touches either. -/
theorem run_remembers (hl : LaunchedFor K host token config l) (htoken : token ≠ "")
    (hoff : config.allowUpload = false) (events : List (Event X ι)) :
    Remembers config l events (running uploads l events) := by
  refine running_induct (Remembers config l) (remembers_start hl) ?_ events
  intro past e ih
  have hu : Underway config l uploads past (running uploads l past) := run_underway hl htoken past
  have hquiet : e.source = none →
      Remembers config l (past ++ [e])
        (step uploads l.bundleRuntime (some l.bundleEngineMode) e (running uploads l past)).2 := by
    intro he
    exact ih.of_same (quiet_of_uploads_off hl htoken hoff past e he) (step_fetchers e he).1
      (step_fetchers e he).2 e
  cases e with
  | fetch k net at' =>
      cases ht : (running uploads l past).fetchers k with
      | some t => exact fetch_remembers hl hu ih ht
      | none =>
          rw [step]
          simp only [ht]
          exact ih.of_same (.refl hu.inOrder.usable) rfl rfl _
  | fetchBundle get clock taskFailure =>
      cases ht : (running uploads l past).bundleFetcher with
      | some t => exact fetchBundle_remembers hl hu ih ht
      | none =>
          rw [step]
          simp only [ht]
          exact ih.of_same (.refl hu.inOrder.usable) rfl rfl _
  | upload i at' => exact hquiet rfl
  | listPolicies raw user groups namespaces => exact hquiet rfl
  | poison => exact hquiet rfl

/-- **MEMORY**: with uploads off, at every moment of every run, what a fetcher
    remembers is the digest of the document it serves, and what the bundle
    fetcher remembers is that of the archive whose bundle is served. -/
theorem memory_true (h : launch X N K host now token config = .ok (some l))
    (htoken : token ≠ "") (hoff : config.allowUpload = false) (events : List (Event X ι)) :
    Remembers config l events (running uploads l events) :=
  run_remembers (launch_spec h) htoken hoff events

/-- After its poll the fetcher remembers the policies that are served. -/
theorem memory_true_remote :
    Remembers remoteConfig remoteServer remoteRun (running archiveUpload remoteServer remoteRun) :=
  memory_true launch_remoteServer (by decide) rfl remoteRun

/-- A body is passed on unless its hash is the one that is remembered. -/
theorem onGet_body {f : GenericFetcher} {answer : Except String GetResponse} {resp : GetResponse}
    {body : String} (h : answer = .ok resp) (hstatus : isSuccess resp.status = true)
    (htext : resp.text = .ok body) :
    f.onGet X answer
      = if f.hash = some (makeHash X body) then .ok none
        else .ok (some (body, makeHash X body)) := by
  rw [h, GenericFetcher.onGet]
  show (if !isSuccess resp.status then _ else _) = _
  rw [hstatus, htext]
  by_cases hknown : f.hash = some (makeHash X body)
  · rw [if_pos hknown]
    exact if_pos hknown
  · rw [if_neg hknown]
    exact if_neg hknown

/-- **POLLS**: with uploads off, a poll of a component that got a body and
    succeeds, whether it applied the body or found nothing new in it, leaves a
    document of the body's digest served, whoever took steps in between. -/
theorem successful_poll_serves (h : launch X N K host now token config = .ok (some l))
    (htoken : token ≠ "") (hoff : config.allowUpload = false) (events : List (Event X ι))
    (k : Component) (net : Exchange) (at' : Timestamp) (t : Task) (body : String)
    (ht : (running uploads l events).fetchers k = some t)
    (hgot : (t.phase = .headDone ∧ ∃ resp, net.get = .ok resp ∧ isSuccess resp.status = true
        ∧ resp.text = .ok body) ∨ ∃ newHash, t.phase = .bodyRead body newHash)
    (hok : (fetcherStep net (k.adapter X) at' t (running uploads l events).shared).1
      = some (.ok ())) :
    makeHash X (Board.document (boardOf (step uploads l.bundleRuntime (some l.bundleEngineMode)
      (.fetch k net at') (running uploads l events)).2.store) k) = makeHash X body := by
  have hl := launch_spec h
  have hu : Underway config l uploads events (running uploads l events) :=
    run_underway hl htoken events
  have hmemory : Remembers config l events (running uploads l events) :=
    run_remembers hl htoken hoff events
  have hstored : CachesUsable (running uploads l events).shared.value := hu.inOrder.usable
  rw [step]
  simp only [ht]
  show makeHash X (Board.document (boardOf (fetcherStep net (k.adapter X) at' t
    (running uploads l events).shared).2.2.value) k) = _
  rcases hgot with ⟨hphase, resp, hget, hstatus, htext⟩ | ⟨newHash, hphase⟩
  · -- the body was known already, so it is the one that is served
    obtain ⟨f, phase⟩ := t
    have hphase : phase = .headDone := hphase
    subst hphase
    have honget := onGet_body (X := X) (f := f) hget hstatus htext
    by_cases hknown : f.hash = some (makeHash X body)
    · rw [if_pos hknown] at honget
      simp only [fetcherStep, honget]
      exact (hmemory.applied k _ _ ht hknown).symm
    · rw [if_neg hknown] at honget
      simp only [fetcherStep, honget] at hok
      cases hok
  · rcases fetcherStep_cases hstored net k at' t with
      ⟨hnone, _, _⟩ | ⟨f, body', newHash', s', rfl, hpub, _, _, hstore, _⟩
    · obtain ⟨f, phase⟩ := t
      have hphase : phase = .bodyRead body newHash := hphase
      subst hphase
      rw [hok] at hnone
      cases hnone
    · cases hphase
      rw [hstore, published_board hpub, document_post_self]

/-- The last step of the poll of the policies. -/
theorem successful_poll_serves_remote :
    makeHash TreetopSample.small (Board.document (boardOf (step archiveUpload
        remoteServer.bundleRuntime (some remoteServer.bundleEngineMode)
        (.fetch .policies policyNet 2)
        (running archiveUpload remoteServer (remoteRun.take 2))).2.store) .policies)
      = makeHash TreetopSample.small permitAll :=
  successful_poll_serves launch_remoteServer (by decide) rfl (remoteRun.take 2) .policies
    policyNet 2 _ permitAll rfl (Or.inr ⟨_, rfl⟩) rfl

/-! ## Polls that nobody interrupts -/

/-- A HEAD that is answered, and not with `304`, lets the poll go on. -/
theorem onHead_changed {f : GenericFetcher} {answer : Except String HeadResponse}
    {head : HeadResponse} (h : answer = .ok head) (hchanged : head.status ≠ notModified) :
    f.onHead answer = (.ok true, (f.onHead answer).2) := by
  rw [h, GenericFetcher.onHead, if_neg hchanged]
  by_cases hok : isSuccess head.status = true
  · rw [if_pos hok]
  · rw [if_neg hok]

/-- An idle fetcher's step asks for the head and leaves the store alone. -/
theorem idle_shared (net : Exchange) (inner : Fetchable (SharedStore X)) (at' : Timestamp)
    (f : GenericFetcher) (shared : SharedStore X) :
    (fetcherStep net inner at' ⟨f, .idle⟩ shared).2.2 = shared := by
  simp only [fetcherStep]
  cases f.onHead (net.head f.validators) with
  | mk r f' =>
      cases r with
      | error e => rfl
      | ok goesOn => cases goesOn <;> rfl

section Steps

variable (uploads) (config' : BundleRuntimeConfig X) (engineMode : Option BundleEngineMode)
  {srv : Server X ι} {k : Component} {t : Task} (net : Exchange) (at' : Timestamp)

theorem step_fetch_fetchers (ht : srv.fetchers k = some t) :
    (step uploads config' engineMode (.fetch k net at') srv).2.fetchers k
      = some (fetcherStep net (k.adapter X) at' t srv.shared).2.1 := by
  rw [step]
  simp only [ht]
  exact Function.update_self ..

theorem step_fetch_shared (ht : srv.fetchers k = some t) :
    (step uploads config' engineMode (.fetch k net at') srv).2.shared
      = (fetcherStep net (k.adapter X) at' t srv.shared).2.2 := by
  rw [step]
  simp only [ht]
  rfl

end Steps

/-- **A POLL SERVES**: with uploads off, at any moment of any run, three steps
    of an idle fetcher that nobody interrupts leave its source's document
    served, if the source answers and the store accepts the document, whether
    the fetcher knew it already or not. -/
theorem poll_serves (h : launch X N K host now token config = .ok (some l))
    (htoken : token ≠ "") (hoff : config.allowUpload = false) (events : List (Event X ι))
    (k : Component) (net : Exchange) (at' : Timestamp) (f : GenericFetcher) (body : String)
    (hidle : (running uploads l events).fetchers k = some ⟨f, .idle⟩)
    (hhead : ∃ head, net.head f.validators = .ok head ∧ head.status ≠ notModified)
    (hget : ∃ resp, net.get = .ok resp ∧ isSuccess resp.status = true ∧ resp.text = .ok body)
    (haccept : ((k.adapter X).applySuccessfulResponse at' body
      (running uploads l events).shared).1 = .ok ()) :
    makeHash X (Board.document (boardOf
        (running uploads l (events ++ List.replicate 3 (.fetch k net at'))).store) k)
      = makeHash X body := by
  have hl := launch_spec h
  have hu : Underway config l uploads events (running uploads l events) :=
    run_underway hl htoken events
  have hmemory : Remembers config l events (running uploads l events) :=
    run_remembers hl htoken hoff events
  obtain ⟨head, hhead, hchanged⟩ := hhead
  obtain ⟨resp, hget, hstatus, htext⟩ := hget
  have hsplit : running uploads l (events ++ List.replicate 3 (.fetch k net at'))
      = serverAfter uploads l.bundleRuntime (some l.bundleEngineMode)
        (List.replicate 3 (.fetch k net at')) (running uploads l events) :=
    final_append _ _ _ _
  rw [hsplit]
  generalize running uploads l events = srv at hidle haccept hu hmemory ⊢
  -- the HEAD
  have hfirst : fetcherStep net (k.adapter X) at' ⟨f, .idle⟩ srv.shared
      = (none, ⟨(f.onHead (net.head f.validators)).2, .headDone⟩, srv.shared) := by
    simp only [fetcherStep]
    rw [onHead_changed hhead hchanged]
  have hhash : (f.onHead (net.head f.validators)).2.hash = f.hash := onHead_hash f _
  generalize (f.onHead (net.head f.validators)).2 = f' at hfirst hhash
  have hidle₁ := step_fetch_fetchers uploads l.bundleRuntime (some l.bundleEngineMode) net at' hidle
  have hshared₁ := step_fetch_shared uploads l.bundleRuntime (some l.bundleEngineMode) net at' hidle
  rw [hfirst] at hidle₁ hshared₁
  -- the GET
  have hidle₂ :=
    step_fetch_fetchers uploads l.bundleRuntime (some l.bundleEngineMode) net at' hidle₁
  have hshared₂ :=
    step_fetch_shared uploads l.bundleRuntime (some l.bundleEngineMode) net at' hidle₁
  have hbody := onGet_body (X := X) (f := f') hget hstatus htext
  by_cases hknown : f'.hash = some (makeHash X body)
  · -- the body is known, so it is served, and the third step only asks again
    rw [if_pos hknown] at hbody
    have hsecond : fetcherStep net (k.adapter X) at' ⟨f', .headDone⟩ srv.shared
        = (some (.ok ()), ⟨f', .idle⟩, srv.shared) := by
      simp only [fetcherStep, hbody]
    rw [hshared₁, hsecond] at hidle₂ hshared₂
    have hshared₃ :=
      step_fetch_shared uploads l.bundleRuntime (some l.bundleEngineMode) net at' hidle₂
    rw [idle_shared, hshared₂] at hshared₃
    have hserved : makeHash X (Board.document (boardOf srv.store) k) = makeHash X body :=
      (hmemory.applied k _ _ hidle (hhash.symm.trans hknown)).symm
    have hfinal : (serverAfter uploads l.bundleRuntime (some l.bundleEngineMode)
        (List.replicate 3 (.fetch k net at')) srv).store = srv.store :=
      congrArg Mutex.value hshared₃
    rw [hfinal]
    exact hserved
  · -- the body is new, and the third step publishes it
    rw [if_neg hknown] at hbody
    have hsecond : fetcherStep net (k.adapter X) at' ⟨f', .headDone⟩ srv.shared
        = (none, ⟨f', .bodyRead body (makeHash X body)⟩, srv.shared) := by
      simp only [fetcherStep, hbody]
    rw [hshared₁, hsecond] at hidle₂ hshared₂
    have hshared₃ :=
      step_fetch_shared uploads l.bundleRuntime (some l.bundleEngineMode) net at' hidle₂
    have husable : CachesUsable srv.shared.value := hu.inOrder.usable
    rcases adapter_cases husable k at' body with ⟨e, hno⟩ | ⟨s', hpub, _, hrun⟩
    · rw [hno] at haccept
      cases haccept
    · have hthird : (fetcherStep net (k.adapter X) at'
          ⟨f', .bodyRead body (makeHash X body)⟩ srv.shared).2.2 = ⟨s', false⟩ := by
        simp only [fetcherStep, GenericFetcher.onApply, hrun]
      rw [hshared₂, hthird] at hshared₃
      have hfinal : (serverAfter uploads l.bundleRuntime (some l.bundleEngineMode)
          (List.replicate 3 (.fetch k net at')) srv).store = s' :=
        congrArg Mutex.value hshared₃
      rw [hfinal, published_board hpub, document_post_self]

/-- The first poll of the policies. -/
theorem poll_serves_remote :
    makeHash TreetopSample.small (Board.document (boardOf (running archiveUpload remoteServer
        ([] ++ List.replicate 3 (.fetch .policies policyNet 1))).store) .policies)
      = makeHash TreetopSample.small permitAll :=
  poll_serves launch_remoteServer (by decide) rfl [] .policies policyNet 1 _ permitAll rfl
    ⟨_, rfl, by decide⟩ ⟨_, rfl, rfl, rfl⟩ rfl

end TreetopConvergence
