import TreetopRest.BundleModeProofs

/-! # When a server is ready

    A launched server says it is ready exactly when its store can be read and
    every configured source has PUBLISHED something: a first response that was
    downloaded, validated and applied (`readyz_iff`).  Uploads do not count
    towards that, failures do not count against it, and a server that was
    ready once stays ready (`ready_stays`). -/

namespace TreetopReady

open FallibleState UpdateRun
open TreetopErrors TreetopCrates TreetopMetadata TreetopWire TreetopStore
open TreetopFetcher TreetopBundleFetcher TreetopSections TreetopRequest TreetopUpload
open TreetopAdmission TreetopHandlers TreetopConfig TreetopServer TreetopServerSteps
open TreetopLaunch TreetopServerRuns TreetopOrigins
open TreetopUploadSafety (archiveUpload)
open TreetopReadiness (Admissible Configured loadOf sourceOf ready_iff
  marked_parts loads_stepOk sources_stepOk prepared_origin)

variable {X : Crates} {N : NetCrate} {K : KeyCrate X} {ι : Type} {host : Host}
  {now : Timestamp} {token : String} {config : Config} {l : Launched X N} {uploads : ι → Upload}

/-! ## What a publication does to the load records -/

theorem publishedBy_source {srv : Server X ι} {e : Event X ι} {who : Option RemoteSourceKind}
    {p : Publication X} (h : PublishedBy uploads srv e who p) : who = e.source := by
  cases h <;> rfl

/-- A component update neither configures nor marks. -/
theorem update_plain (k : Component) (at' : Timestamp) (text : String) :
    (∀ kind, configures kind (k.update at' text none none : Call X) = false)
      ∧ ∀ kind, marks kind (k.update at' text none none : Call X) = false := by
  cases k <;> exact ⟨fun _ => rfl, fun _ => rfl⟩

theorem installs_loads {s s' : PolicyStore X} {p : Publication X} (h : Installs s p s')
    (k : RemoteSourceKind) : loadOf s' k = loadOf s k := by
  have hsame : s'.remoteLoads = s.remoteLoads := by
    cases p with
    | bundle prepared =>
        obtain ⟨_, rfl⟩ := h
        rfl
    | component k' text =>
        obtain ⟨at', h⟩ := h
        exact (loads_stepOk h (update_plain k' at' text).1 (update_plain k' at' text).2).1
  cases k with
  | policies => exact congrArg RemoteLoadStatus.policies hsame
  | labels => exact congrArg RemoteLoadStatus.labels hsame
  | schema => exact congrArg RemoteLoadStatus.schema hsame
  | bundle => exact congrArg RemoteLoadStatus.bundle hsame

/-- **A publication marks the source it comes from**, and no other. -/
theorem published_loads {who : Option RemoteSourceKind} {s s' : PolicyStore X}
    {p : Publication X} (h : Published who s p s') (k : RemoteSourceKind) :
    loadOf s' k = if who = some k then (loadOf s k).markLoaded else loadOf s k := by
  obtain ⟨s₁, hinst, rfl⟩ := h
  rw [← installs_loads hinst k]
  cases who with
  | none => rfl
  | some kind =>
      show loadOf (s₁.marked kind) k = _
      rw [(marked_parts s₁ kind k).1]
      by_cases hk : kind = k
      · subst hk
        rw [if_pos rfl, if_pos rfl]
      · rw [if_neg hk, if_neg (fun h => hk (Option.some.inj h))]

/-- A source that a record has after a publication it had before, or its
    fetcher was configured. -/
theorem published_sources {who : Option RemoteSourceKind} {s s' : PolicyStore X}
    {p : Publication X} (h : Published who s p s')
    (hp : ∀ prepared, p = .bundle prepared →
      prepared.Genuine ∧ prepared.bundle.source = none)
    (k : RemoteSourceKind) (hk : sourceOf s' k ≠ none) :
    sourceOf s k ≠ none ∨ (loadOf s k).configuration.isSome = true := by
  obtain ⟨s₁, hinst, rfl⟩ := h
  have hno : ¬ Configured ([] : Past X) .bundle := by
    rintro ⟨_, ⟨⟩, _⟩
  have hinstalled : sourceOf s₁ k ≠ none → sourceOf s k ≠ none := by
    cases p with
    | bundle prepared =>
        obtain ⟨hgen, hsource⟩ := hp prepared rfl
        exact sources_stepOk (c := .applyPreparedBundle prepared hgen) hinst
          (fun hne => absurd hsource hne) (fun _ => rfl) (fun _ => rfl) hno k
    | component k' text =>
        obtain ⟨at', hinst⟩ := hinst
        have hadmissible : Admissible ([] : Past X) (k'.update at' text none none) := by
          cases k' <;> rfl
        exact sources_stepOk hinst hadmissible (update_plain k' at' text).1
          (update_plain k' at' text).2 hno k
  cases who with
  | none => exact Or.inl (hinstalled hk)
  | some kind =>
      have hmarked : sourceOf (s₁.marked kind) k ≠ none := hk
      rw [(marked_parts s₁ kind k).2.1] at hmarked
      by_cases hkind : kind = k ∧ k ≠ .bundle
      · rw [if_pos hkind, installs_loads hinst k] at hmarked
        cases hconf : (loadOf s k).configuration with
        | some c => exact Or.inr rfl
        | none =>
            rw [hconf] at hmarked
            exact Or.inl (hinstalled hmarked)
      · rw [if_neg hkind] at hmarked
        exact Or.inl (hinstalled hmarked)

theorem sameButCaches_loads {s s' : PolicyStore X} (h : SameButCaches s s')
    (k : RemoteSourceKind) : loadOf s' k = loadOf s k ∧ sourceOf s' k = sourceOf s k := by
  obtain ⟨_, _, rfl⟩ := h.same
  cases k <;> exact ⟨rfl, rfl⟩

/-- Without a bundle source a bundle is of no source. -/
theorem sourceless_of_origin [DecidableEq ι] (hnone : config.bundleUrl = none)
    {past : List (Event X ι)} {e : Event X ι} {p : Publication X} {prepared : PreparedBundle X}
    (horigin : Origin config l token uploads past e p) (hp : p = .bundle prepared) :
    prepared.Genuine ∧ prepared.bundle.source = none := by
  cases horigin with
  | source k net now body hsource _ _ => cases hp
  | bundleSource get clock taskFailure prepared' d _ _ hfrom =>
      obtain ⟨_, _, _, _, hfrom⟩ := hfrom
      rw [hfrom.source] at hnone
      cases hnone
  | upload i now c hentitled hprep =>
      obtain ⟨v, clock, _, hmade⟩ := prepare_of_bundle _ _ hprep hp
      exact ⟨⟨_, _, _, _, _, _, hmade⟩, (prepared_origin hmade).1⟩

/-! ## What has been loaded in a run -/

variable [DecidableEq ι]

/-- A source has published in a run. -/
def loadedIn (uploads : ι → Upload) (l : Launched X N) (events : List (Event X ι))
    (kind : RemoteSourceKind) : Bool :=
  (trace (step uploads l.bundleRuntime (some l.bundleEngineMode)) events (Server.start l)).any
    fun e => e.1.source == some kind && e.2.publication.isSome

theorem loadedIn_append (events more : List (Event X ι)) (kind : RemoteSourceKind) :
    loadedIn uploads l (events ++ more) kind
      = (loadedIn uploads l events kind
        || (trace (step uploads l.bundleRuntime (some l.bundleEngineMode)) more
          (running uploads l events)).any
            fun e => e.1.source == some kind && e.2.publication.isSome) := by
  rw [loadedIn, trace_append, List.any_append]
  rfl

theorem loadedIn_step (past : List (Event X ι)) (e : Event X ι) (kind : RemoteSourceKind) :
    loadedIn uploads l (past ++ [e]) kind
      = (loadedIn uploads l past kind || (e.source == some kind
        && (step uploads l.bundleRuntime (some l.bundleEngineMode) e
          (running uploads l past)).1.publication.isSome)) := by
  rw [loadedIn_append]
  show (_ || (_ || false)) = _
  rw [Bool.or_false]

/-- The load records are those of the configuration and of the run so far. -/
structure Tracks (config : Config) (l : Launched X N) (uploads : ι → Upload)
    (past : List (Event X ι)) (srv : Server X ι) : Prop where
  configured : ∀ k, (loadOf srv.store k).configuration.isSome = sourceConfigured config k
  loaded : ∀ k, (loadOf srv.store k).loaded = loadedIn uploads l past k
  sources : config.bundleUrl = none → ∀ k, sourceOf srv.store k ≠ none →
    sourceConfigured config k = true

/-- **RUN**: the load records tell what has been published. -/
theorem run_tracks (hl : LaunchedFor K host token config l) (htoken : token ≠ "")
    (events : List (Event X ι)) :
    Tracks config l uploads events (running uploads l events) := by
  refine running_induct (Tracks config l uploads) ?_ ?_ events
  · exact ⟨hl.configured, hl.unloaded, fun _ => hl.sources⟩
  · intro past e ih
    have hu : Underway config l uploads past (running uploads l past) :=
      run_underway hl htoken past
    rcases step_cases uploads l.bundleRuntime (some l.bundleEngineMode) hu.inOrder.usable
      (hu.inOrder.token (uploadToken_ne hl htoken)) e with ⟨hnone, hsame⟩ | ⟨who, p, hpub⟩
    · refine ⟨?_, ?_, ?_⟩
      · intro k
        rw [(sameButCaches_loads hsame k).1]
        exact ih.configured k
      · intro k
        rw [(sameButCaches_loads hsame k).1, ih.loaded k, loadedIn_step, hnone]
        show _ = (loadedIn uploads l past k || (e.source == some k && false))
        rw [Bool.and_false, Bool.or_false]
      · intro hmode k hk
        rw [(sameButCaches_loads hsame k).2] at hk
        exact ih.sources hmode k hk
    · have hloads := published_loads hpub.published
      have hwho := publishedBy_source hpub.by'
      refine ⟨?_, ?_, ?_⟩
      · intro k
        rw [hloads k, ← ih.configured k]
        by_cases hk : who = some k
        · rw [if_pos hk]
          rfl
        · rw [if_neg hk]
      · intro k
        rw [hloads k, loadedIn_step, hpub.outcome, ← hwho]
        show _ = (loadedIn uploads l past k || (who == some k && true))
        rw [Bool.and_true]
        by_cases hk : who = some k
        · rw [if_pos hk, hk, beq_self_eq_true, Bool.or_true]
          rfl
        · rw [if_neg hk, ih.loaded k, beq_eq_false_iff_ne.mpr hk, Bool.or_false]
      · intro hmode k hk
        have horigin := origin_of_published hl htoken past e p hpub.outcome
        rcases published_sources hpub.published
          (fun prepared hp => sourceless_of_origin hmode horigin hp) k hk with hold | hconf
        · exact ih.sources hmode k hold
        · rw [← ih.configured k]
          exact hconf

/-! ## The probe -/

theorem probeResponse_ok_iff {ready : Bool} :
    (probeResponse ready).status = 200 ↔ ready = true := by
  cases ready <;> decide

/-- A store is ready exactly if every configured source has loaded. -/
theorem configuredSourcesLoaded_iff (hl : LaunchedFor K host token config l)
    {past : List (Event X ι)} {srv : Server X ι} (h : Tracks config l uploads past srv)
    (hmode : srv.store.bundleUrlMode = config.bundleUrl.isSome) :
    configuredSourcesLoaded srv.store = true
      ↔ ∀ kind, sourceConfigured config kind = true → loadedIn uploads l past kind = true := by
  cases hurl : config.bundleUrl with
  | some url =>
      obtain ⟨hpolicy, hlabels, hschema⟩ := hl.bundleSettings.exclusive (by rw [hurl]; rfl)
      have hbundle : sourceConfigured config .bundle = true := by
        rw [sourceConfigured, hurl]
        rfl
      rw [configuredSourcesLoaded, if_pos (by rw [hmode, hurl]; rfl), ready_iff]
      have hloaded : srv.store.remoteLoads.bundle.loaded = loadedIn uploads l past .bundle :=
        h.loaded .bundle
      rw [hloaded]
      constructor
      · intro hready kind hkind
        cases kind with
        | bundle => exact hready (Or.inr rfl)
        | policies =>
            rw [sourceConfigured, hpolicy] at hkind
            cases hkind
        | labels =>
            rw [sourceConfigured, hlabels] at hkind
            cases hkind
        | schema =>
            rw [sourceConfigured, hschema] at hkind
            cases hkind
      · intro hall _
        exact hall .bundle hbundle
  | none =>
      -- a component waits for its source if it is configured, or has one
      have hone : ∀ k, (loadOf srv.store k).ready (sourceOf srv.store k).isSome = true
          ↔ (sourceConfigured config k = true → loadedIn uploads l past k = true) := by
        intro k
        rw [ready_iff, h.configured k, h.loaded k]
        constructor
        · intro hready hk
          exact hready (Or.inl hk)
        · rintro hready (hk | hk)
          · exact hready hk
          · exact hready (h.sources hurl k (Option.isSome_iff_ne_none.mp hk))
      have hsplit : configuredSourcesLoaded srv.store
          = ((loadOf srv.store .policies).ready (sourceOf srv.store .policies).isSome
            && (loadOf srv.store .labels).ready (sourceOf srv.store .labels).isSome
            && (loadOf srv.store .schema).ready (sourceOf srv.store .schema).isSome) := by
        rw [configuredSourcesLoaded, if_neg (by rw [hmode, hurl]; exact Bool.false_ne_true)]
        rfl
      rw [hsplit, Bool.and_eq_true, Bool.and_eq_true, hone, hone, hone]
      constructor
      · rintro ⟨⟨hpolicies, hlabels⟩, hschema⟩ kind hkind
        cases kind with
        | policies => exact hpolicies hkind
        | labels => exact hlabels hkind
        | schema => exact hschema hkind
        | bundle =>
            rw [sourceConfigured, hurl] at hkind
            cases hkind
      · intro hall
        exact ⟨⟨hall .policies, hall .labels⟩, hall .schema⟩

/-- The probe asks for the lock, and then for the loads. -/
theorem probe_iff (hl : LaunchedFor K host token config l) (htoken : token ≠ "")
    (events : List (Event X ι)) (busy : Bool) :
    (readyz busy (running uploads l events).shared).status = 200
      ↔ busy = false ∧ (running uploads l events).shared.poisoned = false
        ∧ ∀ kind, sourceConfigured config kind = true →
          loadedIn uploads l events kind = true := by
  have hu : Underway config l uploads events (running uploads l events) :=
    run_underway hl htoken events
  have hmode := hu.inOrder.settings.bundleUrlMode.trans hl.bundleUrlMode
  rw [← configuredSourcesLoaded_iff hl (run_tracks hl htoken events) hmode, readyz,
    probeResponse_ok_iff]
  have hvalue : (running uploads l events).shared.value = (running uploads l events).store := rfl
  cases busy with
  | true => exact iff_of_false Bool.false_ne_true (fun hall => by cases hall.1)
  | false =>
      cases hpoison : (running uploads l events).shared.poisoned with
      | true => exact iff_of_false Bool.false_ne_true (fun hall => by cases hall.2.1)
      | false =>
          show configuredSourcesLoaded (running uploads l events).shared.value = true ↔ _
          rw [hvalue]
          exact ⟨fun hready => ⟨rfl, rfl, hready⟩, fun hall => hall.2.2⟩

/-- Once ready, a server stays ready, as long as its store can be read. -/
theorem probe_stays (hl : LaunchedFor K host token config l) (htoken : token ≠ "")
    (events more : List (Event X ι)) {busy : Bool}
    (hready : (readyz busy (running uploads l events).shared).status = 200)
    (hopen : (running uploads l (events ++ more)).shared.poisoned = false) :
    (readyz false (running uploads l (events ++ more)).shared).status = 200 := by
  obtain ⟨_, _, hloaded⟩ := (probe_iff hl htoken events busy).mp hready
  refine (probe_iff hl htoken (events ++ more) false).mpr ⟨rfl, hopen, ?_⟩
  intro kind hkind
  rw [loadedIn_append, hloaded kind hkind, Bool.true_or]

/-- **READY**: at every moment of every run, the readiness probe succeeds
    exactly if `try_read` does not block, no holder has panicked, and every
    configured source has published; and a server that was ready once is
    ready again whenever its store can be read. -/
theorem readyz_iff (h : launch X N K host now token config = .ok (some l)) (htoken : token ≠ "")
    (events : List (Event X ι)) (busy : Bool) :
    ((readyz busy (running uploads l events).shared).status = 200
      ↔ busy = false ∧ (running uploads l events).shared.poisoned = false
        ∧ ∀ kind, sourceConfigured config kind = true →
          loadedIn uploads l events kind = true)
    ∧ ((readyz busy (running uploads l events).shared).status = 200 →
        ∀ more, (running uploads l (events ++ more)).shared.poisoned = false →
          (readyz false (running uploads l (events ++ more)).shared).status = 200) :=
  ⟨probe_iff (launch_spec h) htoken events busy, fun hready more hopen =>
    probe_stays (launch_spec h) htoken events more hready hopen⟩

/-- Before the poll is over the server is not ready, and after it it is. -/
theorem readyz_iff_remote :
    (readyz false (running archiveUpload remoteServer (remoteRun.take 2)).shared).status = 503
      ∧ ((readyz false (running archiveUpload remoteServer remoteRun).shared).status = 200
        ↔ false = false ∧ (running archiveUpload remoteServer remoteRun).shared.poisoned = false
          ∧ ∀ kind, sourceConfigured remoteConfig kind = true →
            loadedIn archiveUpload remoteServer remoteRun kind = true)
      ∧ (readyz false (running archiveUpload remoteServer remoteRun).shared).status = 200 :=
  ⟨rfl, (readyz_iff launch_remoteServer (by decide) remoteRun false).1, rfl⟩

end TreetopReady
