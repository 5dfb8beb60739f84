import TreetopRest.StoreRunProofs
import TreetopRest.SampleCrates

/-! # Cached listings against the engine in force

    A listing answers from its cache before it asks the engine, so it is right
    exactly while every cached entry is what the engine IN FORCE renders for
    its key (`answersFresh_iff`).  Three of the four updates that replace the
    engine clear both caches; `setSchema` keeps them.  The listings of a run
    are therefore right exactly when every schema reload that goes through
    finds only keys cached which the engine it builds renders as before. -/

namespace TreetopListCache

open FallibleState LruCache UpdateRun
open TreetopErrors TreetopCrates TreetopMetadata TreetopWire TreetopStore

variable {X : Crates}

/-! ## Right answers, fresh caches -/

/-- Every listing answers as it would with both caches empty. -/
structure AnswersFresh (s : PolicyStore X) : Prop where
  raw : ∀ user groups namespaces, (exec (listPoliciesRaw user groups namespaces) s).1
    = (exec (listPoliciesRaw user groups namespaces) s.cleared).1
  json : ∀ user groups namespaces, (exec (listPoliciesJson user groups namespaces) s).1
    = (exec (listPoliciesJson user groups namespaces) s.cleared).1

/-- Every cached entry is what the engine in force renders for its key. -/
structure CachesFresh (s : PolicyStore X) : Prop where
  raw : Agrees (renderRaw s.engine) s.listPoliciesRawCache.value
  json : Agrees (renderJson s.engine) s.listPoliciesJsonCache.value

/-- Every cached key is the key of a request. -/
structure KeysNormal (s : PolicyStore X) : Prop where
  raw : ∀ e ∈ s.listPoliciesRawCache.value.entries,
    ∃ user groups namespaces, e.1 = listPoliciesKey user groups namespaces
  json : ∀ e ∈ s.listPoliciesJsonCache.value.entries,
    ∃ user groups namespaces, e.1 = listPoliciesKey user groups namespaces

theorem cleared_usable (s : PolicyStore X) : CachesUsable s.cleared := ⟨rfl, rfl⟩

/-- With an empty cache the raw listing is what the engine renders. -/
theorem cleared_raw (s : PolicyStore X) (user : String) (groups namespaces : List String) :
    (exec (listPoliciesRaw user groups namespaces) s.cleared).1
      = renderRaw s.engine (listPoliciesKey user groups namespaces) := by
  rw [exec_listPoliciesRaw (cleared_usable s)]
  exact readThrough_fst (agrees_empty _) _

/-- With an empty cache the JSON listing is what the engine renders. -/
theorem cleared_json (s : PolicyStore X) (user : String) (groups namespaces : List String) :
    (exec (listPoliciesJson user groups namespaces) s.cleared).1
      = renderJson s.engine (listPoliciesKey user groups namespaces) := by
  rw [exec_listPoliciesJson (cleared_usable s)]
  exact readThrough_fst (agrees_empty _) _

/-- **Answers are right exactly while the caches are fresh.** -/
theorem answersFresh_iff {s : PolicyStore X} (hu : CachesUsable s) (hk : KeysNormal s) :
    AnswersFresh s ↔ CachesFresh s := by
  constructor
  · intro h
    refine ⟨agrees_of_readThrough ?_, agrees_of_readThrough ?_⟩
    · intro k v hmem
      obtain ⟨user, groups, namespaces, hkey⟩ := hk.raw (k, v) hmem
      have hraw := h.raw user groups namespaces
      rw [cleared_raw, exec_listPoliciesRaw hu, ← hkey] at hraw
      exact hraw
    · intro k v hmem
      obtain ⟨user, groups, namespaces, hkey⟩ := hk.json (k, v) hmem
      have hjson := h.json user groups namespaces
      rw [cleared_json, exec_listPoliciesJson hu, ← hkey] at hjson
      exact hjson
  · intro h
    refine ⟨?_, ?_⟩
    · intro user groups namespaces
      rw [cleared_raw, exec_listPoliciesRaw hu]
      exact readThrough_fst h.raw _
    · intro user groups namespaces
      rw [cleared_json, exec_listPoliciesJson hu]
      exact readThrough_fst h.json _

/-! ## Steps -/

/-- The engine a schema reload installs: from the policies and labels in force
    and the new schema, if the checks of `setSchema` pass. -/
def reloadEngine (s : PolicyStore X) (now : Timestamp) (schema : String)
    (source : Option Endpoint) (refreshFrequency : Option UInt32) :
    Except ServiceError X.PreparedEngine := do
  let _ ← Metadata.new X .ofSchema now schema (source.or s.schema.source)
    (refreshFrequency.or s.schema.refreshFrequency)
  let parsed ← parseSchema X schema
  ensureLabelsFitSchema s schema
  let (runtime, _) ← runtimeSchemaForDsl s s.policies.content (some parsed)
  buildEngineFromParts X s.policies.content runtime s.labelRegistryLabelers s.labels.sha256

/-- Two engines render every cached key alike. -/
structure SameListings (s : PolicyStore X) (engine : X.PreparedEngine) : Prop where
  raw : ∀ e ∈ s.listPoliciesRawCache.value.entries,
    renderRaw engine e.1 = renderRaw s.engine e.1
  json : ∀ e ∈ s.listPoliciesJsonCache.value.entries,
    renderJson engine e.1 = renderJson s.engine e.1

/-- What a call must find for the listings to stay right: only a schema reload
    has a requirement. -/
def KeepsListings (s : PolicyStore X) : Call X → Prop
  | .setSchema now schema source rf =>
      ∀ engine, reloadEngine s now schema source rf = .ok engine → SameListings s engine
  | _ => True

/-- Everything a schema reload that passes its checks does to the listings. -/
theorem setSchema_reloads {s : PolicyStore X} {now : Timestamp} {schema : String}
    {source : Option Endpoint} {rf : Option UInt32} {engine : X.PreparedEngine}
    (h : reloadEngine s now schema source rf = .ok engine) :
    ∃ s', (Call.setSchema now schema source rf).step s = (.ok .done, s')
      ∧ s'.engine = engine
      ∧ s'.listPoliciesRawCache = s.listPoliciesRawCache
      ∧ s'.listPoliciesJsonCache = s.listPoliciesJsonCache := by
  rw [reloadEngine] at h
  obtain ⟨metadata, hmd, h⟩ := bind_eq_ok.mp h
  obtain ⟨parsed, hparsed, h⟩ := bind_eq_ok.mp h
  obtain ⟨_, hfit, h⟩ := bind_eq_ok.mp h
  obtain ⟨⟨runtime, status⟩, hrt, h⟩ := bind_eq_ok.mp h
  have hbuild : buildEngineFromParts X s.policies.content runtime s.labelRegistryLabelers
      s.labels.sha256 = .ok engine := h
  -- what is checked is what is then run
  have hrebuild : exec (rebuildEngineForDslWithParts s.policies.content (some parsed)
      s.labelRegistryLabelers s.labels.sha256) s = (.ok (), s.withEngine engine status) := by
    rw [rebuildEngineForDslWithParts]
    rw [exec_bind_get, hrt, exec_bind_lift_ok]
    show exec (_ >>= _) s = _
    rw [hbuild, exec_bind_lift_ok]
    rfl
  have hrun : exec (TreetopStore.setSchema now schema source rf) s
      = (.ok (), { s.withEngine engine status with schema := metadata, bundle := none }) := by
    rw [TreetopStore.setSchema]
    simp only [exec_bind_get]
    rw [hmd, exec_bind_lift_ok, hparsed, exec_bind_lift_ok]
    simp only [exec_bind_get]
    rw [hfit, exec_bind_lift_ok]
    simp only [exec_bind_get]
    rw [exec_bind, hrebuild]
    rfl
  refine ⟨{ s.withEngine engine status with schema := metadata, bundle := none }, ?_,
    rfl, rfl, rfl⟩
  show (exec (TreetopStore.setSchema now schema source rf) s).map _ id = _
  rw [hrun]
  rfl

/-- A schema reload that went through installed the engine of its checks. -/
theorem reloadEngine_of_installed {s s' : PolicyStore X} {now : Timestamp}
    {schema : String} {source : Option Endpoint} {rf : Option UInt32}
    (h : SchemaInstalled s now schema source rf s') :
    reloadEngine s now schema source rf = .ok s'.engine
      ∧ s'.listPoliciesRawCache = s.listPoliciesRawCache
      ∧ s'.listPoliciesJsonCache = s.listPoliciesJsonCache := by
  obtain ⟨metadata, parsed, engine, status, hmd, hparsed, hfit, hre, rfl⟩ := h
  obtain ⟨runtime, hrt, hbuild⟩ := hre.built
  refine ⟨?_, rfl, rfl⟩
  rw [reloadEngine]
  exact bind_eq_ok.mpr ⟨metadata, hmd, bind_eq_ok.mpr ⟨parsed, hparsed,
    bind_eq_ok.mpr ⟨(), hfit, bind_eq_ok.mpr ⟨(runtime, status), hrt, hbuild⟩⟩⟩⟩

/-- With the caches kept, they stay fresh exactly under an engine that lists
    the cached keys alike. -/
theorem cachesFresh_kept_iff {s s' : PolicyStore X} (h : CachesFresh s)
    (hraw : s'.listPoliciesRawCache = s.listPoliciesRawCache)
    (hjson : s'.listPoliciesJsonCache = s.listPoliciesJsonCache) :
    CachesFresh s' ↔ SameListings s s'.engine := by
  constructor
  · intro h'
    have hr := h'.raw
    have hj := h'.json
    rw [hraw] at hr
    rw [hjson] at hj
    refine ⟨?_, ?_⟩
    · rintro ⟨k, v⟩ hmem
      exact (agrees_congr h.raw).mp hr k v hmem
    · rintro ⟨k, v⟩ hmem
      exact (agrees_congr h.json).mp hj k v hmem
  · intro hsame
    refine ⟨?_, ?_⟩
    · rw [hraw]
      exact (agrees_congr h.raw).mpr (fun k v hmem => hsame.raw (k, v) hmem)
    · rw [hjson]
      exact (agrees_congr h.json).mpr (fun k v hmem => hsame.json (k, v) hmem)

/-- Empty caches are fresh under every engine. -/
theorem cachesFresh_of_empty {s : PolicyStore X}
    (hraw : s.listPoliciesRawCache = ⟨.empty, false⟩)
    (hjson : s.listPoliciesJsonCache = ⟨.empty, false⟩) : CachesFresh s := by
  refine ⟨?_, ?_⟩
  · rw [hraw]; exact agrees_empty _
  · rw [hjson]; exact agrees_empty _

theorem keysNormal_of_empty {s : PolicyStore X}
    (hraw : s.listPoliciesRawCache = ⟨.empty, false⟩)
    (hjson : s.listPoliciesJsonCache = ⟨.empty, false⟩) : KeysNormal s := by
  refine ⟨?_, ?_⟩
  · rw [hraw]; intro e he; exact nomatch he
  · rw [hjson]; intro e he; exact nomatch he

/-- A successful call keeps the caches fresh, if it meets its requirement. -/
theorem cachesFresh_stepOk {s s' : PolicyStore X} {c : Call X} (h : CachesFresh s)
    (hstep : StepOk s c s') (hkeep : KeepsListings s c) : CachesFresh s' := by
  cases c with
  | setDsl now dsl source rf =>
      obtain ⟨_, _, _, _, _, _, _, _, rfl⟩ := hstep
      exact cachesFresh_of_empty rfl rfl
  | setSchema now schema source rf =>
      -- the one update that keeps what is cached
      obtain ⟨hre, hraw, hjson⟩ := reloadEngine_of_installed hstep
      exact (cachesFresh_kept_iff h hraw hjson).mpr (hkeep _ hre)
  | setLabels now labels source rf =>
      obtain ⟨_, _, _, _, _, _, _, _, rfl⟩ := hstep
      exact cachesFresh_of_empty rfl rfl
  | applyPreparedBundle p hp =>
      obtain ⟨_, rfl⟩ := hstep
      exact cachesFresh_of_empty rfl rfl
  | setSchemaValidationMode mode =>
      have hs : s' = _ := hstep
      subst hs
      exact ⟨h.raw, h.json⟩
  | configureRemoteSource kind source rf =>
      have hs : s' = _ := hstep
      subst hs
      cases kind <;> exact ⟨h.raw, h.json⟩
  | markRemoteSourceLoaded kind =>
      have hs : s' = _ := hstep
      subst hs
      cases kind <;> exact ⟨h.raw, h.json⟩
  | listPoliciesRaw user groups namespaces =>
      have hs : s' = _ := hstep
      subst hs
      exact ⟨agrees_readThrough h.raw _, h.json⟩
  | listPoliciesJson user groups namespaces =>
      have hs : s' = _ := hstep
      subst hs
      exact ⟨h.raw, agrees_readThrough h.json _⟩

theorem keysNormal_stepOk {s s' : PolicyStore X} {c : Call X} (h : KeysNormal s)
    (hstep : StepOk s c s') : KeysNormal s' := by
  cases c with
  | setDsl now dsl source rf =>
      obtain ⟨_, _, _, _, _, _, _, _, rfl⟩ := hstep
      exact keysNormal_of_empty rfl rfl
  | setSchema now schema source rf =>
      obtain ⟨_, _, _, _, _, _, _, _, rfl⟩ := hstep
      exact ⟨h.raw, h.json⟩
  | setLabels now labels source rf =>
      obtain ⟨_, _, _, _, _, _, _, _, rfl⟩ := hstep
      exact keysNormal_of_empty rfl rfl
  | applyPreparedBundle p hp =>
      obtain ⟨_, rfl⟩ := hstep
      exact keysNormal_of_empty rfl rfl
  | setSchemaValidationMode mode =>
      have hs : s' = _ := hstep
      subst hs
      exact ⟨h.raw, h.json⟩
  | configureRemoteSource kind source rf =>
      have hs : s' = _ := hstep
      subst hs
      cases kind <;> exact ⟨h.raw, h.json⟩
  | markRemoteSourceLoaded kind =>
      have hs : s' = _ := hstep
      subst hs
      cases kind <;> exact ⟨h.raw, h.json⟩
  | listPoliciesRaw user groups namespaces =>
      have hs : s' = _ := hstep
      subst hs
      refine ⟨?_, h.json⟩
      intro e he
      rcases mem_readThrough he with hnew | hold
      · exact ⟨user, groups, namespaces, hnew⟩
      · exact h.raw e hold
  | listPoliciesJson user groups namespaces =>
      have hs : s' = _ := hstep
      subst hs
      refine ⟨h.raw, ?_⟩
      intro e he
      rcases mem_readThrough he with hnew | hold
      · exact ⟨user, groups, namespaces, hnew⟩
      · exact h.json e hold

/-! ## Runs -/

theorem run_keysNormal {s : PolicyStore X} (hu : CachesUsable s) (hk : KeysNormal s)
    (calls : List (Call X)) : KeysNormal (run calls s) := by
  have hboth : CachesUsable (run calls s) ∧ KeysNormal (run calls s) :=
    final_induct (fun s => CachesUsable s ∧ KeysNormal s) (fun _ => True)
      (fun s c hs _ => ⟨step_usable hs.1 c,
        step_keeps hs.1 c hs.2 (fun _ hok => keysNormal_stepOk hs.2 hok)⟩)
      calls s (fun _ _ => trivial) ⟨hu, hk⟩
  exact hboth.2

/-- One call from fresh caches leaves fresh caches exactly when it meets its
    requirement. -/
theorem cachesFresh_step_iff {s : PolicyStore X} (hu : CachesUsable s)
    (h : CachesFresh s) (c : Call X) : CachesFresh (c.step s).2 ↔ KeepsListings s c := by
  constructor
  · intro hnext
    cases c with
    | setSchema now schema source rf =>
        intro engine hre
        obtain ⟨s', hrun, hengine, hraw, hjson⟩ := setSchema_reloads hre
        rw [hrun] at hnext
        rw [← hengine]
        exact (cachesFresh_kept_iff h hraw hjson).mp hnext
    | setDsl now dsl source rf => trivial
    | setLabels now labels source rf => trivial
    | applyPreparedBundle p hp => trivial
    | setSchemaValidationMode mode => trivial
    | configureRemoteSource kind source rf => trivial
    | markRemoteSourceLoaded kind => trivial
    | listPoliciesRaw user groups namespaces => trivial
    | listPoliciesJson user groups namespaces => trivial
  · intro hkeep
    exact step_keeps hu c h (fun _ hok => cachesFresh_stepOk h hok hkeep)

/-- The caches are fresh after every prefix of a run exactly when each of its
    calls meets its requirement where it is made. -/
theorem run_cachesFresh_iff (calls : List (Call X)) :
    ∀ s : PolicyStore X, CachesUsable s → CachesFresh s →
      ((∀ pre post, calls = pre ++ post → CachesFresh (run pre s))
        ↔ ∀ pre c post, calls = pre ++ c :: post → KeepsListings (run pre s) c) :=
  good_prefixes_iff CachesUsable CachesFresh KeepsListings
    (fun _ c hu => step_usable hu c) (fun _ c hu h => cachesFresh_step_iff hu h c) calls

/-- **CACHED LISTINGS**: from a fresh store, every listing at every point of a
    run is right exactly when every schema reload of the run that passes its
    checks builds an engine that lists the keys then cached as before. -/
theorem run_answersFresh_iff {now : Timestamp} {s₀ : PolicyStore X}
    (h : PolicyStore.new X now = .ok s₀) (calls : List (Call X)) :
    (∀ pre post, calls = pre ++ post → AnswersFresh (run pre s₀))
      ↔ ∀ pre c post, calls = pre ++ c :: post → KeepsListings (run pre s₀) c := by
  have hu : CachesUsable s₀ := new_usable h
  have hempty : s₀.listPoliciesRawCache = ⟨.empty, false⟩
      ∧ s₀.listPoliciesJsonCache = ⟨.empty, false⟩ := by
    obtain ⟨_, _, rfl⟩ := new_eq h
    exact ⟨rfl, rfl⟩
  have hk : KeysNormal s₀ := keysNormal_of_empty hempty.1 hempty.2
  rw [← run_cachesFresh_iff calls s₀ hu (cachesFresh_of_empty hempty.1 hempty.2)]
  constructor
  · intro hall pre post hsplit
    exact (answersFresh_iff (run_usable hu pre) (run_keysNormal hu hk pre)).mp
      (hall pre post hsplit)
  · intro hall pre post hsplit
    exact (answersFresh_iff (run_usable hu pre) (run_keysNormal hu hk pre)).mpr
      (hall pre post hsplit)

open TreetopSample

/-- A run that lists before its schema reload. -/
def listThenReload : List (Call small) :=
  [.setDsl 1 permitAll none none, .listPoliciesRaw "alice" [] [],
    .setSchema 2 photoSchema none none]

/-- The criterion for that run. -/
theorem run_answersFresh_iff_small :
    (∀ pre post, listThenReload = pre ++ post → AnswersFresh (run pre fresh))
      ↔ ∀ pre c post, listThenReload = pre ++ c :: post → KeepsListings (run pre fresh) c :=
  run_answersFresh_iff new_fresh listThenReload

/-- A listing cached before a schema reload is answered after it, where the
    engine in force lists nothing. -/
theorem listing_stale_after_setSchema :
    (exec (listPoliciesRaw "alice" [] []) (run listThenReload fresh)).1 = .ok permitAll
    ∧ (exec (listPoliciesRaw "alice" [] []) (run listThenReload fresh).cleared).1 = .ok ""
    ∧ ¬ AnswersFresh (run listThenReload fresh) := by
  refine ⟨?_, ?_, ?_⟩
  · decide +kernel
  · decide +kernel
  · intro h
    exact absurd (h.raw "alice" [] []) (by decide +kernel)

end TreetopListCache
