import TreetopRest.ServerStepProofs
import TreetopRest.ReadinessProofs
import TreetopRest.AdmissionProofs

/-! # A launched server is as its configuration says

    `launch` is a chain of checks and then a few writes.  If it hands over a
    server, the settings of its store, its fetchers and their limits can all
    be read off the configuration (`launch_spec`), and nothing has been loaded.
    Once the bundle settings have passed their check, nothing that `main`
    derives from them can fail any more, so the conditions of a launch can be
    listed (`launch_iff`). -/

namespace TreetopLaunch

open FallibleState
open TreetopErrors TreetopCrates TreetopMetadata TreetopWire TreetopStore
open TreetopFetcher TreetopBundleFetcher TreetopSections TreetopRequest TreetopUpload
open TreetopAdmission TreetopHandlers TreetopConfig TreetopServer TreetopServerSteps
open TreetopReadiness (loadOf sourceOf configured_parts)

variable {X : Crates} {N : NetCrate} {K : KeyCrate X}

/-! ## The bundle settings -/

/-- What the check of the bundle settings has found out. -/
structure BundleSettings (K : KeyCrate X) (config : Config) (runtime : BundleRuntimeConfig X) :
    Prop where
  exclusive : config.bundleUrl.isSome = true →
    config.policyUrl = none ∧ config.labelsUrl = none ∧ config.schemaUrl = none
  compressed : 0 < config.maxBundleCompressedBytes
  uncompressed : 0 < config.maxBundleUncompressedBytes
  refresh : config.bundleUrl.isSome = true → config.bundleRefresh ≠ 0
  trusted : config.bundleSignaturePolicy = .required →
    K.trustStoreIsEmpty runtime.trustStore = false
  keys : ∃ keys, config.bundleTrustedKeys.mapM K.fromSpkiPemFile = .ok keys
    ∧ K.trustStoreFromKeys keys = .ok runtime.trustStore
  signaturePolicy : runtime.signaturePolicy = config.bundleSignaturePolicy.into K
  maxRequestBytes : runtime.maxRequestBytes = config.maxRequestSize
  maxCompressedBytes : runtime.maxCompressedBytes = config.maxBundleCompressedBytes
  maxUncompressedBytes : runtime.maxUncompressedBytes = config.maxBundleUncompressedBytes

theorem bundleRuntimeConfig_ok {config : Config} {runtime : BundleRuntimeConfig X}
    (h : config.bundleRuntimeConfig K = .ok runtime) : BundleSettings K config runtime := by
  rw [Config.bundleRuntimeConfig] at h
  obtain ⟨hexclusive, h⟩ := check_eq_ok.mp h
  obtain ⟨hlimits, h⟩ := check_eq_ok.mp h
  obtain ⟨hrefresh, h⟩ := check_eq_ok.mp h
  obtain ⟨keys, hkeys, h⟩ := bind_eq_ok.mp h
  obtain ⟨trustStore, htrust, h⟩ := bind_eq_ok.mp h
  obtain ⟨hrequired, h⟩ := check_eq_ok.mp h
  cases h
  rw [not_or] at hlimits
  refine ⟨?_, Nat.pos_of_ne_zero hlimits.1, Nat.pos_of_ne_zero hlimits.2, ?_, ?_,
    ⟨keys, mapError_eq_ok.mp hkeys, mapError_eq_ok.mp htrust⟩, rfl, rfl, rfl, rfl⟩
  · intro hbundle
    rw [hbundle, Bool.true_and, Bool.or_eq_true, Bool.or_eq_true] at hexclusive
    refine ⟨?_, ?_, ?_⟩
    · exact Option.not_isSome_iff_eq_none.mp fun hs => hexclusive (Or.inl (Or.inl hs))
    · exact Option.not_isSome_iff_eq_none.mp fun hs => hexclusive (Or.inl (Or.inr hs))
    · exact Option.not_isSome_iff_eq_none.mp fun hs => hexclusive (Or.inr hs)
  · intro hbundle hzero
    rw [hbundle, hzero] at hrefresh
    exact hrefresh rfl
  · intro hreq
    exact Bool.eq_false_iff.mpr fun hempty => hrequired ⟨hreq, hempty⟩

/-! ## The tuning parameters -/

/-- Whatever is asked for and whatever the machine says, there are workers and
    threads, and parallelism is only on where there is some. -/
theorem initParallelism_ok {host : Host} {workers rayonThreads parThreshold : Option Nat}
    {parallel : TreetopConfig.ParallelConfig}
    (h : initParallelism host workers rayonThreads parThreshold = .ok parallel) :
    0 < parallel.workers ∧ 0 < parallel.rayonThreads ∧ 0 < parallel.parThreshold
      ∧ (parallel.allowParallel = true ↔ 1 < parallel.cpuCount ∧ 1 < parallel.rayonThreads) := by
  rw [initParallelism] at h
  dsimp only at h
  by_cases hpool : host.buildGlobal (max 1 ((rayonThreads.or (rayonNumThreads host)).getD
      (max 1 (host.availableParallelism.getD 1
        - max 1 (workers.getD (max 1 (host.availableParallelism.getD 1 / 2))))))) = true
  · rw [if_pos hpool] at h
    cases h
    refine ⟨?_, ?_, ?_, ?_⟩
    · exact Nat.lt_of_lt_of_le Nat.one_pos (Nat.le_max_left ..)
    · exact Nat.lt_of_lt_of_le Nat.one_pos (Nat.le_max_left ..)
    · have hauto : ∀ n, 0 < max 8 n :=
        fun n => Nat.lt_of_lt_of_le (by decide) (Nat.le_max_left 8 n)
      dsimp only [TreetopConfig.ParallelConfig.new]
      cases parThreshold with
      | none => exact hauto _
      | some v =>
          dsimp only
          by_cases hv : v > 0
          · rw [if_pos hv]
            exact hv
          · rw [if_neg hv]
            exact hauto _
    · dsimp only [TreetopConfig.ParallelConfig.new]
      rw [Bool.and_eq_true, decide_eq_true_iff, decide_eq_true_iff]
  · rw [if_neg hpool] at h
    cases h

/-! ## The store `main` configures -/

/-- Two stores that differ in nothing but sources, modes of load and settings. -/
structure SameDocs (s s' : PolicyStore X) : Prop where
  caches : s'.listPoliciesRawCache = s.listPoliciesRawCache
    ∧ s'.listPoliciesJsonCache = s.listPoliciesJsonCache
  serving : SameServing s s'
  bundle : s'.bundle = s.bundle

theorem SameServing.trans {s s' s'' : PolicyStore X} (h : SameServing s s')
    (h' : SameServing s' s'') : SameServing s s'' where
  engine := h'.engine.trans h.engine
  status := h'.status.trans h.status
  policies := h'.policies.trans h.policies
  labels := h'.labels.trans h.labels
  labelVersion := h'.labelVersion.trans h.labelVersion
  schema := h'.schema.trans h.schema
  labelers := h'.labelers.trans h.labelers

theorem SameDocs.trans {s s' s'' : PolicyStore X} (h : SameDocs s s') (h' : SameDocs s' s'') :
    SameDocs s s'' :=
  ⟨⟨h'.caches.1.trans h.caches.1, h'.caches.2.trans h.caches.2⟩,
    SameServing.trans h.serving h'.serving, h'.bundle.trans h.bundle⟩

/-- Stores that serve the same serve the same documents. -/
theorem boardOf_sameServing {s s' : PolicyStore X} (h : SameServing s s') :
    boardOf s' = boardOf s := by
  rw [boardOf, boardOf, h.policies, h.labels, h.schema]

theorem sameDocs_configured (s : PolicyStore X) (kind : RemoteSourceKind) (source : Endpoint)
    (refreshFrequency : UInt32) : SameDocs s (s.configured kind source refreshFrequency) := by
  cases kind <;> exact ⟨⟨rfl, rfl⟩, ⟨rfl, rfl, rfl, rfl, rfl, rfl, rfl⟩, rfl⟩

/-- A configuration leaves the settings alone, the bundle mode excepted. -/
theorem configured_settings (s : PolicyStore X) (kind : RemoteSourceKind) (source : Endpoint)
    (refreshFrequency : UInt32) :
    (s.configured kind source refreshFrequency).allowUpload = s.allowUpload
      ∧ (s.configured kind source refreshFrequency).uploadToken = s.uploadToken
      ∧ (s.configured kind source refreshFrequency).schemaValidationMode
        = s.schemaValidationMode := by
  cases kind <;> exact ⟨rfl, rfl, rfl⟩

/-- The store after the fetcher of a component was spawned, or not. -/
def spawnedAt (kind : RemoteSourceKind) (url : Option Endpoint) (frequency : Option UInt32)
    (s : PolicyStore X) : PolicyStore X :=
  match url with
  | some url => s.configured kind url (frequency.getD 60)
  | none => s

theorem exec_spawnAt (kind : RemoteSourceKind) (url : Option Endpoint)
    (frequency : Option UInt32) (s : PolicyStore X) :
    exec (spawnAt kind url frequency) s = (.ok (), spawnedAt kind url frequency s) := by
  cases url with
  | none => rfl
  | some url =>
      -- a refresh time is widened on its way, and narrowed again without loss
      show exec (spawn kind url (frequency.getD 60).toUInt64) s
        = (.ok (), s.configured kind url (frequency.getD 60))
      rw [spawn, UInt32.toUInt32_toUInt64]
      cases kind <;> rfl

/-- The store with its upload settings and its validation mode. -/
def withUploads (config : Config) (token : String) (s : PolicyStore X) : PolicyStore X :=
  { s with
    allowUpload := config.allowUpload || s.allowUpload
    uploadToken := if config.allowUpload then some token else s.uploadToken
    schemaValidationMode := config.schemaValidationMode }

/-- **The store after `main`'s writes.** -/
theorem exec_configureStore (config : Config) (token : String) (s : PolicyStore X) :
    exec (configureStore config token) s
      = (.ok (), spawnedAt .schema config.schemaUrl config.schemaRefresh
          (spawnedAt .labels config.labelsUrl config.labelsRefresh
            (spawnedAt .policies config.policyUrl config.updateFrequency
              (withUploads config token s)))) := by
  have hrest : ∀ s', exec (do
      setSchemaValidationMode config.schemaValidationMode
      spawnAt .policies config.policyUrl config.updateFrequency
      spawnAt .labels config.labelsUrl config.labelsRefresh
      spawnAt .schema config.schemaUrl config.schemaRefresh : StoreM X Unit) s'
      = (.ok (), spawnedAt .schema config.schemaUrl config.schemaRefresh
          (spawnedAt .labels config.labelsUrl config.labelsRefresh
            (spawnedAt .policies config.policyUrl config.updateFrequency
              { s' with schemaValidationMode := config.schemaValidationMode }))) := by
    intro s'
    rw [setSchemaValidationMode, exec_bind_modify, exec_bind, exec_spawnAt]
    dsimp only
    rw [exec_bind, exec_spawnAt]
    dsimp only
    rw [exec_spawnAt]
  rw [configureStore, withUploads]
  cases config.allowUpload with
  | true => exact hrest { s with allowUpload := true, uploadToken := some token }
  | false => exact hrest s

section Spawned

variable (kind : RemoteSourceKind) (url : Option Endpoint) (frequency : Option UInt32)
  (s : PolicyStore X)

theorem sameDocs_spawnedAt : SameDocs s (spawnedAt kind url frequency s) := by
  cases url with
  | none => exact ⟨⟨rfl, rfl⟩, ⟨rfl, rfl, rfl, rfl, rfl, rfl, rfl⟩, rfl⟩
  | some url => exact sameDocs_configured s kind url _

theorem spawnedAt_settings :
    (spawnedAt kind url frequency s).allowUpload = s.allowUpload
      ∧ (spawnedAt kind url frequency s).uploadToken = s.uploadToken
      ∧ (spawnedAt kind url frequency s).schemaValidationMode = s.schemaValidationMode := by
  cases url with
  | none => exact ⟨rfl, rfl, rfl⟩
  | some url => exact configured_settings s kind url _

/-- A load record that never was is that of a source not loaded yet, if one is
    spawned. -/
theorem spawnedAt_load_self (h : loadOf s kind = ⟨none, false⟩) :
    (loadOf (spawnedAt kind url frequency s) kind).configuration.isSome = url.isSome
      ∧ (loadOf (spawnedAt kind url frequency s) kind).loaded = false := by
  cases url with
  | none =>
      show (loadOf s kind).configuration.isSome = false ∧ (loadOf s kind).loaded = false
      rw [h]
      exact ⟨rfl, rfl⟩
  | some url =>
      have hload := (configured_parts s kind url (frequency.getD 60) kind).1
      rw [if_pos rfl] at hload
      show (loadOf (s.configured kind url _) kind).configuration.isSome = true
        ∧ (loadOf (s.configured kind url _) kind).loaded = false
      rw [hload]
      exact ⟨rfl, rfl⟩

/-- Nobody else's record is touched. -/
theorem spawnedAt_load_ne {k : RemoteSourceKind} (hk : kind ≠ k) :
    loadOf (spawnedAt kind url frequency s) k = loadOf s k := by
  cases url with
  | none => rfl
  | some url =>
      have hload := (configured_parts s kind url (frequency.getD 60) k).1
      rw [if_neg hk] at hload
      exact hload

/-- A component takes the source its fetcher is spawned with. -/
theorem spawnedAt_source_self (hkind : kind ≠ .bundle) :
    sourceOf (spawnedAt kind url frequency s) kind = url.or (sourceOf s kind) := by
  cases url with
  | none => rfl
  | some url =>
      have hsource := (configured_parts s kind url (frequency.getD 60) kind).2.1
      rw [if_pos ⟨rfl, hkind⟩] at hsource
      exact hsource

theorem spawnedAt_source_ne {k : RemoteSourceKind} (hk : kind ≠ k) :
    sourceOf (spawnedAt kind url frequency s) k = sourceOf s k := by
  cases url with
  | none => rfl
  | some url =>
      have hsource := (configured_parts s kind url (frequency.getD 60) k).2.1
      rw [if_neg (fun h => hk h.1)] at hsource
      exact hsource

theorem spawnedAt_bundleUrlMode :
    (spawnedAt kind url frequency s).bundleUrlMode
      = (s.bundleUrlMode || (url.isSome && kind == .bundle)) := by
  cases url with
  | none =>
      show s.bundleUrlMode = (s.bundleUrlMode || false)
      rw [Bool.or_false]
  | some url =>
      exact (configured_parts s kind url (frequency.getD 60) kind).2.2

end Spawned

/-! ## The launch -/

/-- Nothing `main` derives from checked bundle settings can fail, as long as
    limits other than zero are limits. -/
theorem bundleFetcherFor_total {config : Config} {runtime : BundleRuntimeConfig X}
    (h : BundleSettings K config runtime)
    (hlimits : ∀ a b, 0 < a → 0 < b → ∃ limits, X.archiveLimitsNew a b = .ok limits)
    {url : Endpoint} (hurl : config.bundleUrl = some url) :
    ∃ f, bundleFetcherFor config runtime url = .ok f := by
  have hcompressed : 0 < runtime.maxCompressedBytes := by
    rw [h.maxCompressedBytes]
    exact h.compressed
  have huncompressed : 0 < runtime.maxUncompressedBytes := by
    rw [h.maxUncompressedBytes]
    exact h.uncompressed
  obtain ⟨limits, hok⟩ := hlimits _ _ hcompressed huncompressed
  have hrefresh : config.bundleRefresh ≠ 0 := h.refresh (by rw [hurl]; rfl)
  have hnew : ∃ f, BundleFetcher.newWithEngineMode url config.bundleRefresh limits
      runtime.signaturePolicy runtime.trustStore config.bundleEngineMode = .ok f :=
    ⟨_, if_neg hrefresh⟩
  obtain ⟨f, hf⟩ := hnew
  refine ⟨f, ?_⟩
  rw [bundleFetcherFor, hok]
  show (BundleFetcher.newWithEngineMode url config.bundleRefresh limits
    runtime.signaturePolicy runtime.trustStore config.bundleEngineMode).mapError _ = _
  rw [hf]
  rfl

/-- A bundle fetcher with the settings of a configuration. -/
structure ConfiguredFetcher (config : Config) (runtime : BundleRuntimeConfig X)
    (f : BundleFetcher X) : Prop where
  url : config.bundleUrl = some f.url
  refreshSecs : f.refreshSecs = config.bundleRefresh
  limits : X.archiveLimitsNew runtime.maxCompressedBytes runtime.maxUncompressedBytes
    = .ok f.limits
  signaturePolicy : f.signaturePolicy = runtime.signaturePolicy
  trustStore : f.trustStore = runtime.trustStore
  engineMode : f.engineMode = config.bundleEngineMode

/-- The bundle fetcher of a configuration, fresh from `main`. -/
structure FreshBundleFetcher (config : Config) (runtime : BundleRuntimeConfig X)
    (f : BundleFetcher X) : Prop extends ConfiguredFetcher config runtime f where
  forgotten : f.etag = none ∧ f.lastModified = none ∧ f.archiveSha256 = none

theorem bundleFetcherFor_ok {config : Config} {runtime : BundleRuntimeConfig X} {url : Endpoint}
    {f : BundleFetcher X} (hurl : config.bundleUrl = some url)
    (h : bundleFetcherFor config runtime url = .ok f) : FreshBundleFetcher config runtime f := by
  obtain ⟨limits, hlimits, h⟩ := bind_eq_ok.mp h
  have h := mapError_eq_ok.mp h
  rw [BundleFetcher.newWithEngineMode] at h
  by_cases hzero : config.bundleRefresh = 0
  · rw [if_pos hzero] at h
    cases h
  · rw [if_neg hzero] at h
    cases h
    exact ⟨⟨hurl, rfl, mapError_eq_ok.mp hlimits, rfl, rfl, rfl⟩, rfl, rfl, rfl⟩

/-- Whether a source of this kind is configured. -/
def sourceConfigured (config : Config) : RemoteSourceKind → Bool
  | .policies => config.policyUrl.isSome
  | .labels => config.labelsUrl.isSome
  | .schema => config.schemaUrl.isSome
  | .bundle => config.bundleUrl.isSome

/-- What a launched server is made of. -/
structure LaunchedFor (K : KeyCrate X) (host : Host) (token : String) (config : Config)
    (l : Launched X N) : Prop where
  bundleSettings : BundleSettings K config l.bundleRuntime
  admission : admissionFromEnv X N host = .ok l.admission
  parallel : initParallelism host config.workers config.rayonThreads config.parThreshold
    = .ok l.parallel
  engineMode : l.bundleEngineMode = config.bundleEngineMode
  authorizeRuntime : l.authorizeRuntime = ⟨config.maxBatchSize, config.maxContextBytes,
    config.maxContextDepth, config.maxContextKeys⟩
  fetchers : ∀ k, l.fetchers k = (config.url k).map fun url => GenericFetcher.new url.url
  bundleFetcher : ∀ f, l.bundleFetcher = some f → FreshBundleFetcher config l.bundleRuntime f
  bundleSpawned : l.bundleFetcher.isSome = config.bundleUrl.isSome
  caches : l.store.listPoliciesRawCache = ⟨.empty, false⟩
    ∧ l.store.listPoliciesJsonCache = ⟨.empty, false⟩
  allowUpload : l.store.allowUpload = config.allowUpload
  uploadToken : l.store.uploadToken = if config.allowUpload then some token else none
  mode : l.store.schemaValidationMode = config.schemaValidationMode
  bundleUrlMode : l.store.bundleUrlMode = config.bundleUrl.isSome
  fresh : ∃ now s, PolicyStore.new X now = .ok s ∧ SameServing s l.store
  board : boardOf l.store = ⟨"", "", ""⟩
  bundle : l.store.bundle = none
  configured : ∀ k, (loadOf l.store k).configuration.isSome = sourceConfigured config k
  unloaded : ∀ k, (loadOf l.store k).loaded = false
  sources : ∀ k, sourceOf l.store k ≠ none → sourceConfigured config k = true

theorem LaunchedFor.usable {host : Host} {token : String} {config : Config}
    {l : Launched X N} (h : LaunchedFor K host token config l) : CachesUsable l.store := by
  refine ⟨?_, ?_⟩
  · rw [h.caches.1]
  · rw [h.caches.2]

/-- The store of a launched server. -/
def launchedStore (config : Config) (token : String) (fresh : PolicyStore X) : PolicyStore X :=
  spawnedAt .bundle config.bundleUrl (some config.bundleRefresh)
    (spawnedAt .schema config.schemaUrl config.schemaRefresh
      (spawnedAt .labels config.labelsUrl config.labelsRefresh
        (spawnedAt .policies config.policyUrl config.updateFrequency
          (withUploads config token fresh))))

/-- The writes of `main` in a row. -/
theorem sameDocs_launchedStore (config : Config) (token : String) (s : PolicyStore X) :
    SameDocs s (launchedStore config token s) := by
  have huploads : SameDocs s (withUploads config token s) :=
    ⟨⟨rfl, rfl⟩, ⟨rfl, rfl, rfl, rfl, rfl, rfl, rfl⟩, rfl⟩
  exact huploads.trans ((sameDocs_spawnedAt ..).trans ((sameDocs_spawnedAt ..).trans
    ((sameDocs_spawnedAt ..).trans (sameDocs_spawnedAt ..))))

theorem launchedStore_settings (config : Config) (token : String) (s : PolicyStore X) :
    (launchedStore config token s).allowUpload = (config.allowUpload || s.allowUpload)
      ∧ (launchedStore config token s).uploadToken
        = (if config.allowUpload then some token else s.uploadToken)
      ∧ (launchedStore config token s).schemaValidationMode = config.schemaValidationMode := by
  rw [launchedStore]
  obtain ⟨h1, h2, h3⟩ := spawnedAt_settings .bundle config.bundleUrl
    (some config.bundleRefresh) (spawnedAt .schema config.schemaUrl config.schemaRefresh
      (spawnedAt .labels config.labelsUrl config.labelsRefresh
        (spawnedAt .policies config.policyUrl config.updateFrequency
          (withUploads config token s))))
  obtain ⟨h4, h5, h6⟩ := spawnedAt_settings .schema config.schemaUrl config.schemaRefresh
    (spawnedAt .labels config.labelsUrl config.labelsRefresh
      (spawnedAt .policies config.policyUrl config.updateFrequency (withUploads config token s)))
  obtain ⟨h7, h8, h9⟩ := spawnedAt_settings .labels config.labelsUrl config.labelsRefresh
    (spawnedAt .policies config.policyUrl config.updateFrequency (withUploads config token s))
  obtain ⟨h10, h11, h12⟩ := spawnedAt_settings .policies config.policyUrl
    config.updateFrequency (withUploads config token s)
  refine ⟨?_, ?_, ?_⟩
  · rw [h1, h4, h7, h10]
    rfl
  · rw [h2, h5, h8, h11]
    rfl
  · rw [h3, h6, h9, h12]
    rfl

/-- Every configured source is waiting for its first load. -/
theorem launchedStore_loads (config : Config) (token : String) {s : PolicyStore X}
    (hs : ∀ k, loadOf s k = ⟨none, false⟩) (k : RemoteSourceKind) :
    (loadOf (launchedStore config token s) k).configuration.isSome = sourceConfigured config k
      ∧ (loadOf (launchedStore config token s) k).loaded = false := by
  have huploads : ∀ k, loadOf (withUploads config token s) k = ⟨none, false⟩ := by
    intro k
    rw [← hs k]
    cases k <;> rfl
  rw [launchedStore]
  cases k with
  | policies =>
      rw [spawnedAt_load_ne _ _ _ _ (by decide), spawnedAt_load_ne _ _ _ _ (by decide),
        spawnedAt_load_ne _ _ _ _ (by decide)]
      exact spawnedAt_load_self _ _ _ _ (huploads .policies)
  | labels =>
      rw [spawnedAt_load_ne _ _ _ _ (by decide), spawnedAt_load_ne _ _ _ _ (by decide)]
      refine spawnedAt_load_self _ _ _ _ ?_
      rw [spawnedAt_load_ne _ _ _ _ (by decide)]
      exact huploads .labels
  | schema =>
      rw [spawnedAt_load_ne _ _ _ _ (by decide)]
      refine spawnedAt_load_self _ _ _ _ ?_
      rw [spawnedAt_load_ne _ _ _ _ (by decide), spawnedAt_load_ne _ _ _ _ (by decide)]
      exact huploads .schema
  | bundle =>
      refine spawnedAt_load_self _ _ _ _ ?_
      rw [spawnedAt_load_ne _ _ _ _ (by decide), spawnedAt_load_ne _ _ _ _ (by decide),
        spawnedAt_load_ne _ _ _ _ (by decide)]
      exact huploads .bundle

/-- No component has a source that is not configured. -/
theorem launchedStore_sources (config : Config) (token : String) {s : PolicyStore X}
    (hs : ∀ k, sourceOf s k = none) (k : RemoteSourceKind)
    (hk : sourceOf (launchedStore config token s) k ≠ none) :
    sourceConfigured config k = true := by
  have huploads : ∀ k, sourceOf (withUploads config token s) k = none := by
    intro k
    rw [← hs k]
    cases k <;> rfl
  rw [launchedStore] at hk
  cases k with
  | policies =>
      rw [spawnedAt_source_ne _ _ _ _ (by decide), spawnedAt_source_ne _ _ _ _ (by decide),
        spawnedAt_source_ne _ _ _ _ (by decide), spawnedAt_source_self _ _ _ _ (by decide),
        huploads, Option.or_none] at hk
      exact Option.isSome_iff_ne_none.mpr hk
  | labels =>
      rw [spawnedAt_source_ne _ _ _ _ (by decide), spawnedAt_source_ne _ _ _ _ (by decide),
        spawnedAt_source_self _ _ _ _ (by decide), spawnedAt_source_ne _ _ _ _ (by decide),
        huploads, Option.or_none] at hk
      exact Option.isSome_iff_ne_none.mpr hk
  | schema =>
      rw [spawnedAt_source_ne _ _ _ _ (by decide), spawnedAt_source_self _ _ _ _ (by decide),
        spawnedAt_source_ne _ _ _ _ (by decide), spawnedAt_source_ne _ _ _ _ (by decide),
        huploads, Option.or_none] at hk
      exact Option.isSome_iff_ne_none.mpr hk
  | bundle => exact absurd rfl hk

theorem launchedStore_bundleUrlMode (config : Config) (token : String) {s : PolicyStore X}
    (hs : s.bundleUrlMode = false) :
    (launchedStore config token s).bundleUrlMode = config.bundleUrl.isSome := by
  have hnot : ∀ (url : Option Endpoint) (kind : RemoteSourceKind), kind ≠ .bundle →
      (url.isSome && kind == .bundle) = false := by
    intro url kind hkind
    rw [beq_eq_false_iff_ne.mpr hkind, Bool.and_false]
  rw [launchedStore, spawnedAt_bundleUrlMode, spawnedAt_bundleUrlMode, spawnedAt_bundleUrlMode,
    spawnedAt_bundleUrlMode, hnot _ .schema (by decide), hnot _ .labels (by decide),
    hnot _ .policies (by decide)]
  show ((((s.bundleUrlMode || false) || false) || false)
    || (config.bundleUrl.isSome && true)) = config.bundleUrl.isSome
  rw [hs, Bool.and_true]
  rfl

/-- **LAUNCH**: what `main` hands over is as the configuration says. -/
theorem launch_spec {host : Host} {now : Timestamp} {token : String} {config : Config}
    {l : Launched X N} (h : launch X N K host now token config = .ok (some l)) :
    LaunchedFor K host token config l := by
  rw [launch] at h
  by_cases hversion : config.version = true
  · rw [if_pos hversion] at h
    cases h
  · rw [if_neg hversion] at h
    obtain ⟨bundleRuntime, hbundle, h⟩ := bind_eq_ok.mp h
    obtain ⟨admission, hadmission, h⟩ := bind_eq_ok.mp h
    obtain ⟨parallel, hparallel, h⟩ := bind_eq_ok.mp h
    obtain ⟨fresh, hfresh, h⟩ := bind_eq_ok.mp h
    dsimp only at h
    have hsettings := bundleRuntimeConfig_ok (mapError_eq_ok.mp hbundle)
    have hnew : PolicyStore.new X now = .ok fresh := mapError_eq_ok.mp hfresh
    obtain ⟨engine, _, hfresh⟩ := new_eq hnew
    have hstore : runMain (configureStore config token) fresh
        = spawnedAt .schema config.schemaUrl config.schemaRefresh
          (spawnedAt .labels config.labelsUrl config.labelsRefresh
            (spawnedAt .policies config.policyUrl config.updateFrequency
              (withUploads config token fresh))) := by
      rw [runMain, exec_configureStore]
    have hblank : ∀ k, loadOf fresh k = ⟨none, false⟩ := by
      intro k
      rw [hfresh]
      cases k <;> rfl
    have hnone : ∀ k, sourceOf fresh k = none := by
      intro k
      rw [hfresh]
      cases k <;> rfl
    obtain ⟨hallow, htoken, hmode⟩ := launchedStore_settings config token fresh
    have hdocs := sameDocs_launchedStore config token fresh
    have hloads := launchedStore_loads config token hblank
    have hurlMode := launchedStore_bundleUrlMode config token (s := fresh) (by rw [hfresh]; rfl)
    -- with or without a bundle source, the store is the one of all writes in a row
    have hmade : ∀ l : Launched X N, l.store = launchedStore config token fresh →
        l.bundleRuntime = bundleRuntime → l.admission = admission → l.parallel = parallel →
        l.bundleEngineMode = config.bundleEngineMode →
        l.authorizeRuntime = ⟨config.maxBatchSize, config.maxContextBytes,
          config.maxContextDepth, config.maxContextKeys⟩ →
        (∀ k, l.fetchers k = (config.url k).map fun url => GenericFetcher.new url.url) →
        (∀ f, l.bundleFetcher = some f → FreshBundleFetcher config bundleRuntime f) →
        l.bundleFetcher.isSome = config.bundleUrl.isSome →
        LaunchedFor K host token config l := by
      intro l hst hrt had hpar hem har hfet hbf hsp
      have hfields : (launchedStore config token fresh).allowUpload = config.allowUpload
          ∧ (launchedStore config token fresh).uploadToken
            = if config.allowUpload then some token else none := by
        rw [hallow, htoken, hfresh]
        exact ⟨Bool.or_false _, rfl⟩
      refine ⟨hrt ▸ hsettings, had ▸ mapError_eq_ok.mp hadmission, hpar ▸ hparallel, hem, har,
        hfet, hrt ▸ hbf, hsp, ?_, ?_, ?_, ?_, ?_, ⟨now, fresh, hnew, hst ▸ hdocs.serving⟩, ?_, ?_,
        ?_, ?_, ?_⟩
      · rw [hst, hdocs.caches.1, hdocs.caches.2, hfresh]
        exact ⟨rfl, rfl⟩
      · rw [hst, hfields.1]
      · rw [hst, hfields.2]
      · rw [hst, hmode]
      · rw [hst, hurlMode]
      · rw [hst, boardOf_sameServing hdocs.serving, hfresh]
        rfl
      · rw [hst, hdocs.bundle, hfresh]
        rfl
      · rw [hst]
        exact fun k => (hloads k).1
      · rw [hst]
        exact fun k => (hloads k).2
      · rw [hst]
        exact launchedStore_sources config token hnone
    obtain ⟨bundleFetcher, hfound, h⟩ := bind_eq_ok.mp h
    obtain ⟨_, _, h⟩ := bind_eq_ok.mp h
    cases h
    rw [configuredBundleFetcher] at hfound
    cases hurl : config.bundleUrl with
    | none =>
        rw [hurl] at hfound
        cases hfound
        refine hmade _ ?_ rfl rfl rfl rfl rfl (fun k => rfl) ?_ ?_
        · show runMain (configureStore config token) fresh = _
          rw [hstore, launchedStore, hurl]
          rfl
        · intro f hf
          cases hf
        · rw [hurl]
          rfl
    | some url =>
        rw [hurl] at hfound
        obtain ⟨f, hf, rfl⟩ := map_eq_ok.mp hfound
        have hfresh := bundleFetcherFor_ok hurl hf
        refine hmade _ ?_ rfl rfl rfl rfl rfl (fun k => rfl) ?_ ?_
        · show runMain f.spawn (runMain (configureStore config token) fresh) = _
          have hsame : f.url = url := Option.some.inj (hfresh.url.symm.trans hurl)
          rw [hstore, launchedStore, hurl, BundleFetcher.spawn, hsame, hfresh.refreshSecs]
          rfl
        · intro f' hf'
          cases hf'
          exact hfresh
        · rw [hurl]
          rfl

/-! ## When there is a launch -/

/-- The bundle settings of a command line that can be served. -/
structure SettingsOk (K : KeyCrate X) (config : Config) : Prop where
  exclusive : config.bundleUrl.isSome = true →
    config.policyUrl = none ∧ config.labelsUrl = none ∧ config.schemaUrl = none
  compressed : 0 < config.maxBundleCompressedBytes
  uncompressed : 0 < config.maxBundleUncompressedBytes
  refresh : config.bundleUrl.isSome = true → config.bundleRefresh ≠ 0
  keys : ∃ keys trustStore, config.bundleTrustedKeys.mapM K.fromSpkiPemFile = .ok keys
    ∧ K.trustStoreFromKeys keys = .ok trustStore
    ∧ (config.bundleSignaturePolicy = .required → K.trustStoreIsEmpty trustStore = false)

/-- The check of the bundle settings passes exactly on these. -/
theorem bundleRuntimeConfig_iff {config : Config} :
    (∃ runtime, config.bundleRuntimeConfig K = .ok runtime) ↔ SettingsOk K config := by
  constructor
  · rintro ⟨runtime, h⟩
    have hs := bundleRuntimeConfig_ok h
    obtain ⟨keys, hkeys, htrust⟩ := hs.keys
    exact ⟨hs.exclusive, hs.compressed, hs.uncompressed, hs.refresh, keys, _, hkeys, htrust,
      hs.trusted⟩
  · intro h
    obtain ⟨keys, trustStore, hkeys, htrust, hrequired⟩ := h.keys
    refine ⟨⟨config.bundleSignaturePolicy.into K, trustStore, config.maxRequestSize,
      config.maxBundleCompressedBytes, config.maxBundleUncompressedBytes⟩, ?_⟩
    rw [Config.bundleRuntimeConfig]
    refine check_eq_ok.mpr ⟨?_, check_eq_ok.mpr ⟨?_, check_eq_ok.mpr ⟨?_, ?_⟩⟩⟩
    · intro hboth
      rw [Bool.and_eq_true] at hboth
      obtain ⟨hpolicy, hlabels, hschema⟩ := h.exclusive hboth.1
      have hsome := hboth.2
      rw [hpolicy, hlabels, hschema] at hsome
      cases hsome
    · rintro (hzero | hzero)
      · exact absurd hzero (Nat.ne_of_gt h.compressed)
      · exact absurd hzero (Nat.ne_of_gt h.uncompressed)
    · intro hboth
      rw [Bool.and_eq_true, beq_iff_eq] at hboth
      exact h.refresh hboth.1 hboth.2
    · refine bind_eq_ok.mpr ⟨keys, mapError_eq_ok.mpr hkeys,
        bind_eq_ok.mpr ⟨trustStore, mapError_eq_ok.mpr htrust, check_eq_ok.mpr ⟨?_, rfl⟩⟩⟩
      rintro ⟨hreq, hempty⟩
      rw [hrequired hreq] at hempty
      cases hempty

/-- **A SERVER STARTS** exactly if it was not asked for its version, its bundle
    settings and its admission settings pass their checks, its thread pool and
    the empty store can be built, and it can listen at its address; what it
    derives from its bundle settings after their check cannot fail.  (Archive
    limits are refused for a zero only.) -/
theorem launch_iff (hlimits : ∀ a b, 0 < a → 0 < b → ∃ limits, X.archiveLimitsNew a b = .ok limits)
    {host : Host} {now : Timestamp} {token : String} {config : Config} :
    (∃ l, launch X N K host now token config = .ok (some l))
      ↔ config.version = false ∧ SettingsOk K config
        ∧ (∃ admission, admissionFromEnv X N host = .ok admission)
        ∧ (∃ parallel, initParallelism host config.workers config.rayonThreads
          config.parThreshold = .ok parallel)
        ∧ (∃ fresh, PolicyStore.new X now = .ok fresh)
        ∧ host.bind config.host config.port = .ok () := by
  constructor
  · rintro ⟨l, h⟩
    have hl := launch_spec h
    rw [launch] at h
    by_cases hversion : config.version = true
    · rw [if_pos hversion] at h
      cases h
    · rw [if_neg hversion] at h
      obtain ⟨bundleRuntime, hbundle, h⟩ := bind_eq_ok.mp h
      obtain ⟨admission, hadmission, h⟩ := bind_eq_ok.mp h
      obtain ⟨parallel, hparallel, h⟩ := bind_eq_ok.mp h
      obtain ⟨fresh, hfresh, h⟩ := bind_eq_ok.mp h
      obtain ⟨_, _, h⟩ := bind_eq_ok.mp h
      obtain ⟨_, hbound, _⟩ := bind_eq_ok.mp h
      exact ⟨Bool.eq_false_iff.mpr hversion,
        bundleRuntimeConfig_iff.mp ⟨bundleRuntime, mapError_eq_ok.mp hbundle⟩,
        ⟨admission, mapError_eq_ok.mp hadmission⟩, ⟨parallel, hparallel⟩,
        ⟨fresh, mapError_eq_ok.mp hfresh⟩, mapError_eq_ok.mp hbound⟩
  · rintro ⟨hversion, hsettings, ⟨admission, hadmission⟩, ⟨parallel, hparallel⟩,
      ⟨fresh, hfresh⟩, hbound⟩
    obtain ⟨bundleRuntime, hbundle⟩ := bundleRuntimeConfig_iff.mpr hsettings
    rw [launch, if_neg (by rw [hversion]; exact Bool.false_ne_true)]
    -- with a bundle source there is a fetcher to make, which does not fail
    obtain ⟨found, hfound⟩ : ∃ found, configuredBundleFetcher config bundleRuntime = .ok found := by
      rw [configuredBundleFetcher]
      cases hurl : config.bundleUrl with
      | none => exact ⟨none, rfl⟩
      | some url =>
          obtain ⟨f, hf⟩ := bundleFetcherFor_total (bundleRuntimeConfig_ok hbundle) hlimits hurl
          exact ⟨some f, map_eq_ok.mpr ⟨f, hf, rfl⟩⟩
    exact ⟨_, bind_eq_ok.mpr ⟨bundleRuntime, mapError_eq_ok.mpr hbundle,
      bind_eq_ok.mpr ⟨admission, mapError_eq_ok.mpr hadmission,
        bind_eq_ok.mpr ⟨parallel, hparallel,
          bind_eq_ok.mpr ⟨fresh, mapError_eq_ok.mpr hfresh,
            bind_eq_ok.mpr ⟨found, hfound,
              bind_eq_ok.mpr ⟨(), mapError_eq_ok.mpr hbound, rfl⟩⟩⟩⟩⟩⟩⟩

/-! ## Two small servers -/

open TreetopSample

/-- No key file is there. -/
def smallKeys : KeyCrate small where
  TrustedKey := Empty
  fromSpkiPemFile _ := .error "No such file or directory (os error 2)"
  trustStoreFromKeys _ := .ok ()
  trustStoreIsEmpty _ := true
  allowUnsigned := ()
  required := ()

/-- Four processors, nothing in the environment, and the default port is free. -/
def smallHost : Host where
  availableParallelism := some 4
  env _ := .ok none
  buildGlobal _ := true
  bind _ port := if port = 9999 then .ok () else .error "Permission denied (os error 13)"

/-- Policies from a URL, and no uploads. -/
def remoteConfig : Config :=
  { Config.default with policyUrl := some ⟨"https://policies.example/photos.cedar"⟩ }

/-- Bundles from a URL, and uploads. -/
def bundleConfig : Config :=
  { Config.default with
    bundleUrl := some ⟨"https://bundles.example/photos.tar.gz"⟩
    allowUpload := true }

/-- The server of a configuration, if there is one. -/
def smallServer (config : Config) : Option (Launched small smallNets) :=
  (launch small smallNets smallKeys smallHost 0 "t" config).toOption.bind id

def remoteServer : Launched small smallNets := (smallServer remoteConfig).get rfl

def bundleServer : Launched small smallNets := (smallServer bundleConfig).get rfl

theorem launch_remoteServer :
    launch small smallNets smallKeys smallHost 0 "t" remoteConfig = .ok (some remoteServer) := rfl

theorem launch_bundleServer :
    launch small smallNets smallKeys smallHost 0 "t" bundleConfig = .ok (some bundleServer) := rfl

/-- The conditions of one launch. -/
theorem launch_iff_bundle :
    (∃ l, launch small smallNets smallKeys smallHost 0 "t" bundleConfig = .ok (some l))
      ↔ bundleConfig.version = false ∧ SettingsOk smallKeys bundleConfig
        ∧ (∃ admission, admissionFromEnv small smallNets smallHost = .ok admission)
        ∧ (∃ parallel, initParallelism smallHost bundleConfig.workers bundleConfig.rayonThreads
          bundleConfig.parThreshold = .ok parallel)
        ∧ (∃ fresh, PolicyStore.new small 0 = .ok fresh)
        ∧ smallHost.bind bundleConfig.host bundleConfig.port = .ok () :=
  launch_iff fun a b _ _ => ⟨⟨a, b⟩, rfl⟩

end TreetopLaunch
