import TreetopRest.OriginProofs

/-! # Bundles are served whole

    A store that reports a bundle serves that bundle and nothing else: its
    engine, its three documents, its labels (`report_vouches`), and the bundle
    was valid under the settings of the launch.  In BUNDLE MODE there is
    nothing else to serve: until the first bundle the store is the empty one,
    and no listing is ever out of date (`bundle_mode`).  Where signatures are
    required every report is of a signed bundle (`required_signatures`). -/

namespace TreetopBundleMode

open FallibleState UpdateRun
open TreetopErrors TreetopCrates TreetopMetadata TreetopWire TreetopStore
open TreetopFetcher TreetopBundleFetcher TreetopSections TreetopRequest TreetopUpload
open TreetopAdmission TreetopConfig TreetopServer TreetopServerSteps TreetopLaunch
open TreetopServerRuns TreetopOrigins
open TreetopListCache (CachesFresh cachesFresh_of_empty)
open TreetopUploadSafety (archiveUpload)

variable {X : Crates} {N : NetCrate} {K : KeyCrate X} {ι : Type} {host : Host}
  {now : Timestamp} {token : String} {config : Config} {l : Launched X N} {uploads : ι → Upload}

/-! ## A bundle and the store that serves it -/

/-- The store serves all of this bundle. -/
structure Serves (s : PolicyStore X) (p : PreparedBundle X) : Prop where
  engine : s.engine = p.engine
  policies : s.policies = p.policies
  labels : s.labels = p.labels
  schema : s.schema = p.schema
  labelers : s.labelRegistryLabelers = p.labelers
  status : s.requestContextStatus = p.requestContextStatus
  report : s.bundle = some p.bundle

/-- The bundle was prepared, as the configuration says, from an archive that is
    valid under the keys and limits of the launch. -/
structure Vouched (config : Config) (l : Launched X N) (v : X.ValidatedBundle)
    (p : PreparedBundle X) : Prop where
  valid : ∃ bytes limits, X.archiveLimitsNew l.bundleRuntime.maxCompressedBytes
      l.bundleRuntime.maxUncompressedBytes = .ok limits
    ∧ X.validateArchive bytes l.bundleRuntime.signaturePolicy l.bundleRuntime.trustStore limits
      = .ok v
  made : ∃ clock source frequency, prepareBundleWithEngineMode clock v source frequency
    config.schemaValidationMode config.bundleEngineMode = .ok p

/-- The store as it was launched, as far as it is served. -/
structure Pristine (l : Launched X N) (s : PolicyStore X) : Prop where
  engine : s.engine = l.store.engine
  board : boardOf s = ⟨"", "", ""⟩
  labelers : s.labelRegistryLabelers = []
  status : s.requestContextStatus = .noSchema
  report : s.bundle = none

theorem Serves.marked_bundle {s : PolicyStore X} {p : PreparedBundle X} (h : Serves s p) :
    Serves (s.marked .bundle) p :=
  ⟨h.engine, h.policies, h.labels, h.schema, h.labelers, h.status, h.report⟩

theorem Serves.of_same {s s' : PolicyStore X} {p : PreparedBundle X} (h : Serves s p)
    (hsame : SameButCaches s s') : Serves s' p := by
  obtain ⟨_, _, rfl⟩ := hsame.same
  exact ⟨h.engine, h.policies, h.labels, h.schema, h.labelers, h.status, h.report⟩

theorem Pristine.of_same {s s' : PolicyStore X} (h : Pristine l s) (hsame : SameButCaches s s') :
    Pristine l s' := by
  obtain ⟨_, _, rfl⟩ := hsame.same
  exact ⟨h.engine, h.board, h.labelers, h.status, h.report⟩

/-- A launched store is pristine. -/
theorem pristine_launched (hl : LaunchedFor K host token config l) : Pristine l l.store := by
  obtain ⟨_, s, hnew, hsame⟩ := hl.fresh
  obtain ⟨_, _, rfl⟩ := new_eq hnew
  exact ⟨rfl, hl.board, hsame.labelers, hsame.status, hl.bundle⟩

theorem bundle_marked (s : PolicyStore X) (kind : RemoteSourceKind) :
    (s.marked kind).bundle = s.bundle := by
  cases kind <;> rfl

/-- A component update ends the report of a bundle. -/
theorem component_ends_report {who : Option RemoteSourceKind} {s s' : PolicyStore X}
    {k : Component} {text : String} (h : Published who s (.component k text) s') :
    s'.bundle = none := by
  obtain ⟨s₁, ⟨at', hinst⟩, rfl⟩ := h
  have hnone : s₁.bundle = none := by
    cases k with
    | policies =>
        obtain ⟨_, _, _, _, _, _, _, _, rfl⟩ := hinst
        rfl
    | schema =>
        obtain ⟨_, _, _, _, _, _, _, _, rfl⟩ := hinst
        rfl
    | labels =>
        obtain ⟨_, _, _, _, _, _, _, _, rfl⟩ := hinst
        rfl
  cases who with
  | none => exact hnone
  | some kind => exact (bundle_marked s₁ kind).trans hnone

section Step

variable {runtime : BundleRuntimeConfig X} {engineMode : Option BundleEngineMode}
  {srv : Server X ι} {e : Event X ι} {who : Option RemoteSourceKind}

/-- A bundle is published by its fetcher or by an upload, who mark it at most
    as a bundle. -/
theorem bundle_publisher {p : Publication X} {prepared : PreparedBundle X}
    (hpub : PublishedBy uploads srv e who p) (hp : p = .bundle prepared) :
    who = none ∨ who = some .bundle := by
  cases hpub with
  | fetcher k net now f body newHash h => cases hp
  | bundleFetcher get clock taskFailure f d prepared' h => exact Or.inr rfl
  | upload i now c h ha => exact Or.inl rfl

variable [DecidableEq ι]

/-- **A published bundle is served whole**, with empty caches. -/
theorem publishes_serves {prepared : PreparedBundle X}
    (hpub : Publishes uploads runtime engineMode srv e who (.bundle prepared)) :
    Serves (step uploads runtime engineMode e srv).2.store prepared
      ∧ CachesFresh (step uploads runtime engineMode e srv).2.store := by
  obtain ⟨s₁, ⟨_, hs₁⟩, hmarked⟩ := hpub.published
  have hserves : Serves s₁ prepared := by
    rw [hs₁]
    exact ⟨rfl, rfl, rfl, rfl, rfl, rfl, rfl⟩
  rw [hmarked]
  rcases bundle_publisher hpub.by' rfl with rfl | rfl
  · refine ⟨hserves, ?_⟩
    rw [hs₁]
    exact cachesFresh_of_empty rfl rfl
  · refine ⟨hserves.marked_bundle, ?_⟩
    rw [hs₁]
    exact cachesFresh_of_empty rfl rfl

end Step

/-! ## Origins of bundles -/

/-- The archive a request delivers is valid under the limits it is read with. -/
theorem delivers_valid {runtime : BundleRuntimeConfig X} {u : Upload} {v : X.ValidatedBundle}
    (h : TreetopUploadSafety.Delivers runtime u v) :
    ∃ bytes limits, X.archiveLimitsNew runtime.maxCompressedBytes runtime.maxUncompressedBytes
        = .ok limits
      ∧ X.validateArchive bytes runtime.signaturePolicy runtime.trustStore limits = .ok v := by
  cases u with
  | policies headers body => cases h
  | schema headers body => cases h
  | bundle headers payload clock taskFailure =>
      obtain ⟨bytes, limits, _, hlimits, hvalid⟩ := h
      exact ⟨bytes, limits, hlimits, hvalid⟩

/-- A bundle that comes from somewhere is vouched for. -/
theorem vouched_of_origin [DecidableEq ι] (h : LaunchedFor K host token config l)
    {past : List (Event X ι)} {e : Event X ι} {p : Publication X} {prepared : PreparedBundle X}
    (horigin : Origin config l token uploads past e p) (hp : p = .bundle prepared) :
    ∃ v, Vouched config l v prepared := by
  cases horigin with
  | source k net now body hsource _ _ => cases hp
  | bundleSource get clock taskFailure prepared' d _ _ hfrom =>
      cases hp
      obtain ⟨limits, url, v, clock', hfrom⟩ := hfrom
      exact ⟨v, ⟨d.bytes, limits, hfrom.limited, hfrom.valid⟩, clock', _, _, hfrom.made⟩
  | upload i now c hentitled hprep =>
      obtain ⟨v, clock, hdelivers, hmade⟩ := prepare_of_bundle _ _ hprep hp
      obtain ⟨bytes, limits, hlimits, hvalid⟩ := delivers_valid hdelivers
      refine ⟨v, ⟨bytes, limits, hlimits, hvalid⟩, clock, none, none, ?_⟩
      rw [← h.engineMode]
      exact hmade

/-- In bundle mode nothing but a bundle comes from anywhere. -/
theorem origin_bundle_mode [DecidableEq ι] (h : LaunchedFor K host token config l)
    (hmode : config.bundleUrl.isSome = true) {past : List (Event X ι)} {e : Event X ι}
    {p : Publication X} (horigin : Origin config l token uploads past e p) :
    ∃ prepared, p = .bundle prepared := by
  cases horigin with
  | source k net now body hsource _ _ =>
      obtain ⟨hpolicy, hlabels, hschema⟩ := h.bundleSettings.exclusive hmode
      cases k with
      | policies =>
          rw [Config.url, hpolicy] at hsource
          cases hsource
      | labels =>
          rw [Config.url, hlabels] at hsource
          cases hsource
      | schema =>
          rw [Config.url, hschema] at hsource
          cases hsource
  | bundleSource get clock taskFailure prepared d _ _ _ => exact ⟨prepared, rfl⟩
  | upload i now c hentitled hprep =>
      have honly : (uploads i).isBundle = true := by
        by_contra hnot
        have hnone := hentitled.independent (Bool.eq_false_iff.mpr hnot)
        rw [hnone] at hmode
        cases hmode
      exact prepare_isBundle _ _ hprep honly

/-! ## Runs -/

variable [DecidableEq ι]

/-- What a store reports, it serves, and a report ends with the next component. -/
theorem run_reports (hl : LaunchedFor K host token config l) (htoken : token ≠ "")
    (events : List (Event X ι)) (report : BundleMetadata)
    (hreport : (running uploads l events).store.bundle = some report) :
    ∃ v prepared, Serves (running uploads l events).store prepared
      ∧ Vouched config l v prepared ∧ report = prepared.bundle := by
  refine running_induct (fun _ srv => ∀ report, srv.store.bundle = some report →
    ∃ v prepared, Serves srv.store prepared ∧ Vouched config l v prepared
      ∧ report = prepared.bundle) ?_ ?_ events report hreport
  · intro report hreport
    have hnone : l.store.bundle = some report := hreport
    rw [hl.bundle] at hnone
    cases hnone
  · intro past e ih report hreport
    have hu : Underway config l uploads past (running uploads l past) :=
      run_underway hl htoken past
    rcases step_cases uploads l.bundleRuntime (some l.bundleEngineMode) hu.inOrder.usable
      (hu.inOrder.token (uploadToken_ne hl htoken)) e with ⟨_, hsame⟩ | ⟨who, p, hpub⟩
    · have hbefore : (running uploads l past).store.bundle = some report := by
        obtain ⟨_, _, heq⟩ := hsame.same
        rw [heq] at hreport
        exact hreport
      obtain ⟨v, prepared, hserves, hvouched, hrep⟩ := ih report hbefore
      exact ⟨v, prepared, hserves.of_same hsame, hvouched, hrep⟩
    · cases p with
      | component k text =>
          rw [component_ends_report hpub.published] at hreport
          cases hreport
      | bundle prepared =>
          have hserves := (publishes_serves hpub).1
          obtain ⟨v, hvouched⟩ := vouched_of_origin hl
            (origin_of_published hl htoken past e _ hpub.outcome) rfl
          rw [hserves.report] at hreport
          exact ⟨v, prepared, hserves, hvouched, (Option.some.inj hreport).symm⟩

/-- **REPORTS**: in every run, a store that reports a bundle serves it whole,
    and the bundle was valid under the settings of the launch. -/
theorem report_vouches (h : launch X N K host now token config = .ok (some l))
    (htoken : token ≠ "") (events : List (Event X ι)) (report : BundleMetadata)
    (hreport : (running uploads l events).store.bundle = some report) :
    ∃ v prepared, Serves (running uploads l events).store prepared
      ∧ Vouched config l v prepared ∧ report = prepared.bundle :=
  run_reports (launch_spec h) htoken events report hreport

/-- The bundle that is polled while it is uploaded. -/
theorem report_vouches_bundle :
    ∃ report, (running archiveUpload bundleServer bundleRun).store.bundle = some report
      ∧ ∃ v prepared, Serves (running archiveUpload bundleServer bundleRun).store prepared
        ∧ Vouched bundleConfig bundleServer v prepared ∧ report = prepared.bundle :=
  ⟨_, rfl, report_vouches launch_bundleServer (by decide) bundleRun _ rfl⟩

/-- In bundle mode only bundles are published, and each replaces everything. -/
theorem run_bundleMode (hl : LaunchedFor K host token config l) (htoken : token ≠ "")
    (hmode : config.bundleUrl.isSome = true) (events : List (Event X ι)) :
    (Pristine l (running uploads l events).store
      ∨ ∃ v prepared, Serves (running uploads l events).store prepared
        ∧ Vouched config l v prepared)
    ∧ CachesFresh (running uploads l events).store := by
  refine running_induct (fun _ srv => (Pristine l srv.store
    ∨ ∃ v prepared, Serves srv.store prepared ∧ Vouched config l v prepared)
    ∧ CachesFresh srv.store) ?_ ?_ events
  · exact ⟨Or.inl (pristine_launched hl), cachesFresh_of_empty hl.caches.1 hl.caches.2⟩
  · rintro past e ⟨hserved, hfresh⟩
    have hu : Underway config l uploads past (running uploads l past) :=
      run_underway hl htoken past
    rcases step_cases uploads l.bundleRuntime (some l.bundleEngineMode) hu.inOrder.usable
      (hu.inOrder.token (uploadToken_ne hl htoken)) e with ⟨_, hsame⟩ | ⟨who, p, hpub⟩
    · refine ⟨?_, hsame.fresh hfresh⟩
      rcases hserved with hpristine | ⟨v, prepared, hserves, hvouched⟩
      · exact Or.inl (hpristine.of_same hsame)
      · exact Or.inr ⟨v, prepared, hserves.of_same hsame, hvouched⟩
    · have horigin := origin_of_published hl htoken past e p hpub.outcome
      obtain ⟨prepared, rfl⟩ := origin_bundle_mode hl hmode horigin
      obtain ⟨hserves, hempty⟩ := publishes_serves hpub
      obtain ⟨v, hvouched⟩ := vouched_of_origin hl horigin rfl
      exact ⟨Or.inr ⟨v, prepared, hserves, hvouched⟩, hempty⟩

/-- **BUNDLE MODE**: with a bundle source, the store is the empty one or serves
    one bundle whole, at every moment of every run; and its listing caches
    never hold anything but what the engine in force says. -/
theorem bundle_mode (h : launch X N K host now token config = .ok (some l))
    (htoken : token ≠ "") (hmode : config.bundleUrl.isSome = true)
    (events : List (Event X ι)) :
    (Pristine l (running uploads l events).store
      ∨ ∃ v prepared, Serves (running uploads l events).store prepared
        ∧ Vouched config l v prepared)
    ∧ CachesFresh (running uploads l events).store :=
  run_bundleMode (launch_spec h) htoken hmode events

/-- The same server after the poll alone. -/
theorem bundle_mode_bundle :
    (Pristine bundleServer (running archiveUpload bundleServer (bundleRun.take 4)).store
      ∨ ∃ v prepared, Serves (running archiveUpload bundleServer (bundleRun.take 4)).store prepared
        ∧ Vouched bundleConfig bundleServer v prepared)
    ∧ CachesFresh (running archiveUpload bundleServer (bundleRun.take 4)).store :=
  bundle_mode launch_bundleServer (by decide) rfl (bundleRun.take 4)

/-! ## Signatures -/

/-- What the signature policy `required` promises: it lets nothing through that
    is not signed by a trusted key. -/
def RequiresSignature (K : KeyCrate X) : Prop :=
  ∀ bytes trustStore limits v, X.validateArchive bytes K.required trustStore limits = .ok v →
    (X.verifiedSignature v).isSome = true

/-- A prepared bundle reports the signature of what it was prepared from. -/
theorem prepared_signed {clock : BundleClock} {v : X.ValidatedBundle}
    {source : Option Endpoint} {frequency : Option UInt32} {mode : SchemaValidationMode}
    {engineMode : BundleEngineMode} {p : PreparedBundle X}
    (h : prepareBundleWithEngineMode clock v source frequency mode engineMode = .ok p) :
    p.bundle.signed = (X.verifiedSignature v).isSome := by
  rw [prepareBundleWithEngineMode] at h
  obtain ⟨_, _, h⟩ := bind_eq_ok.mp h
  cases engineMode with
  | monolithic =>
      obtain ⟨_, _, h⟩ := bind_eq_ok.mp h
      obtain ⟨_, _, h⟩ := bind_eq_ok.mp h
      obtain ⟨_, _, h⟩ := bind_eq_ok.mp h
      cases h
      rfl
  | bundleModules =>
      obtain ⟨_, _, h⟩ := bind_eq_ok.mp h
      obtain ⟨_, _, h⟩ := bind_eq_ok.mp h
      obtain ⟨_, _, h⟩ := bind_eq_ok.mp h
      cases h
      rfl

/-- **SIGNATURES**: where signatures are required, every bundle a server ever
    reports is signed; and in bundle mode a server that reports none still is
    the empty one. -/
theorem required_signatures (hsigned : RequiresSignature K)
    (h : launch X N K host now token config = .ok (some l)) (htoken : token ≠ "")
    (hrequired : config.bundleSignaturePolicy = .required) (events : List (Event X ι)) :
    (∀ report, (running uploads l events).store.bundle = some report → report.signed = true)
    ∧ (config.bundleUrl.isSome = true → (running uploads l events).store.bundle = none →
      Pristine l (running uploads l events).store) := by
  have hl := launch_spec h
  constructor
  · intro report hreport
    obtain ⟨v, prepared, _, hvouched, rfl⟩ := run_reports hl htoken events report hreport
    obtain ⟨bytes, limits, _, hvalid⟩ := hvouched.valid
    obtain ⟨clock, source, frequency, hmade⟩ := hvouched.made
    rw [hl.bundleSettings.signaturePolicy, hrequired] at hvalid
    rw [prepared_signed hmade]
    exact hsigned _ _ _ _ hvalid
  · intro hmode hnone
    rcases (run_bundleMode hl htoken hmode events).1 with hpristine | ⟨v, prepared, hserves, _⟩
    · exact hpristine
    · rw [hserves.report] at hnone
      cases hnone

open TreetopSample

/-- The same crates where the one archive is signed by the key `key1`. -/
def signed : Crates :=
  { small with
    SignaturePolicy := Bool
    TrustStore := List String
    validateArchive := fun bs required keys _ =>
      if bs ≠ archiveBytes then
        .error (.archive "invalid_gzip" "archive error: invalid gzip header")
      else if required && !keys.contains "key1" then
        .error (.archive "untrusted_key" "archive error: untrusted_key")
      else .ok ⟨true, archiveDigest⟩
    verifiedSignature := fun _ => some (some "key1") }

/-- The key in its file. -/
def signedKeys : KeyCrate signed where
  TrustedKey := String
  fromSpkiPemFile path :=
    if path = "/keys/key1.pem" then .ok "key1"
    else .error "No such file or directory (os error 2)"
  trustStoreFromKeys keys := .ok keys
  trustStoreIsEmpty keys := keys.isEmpty
  allowUnsigned := false
  required := true

def signedConfig : Config :=
  { bundleConfig with
    bundleTrustedKeys := ["/keys/key1.pem"]
    bundleSignaturePolicy := .required }

def signedServer : Launched signed smallNets :=
  ((launch signed smallNets signedKeys smallHost 0 "t" signedConfig).toOption.bind id).get rfl

theorem launch_signedServer :
    launch signed smallNets signedKeys smallHost 0 "t" signedConfig = .ok (some signedServer) := rfl

/-- One poll of the bundle source. -/
def signedRun : List (Event signed Unit) :=
  [.fetchBundle (fun _ => .ok ⟨200, none, none, none, [.ok archiveBytes]⟩) ⟨1, 1, 1, 1⟩ none,
    .fetchBundle (fun _ => .error "timeout") ⟨2, 2, 2, 2⟩ none]

/-- The bundle of that poll is signed. -/
theorem required_signatures_signed :
    (running archiveUpload signedServer signedRun).store.bundle.isSome = true
      ∧ (∀ report, (running archiveUpload signedServer signedRun).store.bundle = some report →
          report.signed = true)
      ∧ (signedConfig.bundleUrl.isSome = true →
        (running archiveUpload signedServer signedRun).store.bundle = none →
        Pristine signedServer (running archiveUpload signedServer signedRun).store) :=
  ⟨rfl, required_signatures (fun _ _ _ _ _ => rfl) launch_signedServer (by decide) rfl
    signedRun⟩

end TreetopBundleMode
