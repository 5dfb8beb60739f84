import TreetopRest.BundleModeProofs
import TreetopRest.RouteModel
import TreetopRest.SchemaViewProofs

/-! # Documents and their digests

    The routes that hand out documents read one store, and the records they
    hand out were made at different times: by an upload, by a poll, or with a
    bundle, and a mark rewrites their sources later.  Still every record of a
    document that is there has THE DIGEST AND THE SIZE OF THAT DOCUMENT, and
    the document is the one that was published last (`documents_vouched`). -/

namespace TreetopDigests

open FallibleState
open TreetopErrors TreetopCrates TreetopMetadata TreetopWire TreetopStore
open TreetopFetcher TreetopBundleFetcher TreetopSections TreetopRequest TreetopUpload
open TreetopAdmission TreetopConfig TreetopHandlers TreetopServer TreetopServerSteps
open TreetopLaunch TreetopServerRuns TreetopOrigins TreetopRoutes
open TreetopBundleMode (vouched_of_origin)
open TreetopSchemaView (makeHash_ne_empty)
open TreetopUploadSafety (archiveUpload)

variable {X : Crates} {N : NetCrate} {T : ContentKind}

/-! ## Records -/

/-- The record of a document that is there has its digest and its size. -/
def Sealed (X : Crates) (md : Metadata T) : Prop :=
  md.content ≠ "" → md.sha256 = makeHash X md.content ∧ md.size = md.content.utf8ByteSize

theorem sealed_new {now : Timestamp} {content : String} {source : Option Endpoint}
    {refreshFrequency : Option UInt32} {md : Metadata T}
    (h : Metadata.new X T now content source refreshFrequency = .ok md) : Sealed X md := by
  intro hne
  have hcontent : md.content = content := (Metadata.new_records h).1
  rw [hcontent] at hne
  have hguard : ¬ (content.isEmpty && source.isNone && refreshFrequency.isNone) = true := by
    rw [Bool.and_eq_true, Bool.and_eq_true, String.isEmpty_iff]
    exact fun hempty => hne hempty.1.1
  obtain ⟨_, _, rfl⟩ := Metadata.new_loaded hguard h
  exact ⟨rfl, rfl⟩

theorem sealed_fromValidatedContent {now : Timestamp} {content : String}
    {source : Option Endpoint} {refreshFrequency : Option UInt32} {entries : Nat} :
    Sealed X (Metadata.fromValidatedContent X T now content source refreshFrequency entries) :=
  fun _ => ⟨rfl, rfl⟩

/-- A mark writes the origin of a record only. -/
theorem sealed_withConfigured {md : Metadata T} (h : Sealed X md)
    (c : Option (Endpoint × UInt32)) : Sealed X (withConfigured md c) := by
  cases c with
  | none => exact h
  | some c => exact h

/-! ## Stores -/

structure AllSealed (s : PolicyStore X) : Prop where
  policies : Sealed X s.policies
  labels : Sealed X s.labels
  schema : Sealed X s.schema

/-- The records of a prepared bundle. -/
structure SealedBundle (p : PreparedBundle X) : Prop where
  policies : Sealed X p.policies
  labels : Sealed X p.labels
  schema : Sealed X p.schema

theorem prepared_sealed {clock : BundleClock} {v : X.ValidatedBundle} {source : Option Endpoint}
    {frequency : Option UInt32} {mode : SchemaValidationMode} {engineMode : BundleEngineMode}
    {p : PreparedBundle X}
    (h : prepareBundleWithEngineMode clock v source frequency mode engineMode = .ok p) :
    SealedBundle p := by
  rw [prepareBundleWithEngineMode] at h
  obtain ⟨_, _, h⟩ := bind_eq_ok.mp h
  -- both engine layouts record the documents alike
  cases engineMode with
  | monolithic =>
      obtain ⟨_, _, h⟩ := bind_eq_ok.mp h
      obtain ⟨_, _, h⟩ := bind_eq_ok.mp h
      obtain ⟨text, _, h⟩ := bind_eq_ok.mp h
      cases h
      refine ⟨sealed_fromValidatedContent, sealed_fromValidatedContent, ?_⟩
      cases text <;> exact sealed_fromValidatedContent
  | bundleModules =>
      obtain ⟨_, _, h⟩ := bind_eq_ok.mp h
      obtain ⟨_, _, h⟩ := bind_eq_ok.mp h
      obtain ⟨text, _, h⟩ := bind_eq_ok.mp h
      cases h
      refine ⟨sealed_fromValidatedContent, sealed_fromValidatedContent, ?_⟩
      cases text <;> exact sealed_fromValidatedContent

/-- **STEP**: what a publication installs is recorded right, and what it leaves
    alone stays as it was. -/
theorem installs_sealed {s s' : PolicyStore X} (hs : AllSealed s) {p : Publication X}
    (hbundle : ∀ prepared, p = .bundle prepared → SealedBundle prepared)
    (h : Installs s p s') : AllSealed s' := by
  cases p with
  | bundle prepared =>
      obtain ⟨_, rfl⟩ := h
      obtain ⟨hpolicies, hlabels, hschema⟩ := hbundle prepared rfl
      exact ⟨hpolicies, hlabels, hschema⟩
  | component k text =>
      obtain ⟨now, h⟩ := h
      cases k with
      | policies =>
          obtain ⟨metadata, _, _, _, _, hmd, _, _, rfl⟩ := h
          exact ⟨sealed_new hmd, hs.labels, hs.schema⟩
      | schema =>
          obtain ⟨metadata, _, _, _, hmd, _, _, _, rfl⟩ := h
          exact ⟨hs.policies, hs.labels, sealed_new hmd⟩
      | labels =>
          obtain ⟨_, _, _, _, _, _, _, _, rfl⟩ := h
          exact ⟨hs.policies, sealed_fromValidatedContent, hs.schema⟩

theorem markedBy_sealed {s : PolicyStore X} (hs : AllSealed s) (who : Option RemoteSourceKind) :
    AllSealed (markedBy who s) := by
  cases who with
  | none => exact hs
  | some kind =>
      cases kind with
      | policies => exact ⟨sealed_withConfigured hs.policies _, hs.labels, hs.schema⟩
      | labels => exact ⟨hs.policies, sealed_withConfigured hs.labels _, hs.schema⟩
      | schema => exact ⟨hs.policies, hs.labels, sealed_withConfigured hs.schema _⟩
      | bundle => exact ⟨hs.policies, hs.labels, hs.schema⟩

/-! ## Runs -/

variable {K : KeyCrate X} {host : Host} {now : Timestamp} {token : String} {config : Config}
  {l : Launched X N} {ι : Type} {uploads : ι → Upload} [DecidableEq ι]

/-- **RUN**: a server starts without documents, and every step keeps its
    records right. -/
theorem run_sealed (hl : LaunchedFor K host token config l) (htoken : token ≠ "")
    (events : List (Event X ι)) : AllSealed (running uploads l events).store := by
  refine running_induct (fun _ srv => AllSealed srv.store) ?_ ?_ events
  · have hblank : boardOf l.store = ⟨"", "", ""⟩ := hl.board
    have hpolicies : l.store.policies.content = "" := congrArg Board.policies hblank
    have hlabels : l.store.labels.content = "" := congrArg Board.labels hblank
    have hschema : l.store.schema.content = "" := congrArg Board.schema hblank
    exact ⟨fun hne => absurd hpolicies hne, fun hne => absurd hlabels hne,
      fun hne => absurd hschema hne⟩
  · intro past e hs
    have hu : Underway config l uploads past (running uploads l past) :=
      run_underway hl htoken past
    rcases step_cases uploads l.bundleRuntime (some l.bundleEngineMode) hu.inOrder.usable
      (hu.inOrder.token (uploadToken_ne hl htoken)) e with ⟨_, hsame⟩ | ⟨who, p, hpub⟩
    · obtain ⟨_, _, heq⟩ := hsame.same
      rw [heq]
      exact ⟨hs.policies, hs.labels, hs.schema⟩
    · obtain ⟨s₁, hinst, hmarked⟩ := hpub.published
      rw [hmarked]
      refine markedBy_sealed (installs_sealed hs ?_ hinst) who
      intro prepared hp
      obtain ⟨v, hvouched⟩ := vouched_of_origin hl
        (origin_of_published hl htoken past e _ hpub.outcome) hp
      obtain ⟨clock, source, frequency, hmade⟩ := hvouched.made
      exact prepared_sealed hmade

/-! ## Routes -/

/-- A record as the document routes hand it out. -/
def rendered (format : Option String) (md : Metadata T) : Document (Metadata T) :=
  if shouldReturnRawFormat format then .raw md.content else .json md

/-- The documents behind the records of a status. -/
def documentsOf (m : PoliciesMetadata) : Board :=
  ⟨m.policies.content, m.labels.content, m.schema.content⟩

theorem ok_rendered (format : Option String) (md : Metadata T) :
    (if shouldReturnRawFormat format then .ok (.raw md.content) else .ok (.json md)
        : Except ServiceError (Document (Metadata T)))
      = .ok (rendered format md) := by
  rw [rendered]
  by_cases hraw : shouldReturnRawFormat format = true
  · rw [if_pos hraw, if_pos hraw]
  · rw [if_neg hraw, if_neg hraw]

/-- The routes answer from one store. -/
theorem routes_agree {shared : SharedStore X} (hlock : shared.poisoned = false)
    (format : Option String) :
    getStatus l shared = .ok ⟨shared.value.metadata, l.parallel, l.authorizeRuntime,
        shared.value.requestContextStatus⟩
      ∧ getPolicies format shared = .ok (rendered format shared.value.policies)
      ∧ getSchema format shared = .ok (rendered format shared.value.schema) := by
  have hread : readStore shared = .ok shared.value := by
    rw [readStore, if_neg (by rw [hlock]; exact Bool.false_ne_true)]
  refine ⟨?_, ?_, ?_⟩
  · rw [getStatus, hread]
    rfl
  · rw [getPolicies, hread]
    exact ok_rendered format shared.value.policies
  · rw [getSchema, hread]
    exact ok_rendered format shared.value.schema

/-- The schema that is there is the one a version names. -/
theorem version_schema {s : PolicyStore X} (hs : Sealed X s.schema) (C : EvalCrate X)
    (stamp : Stamp) (crateVersion : String) (hne : s.schema.content ≠ "") :
    (version C stamp crateVersion s).schema.map SchemaVersionInfo.hash
      = some (makeHash X s.schema.content) := by
  have hhash : s.schema.sha256 = makeHash X s.schema.content := (hs hne).1
  have hempty : ¬ s.schema.sha256.isEmpty = true := by
    rw [hhash, String.isEmpty_iff]
    exact makeHash_ne_empty s.schema.content
  rw [version, if_neg hempty, ← hhash]
  rfl

/-- **VOUCHED**: at every moment of every run, unless a holder of the store has
    panicked, the status, the policies and the schema that a client gets are of
    one set of records; their documents are those published last; and a
    document that is there comes with its own digest and size, in the version
    too. -/
theorem documents_vouched (h : launch X N K host now token config = .ok (some l))
    (htoken : token ≠ "") (events : List (Event X ι))
    (hlock : (running uploads l events).shared.poisoned = false) (format : Option String)
    (C : EvalCrate X) (stamp : Stamp) (crateVersion : String) :
    ∃ status, getStatus l (running uploads l events).shared = .ok status
      ∧ getPolicies format (running uploads l events).shared
        = .ok (rendered format status.policyConfiguration.policies)
      ∧ getSchema format (running uploads l events).shared
        = .ok (rendered format status.policyConfiguration.schema)
      ∧ documentsOf status.policyConfiguration
        = board (publications uploads l.bundleRuntime (some l.bundleEngineMode) events
          (Server.start l))
      ∧ Sealed X status.policyConfiguration.policies
      ∧ Sealed X status.policyConfiguration.labels
      ∧ Sealed X status.policyConfiguration.schema
      ∧ (status.policyConfiguration.schema.content ≠ "" →
        (version C stamp crateVersion (running uploads l events).store).schema.map
            SchemaVersionInfo.hash
          = some (makeHash X status.policyConfiguration.schema.content)) := by
  have hl := launch_spec h
  have hsealed : AllSealed (running uploads l events).store := run_sealed hl htoken events
  obtain ⟨hstatus, hpolicies, hschema⟩ := routes_agree (l := l) hlock format
  exact ⟨_, hstatus, hpolicies, hschema, run_served hl htoken events, hsealed.policies,
    hsealed.labels, hsealed.schema,
    fun hne => version_schema hsealed.schema C stamp crateVersion hne⟩

open TreetopSample in
/-- After its poll a server hands out the schema of the bundle, and its version
    names that schema. -/
theorem documents_vouched_bundle :
    ∃ status, getStatus bundleServer (running archiveUpload bundleServer bundleRun).shared
        = .ok status
      ∧ getPolicies (some "raw") (running archiveUpload bundleServer bundleRun).shared
        = .ok (rendered (some "raw") status.policyConfiguration.policies)
      ∧ getSchema (some "raw") (running archiveUpload bundleServer bundleRun).shared
        = .ok (rendered (some "raw") status.policyConfiguration.schema)
      ∧ documentsOf status.policyConfiguration = ⟨permitAll, photoLabels, photoSchema⟩
      ∧ Sealed small status.policyConfiguration.policies
      ∧ Sealed small status.policyConfiguration.labels
      ∧ Sealed small status.policyConfiguration.schema
      ∧ (version smallEval ⟨1, 0⟩ "0.2.0"
            (running archiveUpload bundleServer bundleRun).store).schema.map
              SchemaVersionInfo.hash
          = some (makeHash small status.policyConfiguration.schema.content) := by
  have hlock : (running archiveUpload bundleServer bundleRun).shared.poisoned = false := rfl
  obtain ⟨status, hstatus, hpolicies, hschema, hboard, hsealed, hsealed', hsealed'', hversion⟩ :=
    documents_vouched launch_bundleServer (by decide) bundleRun hlock (some "raw") smallEval
      ⟨1, 0⟩ "0.2.0"
  have hdocuments : documentsOf status.policyConfiguration
      = ⟨permitAll, photoLabels, photoSchema⟩ := hboard.trans (by decide +kernel)
  have hloaded : status.policyConfiguration.schema.content ≠ "" := by
    have hcontent : status.policyConfiguration.schema.content = photoSchema :=
      congrArg Board.schema hdocuments
    rw [hcontent]
    decide +kernel
  exact ⟨status, hstatus, hpolicies, hschema, hdocuments, hsealed, hsealed', hsealed'',
    hversion hloaded⟩

end TreetopDigests
