import TreetopRest.SectionProofs
import TreetopRest.SampleCrates

/-! # Readiness is exact

    Readiness is computed from the load records AND from the source fields of
    the metadata, which uploads and bundles overwrite.  Two facts make it exact
    all the same: the load records follow the past of the run literally, and
    while no bundle source is configured, a component has a source only if one
    was configured for it.  The second half is about the critical sections of
    the fetchers, the only code that marks a source as loaded. -/

namespace TreetopReadiness

open FallibleState UpdateRun
open TreetopErrors TreetopCrates TreetopMetadata TreetopWire TreetopStore
open TreetopFetcher TreetopBundleFetcher TreetopSections

variable {X : Crates} {cfg : RemoteSourceKind → Endpoint × UInt32}

/-! ## The past of a run -/

/-- A source of this kind was configured. -/
def Configured (past : Past X) (kind : RemoteSourceKind) : Prop :=
  ∃ e ∈ past, configures kind e.1 = true

/-- The kind was marked loaded since its most recent configuration, or ever, if
    it has none. -/
def markedSince (kind : RemoteSourceKind) : Past X → Bool
  | [] => false
  | e :: past =>
      if configures kind e.1 then false
      else marks kind e.1 || markedSince kind past

/-- The calls the rest of the service makes: no reload names a source of its
    own, a bundle has one only in bundle mode, and a bundle source is never
    configured together with another kind. -/
def Admissible (past : Past X) : Call X → Prop
  | .setDsl _ _ source _ | .setSchema _ _ source _ | .setLabels _ _ source _ => source = none
  | .applyPreparedBundle p _ => p.bundle.source ≠ none → Configured past .bundle
  | .configureRemoteSource kind _ _ =>
      if kind = .bundle then ∀ k, k ≠ .bundle → ¬ Configured past k
      else ¬ Configured past .bundle
  | _ => True

theorem configured_cons (kind : RemoteSourceKind) (c : Call X)
    (r : Except ServiceError (Reply X)) (past : Past X) :
    Configured ((c, r) :: past) kind ↔ configures kind c = true ∨ Configured past kind := by
  constructor
  · rintro ⟨e, he, hc⟩
    rcases List.mem_cons.mp he with rfl | hpast
    · exact Or.inl hc
    · exact Or.inr ⟨e, hpast, hc⟩
  · rintro (hc | ⟨e, he, hc⟩)
    · exact ⟨_, List.mem_cons_self .., hc⟩
    · exact ⟨e, List.mem_cons_of_mem _ he, hc⟩

/-! ## The store follows the past -/

/-- The load record of a kind. -/
def loadOf (s : PolicyStore X) : RemoteSourceKind → RemoteSourceStatus
  | .policies => s.remoteLoads.policies
  | .labels => s.remoteLoads.labels
  | .schema => s.remoteLoads.schema
  | .bundle => s.remoteLoads.bundle

/-- The source a component records; the bundle record is not a component. -/
def sourceOf (s : PolicyStore X) : RemoteSourceKind → Option Endpoint
  | .policies => s.policies.source
  | .labels => s.labels.source
  | .schema => s.schema.source
  | .bundle => none

/-- What the load records, the bundle mode and the sources have to do with the
    past of the run. -/
structure Follows (past : Past X) (s : PolicyStore X) : Prop where
  usable : CachesUsable s
  configured : ∀ k, (loadOf s k).configuration.isSome = true ↔ Configured past k
  loaded : ∀ k, (loadOf s k).loaded = markedSince k past
  bundleMode : s.bundleUrlMode = true ↔ Configured past .bundle
  exclusive : Configured past .bundle → ∀ k, k ≠ .bundle → ¬ Configured past k
  sources : ¬ Configured past .bundle → ∀ k, sourceOf s k ≠ none → Configured past k

theorem ready_iff {r : RemoteSourceStatus} {hasSource : Bool} :
    r.ready hasSource = true
      ↔ (r.configuration.isSome = true ∨ hasSource = true → r.loaded = true) := by
  rw [RemoteSourceStatus.ready]
  cases r.configuration.isSome <;> cases hasSource <;> cases r.loaded <;> decide

/-- A component of a store that follows its past is ready exactly if it is not
    configured or was marked since. -/
theorem component_ready_iff {past : Past X} {s : PolicyStore X} (h : Follows past s)
    (hb : ¬ Configured past .bundle) (k : RemoteSourceKind) :
    (loadOf s k).ready (sourceOf s k).isSome = true
      ↔ (Configured past k → markedSince k past = true) := by
  rw [ready_iff, h.configured, h.loaded]
  constructor
  · intro hready hc
    exact hready (Or.inl hc)
  · rintro hready (hc | hs)
    · exact hready hc
    · exact hready (h.sources hb k (Option.isSome_iff_ne_none.mp hs))

/-- **READINESS** of a store that follows its past. -/
theorem configuredSourcesLoaded_iff {past : Past X} {s : PolicyStore X}
    (h : Follows past s) :
    configuredSourcesLoaded s = true
      ↔ ∀ k, Configured past k → markedSince k past = true := by
  by_cases hb : Configured past .bundle
  · rw [show configuredSourcesLoaded s = s.remoteLoads.bundle.ready true by
      rw [configuredSourcesLoaded, if_pos (h.bundleMode.mpr hb)], ready_iff]
    have hload : s.remoteLoads.bundle.loaded = markedSince .bundle past := h.loaded .bundle
    rw [hload]
    constructor
    · intro hready k hk
      by_cases hkind : k = .bundle
      · subst hkind
        exact hready (Or.inr rfl)
      · exact absurd hk (h.exclusive hb k hkind)
    · intro hall _
      exact hall .bundle hb
  · have hmode : ¬ s.bundleUrlMode = true := fun hm => hb (h.bundleMode.mp hm)
    rw [show configuredSourcesLoaded s
        = ((loadOf s .policies).ready (sourceOf s .policies).isSome
          && (loadOf s .labels).ready (sourceOf s .labels).isSome
          && (loadOf s .schema).ready (sourceOf s .schema).isSome) by
      rw [configuredSourcesLoaded, if_neg hmode]; rfl]
    rw [Bool.and_eq_true, Bool.and_eq_true, component_ready_iff h hb,
      component_ready_iff h hb, component_ready_iff h hb]
    constructor
    · rintro ⟨⟨hpol, hlab⟩, hsch⟩ k hk
      cases k with
      | policies => exact hpol hk
      | labels => exact hlab hk
      | schema => exact hsch hk
      | bundle => exact absurd hk hb
    · intro hall
      exact ⟨⟨hall .policies, hall .labels⟩, hall .schema⟩

/-! ## Steps -/

/-- A call that neither configures nor marks leaves the past's verdicts alone. -/
theorem follows_frame {past : Past X} {s s' : PolicyStore X} {c : Call X}
    {r : Except ServiceError (Reply X)} (h : Follows past s) (hu : CachesUsable s')
    (hc : ∀ k, configures k c = false) (hm : ∀ k, marks k c = false)
    (hloads : s'.remoteLoads = s.remoteLoads) (hmode : s'.bundleUrlMode = s.bundleUrlMode)
    (hsources : ¬ Configured past .bundle →
      ∀ k, sourceOf s' k ≠ none → sourceOf s k ≠ none) :
    Follows ((c, r) :: past) s' := by
  have hconf : ∀ k, Configured ((c, r) :: past) k ↔ Configured past k := by
    intro k
    rw [configured_cons, hc k]
    simp
  have hload : ∀ k, loadOf s' k = loadOf s k := by
    intro k
    cases k <;> simp only [loadOf, hloads]
  refine ⟨hu, ?_, ?_, ?_, ?_, ?_⟩
  · intro k
    rw [hload, hconf, h.configured]
  · intro k
    rw [hload, h.loaded]
    show _ = if configures k c then false else marks k c || markedSince k past
    rw [hc k, hm k]
    rfl
  · rw [hmode, hconf, h.bundleMode]
  · rw [hconf]
    intro hb k hk
    rw [hconf]
    exact h.exclusive hb k hk
  · rw [hconf]
    intro hb k hk
    rw [hconf]
    exact h.sources hb k (hsources hb k hk)

theorem markedSince_configure (k kind : RemoteSourceKind) (source : Endpoint) (rf : UInt32)
    (r : Except ServiceError (Reply X)) (past : Past X) :
    markedSince k ((.configureRemoteSource kind source rf, r) :: past)
      = if kind = k then false else markedSince k past := by
  show (if (kind == k) then false else false || markedSince k past) = _
  by_cases hk : kind = k
  · rw [if_pos hk, if_pos (beq_iff_eq.mpr hk)]
  · rw [if_neg hk, if_neg (fun h => hk (beq_iff_eq.mp h)), Bool.false_or]

theorem markedSince_mark (k kind : RemoteSourceKind)
    (r : Except ServiceError (Reply X)) (past : Past X) :
    markedSince k ((.markRemoteSourceLoaded kind, r) :: past)
      = if kind = k then true else markedSince k past := by
  show (if false = true then false else (kind == k) || markedSince k past) = _
  rw [if_neg Bool.false_ne_true]
  by_cases hk : kind = k
  · rw [if_pos hk, beq_iff_eq.mpr hk, Bool.true_or]
  · rw [if_neg hk, beq_eq_false_iff_ne.mpr hk, Bool.false_or]

/-- What a configuration does to the parts `Follows` reads. -/
theorem configured_parts (s : PolicyStore X) (kind : RemoteSourceKind) (source : Endpoint)
    (rf : UInt32) (k : RemoteSourceKind) :
    loadOf (s.configured kind source rf) k
        = (if kind = k then .configure source rf else loadOf s k)
      ∧ sourceOf (s.configured kind source rf) k
        = (if kind = k ∧ k ≠ .bundle then some source else sourceOf s k)
      ∧ (s.configured kind source rf).bundleUrlMode
        = (s.bundleUrlMode || kind == .bundle) := by
  cases kind with
  | policies => cases k <;> exact ⟨rfl, rfl, (Bool.or_false _).symm⟩
  | labels => cases k <;> exact ⟨rfl, rfl, (Bool.or_false _).symm⟩
  | schema => cases k <;> exact ⟨rfl, rfl, (Bool.or_false _).symm⟩
  | bundle => cases k <;> exact ⟨rfl, rfl, (Bool.or_true _).symm⟩

/-- What a mark does to them: the component takes the configured source. -/
theorem marked_parts (s : PolicyStore X) (kind k : RemoteSourceKind) :
    loadOf (s.marked kind) k
        = (if kind = k then (loadOf s k).markLoaded else loadOf s k)
      ∧ sourceOf (s.marked kind) k
        = (if kind = k ∧ k ≠ .bundle then
            ((loadOf s k).configuration.map Prod.fst).or (sourceOf s k)
          else sourceOf s k)
      ∧ (s.marked kind).bundleUrlMode = s.bundleUrlMode := by
  have hsource : ∀ {T : ContentKind} (md : Metadata T) (c : Option (Endpoint × UInt32)),
      (withConfigured md c).source = (c.map Prod.fst).or md.source := by
    intro T md c
    cases c <;> rfl
  cases kind with
  | policies => cases k <;> first | exact ⟨rfl, hsource _ _, rfl⟩ | exact ⟨rfl, rfl, rfl⟩
  | labels => cases k <;> first | exact ⟨rfl, hsource _ _, rfl⟩ | exact ⟨rfl, rfl, rfl⟩
  | schema => cases k <;> first | exact ⟨rfl, hsource _ _, rfl⟩ | exact ⟨rfl, rfl, rfl⟩
  | bundle => cases k <;> exact ⟨rfl, rfl, rfl⟩

theorem follows_configured {past : Past X} {s : PolicyStore X} {kind : RemoteSourceKind}
    {source : Endpoint} {rf : UInt32} {r : Except ServiceError (Reply X)}
    (h : Follows past s) (hu : CachesUsable (s.configured kind source rf))
    (ha : Admissible past (.configureRemoteSource kind source rf)) :
    Follows ((.configureRemoteSource kind source rf, r) :: past)
      (s.configured kind source rf) := by
  have hconf : ∀ k, Configured ((.configureRemoteSource kind source rf, r) :: past) k
      ↔ kind = k ∨ Configured past k := by
    intro k
    rw [configured_cons]
    show (kind == k) = true ∨ _ ↔ _
    rw [beq_iff_eq]
  have hadm : if kind = .bundle then ∀ k, k ≠ .bundle → ¬ Configured past k
      else ¬ Configured past .bundle := ha
  refine ⟨hu, ?_, ?_, ?_, ?_, ?_⟩
  · intro k
    rw [(configured_parts s kind source rf k).1, hconf]
    by_cases hk : kind = k
    · rw [if_pos hk]
      exact ⟨fun _ => Or.inl hk, fun _ => rfl⟩
    · rw [if_neg hk, h.configured]
      exact ⟨Or.inr, fun h0 => h0.resolve_left hk⟩
  · intro k
    rw [(configured_parts s kind source rf k).1, markedSince_configure]
    by_cases hk : kind = k
    · rw [if_pos hk, if_pos hk]
      rfl
    · rw [if_neg hk, if_neg hk, h.loaded]
  · rw [(configured_parts s kind source rf kind).2.2, hconf, Bool.or_eq_true, h.bundleMode,
      beq_iff_eq]
    exact Or.comm
  · rw [hconf]
    intro hb k hk
    rw [hconf]
    rintro (rfl | hkconf)
    · -- a kind other than the bundle was just configured: there was no bundle before
      rw [if_neg hk] at hadm
      rcases hb with hb | hb
      · exact hk hb
      · exact hadm hb
    · by_cases hkind : kind = .bundle
      · rw [if_pos hkind] at hadm
        exact hadm k hk hkconf
      · exact h.exclusive (hb.resolve_left hkind) k hk hkconf
  · rw [hconf]
    intro hb k hsrc
    rw [(configured_parts s kind source rf k).2.1] at hsrc
    rw [hconf]
    by_cases hk : kind = k ∧ k ≠ .bundle
    · exact Or.inl hk.1
    · rw [if_neg hk] at hsrc
      exact Or.inr (h.sources (fun h0 => hb (Or.inr h0)) k hsrc)

theorem follows_marked {past : Past X} {s : PolicyStore X} {kind : RemoteSourceKind}
    {r : Except ServiceError (Reply X)} (h : Follows past s)
    (hu : CachesUsable (s.marked kind)) :
    Follows ((.markRemoteSourceLoaded kind, r) :: past) (s.marked kind) := by
  have hconf : ∀ k, Configured ((.markRemoteSourceLoaded kind, r) :: past) k
      ↔ Configured past k := by
    intro k
    rw [configured_cons]
    show false = true ∨ _ ↔ _
    simp
  refine ⟨hu, ?_, ?_, ?_, ?_, ?_⟩
  · intro k
    rw [(marked_parts s kind k).1, hconf]
    by_cases hk : kind = k
    · rw [if_pos hk]
      exact h.configured k
    · rw [if_neg hk, h.configured]
  · intro k
    rw [(marked_parts s kind k).1, markedSince_mark]
    by_cases hk : kind = k
    · rw [if_pos hk, if_pos hk]
      rfl
    · rw [if_neg hk, if_neg hk, h.loaded]
  · rw [(marked_parts s kind kind).2.2, hconf, h.bundleMode]
  · rw [hconf]
    intro hb k hk
    rw [hconf]
    exact h.exclusive hb k hk
  · rw [hconf]
    intro hb k hsrc
    rw [(marked_parts s kind k).2.1] at hsrc
    rw [hconf]
    -- a mark writes the configured source into the record, or nothing
    by_cases hk : kind = k ∧ k ≠ .bundle
    · rw [if_pos hk] at hsrc
      cases hc : (loadOf s k).configuration with
      | some c => exact (h.configured k).mp (by rw [hc]; rfl)
      | none =>
          rw [hc] at hsrc
          exact h.sources hb k hsrc
    · rw [if_neg hk] at hsrc
      exact h.sources hb k hsrc

/-- Only configurations and marks touch the load records. -/
theorem loads_stepOk {s s' : PolicyStore X} {c : Call X} (h : StepOk s c s')
    (hc : ∀ k, configures k c = false) (hm : ∀ k, marks k c = false) :
    s'.remoteLoads = s.remoteLoads ∧ s'.bundleUrlMode = s.bundleUrlMode := by
  cases c with
  | setDsl now dsl source rf =>
      obtain ⟨_, _, _, _, _, _, _, _, rfl⟩ := h
      exact ⟨rfl, rfl⟩
  | setSchema now schema source rf =>
      obtain ⟨_, _, _, _, _, _, _, _, rfl⟩ := h
      exact ⟨rfl, rfl⟩
  | setLabels now labels source rf =>
      obtain ⟨_, _, _, _, _, _, _, _, rfl⟩ := h
      exact ⟨rfl, rfl⟩
  | applyPreparedBundle p hp =>
      obtain ⟨_, rfl⟩ := h
      exact ⟨rfl, rfl⟩
  | configureRemoteSource kind source rf =>
      exact absurd (hc kind) (by simp [configures])
  | markRemoteSourceLoaded kind =>
      exact absurd (hm kind) (by simp [marks])
  | setSchemaValidationMode mode =>
      have hs : s' = _ := h
      subst hs
      exact ⟨rfl, rfl⟩
  | listPoliciesRaw user groups namespaces =>
      have hs : s' = _ := h
      subst hs
      exact ⟨rfl, rfl⟩
  | listPoliciesJson user groups namespaces =>
      have hs : s' = _ := h
      subst hs
      exact ⟨rfl, rfl⟩

/-- An admissible call gives no record a source, unless bundles are configured. -/
theorem sources_stepOk {past : Past X} {s s' : PolicyStore X} {c : Call X}
    (h : StepOk s c s') (ha : Admissible past c) (hc : ∀ k, configures k c = false)
    (hm : ∀ k, marks k c = false) (hb : ¬ Configured past .bundle) (k : RemoteSourceKind)
    (hk : sourceOf s' k ≠ none) : sourceOf s k ≠ none := by
  cases c with
  | setDsl now dsl source rf =>
      have hsrc : source = none := ha
      subst hsrc
      obtain ⟨metadata, _, _, _, _, hmd, _, _, rfl⟩ := h
      have hkeep : metadata.source = s.policies.source := (Metadata.new_records hmd).2.1
      cases k with
      | policies => exact fun hnone => hk (hkeep.trans hnone)
      | labels | schema | bundle => exact hk
  | setSchema now schema source rf =>
      have hsrc : source = none := ha
      subst hsrc
      obtain ⟨metadata, _, _, _, hmd, _, _, _, rfl⟩ := h
      have hkeep : metadata.source = s.schema.source := (Metadata.new_records hmd).2.1
      cases k with
      | schema => exact fun hnone => hk (hkeep.trans hnone)
      | policies | labels | bundle => exact hk
  | setLabels now labels source rf =>
      have hsrc : source = none := ha
      subst hsrc
      obtain ⟨_, _, _, _, _, _, _, _, rfl⟩ := h
      cases k <;> exact hk
  | applyPreparedBundle p hp =>
      obtain ⟨_, rfl⟩ := h
      obtain ⟨v, hv⟩ := genuine_parts hp
      -- a bundle with a source would have been configured
      have hnone : p.bundle.source = none := by
        cases hsrc : p.bundle.source with
        | none => rfl
        | some src =>
            have hne : p.bundle.source ≠ none := by rw [hsrc]; simp
            exact absurd (ha hne) hb
      cases k with
      | policies => exact absurd (hv.policySource.1.trans hnone) hk
      | labels => exact absurd (hv.labelSource.1.trans hnone) hk
      | schema => exact absurd (hv.schemaSource.1.trans hnone) hk
      | bundle => exact hk
  | configureRemoteSource kind source rf =>
      exact absurd (hc kind) (by simp [configures])
  | markRemoteSourceLoaded kind =>
      exact absurd (hm kind) (by simp [marks])
  | setSchemaValidationMode mode =>
      have hs : s' = _ := h
      subst hs
      cases k <;> exact hk
  | listPoliciesRaw user groups namespaces =>
      have hs : s' = _ := h
      subst hs
      cases k <;> exact hk
  | listPoliciesJson user groups namespaces =>
      have hs : s' = _ := h
      subst hs
      cases k <;> exact hk

/-- A rejected call is neither a configuration nor a mark. -/
theorem plain_of_rejected {s s' : PolicyStore X} {c : Call X} {e : ServiceError}
    (hrun : c.step s = (.error e, s')) :
    (∀ k, configures k c = false) ∧ (∀ k, marks k c = false) := by
  cases c with
  | configureRemoteSource kind source rf => cases kind <;> exact nomatch hrun
  | markRemoteSourceLoaded kind => cases kind <;> exact nomatch hrun
  | _ => exact ⟨fun _ => rfl, fun _ => rfl⟩

/-- One admissible call keeps the store following its past. -/
theorem follows_step (past : Past X) (s : PolicyStore X) (c : Call X) (h : Follows past s)
    (ha : Admissible past c) : Follows ((c, (c.step s).1) :: past) (c.step s).2 := by
  rcases step_cases h.usable c with ⟨e, hrun⟩ | ⟨r, s', hrun, hok⟩
  · obtain ⟨hc, hm⟩ := plain_of_rejected hrun
    rw [hrun]
    exact follows_frame h h.usable hc hm rfl rfl (fun _ _ hk => hk)
  · rw [hrun]
    have hu : CachesUsable s' := stepOk_usable h.usable hok
    -- a call that neither configures nor marks
    have hplain : (∀ k, configures k c = false) → (∀ k, marks k c = false) →
        Follows ((c, .ok r) :: past) s' := by
      intro hc hm
      obtain ⟨hloads, hmode⟩ := loads_stepOk hok hc hm
      exact follows_frame h hu hc hm hloads hmode (sources_stepOk hok ha hc hm)
    cases c with
    | configureRemoteSource kind source rf =>
        have hs : s' = _ := hok
        subst hs
        exact follows_configured h hu ha
    | markRemoteSourceLoaded kind =>
        have hs : s' = _ := hok
        subst hs
        exact follows_marked h hu
    | _ => exact hplain (fun _ => rfl) (fun _ => rfl)

theorem follows_new {now : Timestamp} {s : PolicyStore X}
    (h : PolicyStore.new X now = .ok s) : Follows [] s := by
  obtain ⟨engine, _, rfl⟩ := new_eq h
  have hnone : ∀ k : RemoteSourceKind, ¬ Configured ([] : Past X) k := by
    rintro k ⟨e, he, _⟩
    exact nomatch he
  refine ⟨⟨rfl, rfl⟩, ?_, ?_, ?_, ?_, ?_⟩
  · intro k
    have hc : (loadOf (freshStore engine now) k).configuration = none := by
      cases k <;> rfl
    rw [hc]
    exact ⟨(fun h0 => nomatch h0), fun h0 => absurd h0 (hnone k)⟩
  · intro k
    cases k <;> rfl
  · exact ⟨(fun h0 => nomatch h0), fun h0 => absurd h0 (hnone .bundle)⟩
  · exact fun h0 => absurd h0 (hnone .bundle)
  · intro _ k hk
    refine absurd ?_ hk
    cases k <;> rfl

/-- A run each of whose calls is admissible where it is made. -/
def AdmissibleRun (calls : List (Call X)) (s₀ : PolicyStore X) : Prop :=
  ∀ pre c post, calls = pre ++ c :: post → Admissible (trace Call.step pre s₀).reverse c

theorem run_follows {now : Timestamp} {s₀ : PolicyStore X}
    (h : PolicyStore.new X now = .ok s₀) (calls : List (Call X))
    (ha : AdmissibleRun calls s₀) :
    Follows (trace Call.step calls s₀).reverse (run calls s₀) := by
  have hrun : Follows ((trace Call.step calls s₀).reverse ++ []) (run calls s₀) :=
    history_induct_guarded Follows Admissible follows_step calls [] s₀ (follows_new h) (by
      intro pre c post hsplit
      rw [List.append_nil]
      exact ha pre c post hsplit)
  rwa [List.append_nil] at hrun

/-- A content update changes no verdict about the past. -/
theorem contentUpdate_past {past : Past X} {c : Call X} {r : Except ServiceError (Reply X)}
    (hc : c.isContentUpdate = true) (k : RemoteSourceKind) :
    (Configured ((c, r) :: past) k ↔ Configured past k)
      ∧ markedSince k ((c, r) :: past) = markedSince k past := by
  have hconf : configures k c = false ∧ marks k c = false := by
    cases c with
    | setDsl now dsl source rf => exact ⟨rfl, rfl⟩
    | setSchema now schema source rf => exact ⟨rfl, rfl⟩
    | setLabels now labels source rf => exact ⟨rfl, rfl⟩
    | applyPreparedBundle p hp => exact ⟨rfl, rfl⟩
    | setSchemaValidationMode mode => exact nomatch hc
    | configureRemoteSource kind source rf => exact nomatch hc
    | markRemoteSourceLoaded kind => exact nomatch hc
    | listPoliciesRaw user groups namespaces => exact nomatch hc
    | listPoliciesJson user groups namespaces => exact nomatch hc
  refine ⟨?_, ?_⟩
  · rw [configured_cons, hconf.1]
    simp
  · show (if configures k c then false else marks k c || markedSince k past) = _
    rw [hconf.1, hconf.2]
    rfl

/-! ## Who marks -/

/-- Where a component, or the bundle, says it came from. -/
def originOf (s : PolicyStore X) : RemoteSourceKind → Option Endpoint × Option UInt32
  | .policies => (s.policies.source, s.policies.refreshFrequency)
  | .labels => (s.labels.source, s.labels.refreshFrequency)
  | .schema => (s.schema.source, s.schema.refreshFrequency)
  | .bundle => (s.bundle.bind (·.source), s.bundle.bind (·.refreshFrequency))

/-- Sections are made by fetchers that were spawned before. -/
def SpawnedFirst (past : List (Section X cfg × Past X)) (sec : Section X cfg) : Prop :=
  ∀ k, sec.fetcher = some k → ∃ r, (Section.spawn k, r) ∈ past

/-- Every spawned fetcher is configured with its source. -/
structure Wired (past : List (Section X cfg × Past X)) (s : PolicyStore X) : Prop where
  usable : CachesUsable s
  configured : ∀ k, (∃ r, (Section.spawn k, r) ∈ past) →
    (loadOf s k).configuration = some (cfg k)

/-- Only a configuration changes what is configured. -/
theorem configuration_stepOk {s s' : PolicyStore X} {c : Call X} (h : StepOk s c s')
    (hc : ∀ k, configures k c = false) (k : RemoteSourceKind) :
    (loadOf s' k).configuration = (loadOf s k).configuration := by
  have hplain : (∀ k, marks k c = false) →
      (loadOf s' k).configuration = (loadOf s k).configuration := by
    intro hm
    have hloads := (loads_stepOk h hc hm).1
    cases k <;> simp only [loadOf, hloads]
  cases c with
  | markRemoteSourceLoaded kind =>
      have hs : s' = _ := h
      subst hs
      rw [(marked_parts s kind k).1]
      by_cases hk : kind = k
      · rw [if_pos hk]
        rfl
      · rw [if_neg hk]
  | _ => exact hplain fun _ => rfl

/-- A section of calls that configure nothing keeps what is configured. -/
theorem configuration_section {k : RemoteSourceKind} :
    ∀ {cs : List (Call X)} {s : PolicyStore X}, CachesUsable s →
      (∀ c ∈ cs, ∀ j, configures j c = false) →
      CachesUsable (runSection cs s).2
        ∧ (loadOf (runSection cs s).2 k).configuration = (loadOf s k).configuration := by
  intro cs
  induction cs with
  | nil => intro s hu _; exact ⟨hu, rfl⟩
  | cons c cs ih =>
      intro s hu hcs
      rw [runSection]
      rcases step_cases hu c with ⟨e, hrun⟩ | ⟨r, s', hrun, hok⟩
      · rw [hrun]
        exact ⟨hu, rfl⟩
      · rw [hrun]
        have hc : ∀ j, configures j c = false := hcs c (List.mem_cons_self ..)
        obtain ⟨hu', hconf⟩ := ih (stepOk_usable hu hok)
          (fun d hd => hcs d (List.mem_cons_of_mem _ hd))
        exact ⟨hu', hconf.trans (configuration_stepOk hok hc k)⟩

theorem reload_plain (k : Component) (now : Timestamp) (body : String)
    (kind : RemoteSourceKind) :
    configures kind (k.reload now body : Call X) = false
      ∧ marks kind (k.reload now body : Call X) = false := by
  cases k <;> exact ⟨rfl, rfl⟩

/-- One section keeps every spawned fetcher configured. -/
theorem wired_step (past : List (Section X cfg × Past X)) (s : PolicyStore X)
    (sec : Section X cfg) (h : Wired past s) (_ : SpawnedFirst past sec) :
    Wired ((sec, (sec.step s).1) :: past) (sec.step s).2 := by
  have hplain : (∀ c ∈ sec.calls, ∀ j, configures j c = false) →
      (∀ kind, sec ≠ .spawn kind) →
      Wired ((sec, (sec.step s).1) :: past) (sec.step s).2 := by
    intro hcs hsec
    refine ⟨(configuration_section (k := .policies) h.usable hcs).1, ?_⟩
    rintro k ⟨r, hr⟩
    rcases List.mem_cons.mp hr with heq | hpast
    · exact absurd (congrArg Prod.fst heq).symm (hsec k)
    · rw [Section.step, (configuration_section h.usable hcs).2]
      exact h.configured k ⟨r, hpast⟩
  cases sec with
  | spawn kind =>
      have hrun : (Section.spawn kind : Section X cfg).step s
          = ([(.configureRemoteSource kind (cfg kind).1 (cfg kind).2, .ok .done)],
            s.configured kind (cfg kind).1 (cfg kind).2) := by
        cases kind <;> rfl
      rw [hrun]
      refine ⟨?_, ?_⟩
      · exact stepOk_usable h.usable
          (show StepOk s (.configureRemoteSource kind (cfg kind).1 (cfg kind).2) _ from rfl)
      · rintro k ⟨r, hr⟩
        rw [(configured_parts s kind _ _ k).1]
        by_cases hk : kind = k
        · rw [if_pos hk, hk]
          rfl
        · rw [if_neg hk]
          rcases List.mem_cons.mp hr with heq | hpast
          · exact absurd (Section.spawn.inj (congrArg Prod.fst heq)).symm hk
          · exact h.configured k ⟨r, hpast⟩
  | apply k now body =>
      refine hplain ?_ (fun _ h0 => nomatch h0)
      intro c hc j
      rcases List.mem_cons.mp hc with rfl | hc
      · exact (reload_plain k now body j).1
      · rw [List.mem_singleton.mp hc]
        rfl
  | commit prepared hof =>
      refine hplain ?_ (fun _ h0 => nomatch h0)
      intro c hc j
      rcases List.mem_cons.mp hc with rfl | hc
      · rfl
      · rw [List.mem_singleton.mp hc]
        rfl
  | other c hc hm =>
      refine hplain ?_ (fun _ h0 => nomatch h0)
      intro d hd j
      rw [List.mem_singleton.mp hd]
      exact hc j

/-- A mark of a kind in a section: the section is one of that kind's fetcher,
    its update went through before, and the component is now of the
    configured source. -/
structure MarkedByApply (k : RemoteSourceKind) (sec : Section X cfg) (s : PolicyStore X) :
    Prop where
  fetcher : sec.fetcher = some k
  applied : ∃ c r r', sec.calls = [c, .markRemoteSourceLoaded k]
    ∧ c.isContentUpdate = true
    ∧ (sec.step s).1 = [(c, .ok r), (.markRemoteSourceLoaded k, .ok r')]
  origin : originOf (sec.step s).2 k = (some (cfg k).1, some (cfg k).2)

/-- A mark made after an update means that the update went through. -/
theorem mark_made {c : Call X} {kind k : RemoteSourceKind} {s : PolicyStore X}
    (hu : CachesUsable s) (hc : ∀ j, marks j c = false)
    (hmark : ∃ e ∈ (runSection [c, .markRemoteSourceLoaded kind] s).1, marks k e.1 = true) :
    kind = k ∧ ∃ r s₁, StepOk s c s₁
      ∧ runSection [c, .markRemoteSourceLoaded kind] s
        = ([(c, .ok r), (.markRemoteSourceLoaded kind, .ok .done)], s₁.marked kind) := by
  obtain ⟨e, he, hm⟩ := hmark
  rw [runSection] at he ⊢
  rcases step_cases hu c with ⟨err, hrun⟩ | ⟨r, s₁, hrun, hok⟩
  · rw [hrun] at he
    rw [List.mem_singleton.mp he, hc k] at hm
    exact absurd hm Bool.false_ne_true
  · rw [hrun] at he ⊢
    dsimp only at he ⊢
    rw [runSection_singleton] at he ⊢
    rcases List.mem_cons.mp he with rfl | he
    · rw [hc k] at hm
      exact absurd hm Bool.false_ne_true
    · rw [List.mem_singleton.mp he] at hm
      refine ⟨beq_iff_eq.mp hm, r, s₁, hok, ?_⟩
      cases kind <;> rfl

/-- Marking a configured component gives it the configured origin. -/
theorem marked_origin {s : PolicyStore X} {k : Component} {c : Endpoint × UInt32}
    (h : (loadOf s k.kind).configuration = some c) :
    originOf (s.marked k.kind) k.kind = (some c.1, some c.2) := by
  have hrec : ∀ {T : ContentKind} (md : Metadata T) {o : Option (Endpoint × UInt32)},
      o = some c → ((withConfigured md o).source, (withConfigured md o).refreshFrequency)
        = (some c.1, some c.2) := by
    intro T md o ho
    rw [ho]
    rfl
  cases k with
  | policies => exact hrec s.policies h
  | labels => exact hrec s.labels h
  | schema => exact hrec s.schema h

/-- A prepared bundle is of the source it was prepared for. -/
theorem prepared_origin {clock : BundleClock} {v : X.ValidatedBundle}
    {source : Option Endpoint} {rf : Option UInt32} {mode : SchemaValidationMode}
    {engineMode : BundleEngineMode} {p : PreparedBundle X}
    (h : prepareBundleWithEngineMode clock v source rf mode engineMode = .ok p) :
    p.bundle.source = source ∧ p.bundle.refreshFrequency = rf := by
  rw [prepareBundleWithEngineMode] at h
  obtain ⟨_, _, h⟩ := bind_eq_ok.mp h
  cases engineMode with
  | monolithic =>
      obtain ⟨_, _, h⟩ := bind_eq_ok.mp h
      obtain ⟨_, _, h⟩ := bind_eq_ok.mp h
      obtain ⟨_, _, h⟩ := bind_eq_ok.mp h
      cases h
      exact ⟨rfl, rfl⟩
  | bundleModules =>
      obtain ⟨_, _, h⟩ := bind_eq_ok.mp h
      obtain ⟨_, _, h⟩ := bind_eq_ok.mp h
      obtain ⟨_, _, h⟩ := bind_eq_ok.mp h
      cases h
      exact ⟨rfl, rfl⟩

/-- **Whoever marks has just applied.** -/
theorem markedByApply {past : List (Section X cfg × Past X)} {s : PolicyStore X}
    {sec : Section X cfg} {k : RemoteSourceKind} (h : Wired past s)
    (hs : SpawnedFirst past sec) (hmark : ∃ e ∈ (sec.step s).1, marks k e.1 = true) :
    MarkedByApply k sec s := by
  cases sec with
  | spawn kind =>
      obtain ⟨e, he, hm⟩ := hmark
      rw [Section.step, Section.calls, runSection_singleton] at he
      rw [List.mem_singleton.mp he] at hm
      exact nomatch hm
  | other c hc hno =>
      obtain ⟨e, he, hm⟩ := hmark
      rw [Section.step, Section.calls, runSection_singleton] at he
      rw [List.mem_singleton.mp he, hno k] at hm
      exact nomatch hm
  | apply j now body =>
      obtain ⟨rfl, r, s₁, hok, hrun⟩ := mark_made h.usable
        (fun i => (reload_plain j now body i).2) hmark
      have hconf : (loadOf s₁ j.kind).configuration = some (cfg j.kind) := by
        rw [configuration_stepOk hok (fun i => (reload_plain j now body i).1)]
        exact h.configured j.kind (hs j.kind rfl)
      refine ⟨rfl, ⟨_, r, .done, rfl, ?_, congrArg Prod.fst hrun⟩, ?_⟩
      · cases j <;> rfl
      · rw [Section.step, Section.calls, hrun]
        exact marked_origin hconf
  | commit prepared hof =>
      obtain ⟨rfl, r, s₁, hok, hrun⟩ := mark_made h.usable (fun _ => rfl) hmark
      obtain ⟨_, rfl⟩ := hok
      refine ⟨rfl, ⟨_, r, .done, rfl, rfl, congrArg Prod.fst hrun⟩, ?_⟩
      rw [Section.step, Section.calls, hrun]
      obtain ⟨clock, v, mode, engineMode, hp⟩ := hof
      obtain ⟨hsrc, hrf⟩ := prepared_origin hp
      show (prepared.bundle.source, prepared.bundle.refreshFrequency) = _
      rw [hsrc, hrf]

theorem wired_new {now : Timestamp} {s : PolicyStore X}
    (h : PolicyStore.new X now = .ok s) : Wired ([] : List (Section X cfg × Past X)) s := by
  refine ⟨new_usable h, ?_⟩
  rintro k ⟨r, hr⟩
  exact nomatch hr

/-- **READINESS IS EXACT**: in every admissible run the service is ready exactly
    when every configured kind was marked since its last configuration, and a
    content update changes nothing about that; and in every run of the
    critical sections a kind is marked only where its fetcher has just applied
    a remote body.  Those are the sections that the polls of the fetchers make,
    and all they do to the store. -/
theorem readiness_exact {now : Timestamp} {s₀ : PolicyStore X}
    (h : PolicyStore.new X now = .ok s₀) (cfg : RemoteSourceKind → Endpoint × UInt32) :
    (∀ calls, AdmissibleRun calls s₀ →
      (configuredSourcesLoaded (run calls s₀) = true
        ↔ ∀ k, Configured (trace Call.step calls s₀).reverse k →
            markedSince k (trace Call.step calls s₀).reverse = true))
    ∧ (∀ calls c, AdmissibleRun (calls ++ [c]) s₀ → c.isContentUpdate = true →
      configuredSourcesLoaded (run (calls ++ [c]) s₀)
        = configuredSourcesLoaded (run calls s₀))
    ∧ (∀ secs : List (Section X cfg),
      (∀ pre sec post, secs = pre ++ sec :: post →
        SpawnedFirst (trace Section.step pre s₀).reverse sec) →
      ∀ pre sec post, secs = pre ++ sec :: post → ∀ k,
        (∃ e ∈ (sec.step (final Section.step pre s₀)).1, marks k e.1 = true) →
        MarkedByApply k sec (final Section.step pre s₀))
    ∧ (∀ (f : GenericFetcher) (k : Component) (now : Timestamp) (net : Exchange)
        (shared : SharedStore X), BySection cfg k.kind shared.value
          (f.checkAndUpdate X (k.adapter X) now net shared).2.2.value)
    ∧ ∀ (f : BundleFetcher X) (env : BundleFetcher.Surroundings X) (shared : SharedStore X),
      cfg .bundle = (f.url, f.refreshSecs) →
        BySection cfg .bundle shared.value (f.checkAndUpdate env shared).2.2.value := by
  refine ⟨?_, ?_, ?_, componentPoll_section cfg, fun f env shared hcfg =>
    bundlePoll_section f env shared hcfg⟩
  · intro calls ha
    exact configuredSourcesLoaded_iff (run_follows h calls ha)
  · intro calls c ha hc
    have hpre : AdmissibleRun calls s₀ := by
      intro pre d post hsplit
      exact ha pre d (post ++ [c]) (by rw [hsplit, List.append_assoc]; rfl)
    have hlast := configuredSourcesLoaded_iff (run_follows h (calls ++ [c]) ha)
    have hbefore := configuredSourcesLoaded_iff (run_follows h calls hpre)
    rw [trace_append, List.reverse_append] at hlast
    rw [Bool.eq_iff_iff, hlast, hbefore]
    show (∀ k, Configured ((c, _) :: (trace Call.step calls s₀).reverse) k →
      markedSince k ((c, _) :: (trace Call.step calls s₀).reverse) = true) ↔ _
    constructor
    · intro hall k hk
      have hcons := hall k ((contentUpdate_past hc k).1.mpr hk)
      rwa [(contentUpdate_past hc k).2] at hcons
    · intro hall k hk
      rw [(contentUpdate_past hc k).2]
      exact hall k ((contentUpdate_past hc k).1.mp hk)
  · intro secs hspawn pre sec post hsplit k hmark
    have hwired : Wired ((trace Section.step pre s₀).reverse ++ [])
        (final Section.step pre s₀) :=
      history_induct_guarded Wired SpawnedFirst wired_step pre [] s₀ (wired_new h) (by
        intro pre' d post' hsplit'
        rw [List.append_nil]
        exact hspawn pre' d (post' ++ sec :: post) (by
          rw [hsplit, hsplit', List.append_assoc]; rfl))
    rw [List.append_nil] at hwired
    exact markedByApply hwired (hspawn pre sec post hsplit) hmark

/-! ## A start-up -/

open TreetopSample

/-- Every fetcher polls the same place once a minute. -/
def oneSource : RemoteSourceKind → Endpoint × UInt32 := fun _ => (⟨"https://p/policies"⟩, 60)

/-- Configure, load and mark the policies, and then upload others. -/
def startUp : List (Call small) :=
  [.configureRemoteSource .policies ⟨"https://p/policies"⟩ 60, .setDsl 1 permitAll none none,
    .markRemoteSourceLoaded .policies] ++ [.setDsl 2 permitOps none none]

/-- Spawn the policy fetcher and let it load once. -/
def firstLoad : List (Section small oneSource) :=
  [.spawn .policies] ++ .apply .policies 1 permitAll :: []

theorem startUp_admissible : AdmissibleRun startUp fresh := by
  intro pre c post hsplit
  rcases pre with _ | ⟨c₁, _ | ⟨c₂, _ | ⟨c₃, _ | ⟨c₄, pre⟩⟩⟩⟩
  · cases hsplit
    rintro ⟨e, he, _⟩
    exact nomatch he
  · cases hsplit
    exact rfl
  · cases hsplit
    trivial
  · cases hsplit
    exact rfl
  · simp [startUp] at hsplit

theorem firstLoad_spawned (pre : List (Section small oneSource))
    (sec : Section small oneSource) (post : List (Section small oneSource))
    (hsplit : firstLoad = pre ++ sec :: post) :
    SpawnedFirst (trace Section.step pre fresh).reverse sec := by
  intro k hk
  rcases pre with _ | ⟨c₁, _ | ⟨c₂, pre⟩⟩
  · cases hsplit
    exact nomatch hk
  · cases hsplit
    cases hk
    exact ⟨_, List.mem_cons_self ..⟩
  · simp [firstLoad] at hsplit

/-- Readiness of that run, which its last call does not change, and the mark
    of the policy fetcher's first load. -/
theorem readiness_exact_small :
    (configuredSourcesLoaded (run startUp fresh) = true
      ↔ ∀ k, Configured (trace Call.step startUp fresh).reverse k →
          markedSince k (trace Call.step startUp fresh).reverse = true)
    ∧ configuredSourcesLoaded (run startUp fresh)
      = configuredSourcesLoaded (run (startUp.take 3) fresh)
    ∧ MarkedByApply .policies (.apply .policies 1 permitAll : Section small oneSource)
        (final Section.step ([.spawn .policies] : List (Section small oneSource)) fresh) := by
  obtain ⟨hready, hupdate, hmarks, _, _⟩ := readiness_exact new_fresh oneSource
  refine ⟨hready _ startUp_admissible, hupdate _ _ startUp_admissible rfl, ?_⟩
  exact hmarks firstLoad firstLoad_spawned _ _ [] rfl .policies
    ⟨_, List.mem_cons_of_mem _ (List.mem_cons_self ..), rfl⟩

end TreetopReadiness
