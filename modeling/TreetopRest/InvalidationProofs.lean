import TreetopRest.StoreRunProofs
import TreetopRest.SampleCrates

/-! # Commits and a poisoned listing cache

    Three updates clear the two listing caches, and clearing fails where one
    of the locks is poisoned.  A bundle is published AFTER its clear, so a
    failed publication leaves what is served alone.  Policies and labels are
    written before theirs: with a poisoned lock such an update answers with an
    error and is in force (`failed_invalidation_iff` says exactly when). -/

namespace TreetopInvalidation

open FallibleState UpdateRun LruCache
open TreetopErrors TreetopCrates TreetopMetadata TreetopWire TreetopStore

variable {X : Crates}

/-! ## What is served -/

/-- The parts of the store that decisions and their reports are made of. -/
structure Serving (X : Crates) where
  engine : X.PreparedEngine
  labelRegistryLabelers : List X.Labeler
  requestContextStatus : RequestContextStatus
  bundle : Option BundleMetadata
  policies : Metadata .ofPolicies
  labels : Metadata .ofLabels
  schema : Metadata .ofSchema

def serving (s : PolicyStore X) : Serving X where
  engine := s.engine
  labelRegistryLabelers := s.labelRegistryLabelers
  requestContextStatus := s.requestContextStatus
  bundle := s.bundle
  policies := s.policies
  labels := s.labels
  schema := s.schema

/-- The store with other parts in force. -/
def install (v : Serving X) (s : PolicyStore X) : PolicyStore X :=
  { s with
    engine := v.engine
    labelRegistryLabelers := v.labelRegistryLabelers
    requestContextStatus := v.requestContextStatus
    bundle := v.bundle
    policies := v.policies
    labels := v.labels
    schema := v.schema }

/-! ## Clearing the caches -/

/-- Clearing never touches what is served, and it fails exactly with a
    poisoned lock. -/
theorem silent_clearListPoliciesCache :
    Silent serving (clearListPoliciesCache : StoreM X Unit) := by
  rw [clearListPoliciesCache]
  refine silent_bind_get fun s₁ => silent_bind (silent_lift _) fun _ => ?_
  refine silent_bind (silent_modify fun _ => rfl) fun _ => ?_
  refine silent_bind_get fun s₂ => silent_bind (silent_lift _) fun _ => ?_
  exact silent_modify fun _ => rfl

theorem lock_poisoned {α : Type} {m : Mutex α} (name : String) (h : m.poisoned = true) :
    ∃ e, m.lock name = .error e := by
  rw [Mutex.lock, if_pos h]
  exact ⟨_, rfl⟩

theorem clear_isOk_iff (s : PolicyStore X) :
    (exec clearListPoliciesCache s).1.isOk = true ↔ CachesUsable s := by
  constructor
  · intro hok
    rw [clearListPoliciesCache, exec_bind_get] at hok
    cases hraw : s.listPoliciesRawCache.poisoned with
    | true =>
        obtain ⟨e, he⟩ := lock_poisoned "raw" hraw
        rw [he, exec_bind_lift_error] at hok
        exact absurd hok Bool.false_ne_true
    | false =>
        rw [lock_usable "raw" hraw, exec_bind_lift_ok, exec_bind_modify, exec_bind_get] at hok
        cases hjson : s.listPoliciesJsonCache.poisoned with
        | true =>
            obtain ⟨e, he⟩ := lock_poisoned "json" hjson
            dsimp only at hok
            rw [he, exec_bind_lift_error] at hok
            exact absurd hok Bool.false_ne_true
        | false => exact ⟨hraw, hjson⟩
  · intro h
    rw [exec_clearListPoliciesCache h]
    rfl

/-! ## The updates as commits -/

/-- The checks of a rebuild, and the engine and status it sets. -/
def rebuiltEngine (s : PolicyStore X) (dsl : String) (schema : Option X.CedarSchema)
    (labelers : List X.Labeler) (labelVersion : String) :
    Except ServiceError (X.PreparedEngine × RequestContextStatus) := do
  let (runtimeSchema, status) ← runtimeSchemaForDsl s dsl schema
  let engine ← buildEngineFromParts X dsl runtimeSchema labelers labelVersion
  return (engine, status)

/-- The checks of a policy reload, and what it is about to install. -/
def dslCandidate (s : PolicyStore X) (now : Timestamp) (dsl : String) (source : Option Endpoint)
    (refreshFrequency : Option UInt32) : Except ServiceError (Serving X) := do
  ensureSchemaPresentForPolicyReload s
  let metadata ← Metadata.new X .ofPolicies now dsl (source.or s.policies.source)
    (refreshFrequency.or s.policies.refreshFrequency)
  let schema ← currentSchema s
  let built ← rebuiltEngine s dsl schema s.labelRegistryLabelers s.labels.sha256
  return { serving s with
    engine := built.1, requestContextStatus := built.2, policies := metadata, bundle := none }

/-- The checks of a label reload, and what it is about to install. -/
def labelsCandidate (s : PolicyStore X) (now : Timestamp) (labels : String)
    (source : Option Endpoint) (refreshFrequency : Option UInt32) :
    Except ServiceError (Serving X) := do
  let labelSet ← (X.labelSetFromJsonStr labels).mapError ServiceError.fromBundleError
  ensureSchemaFitsLabels s labelSet
  let schema ← currentSchema s
  let built ← rebuiltEngine s s.policies.content schema (X.toLabelers labelSet)
    (makeHash X labels)
  return { serving s with
    engine := built.1, requestContextStatus := built.2
    labelRegistryLabelers := X.toLabelers labelSet
    labels := Metadata.fromValidatedContent X .ofLabels now labels
      (source.or s.labels.source) (refreshFrequency.or s.labels.refreshFrequency)
      (X.labelSetRules labelSet)
    bundle := none }

/-- A rebuild checks first, and writes both of its fields then. -/
theorem exec_rebuild_bind (s : PolicyStore X) (dsl : String) (schema : Option X.CedarSchema)
    (labelers : List X.Labeler) (labelVersion : String) (f : Unit → StoreM X Unit) :
    exec (rebuildEngineForDslWithParts dsl schema labelers labelVersion >>= f) s
      = exec ((liftM (rebuiltEngine s dsl schema labelers labelVersion) : StoreM X _)
          >>= fun built => modify (fun s => s.withEngine built.1 built.2) >>= f) s := by
  rw [rebuiltEngine, exec_bind_lift_bind, rebuildEngineForDslWithParts, exec_bind, exec_bind_get]
  cases hrt : runtimeSchemaForDsl s dsl schema with
  | error e => rw [exec_bind_lift_error, exec_bind_lift_error]
  | ok p =>
      obtain ⟨runtimeSchema, status⟩ := p
      rw [exec_bind_lift_ok, exec_bind_lift_ok]
      dsimp only
      rw [exec_bind_lift_bind]
      cases hbuild : buildEngineFromParts X dsl runtimeSchema labelers labelVersion with
      | error e => rw [exec_bind_lift_error, exec_bind_lift_error]
      | ok engine =>
          rw [exec_bind_lift_ok, exec_bind_lift_ok]
          rfl

/-- A policy reload is checks, a commit and the clear. -/
theorem exec_setDsl (s : PolicyStore X) (now : Timestamp) (dsl : String)
    (source : Option Endpoint) (refreshFrequency : Option UInt32) :
    exec (setDsl now dsl source refreshFrequency) s
      = exec ((liftM (dslCandidate s now dsl source refreshFrequency) : StoreM X _)
          >>= fun v => modify (install v) >>= fun _ => clearListPoliciesCache) s := by
  rw [setDsl, dslCandidate, exec_bind_lift_bind, exec_bind_get]
  refine exec_bind_lift_congr fun _ _ => ?_
  rw [exec_bind_get, exec_bind_lift_bind]
  refine exec_bind_lift_congr fun metadata _ => ?_
  rw [exec_bind_get, exec_bind_lift_bind]
  refine exec_bind_lift_congr fun schema _ => ?_
  rw [exec_bind_get, exec_bind_get, exec_rebuild_bind, exec_bind_lift_bind]
  exact exec_bind_lift_congr fun built _ => rfl

/-- So is a label reload. -/
theorem exec_setLabels (s : PolicyStore X) (now : Timestamp) (labels : String)
    (source : Option Endpoint) (refreshFrequency : Option UInt32) :
    exec (setLabels now labels source refreshFrequency) s
      = exec ((liftM (labelsCandidate s now labels source refreshFrequency) : StoreM X _)
          >>= fun v => modify (install v) >>= fun _ => clearListPoliciesCache) s := by
  rw [setLabels, labelsCandidate, exec_bind_lift_bind, exec_bind_get]
  refine exec_bind_lift_congr fun labelSet _ => ?_
  rw [exec_bind_get, exec_bind_lift_bind]
  refine exec_bind_lift_congr fun _ _ => ?_
  rw [exec_bind_get, exec_bind_get, exec_bind_lift_bind]
  refine exec_bind_lift_congr fun schema _ => ?_
  rw [exec_bind_lift_bind]
  refine (exec_rebuild_bind _ _ _ _ _ _).trans ?_
  exact exec_bind_lift_congr fun built _ => rfl

/-- A bundle is published after the clear, as the last thing. -/
theorem failsSilently_applyPreparedBundle (p : PreparedBundle X) (s : PolicyStore X) :
    FailsSilently serving (applyPreparedBundle p) s := by
  rw [applyPreparedBundle, FailsSilently, exec_bind_get]
  intro e s' hrun
  cases hgate : ensureBundleSchemaPresent s.schemaValidationMode (!p.schema.content.isEmpty) with
  | error e' =>
      rw [hgate, exec_bind_lift_error] at hrun
      cases hrun
      rfl
  | ok _ =>
      rw [hgate, exec_bind_lift_ok] at hrun
      exact failsSilently_commit_last silent_clearListPoliciesCache s e s' hrun

/-! ## Runs with poisoned locks -/

/-- What happens to a store: a call, or a holder of one of the two cache locks
    panics and leaves the cache in some state. -/
inductive Event (X : Crates) where
  | call (c : Call X)
  | rawPoisoned (left : Cache ListPoliciesCacheKey String listPoliciesCacheLimit)
  | jsonPoisoned (left : Cache ListPoliciesCacheKey (UserPolicies X.Json) listPoliciesCacheLimit)

def Event.step : Event X → PolicyStore X → Option (Except ServiceError (Reply X)) × PolicyStore X
  | .call c, s => (some (c.step s).1, (c.step s).2)
  | .rawPoisoned left, s => (none, { s with listPoliciesRawCache := ⟨left, true⟩ })
  | .jsonPoisoned left, s => (none, { s with listPoliciesJsonCache := ⟨left, true⟩ })

/-- The three calls that clear the listing caches. -/
def clearsListings : Call X → Bool
  | .setDsl .. | .setLabels .. | .applyPreparedBundle .. => true
  | _ => false

/-- A call that answers with an error leaves what is served as it was. -/
def ErrorKeepsServing (s : PolicyStore X) (c : Call X) : Prop :=
  ∀ e s', c.step s = (.error e, s') → serving s' = serving s

/-- The call does not get to write before a clear that fails: the locks are
    usable, or a check refuses the call, or there is nothing new to write, or
    the call writes last. -/
def WritesSafely (s : PolicyStore X) : Call X → Prop
  | .setDsl now dsl source refreshFrequency =>
      CachesUsable s ∨ ∀ v, dslCandidate s now dsl source refreshFrequency = .ok v →
        v = serving s
  | .setLabels now labels source refreshFrequency =>
      CachesUsable s ∨ ∀ v, labelsCandidate s now labels source refreshFrequency = .ok v →
        v = serving s
  | _ => True

/-- The answer of a call fails as its program does. -/
theorem errorKeepsServing_map {α : Type} {m : StoreM X α} {f : α → Reply X}
    {s : PolicyStore X} {c : Call X} (h : c.step s = (exec m s).map (·.map f) id) :
    ErrorKeepsServing s c ↔ FailsSilently serving m s := by
  rw [ErrorKeepsServing, FailsSilently, h]
  cases exec m s with
  | mk r s₁ =>
      cases r with
      | ok a =>
          constructor
          · rintro _ _ _ ⟨⟩
          · rintro _ _ _ ⟨⟩
      | error e =>
          constructor
          · rintro hall _ _ ⟨⟩
            exact hall e s₁ rfl
          · rintro hall _ _ ⟨⟩
            exact hall e s₁ rfl

/-- A commit before the clear: nothing is served of it after an error exactly
    if the clear succeeds or it was not new. -/
theorem commit_before_clear_iff (s : PolicyStore X) (x : Except ServiceError (Serving X)) :
    FailsSilently serving ((liftM x : StoreM X _)
        >>= fun v => modify (install v) >>= fun _ => clearListPoliciesCache) s
      ↔ CachesUsable s ∨ ∀ v, x = .ok v → v = serving s := by
  rw [failsSilently_commit_first_iff silent_clearListPoliciesCache]
  -- the commit touches neither of the locks
  have husable : ∀ v, CachesUsable (install v s) ↔ CachesUsable s :=
    fun v => ⟨fun h => ⟨h.raw, h.json⟩, fun h => ⟨h.raw, h.json⟩⟩
  constructor
  · intro h
    by_cases hs : CachesUsable s
    · exact Or.inl hs
    · refine Or.inr fun v hv => ?_
      rcases h v hv with hok | hsame
      · exact absurd ((husable v).mp ((clear_isOk_iff _).mp hok)) hs
      · exact hsame
  · rintro (hs | hall) v hv
    · exact Or.inl ((clear_isOk_iff _).mpr ((husable v).mpr hs))
    · exact Or.inr (hall v hv)

/-- **ONE CALL**: an error leaves what is served as it was exactly if the call
    writes safely. -/
theorem errorKeepsServing_iff (s : PolicyStore X) {c : Call X} (hc : clearsListings c = true) :
    ErrorKeepsServing s c ↔ WritesSafely s c := by
  cases c with
  | setDsl now dsl source refreshFrequency =>
      exact (errorKeepsServing_map rfl).trans
        ((failsSilently_congr (exec_setDsl s now dsl source refreshFrequency)).trans
          (commit_before_clear_iff s _))
  | setLabels now labels source refreshFrequency =>
      exact (errorKeepsServing_map rfl).trans
        ((failsSilently_congr (exec_setLabels s now labels source refreshFrequency)).trans
          (commit_before_clear_iff s _))
  | applyPreparedBundle p hp =>
      exact iff_of_true ((errorKeepsServing_map rfl).mpr (failsSilently_applyPreparedBundle p s))
        trivial
  | setSchema now schema source refreshFrequency => exact nomatch hc
  | setSchemaValidationMode mode => exact nomatch hc
  | configureRemoteSource kind source refreshFrequency => exact nomatch hc
  | markRemoteSourceLoaded kind => exact nomatch hc
  | listPoliciesRaw user groups namespaces => exact nomatch hc
  | listPoliciesJson user groups namespaces => exact nomatch hc

/-- The updates a run makes, with the store each is made on. -/
def MadeOn (events : List (Event X)) (s₀ : PolicyStore X) (s : PolicyStore X) (c : Call X) :
    Prop :=
  clearsListings c = true
    ∧ ∃ pre post, events = pre ++ .call c :: post ∧ s = final Event.step pre s₀

/-- **RUNS**: whatever locks were poisoned on the way, an update that fails
    leaves what is served as it was exactly if it writes safely; so every
    failed update of a run does exactly if each update of it writes safely. -/
theorem failed_invalidation_iff (s₀ : PolicyStore X) (events : List (Event X)) :
    (∀ c, clearsListings c = true →
        (ErrorKeepsServing (final Event.step events s₀) c
          ↔ WritesSafely (final Event.step events s₀) c))
      ∧ ((∀ s c, MadeOn events s₀ s c → ErrorKeepsServing s c)
        ↔ ∀ s c, MadeOn events s₀ s c → WritesSafely s c) := by
  refine ⟨fun c hc => errorKeepsServing_iff _ hc, ?_⟩
  refine forall_congr' fun s => forall_congr' fun c => ?_
  constructor
  · intro h hmade
    exact (errorKeepsServing_iff s hmade.1).mp (h hmade)
  · intro h hmade
    exact (errorKeepsServing_iff s hmade.1).mpr (h hmade)

open TreetopSample in
/-- With one poisoned lock an upload of policies, or of labels, is answered with
    an error and is in force. -/
theorem in_force_after_error :
    ¬ ErrorKeepsServing (final Event.step [.jsonPoisoned .empty] fresh)
        (.setDsl 1 permitAll none none)
      ∧ ¬ ErrorKeepsServing (final Event.step [.rawPoisoned .empty] fresh)
        (.setLabels 1 photoLabels none none) := by
  constructor
  · intro h
    have hcontent := congrArg (fun v => v.policies.content) (h _ _ rfl)
    exact absurd hcontent (by decide +kernel)
  · intro h
    have hcontent := congrArg (fun v => v.labels.content) (h _ _ rfl)
    exact absurd hcontent (by decide +kernel)

end TreetopInvalidation
