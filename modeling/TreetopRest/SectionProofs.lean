import TreetopRest.StoreRunProofs
import TreetopRest.BundleFetcherModel

/-! # Critical sections

    Everything a fetcher does to the store it does in one critical section:
    the calls it makes under the write lock, in order, an error ending it.
    The sections below are those of the service, and the fetchers of the
    source run them and nothing else (`componentPoll_section`,
    `bundlePoll_section`). -/

namespace TreetopSections

open FallibleState
open TreetopErrors TreetopCrates TreetopMetadata TreetopWire TreetopStore
open TreetopFetcher TreetopBundleFetcher

variable {X : Crates}

/-- The calls made so far with their answers, newest first. -/
abbrev Past (X : Crates) := List (Call X × Except ServiceError (Reply X))

def configures (kind : RemoteSourceKind) : Call X → Bool
  | .configureRemoteSource k _ _ => k == kind
  | _ => false

def marks (kind : RemoteSourceKind) : Call X → Bool
  | .markRemoteSourceLoaded k => k == kind
  | _ => false

/-- Run a section: the calls it made with their answers, and the store. -/
def runSection : List (Call X) → PolicyStore X → Past X × PolicyStore X
  | [], s => ([], s)
  | c :: cs, s =>
      match c.step s with
      | (.error e, s') => ([(c, .error e)], s')
      | (.ok r, s') => ((c, .ok r) :: (runSection cs s').1, (runSection cs s').2)

/-- The component sources, which have an adapter each. -/
inductive Component where
  | policies
  | labels
  | schema
deriving DecidableEq, Repr

def Component.kind : Component → RemoteSourceKind
  | .policies => .policies
  | .labels => .labels
  | .schema => .schema

/-- The adapter of a component. -/
def Component.adapter (X : Crates) : Component → Fetchable (SharedStore X)
  | .policies => PolicyFetchAdapter
  | .labels => LabelFetchAdapter
  | .schema => SchemaFetchAdapter

/-- The store operation an adapter makes on a remote body. -/
def Component.reload (k : Component) (now : Timestamp) (body : String) : Call X :=
  match k with
  | .policies => .setDsl now body none none
  | .labels => .setLabels now body none none
  | .schema => .setSchema now body none none

/-- The store operation that gives a component a text of some origin. -/
def Component.update (k : Component) (now : Timestamp) (body : String)
    (source : Option Endpoint) (refreshFrequency : Option UInt32) : Call X :=
  match k with
  | .policies => .setDsl now body source refreshFrequency
  | .labels => .setLabels now body source refreshFrequency
  | .schema => .setSchema now body source refreshFrequency

theorem Component.reload_eq_update (k : Component) (now : Timestamp) (body : String) :
    (k.reload now body : Call X) = k.update now body none none := by
  cases k <;> rfl

/-- The critical sections of the service, when its fetchers were given the
    sources `cfg`: spawning a fetcher, an adapter's application of a remote
    body, the commit of a bundle that the bundle fetcher prepared, and single
    calls of everyone else. -/
inductive Section (X : Crates) (cfg : RemoteSourceKind → Endpoint × UInt32) where
  | spawn (kind : RemoteSourceKind)
  | apply (k : Component) (now : Timestamp) (body : String)
  | commit (prepared : PreparedBundle X)
      (ofFetcher : ∃ clock v mode engineMode, prepareBundleWithEngineMode clock v
        (some (cfg .bundle).1) (some (cfg .bundle).2) mode engineMode = .ok prepared)
  | other (c : Call X) (hc : ∀ k, configures k c = false) (hm : ∀ k, marks k c = false)

variable {cfg : RemoteSourceKind → Endpoint × UInt32}

def Section.calls : Section X cfg → List (Call X)
  | .spawn kind => [.configureRemoteSource kind (cfg kind).1 (cfg kind).2]
  | .apply k now body => [k.reload now body, .markRemoteSourceLoaded k.kind]
  | .commit prepared h =>
      [.applyPreparedBundle prepared (by
          obtain ⟨clock, v, mode, engineMode, hp⟩ := h
          exact ⟨clock, v, _, _, mode, engineMode, hp⟩),
        .markRemoteSourceLoaded .bundle]
  | .other c _ _ => [c]

/-- The kind whose fetcher runs the section. -/
def Section.fetcher : Section X cfg → Option RemoteSourceKind
  | .apply k _ _ => some k.kind
  | .commit _ _ => some .bundle
  | _ => none

def Section.step (sec : Section X cfg) (s : PolicyStore X) : Past X × PolicyStore X :=
  runSection sec.calls s

theorem runSection_singleton (c : Call X) (s : PolicyStore X) :
    runSection [c] s = ([(c, (c.step s).1)], (c.step s).2) := by
  rw [runSection]
  cases c.step s with
  | mk r s' => cases r <;> rfl

/-- The rule for sections: what every successful step keeps, a section keeps. -/
theorem section_keeps (Inv : PolicyStore X → Prop)
    (hok : ∀ s c s', Inv s → StepOk s c s' → Inv s') (cs : List (Call X)) :
    ∀ s, CachesUsable s → Inv s →
      CachesUsable (runSection cs s).2 ∧ Inv (runSection cs s).2 := by
  induction cs with
  | nil => intro s hu h; exact ⟨hu, h⟩
  | cons c cs ih =>
      intro s hu h
      rw [runSection]
      rcases step_cases hu c with ⟨e, hrun⟩ | ⟨r, s', hrun, hstep⟩
      · rw [hrun]
        exact ⟨hu, h⟩
      · rw [hrun]
        exact ih s' (stepOk_usable hu hstep) (hok s c s' h hstep)

/-- A program and the mark after it make the section of the two calls. -/
theorem section_of_program {m : StoreM X Unit} {c : Call X} {kind : RemoteSourceKind}
    {s : PolicyStore X} (hc : c.step s = (exec m s).map (·.map fun _ => .done) id) :
    exec (do m; markRemoteSourceLoaded kind) s
      = ((exec m s).1, (runSection [c, .markRemoteSourceLoaded kind] s).2) := by
  rw [exec_bind, runSection, hc]
  cases exec m s with
  | mk r s' =>
      cases r with
      | error e => rfl
      | ok u => cases kind <;> rfl

theorem write_value {α : Type} (s : PolicyStore X) (name : String) (m : StoreM X α) :
    (SharedStore.write ⟨s, false⟩ name m).2.value = (exec m s).2 := rfl

/-- What an adapter does under the lock is the section `apply`. -/
theorem adapter_section (cfg : RemoteSourceKind → Endpoint × UInt32) (k : Component)
    (now : Timestamp) (body : String) (s : PolicyStore X) :
    ((k.adapter X).applySuccessfulResponse now body ⟨s, false⟩).2.value
      = ((Section.apply k now body : Section X cfg).step s).2 := by
  cases k with
  | policies =>
      have hc : (Call.setDsl now body none none).step s
          = (exec (setDsl now body none none) s).map (·.map fun _ => .done) id := rfl
      show (SharedStore.write ⟨s, false⟩ "policy" (applyAndMark setDsl .policies now body)).2.value
        = (runSection [.setDsl now body none none, .markRemoteSourceLoaded .policies] s).2
      rw [write_value, applyAndMark, section_of_program hc]
  | labels =>
      have hc : (Call.setLabels now body none none).step s
          = (exec (setLabels now body none none) s).map (·.map fun _ => .done) id := rfl
      show (SharedStore.write ⟨s, false⟩ "label" (applyAndMark setLabels .labels now body)).2.value
        = (runSection [.setLabels now body none none, .markRemoteSourceLoaded .labels] s).2
      rw [write_value, applyAndMark, section_of_program hc]
  | schema =>
      have hc : (Call.setSchema now body none none).step s
          = (exec (setSchema now body none none) s).map (·.map fun _ => .done) id := rfl
      show (SharedStore.write ⟨s, false⟩ "schema" (applyAndMark setSchema .schema now body)).2.value
        = (runSection [.setSchema now body none none, .markRemoteSourceLoaded .schema] s).2
      rw [write_value, applyAndMark, section_of_program hc]

/-- A poll touches the store in its adapter's critical section or not at all. -/
theorem checkAndUpdate_store {σ : Type} (f : GenericFetcher) (inner : Fetchable σ)
    (now : Timestamp) (net : Exchange) (s : σ) :
    (f.checkAndUpdate X inner now net s).2.2 = s
      ∨ ∃ body, (f.checkAndUpdate X inner now net s).2.2
          = (inner.applySuccessfulResponse now body s).2 := by
  unfold GenericFetcher.checkAndUpdate
  cases f.onHead (net.head f.validators) with
  | mk r f' =>
      cases r with
      | error e => exact Or.inl rfl
      | ok goesOn =>
          cases goesOn with
          | false => exact Or.inl rfl
          | true =>
              dsimp only
              cases f'.onGet X net.get with
              | error e => exact Or.inl rfl
              | ok changed =>
                  cases changed with
                  | none => exact Or.inl rfl
                  | some p =>
                      obtain ⟨body, newHash⟩ := p
                      refine Or.inr ⟨body, ?_⟩
                      dsimp only
                      rw [GenericFetcher.onApply]
                      cases inner.applySuccessfulResponse now body s with
                      | mk r' s' => cases r' <;> rfl

/-- A bundle that a poll prepared is of the fetcher's own source. -/
theorem fetch_prepared {f : BundleFetcher X} {env : BundleFetcher.Surroundings X}
    {d : Download} {prepared : PreparedBundle X}
    (h : f.fetch env = .ok (.replacement d prepared)) :
    ∃ clock v mode engineMode, prepareBundleWithEngineMode clock v (some f.url)
      (some f.refreshSecs) mode engineMode = .ok prepared := by
  rw [BundleFetcher.fetch] at h
  cases hdl : f.download (env.get f.validators) with
  | error e => rw [hdl] at h; exact nomatch h
  | ok answer =>
      rw [hdl] at h
      cases answer with
      | none => exact nomatch h
      | some d' =>
          dsimp only at h
          by_cases hsame : f.archiveSha256 = some (hexSha256 X d'.bytes)
          · rw [if_pos hsame] at h
            exact nomatch h
          · rw [if_neg hsame] at h
            by_cases hpoison : env.atRead.poisoned = true
            · rw [if_pos hpoison] at h
              exact nomatch h
            · rw [if_neg hpoison] at h
              cases hprep : f.prepare env.clock env.taskFailure d'.bytes
                  env.atRead.value.schemaValidationMode with
              | error e => rw [hprep] at h; exact nomatch h
              | ok p =>
                  rw [hprep] at h
                  cases h
                  unfold BundleFetcher.prepare at hprep
                  cases htask : env.taskFailure with
                  | some msg => rw [htask] at hprep; exact nomatch hprep
                  | none =>
                      rw [htask] at hprep
                      obtain ⟨v, _, hprep⟩ := bind_eq_ok.mp hprep
                      exact ⟨env.clock, v, _, f.engineMode, mapError_eq_ok.mp hprep⟩

/-- A bundle poll touches the store in the section `commit` or not at all. -/
theorem bundlePoll_store (f : BundleFetcher X) (env : BundleFetcher.Surroundings X)
    (s : PolicyStore X) (hcfg : cfg .bundle = (f.url, f.refreshSecs)) :
    (f.checkAndUpdate env ⟨s, false⟩).2.2.value = s
      ∨ ∃ prepared h, (f.checkAndUpdate env ⟨s, false⟩).2.2.value
          = ((Section.commit prepared h : Section X cfg).step s).2 := by
  rw [BundleFetcher.checkAndUpdate]
  cases hfetch : f.fetch env with
  | error e => exact Or.inl rfl
  | ok fetched =>
      cases fetched with
      | notModified => exact Or.inl rfl
      | unchanged validators => exact Or.inl rfl
      | replacement d prepared =>
          have hof : ∃ clock v mode engineMode, prepareBundleWithEngineMode clock v
              (some (cfg .bundle).1) (some (cfg .bundle).2) mode engineMode
              = .ok prepared := by
            rw [hcfg]
            exact fetch_prepared hfetch
          refine Or.inr ⟨prepared, hof, ?_⟩
          have hrun : (SharedStore.write ⟨s, false⟩ "policy" (applyBundleAndMark prepared)).2.value
              = ((Section.commit prepared hof : Section X cfg).step s).2 := by
            obtain ⟨_, _, _, _, hp⟩ := id hof
            have hgen : prepared.Genuine := ⟨_, _, _, _, _, _, hp⟩
            have hc : (Call.applyPreparedBundle prepared hgen).step s
                = (exec (applyPreparedBundle prepared) s).map (·.map fun _ => .done) id := rfl
            rw [write_value, applyBundleAndMark, section_of_program hc]
            rfl
          rw [← hrun]
          dsimp only
          cases SharedStore.write ⟨s, false⟩ "policy" (applyBundleAndMark prepared) with
          | mk r s' => cases r <;> rfl

/-- The store is as it was, or as a section of the kind's fetcher leaves it. -/
def BySection (cfg : RemoteSourceKind → Endpoint × UInt32) (kind : RemoteSourceKind)
    (s s' : PolicyStore X) : Prop :=
  s' = s ∨ ∃ sec : Section X cfg, sec.fetcher = some kind ∧ s' = (sec.step s).2

theorem componentPoll_section (cfg : RemoteSourceKind → Endpoint × UInt32) (f : GenericFetcher)
    (k : Component) (now : Timestamp) (net : Exchange) (shared : SharedStore X) :
    BySection cfg k.kind shared.value
      (f.checkAndUpdate X (k.adapter X) now net shared).2.2.value := by
  rcases checkAndUpdate_store f (k.adapter X) now net shared with hsame | ⟨body, hbody⟩
  · exact Or.inl (congrArg Mutex.value hsame)
  rw [hbody]
  obtain ⟨s, poisoned⟩ := shared
  cases poisoned with
  | true =>
      -- the adapter does not get the lock
      cases k <;> exact Or.inl rfl
  | false => exact Or.inr ⟨.apply k now body, rfl, adapter_section cfg k now body s⟩

theorem bundlePoll_section (f : BundleFetcher X) (env : BundleFetcher.Surroundings X)
    (shared : SharedStore X) (hcfg : cfg .bundle = (f.url, f.refreshSecs)) :
    BySection cfg .bundle shared.value (f.checkAndUpdate env shared).2.2.value := by
  obtain ⟨s, poisoned⟩ := shared
  cases poisoned with
  | true =>
      rw [BundleFetcher.checkAndUpdate]
      cases f.fetch env with
      | error e => exact Or.inl rfl
      | ok fetched => cases fetched <;> exact Or.inl rfl
  | false =>
      rcases bundlePoll_store f env s hcfg with hsame | ⟨prepared, hof, hcommit⟩
      · exact Or.inl hsame
      · exact Or.inr ⟨.commit prepared hof, rfl, hcommit⟩

end TreetopSections
