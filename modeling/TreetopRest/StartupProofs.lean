import TreetopRest.FittingProofs
import TreetopRest.StartupModel
import TreetopRest.ReadinessProofs

/-! # Starting up — which schedules leave a document out

    The three documents fit together, the servers never fail, and still a
    strict store may never get its policies: it refuses them while it has no
    schema, the fetcher keeps the validators of the refused body, and from
    then on believes every "not modified".  Until then each fetcher's hash
    says exactly whether its document is loaded (`Running`), every other
    application succeeds in every order (`apply_succeeds`), and the run
    theorem says that the refusal is the ONLY way to go wrong. -/

namespace TreetopStartup

open FallibleState ConditionalFetch UpdateRun
open TreetopErrors TreetopCrates TreetopMetadata TreetopWire TreetopStore
open TreetopFetcher TreetopSections TreetopReadiness
open TreetopRefresh (Server)

variable {X : Crates}

/-! ## Documents that fit together -/

/-- The text a server has. -/
def document (srv : Remotes) (k : Component) : String := (srv k).body ()

/-! ## The store while it loads -/

/-- The component's remote body was applied. -/
def loaded (s : PolicyStore X) (k : Component) : Bool := (loadOf s k.kind).loaded

/-- A store that holds of each document all or nothing. -/
structure Staged (mode : SchemaValidationMode) (doc : Component → String) (ls : X.LabelSet)
    (s : PolicyStore X) : Prop where
  usable : CachesUsable s
  mode : s.schemaValidationMode = mode
  componentMode : s.bundleUrlMode = false
  configured : ∀ k : Component, (loadOf s k.kind).configuration.isSome = true
  content : ∀ k, contentOf s k = if loaded s k then doc k else ""
  labelers : s.labelRegistryLabelers = if loaded s .labels then X.toLabelers ls else []

variable {mode : SchemaValidationMode} {doc : Component → String} {sch : X.CedarSchema}
  {ls : X.LabelSet} {s : PolicyStore X}

theorem Staged.holds (h : Staged mode doc ls s) : Holds mode doc ls (loaded s) s :=
  ⟨h.usable, h.mode, h.content, h.labelers⟩

/-- Such a store is ready exactly when it has everything. -/
theorem staged_ready_iff (h : Staged mode doc ls s) :
    configuredSourcesLoaded s = true ↔ ∀ k, loaded s k = true := by
  have hready : ∀ k : Component, ∀ b, (loadOf s k.kind).ready b = loaded s k := by
    intro k b
    rw [RemoteSourceStatus.ready, h.configured k]
    rfl
  have hsplit : configuredSourcesLoaded s
      = (loaded s .policies && loaded s .labels && loaded s .schema) := by
    rw [configuredSourcesLoaded, h.componentMode, if_neg Bool.false_ne_true]
    rw [← hready .policies s.policies.source.isSome, ← hready .labels s.labels.source.isSome,
      ← hready .schema s.schema.source.isSome]
    rfl
  rw [hsplit, Bool.and_eq_true, Bool.and_eq_true]
  constructor
  · rintro ⟨⟨hpol, hlab⟩, hsch⟩ k
    cases k with
    | policies => exact hpol
    | labels => exact hlab
    | schema => exact hsch
  · intro hall
    exact ⟨⟨hall .policies, hall .labels⟩, hall .schema⟩

section Application

variable (hE : EmptyTextLaws X) (hf : Fitting X doc sch ls) (hb : BuildLaws X doc sch ls)
  (hempty : ∃ e, X.newFromStr "" = .ok e)

/-- A mark is of its own component. -/
theorem loaded_marked (s : PolicyStore X) (k j : Component) :
    loaded (s.marked k.kind) j = (loaded s j || decide (k = j)) := by
  cases k <;> cases j <;> first
    | exact (Bool.or_true _).symm
    | exact (Bool.or_false _).symm

theorem contentOf_marked (s : PolicyStore X) (k j : Component) :
    contentOf (s.marked k.kind) j = contentOf s j := by
  have hdocs : ∀ {T : ContentKind} (md : Metadata T) (c : Option (Endpoint × UInt32)),
      (withConfigured md c).content = md.content :=
    fun md c => (withConfigured_documents md c).1
  cases k <;> cases j <;> first | rfl | exact hdocs _ _

include hf in
/-- The critical section of a fetcher brings its document in, and keeps the
    rest. -/
theorem staged_applied (h : Staged mode doc ls s) {k : Component} {now : Timestamp}
    {s' : PolicyStore X} (hok : StepOk s (k.reload now (doc k)) s') :
    Staged mode doc ls (s'.marked k.kind)
      ∧ ∀ j, loaded (s'.marked k.kind) j = (loaded s j || decide (k = j)) := by
  have hrep : Replaced s k (doc k) ls s' := replaced_of_stepOk hf h.usable hok
  have hload : ∀ j, loaded s' j = loaded s j := by
    intro j
    cases j <;> simp only [loaded, Component.kind, loadOf, hrep.loads]
  have hloaded : ∀ j, loaded (s'.marked k.kind) j = (loaded s j || decide (k = j)) := by
    intro j
    rw [loaded_marked, hload]
  refine ⟨⟨?_, ?_, ?_, ?_, ?_, ?_⟩, hloaded⟩
  · cases k <;> exact ⟨hrep.usable.raw, hrep.usable.json⟩
  · rw [← h.mode, ← hrep.mode]
    cases k <;> rfl
  · rw [(marked_parts s' k.kind k.kind).2.2, hrep.componentMode, h.componentMode]
  · intro j
    have hconf : (loadOf s' j.kind).configuration.isSome = true := by
      rw [← h.configured j]
      cases j <;> simp only [Component.kind, loadOf, hrep.loads]
    rw [(marked_parts s' k.kind j.kind).1]
    by_cases hk : k.kind = j.kind
    · rw [if_pos hk]
      exact hconf
    · rw [if_neg hk]
      exact hconf
  · intro j
    rw [contentOf_marked, hrep.content, hloaded]
    by_cases hk : k = j
    · subst hk
      rw [if_pos rfl, decide_eq_true rfl, Bool.or_true, if_pos rfl]
    · rw [if_neg hk, decide_eq_false hk, Bool.or_false, h.content j]
  · have hlab : (s'.marked k.kind).labelRegistryLabelers = s'.labelRegistryLabelers := by
      cases k <;> rfl
    rw [hlab, hrep.labelers, hloaded, h.labelers]
    by_cases hk : k = .labels
    · rw [if_pos hk, decide_eq_true hk, Bool.or_true, if_pos rfl]
    · rw [if_neg hk, decide_eq_false hk, Bool.or_false]

end Application

/-- What an adapter does to the shared store, call by call. -/
theorem adapter_apply (k : Component) (now : Timestamp) (body : String) (s : PolicyStore X) :
    (k.adapter X).applySuccessfulResponse now body ⟨s, false⟩
      = match (k.reload now body).step s with
        | (.ok _, s') => (.ok (), ⟨s'.marked k.kind, false⟩)
        | (.error e, s') => (.error (.service e), ⟨s', false⟩) := by
  -- the three adapters differ in the program that comes before the mark
  have hwrite : ∀ (name : String) (m : StoreM X Unit) (kind : RemoteSourceKind),
      SharedStore.write ⟨s, false⟩ name (do m; markRemoteSourceLoaded kind)
        = match (exec m s).map (·.map fun _ => (Reply.done : Reply X)) id with
          | (.ok _, s') => (.ok (), ⟨s'.marked kind, false⟩)
          | (.error e, s') => (.error (.service e), ⟨s', false⟩) := by
    intro name m kind
    rw [SharedStore.write, if_neg Bool.false_ne_true, exec_bind]
    cases exec m s with
    | mk r s' =>
        cases r with
        | error e => rfl
        | ok u => cases kind <;> rfl
  cases k with
  | policies => exact hwrite "policy" (setDsl now body none none) .policies
  | labels => exact hwrite "label" (setLabels now body none none) .labels
  | schema => exact hwrite "schema" (setSchema now body none none) .schema

/-! ## What a turn can do -/

variable (X) in
/-- The fetcher's hash is there exactly when its document is loaded, its
    validators are the server's or were never set, and what it is about to
    apply is its document. -/
structure Tracked (srv : Server Unit) (isLoaded : Bool) (t : Task) : Prop where
  hash : t.fetcher.hash = if isLoaded then some (makeHash X (srv.body ())) else none
  validators : t.fetcher.validators = srv.origin.validators ()
    ∨ (t.phase = .idle ∧ t.fetcher.validators = Validators.absent)
  reading : ∀ body newHash, t.phase = .bodyRead body newHash →
    body = srv.body () ∧ newHash = makeHash X (srv.body ()) ∧ isLoaded = false

/-- The system at some point of its run. -/
structure Running (mode : SchemaValidationMode) (srv : Remotes) (ls : X.LabelSet)
    (sys : System X) : Prop where
  unpoisoned : sys.shared.poisoned = false
  staged : Staged mode (document srv) ls sys.shared.value
  tracked : ∀ k, Tracked X (srv k) (loaded sys.shared.value k) (sys.tasks k)

/-- The system with another state of one fetcher, and another store. -/
def System.put (sys : System X) (k : Component) (t : Task) (s : PolicyStore X) : System X :=
  ⟨Function.update sys.tasks k t, ⟨s, false⟩⟩

@[simp] theorem put_task (sys : System X) (k : Component) (t : Task) (s : PolicyStore X) :
    (sys.put k t s).tasks k = t := Function.update_self ..

theorem put_other (sys : System X) {k j : Component} (t : Task) (s : PolicyStore X)
    (h : j ≠ k) : (sys.put k t s).tasks j = sys.tasks j := Function.update_of_ne h ..

/-- What the turn of a component's fetcher did: it believed a "not modified",
    adopted the server's validators, found its document unchanged or new, was
    refused by strict mode, or applied its document. -/
inductive Turned (mode : SchemaValidationMode) (srv : Remotes) (ls : X.LabelSet)
    (sys : System X) (k : Component) :
    Option (Except FetchError Unit) → System X → Prop where
  | believed (hp : (sys.tasks k).phase = .idle)
      (hnm : (srv k).origin.notModified (sys.tasks k).fetcher.validators () = true) :
      Turned mode srv ls sys k (some (.ok ())) (sys.put k (sys.tasks k) sys.shared.value)
  | asked (hp : (sys.tasks k).phase = .idle)
      (hnm : (srv k).origin.notModified (sys.tasks k).fetcher.validators () = false)
      (f : GenericFetcher) (hh : f.hash = (sys.tasks k).fetcher.hash)
      (hv : f.validators = (srv k).origin.validators ()) :
      Turned mode srv ls sys k none (sys.put k ⟨f, .headDone⟩ sys.shared.value)
  | unchanged (hp : (sys.tasks k).phase = .headDone)
      (hl : loaded sys.shared.value k = true) :
      Turned mode srv ls sys k (some (.ok ()))
        (sys.put k ⟨(sys.tasks k).fetcher, .idle⟩ sys.shared.value)
  | changed (hp : (sys.tasks k).phase = .headDone)
      (hl : loaded sys.shared.value k = false) :
      Turned mode srv ls sys k none (sys.put k ⟨(sys.tasks k).fetcher,
        .bodyRead (document srv k) (makeHash X (document srv k))⟩ sys.shared.value)
  | refused (body newHash : String) (hp : (sys.tasks k).phase = .bodyRead body newHash)
      (hk : k = .policies)
      (hblocked : mode = .strict ∧ loaded sys.shared.value .schema = false) (e : FetchError) :
      Turned mode srv ls sys k (some (.error e))
        (sys.put k ⟨(sys.tasks k).fetcher, .idle⟩ sys.shared.value)
  | applied (body newHash : String) (hp : (sys.tasks k).phase = .bodyRead body newHash)
      (hfree : ¬ (k = .policies ∧ mode = .strict ∧ loaded sys.shared.value .schema = false))
      (s' : PolicyStore X) (hst : Staged mode (document srv) ls s')
      (hl : ∀ j, loaded s' j = (loaded sys.shared.value j || decide (k = j))) :
      Turned mode srv ls sys k (some (.ok ())) (sys.put k
        ⟨{ (sys.tasks k).fetcher with hash := some (makeHash X (document srv k)) }, .idle⟩ s')

variable {srv : Remotes} {sys : System X}

theorem onHead_fixed (srv : Server Unit) (f : GenericFetcher) :
    (srv.origin.notModified f.validators () = true
        ∧ f.onHead (.ok (srv.answerHead () f.validators)) = (.ok false, f))
      ∨ ∃ f', srv.origin.notModified f.validators () = false
        ∧ f'.hash = f.hash ∧ f'.validators = srv.origin.validators ()
        ∧ f.onHead (.ok (srv.answerHead () f.validators)) = (.ok true, f') := by
  rw [Server.answerHead]
  cases hnm : srv.origin.notModified f.validators () with
  | true => exact Or.inl ⟨rfl, rfl⟩
  | false =>
      exact Or.inr ⟨{ f with
        etag := (srv.etag ()).bind HeaderValue.toStr
        lastModified := (srv.lastModified ()).bind HeaderValue.toStr }, rfl, rfl, rfl, rfl⟩

theorem onGet_fixed (f : GenericFetcher) (body : String) :
    f.onGet X (.ok ⟨200, .ok body⟩)
      = if f.hash = some (makeHash X body) then .ok none
        else .ok (some (body, makeHash X body)) := rfl

/-- **Every turn is one of these six.** -/
theorem advance_turned (hE : EmptyTextLaws X) {sch : X.CedarSchema}
    (hf : Fitting X (document srv) sch ls) (hb : BuildLaws X (document srv) sch ls)
    (hempty : ∃ e, X.newFromStr "" = .ok e) (h : Running mode srv ls sys) (turn : Turn) :
    Turned mode srv ls sys turn.1 (sys.advance srv turn).1 (sys.advance srv turn).2 := by
  obtain ⟨k, now⟩ := turn
  have ht := h.tracked k
  obtain ⟨tasks, ⟨s, poisoned⟩⟩ := sys
  have hp : poisoned = false := h.unpoisoned
  subst hp
  show Turned mode srv ls _ k
    ((tasks k).next (srv k) (k.adapter X) now ⟨s, false⟩).1
    ⟨Function.update tasks k ((tasks k).next (srv k) (k.adapter X) now ⟨s, false⟩).2.1,
      ((tasks k).next (srv k) (k.adapter X) now ⟨s, false⟩).2.2⟩
  rw [Task.next]
  cases hphase : (tasks k).phase with
  | idle =>
      dsimp only
      rcases onHead_fixed (srv k) (tasks k).fetcher with ⟨hnm, hhead⟩ | ⟨f, hnm, hh, hv, hhead⟩
      · have hsame : (⟨(tasks k).fetcher, .idle⟩ : Task) = tasks k := by rw [← hphase]
        rw [hhead]
        dsimp only
        rw [hsame]
        exact .believed hphase hnm
      · rw [hhead]
        exact .asked hphase hnm f hh hv
  | headDone =>
      -- the hash is that of the document, once it is loaded
      dsimp only
      rw [onGet_fixed, ht.hash]
      cases hl : loaded s k with
      | true =>
          rw [if_pos rfl, if_pos rfl]
          exact .unchanged hphase hl
      | false =>
          rw [if_neg Bool.false_ne_true, if_neg (Option.some_ne_none _).symm]
          exact .changed hphase hl
  | bodyRead body newHash =>
      obtain ⟨hbody, hhash, hno⟩ := ht.reading body newHash hphase
      subst hbody hhash
      dsimp only [GenericFetcher.onApply]
      rw [adapter_apply]
      by_cases hblocked : k = .policies ∧ mode = .strict ∧ loaded s .schema = false
      · obtain ⟨rfl, hblocked⟩ := hblocked
        rw [Component.reload_eq_update]
        obtain ⟨e, hrun⟩ := update_refused hE hf h.staged.holds now ((srv .policies).body ())
          none none hblocked
        rw [hrun]
        exact .refused _ _ hphase rfl hblocked _
      · obtain ⟨s', hrun⟩ := update_succeeds hE hf hb hempty h.staged.holds k now none
          none (fun hk hc => hblocked ⟨hk, hc⟩)
        rw [← Component.reload_eq_update] at hrun
        have hok : StepOk s (k.reload now (document srv k)) s' :=
          stepOk_of_ok h.staged.usable hrun
        obtain ⟨hst, hl⟩ := staged_applied hf h.staged hok
        have hrun' : (k.reload now ((srv k).body ())).step s = (.ok .done, s') := hrun
        rw [hrun']
        exact .applied _ _ hphase hblocked _ hst hl

/-! ## Invariants of a run -/

variable {k : Component} {r : Option (Except FetchError Unit)} {sys' : System X}

/-- A turn that keeps the others' documents keeps the others. -/
theorem running_put (h : Running mode srv ls sys) {t : Task} {s' : PolicyStore X}
    (hst : Staged mode (document srv) ls s')
    (hl : ∀ j, j ≠ k → loaded s' j = loaded sys.shared.value j)
    (ht : Tracked X (srv k) (loaded s' k) t) : Running mode srv ls (sys.put k t s') := by
  refine ⟨rfl, hst, ?_⟩
  intro j
  show Tracked X (srv j) (loaded s' j) ((sys.put k t s').tasks j)
  by_cases hj : j = k
  · subst hj
    rw [put_task]
    exact ht
  · rw [put_other _ _ _ hj, hl j hj]
    exact h.tracked j

theorem running_turned (h : Running mode srv ls sys) (ht : Turned mode srv ls sys k r sys') :
    Running mode srv ls sys' := by
  have hk := h.tracked k
  -- past the HEAD, the fetcher holds the validators of its server
  have hadopted : (sys.tasks k).phase ≠ .idle →
      (sys.tasks k).fetcher.validators = (srv k).origin.validators () := by
    intro hp
    rcases hk.validators with hv | ⟨hidle, _⟩
    · exact hv
    · exact absurd hidle hp
  cases ht with
  | believed hp hnm => exact running_put h h.staged (fun _ _ => rfl) hk
  | asked hp hnm f hh hv =>
      exact running_put h h.staged (fun _ _ => rfl)
        ⟨hh.trans hk.hash, Or.inl hv, (fun _ _ hread => nomatch hread)⟩
  | unchanged hp hl =>
      exact running_put h h.staged (fun _ _ => rfl)
        ⟨hk.hash, Or.inl (hadopted (by rw [hp]; exact nofun)), (fun _ _ hread => nomatch hread)⟩
  | changed hp hl =>
      refine running_put h h.staged (fun _ _ => rfl)
        ⟨hk.hash, Or.inl (hadopted (by rw [hp]; exact nofun)), ?_⟩
      intro body newHash hread
      cases hread
      exact ⟨rfl, rfl, hl⟩
  | refused body newHash hp hpol hblocked e =>
      exact running_put h h.staged (fun _ _ => rfl)
        ⟨hk.hash, Or.inl (hadopted (by rw [hp]; exact nofun)), (fun _ _ hread => nomatch hread)⟩
  | applied body newHash hp hfree s' hst hl =>
      have hself : loaded s' k = true := by
        rw [hl, decide_eq_true rfl, Bool.or_true]
      refine running_put h hst ?_ ⟨?_, ?_, (fun _ _ hread => nomatch hread)⟩
      · intro j hj
        rw [hl, decide_eq_false (fun h0 => hj h0.symm), Bool.or_false]
      · rw [hself]
        rfl
      · exact Or.inl (hadopted (by rw [hp]; exact nofun))

/-- What is loaded stays loaded. -/
theorem loaded_turned (ht : Turned mode srv ls sys k r sys') {j : Component}
    (hj : loaded sys.shared.value j = true) : loaded sys'.shared.value j = true := by
  cases ht with
  | applied body newHash hp hfree s' hst hl =>
      show loaded s' j = true
      rw [hl, hj, Bool.true_or]
  | _ => exact hj

/-- A fetcher between polls that would be answered "not modified" has its
    document. -/
def Believable (srv : Remotes) (sys : System X) (k : Component) : Prop :=
  (sys.tasks k).phase = .idle →
    (srv k).origin.notModified (sys.tasks k).fetcher.validators () = true →
    loaded sys.shared.value k = true

/-- The policy fetcher is about to apply its document, and the store has no
    schema. -/
def Premature (sys : System X) : Prop :=
  (∃ body newHash, (sys.tasks .policies).phase = .bodyRead body newHash)
    ∧ loaded sys.shared.value .schema = false

/-- **Every turn keeps the fetchers believable**, unless strict mode refuses
    policies that come with validators. -/
theorem believable_turned (ht : Turned mode srv ls sys k r sys')
    (hok : mode = .permissive ∨ (srv .policies).origin.validators () = Validators.absent
      ∨ (k = .policies → ¬ Premature sys))
    (hv : ∀ j, (sys.tasks j).phase ≠ .idle →
      (sys.tasks j).fetcher.validators = (srv j).origin.validators ())
    (hb : ∀ j, Believable srv sys j) : ∀ j, Believable srv sys' j := by
  intro j hidle hnm
  by_cases hj : j = k
  · subst hj
    cases ht with
    | believed hp hnm' => exact hb j hp hnm'
    | asked hp hnm f hh hv' =>
        rw [put_task] at hidle
        exact nomatch hidle
    | unchanged hp hl => exact hl
    | changed hp hl =>
        rw [put_task] at hidle
        exact nomatch hidle
    | refused body newHash hp hpol hblocked e =>
        -- the fetcher has adopted the validators, and goes back to waiting
        rcases hok with hperm | habs | hready
        · rw [hperm] at hblocked
          exact nomatch hblocked.1
        · have hval : (sys.tasks j).fetcher.validators = (srv j).origin.validators () :=
            hv j (by rw [hp]; exact nofun)
          rw [put_task, show (⟨(sys.tasks j).fetcher, .idle⟩ : Task).fetcher.validators
            = _ from hval, hpol, habs, notModified_absent] at hnm
          exact nomatch hnm
        · subst hpol
          exact absurd ⟨⟨body, newHash, hp⟩, hblocked.2⟩ (hready rfl)
    | applied body newHash hp hfree s' hst hl =>
        show loaded s' j = true
        rw [hl, decide_eq_true rfl, Bool.or_true]
  · refine loaded_turned ht (hb j ?_ ?_)
    · cases ht <;> exact (congrArg Task.phase (put_other sys _ _ hj)).symm.trans hidle
    · cases ht <;> rwa [put_other sys _ _ hj] at hnm

/-- A poll that ends with a schema loaded has its document applied. -/
theorem loaded_of_complete (ht : Turned mode srv ls sys k r sys')
    (hb : Believable srv sys k) (hschema : loaded sys.shared.value .schema = true)
    (hr : r ≠ none) : loaded sys'.shared.value k = true := by
  cases ht with
  | believed hp hnm => exact hb hp hnm
  | asked hp hnm f hh hv => exact absurd rfl hr
  | unchanged hp hl => exact hl
  | changed hp hl => exact absurd rfl hr
  | refused body newHash hp hpol hblocked e =>
      rw [hschema] at hblocked
      exact nomatch hblocked.2
  | applied body newHash hp hfree s' hst hl =>
      show loaded s' k = true
      rw [hl, decide_eq_true rfl, Bool.or_true]

/-! ## The refused policies -/

/-- The policy fetcher has adopted the validators of a document that is not
    loaded. -/
structure Stuck (srv : Remotes) (sys : System X) : Prop where
  idle : (sys.tasks .policies).phase = .idle
  answered : (srv .policies).origin.notModified
    (sys.tasks .policies).fetcher.validators () = true
  missing : loaded sys.shared.value .policies = false

theorem stuck_turned_self (ht : Turned mode srv ls sys .policies r sys')
    (h : Stuck srv sys) : Stuck srv sys' := by
  have hidle := h.idle
  cases ht with
  | believed hp hnm =>
      refine ⟨?_, ?_, h.missing⟩
      · rw [put_task]
        exact hp
      · rw [put_task]
        exact hnm
  | asked hp hnm f hh hv =>
      rw [h.answered] at hnm
      exact nomatch hnm
  | unchanged hp hl => exact nomatch hidle.symm.trans hp
  | changed hp hl => exact nomatch hidle.symm.trans hp
  | refused body newHash hp hpol hblocked e => exact nomatch hidle.symm.trans hp
  | applied body newHash hp hfree s' hst hl => exact nomatch hidle.symm.trans hp

/-- **No turn ever frees a stuck fetcher.** -/
theorem stuck_turned (ht : Turned mode srv ls sys k r sys') (h : Stuck srv sys) :
    Stuck srv sys' := by
  by_cases hk : k = .policies
  · subst hk
    exact stuck_turned_self ht h
  · have hne : Component.policies ≠ k := fun h0 => hk h0.symm
    refine ⟨?_, ?_, ?_⟩
    · cases ht <;> rw [put_other sys _ _ hne] <;> exact h.idle
    · cases ht <;> rw [put_other sys _ _ hne] <;> exact h.answered
    · cases ht with
      | applied body newHash hp hfree s' hst hl =>
          show loaded s' .policies = false
          rw [hl, decide_eq_false hk, Bool.or_false, h.missing]
      | _ => exact h.missing

/-- A premature application in strict mode leaves the fetcher stuck. -/
theorem stuck_of_premature (h : Running mode srv ls sys)
    (ht : Turned mode srv ls sys .policies r sys') (hstrict : mode = .strict)
    (hv : (srv .policies).origin.validators () ≠ Validators.absent) (hp : Premature sys) :
    Stuck srv sys' := by
  obtain ⟨⟨body, newHash, hphase⟩, hschema⟩ := hp
  have hmissing : loaded sys.shared.value .policies = false :=
    ((h.tracked .policies).reading body newHash hphase).2.2
  have hval : (sys.tasks .policies).fetcher.validators = (srv .policies).origin.validators () := by
    rcases (h.tracked .policies).validators with hval | ⟨hidle, _⟩
    · exact hval
    · exact nomatch hidle.symm.trans hphase
  cases ht with
  | believed hp hnm => exact nomatch hp.symm.trans hphase
  | asked hp hnm f hh hv => exact nomatch hp.symm.trans hphase
  | unchanged hp hl => exact nomatch hp.symm.trans hphase
  | changed hp hl => exact nomatch hp.symm.trans hphase
  | refused body newHash hp hpol hblocked e =>
      refine ⟨?_, ?_, hmissing⟩
      · rw [put_task]
      · rw [put_task, notModified_iff]
        exact ⟨fun habs => hv (hval.symm.trans habs), hval⟩
  | applied body newHash hp hfree s' hst hl => exact absurd ⟨rfl, hstrict, hschema⟩ hfree

/-! ## Whole runs -/

theorem running_start {now : Timestamp} {s₀ : PolicyStore X}
    (hnew : PolicyStore.new X now = .ok s₀) (mode : SchemaValidationMode)
    (sources : Component → Endpoint × UInt64) (srv : Remotes) (ls : X.LabelSet) :
    Running mode srv ls (System.start s₀ mode sources) := by
  obtain ⟨engine, _, rfl⟩ := new_eq hnew
  refine ⟨rfl, ⟨⟨rfl, rfl⟩, rfl, rfl, ?_, ?_, rfl⟩, ?_⟩
  · intro k
    cases k <;> rfl
  · intro k
    cases k <;> rfl
  · intro k
    refine ⟨?_, Or.inr ⟨rfl, rfl⟩, (fun _ _ hread => nomatch hread)⟩
    cases k <;> rfl

/-- The component's fetcher ends a poll somewhere in these turns. -/
def CompletesPoll (srv : Remotes) (k : Component) (turns : List Turn) (sys : System X) : Prop :=
  ∃ pre now post, turns = pre ++ (k, now) :: post
    ∧ ((final (System.advance srv) pre sys).advance srv (k, now)).1 ≠ none

/-- A running system whose fetchers are all believable. -/
structure Sound (mode : SchemaValidationMode) (srv : Remotes) (ls : X.LabelSet)
    (sys : System X) : Prop where
  running : Running mode srv ls sys
  believable : ∀ k, Believable srv sys k

section Runs

variable (hE : EmptyTextLaws X) (hf : Fitting X (document srv) sch ls)
  (hb : BuildLaws X (document srv) sch ls) (hempty : ∃ e, X.newFromStr "" = .ok e)

include hE hf hb hempty

theorem sound_advance (h : Sound mode srv ls sys) (turn : Turn)
    (hok : mode = .permissive ∨ (srv .policies).origin.validators () = Validators.absent
      ∨ (turn.1 = .policies → ¬ Premature sys)) :
    Sound mode srv ls (sys.advance srv turn).2 := by
  have hturned := advance_turned hE hf hb hempty h.running turn
  refine ⟨running_turned h.running hturned, believable_turned hturned hok ?_ h.believable⟩
  intro j hp
  rcases (h.running.tracked j).validators with hv | ⟨hidle, _⟩
  · exact hv
  · exact absurd hidle hp

/-- With a schema loaded nothing is premature, so every turn is sound. -/
theorem sound_final (h : Sound mode srv ls sys)
    (hschema : loaded sys.shared.value .schema = true) (turns : List Turn) :
    Sound mode srv ls (final (System.advance srv) turns sys)
      ∧ ∀ j, loaded sys.shared.value j = true →
        loaded (final (System.advance srv) turns sys).shared.value j = true := by
  induction turns generalizing sys with
  | nil => exact ⟨h, fun _ hj => hj⟩
  | cons turn turns ih =>
      have hturned := advance_turned hE hf hb hempty h.running turn
      have hnext : Sound mode srv ls (sys.advance srv turn).2 :=
        sound_advance hE hf hb hempty h turn
          (Or.inr (Or.inr fun _ hp => nomatch hp.2.symm.trans hschema))
      obtain ⟨hsound, hkeep⟩ := ih hnext (loaded_turned hturned hschema)
      exact ⟨hsound, fun j hj => hkeep j (loaded_turned hturned hj)⟩

/-- After the schema, a completed poll means a loaded document. -/
theorem loaded_of_completesPoll (h : Sound mode srv ls sys)
    (hschema : loaded sys.shared.value .schema = true) {turns : List Turn}
    (hpoll : CompletesPoll srv k turns sys) :
    loaded (final (System.advance srv) turns sys).shared.value k = true := by
  obtain ⟨pre, now, post, rfl, hr⟩ := hpoll
  obtain ⟨hmid, hkeep⟩ := sound_final hE hf hb hempty h hschema pre
  have hturned := advance_turned hE hf hb hempty hmid.running (k, now)
  have hmidSchema := hkeep .schema hschema
  have hk := loaded_of_complete hturned (hmid.believable k) hmidSchema hr
  have hafter : Sound mode srv ls ((final (System.advance srv) pre sys).advance srv (k, now)).2 :=
    sound_advance hE hf hb hempty hmid (k, now)
      (Or.inr (Or.inr fun _ hp => nomatch hp.2.symm.trans hmidSchema))
  rw [final_append]
  exact (sound_final hE hf hb hempty hafter (loaded_turned hturned hmidSchema) post).2 k hk

/-- A stuck fetcher stays stuck. -/
theorem stuck_final (h : Running mode srv ls sys) (hstuck : Stuck srv sys)
    (turns : List Turn) : Stuck srv (final (System.advance srv) turns sys) := by
  induction turns generalizing sys with
  | nil => exact hstuck
  | cons turn turns ih =>
      have hturned := advance_turned hE hf hb hempty h turn
      exact ih (running_turned h hturned) (stuck_turned hturned hstuck)

theorem running_final (h : Running mode srv ls sys) (turns : List Turn) :
    Running mode srv ls (final (System.advance srv) turns sys) :=
  final_induct (Running mode srv ls) (fun _ => True)
    (fun _ turn hs _ => running_turned hs (advance_turned hE hf hb hempty hs turn))
    turns sys (fun _ _ => trivial) h

/-- Where the policies were about to be applied too early, they stay missing. -/
theorem missing_of_premature (h : Running mode srv ls sys) (hstrict : mode = .strict)
    (hv : (srv .policies).origin.validators () ≠ Validators.absent)
    {before after : List Turn} {at' : Timestamp}
    (hp : Premature (final (System.advance srv) before sys)) :
    loaded (final (System.advance srv) (before ++ (.policies, at') :: after) sys).shared.value
      .policies = false := by
  have hbefore := running_final hE hf hb hempty h before
  have hturned := advance_turned hE hf hb hempty hbefore (.policies, at')
  have hstuck := stuck_of_premature hbefore hturned hstrict hv hp
  rw [final_append]
  exact (stuck_final hE hf hb hempty (running_turned hbefore hturned) hstuck after).missing

/-- A run whose turns are all harmless is sound. -/
theorem sound_run (h : Sound mode srv ls sys) (turns : List Turn)
    (hok : mode = .permissive ∨ (srv .policies).origin.validators () = Validators.absent
      ∨ ∀ before at' after, turns = before ++ (.policies, at') :: after →
        ¬ Premature (final (System.advance srv) before sys)) :
    Sound mode srv ls (final (System.advance srv) turns sys) := by
  refine final_induct_guarded (Sound mode srv ls)
    (fun sys turn => mode = .permissive
      ∨ (srv .policies).origin.validators () = Validators.absent
      ∨ (turn.1 = .policies → ¬ Premature sys))
    (fun _ turn hs hq => sound_advance hE hf hb hempty hs turn hq) turns _ ?_ h
  rintro before ⟨k, at'⟩ after hsplit
  refine hok.imp id (Or.imp id fun hnever hk => ?_)
  subst hk
  exact hnever before at' after hsplit

end Runs

/-- Nothing has been asked yet, so no answer is believed. -/
theorem sound_start {now : Timestamp} {s₀ : PolicyStore X}
    (hnew : PolicyStore.new X now = .ok s₀) (mode : SchemaValidationMode)
    (sources : Component → Endpoint × UInt64) (srv : Remotes) (ls : X.LabelSet) :
    Sound mode srv ls (System.start s₀ mode sources) := by
  refine ⟨running_start hnew mode sources srv ls, ?_⟩
  intro k _ hnm
  have habs : ((System.start s₀ mode sources).tasks k).fetcher.validators
      = Validators.absent := rfl
  rw [habs, notModified_absent] at hnm
  exact nomatch hnm

/-- A schema in force has been loaded: the empty text is no schema. -/
theorem schema_loaded (hE : EmptyTextLaws X) (hf : Fitting X (document srv) sch ls)
    (h : Running mode srv ls sys)
    (hschema : contentOf sys.shared.value .schema = document srv .schema) :
    loaded sys.shared.value .schema = true := by
  cases hl : loaded sys.shared.value .schema with
  | true => rfl
  | false =>
      rw [h.staged.content .schema, hl] at hschema
      have hparse := hf.schema_parses
      rw [← hschema] at hparse
      exact absurd hparse (hE.schema_empty sch)

/-- **START-UP**: once the schema is loaded and every fetcher has completed a
    poll after that, everything is applied and the service is ready, exactly
    when the store is permissive, or the policies come without validators, or
    they were never about to be applied before there was a schema. -/
theorem startup_exact (hE : EmptyTextLaws X) {srv : Remotes} {sch : X.CedarSchema}
    {ls : X.LabelSet} (hf : Fitting X (document srv) sch ls)
    (hb : BuildLaws X (document srv) sch ls) {now : Timestamp} {s₀ : PolicyStore X}
    (hnew : PolicyStore.new X now = .ok s₀) (mode : SchemaValidationMode)
    (sources : Component → Endpoint × UInt64) (pre post : List Turn)
    (hschema : contentOf (final (System.advance srv) pre
      (System.start s₀ mode sources)).shared.value .schema = document srv .schema)
    (hpolls : ∀ k, CompletesPoll srv k post
      (final (System.advance srv) pre (System.start s₀ mode sources))) :
    ((∀ k, contentOf (final (System.advance srv) (pre ++ post)
          (System.start s₀ mode sources)).shared.value k = document srv k)
        ∧ configuredSourcesLoaded (final (System.advance srv) (pre ++ post)
          (System.start s₀ mode sources)).shared.value = true)
      ↔ mode = .permissive ∨ (srv .policies).origin.validators () = Validators.absent
        ∨ ∀ before at' after, pre = before ++ (.policies, at') :: after →
          ¬ Premature (final (System.advance srv) before (System.start s₀ mode sources)) := by
  have hempty : ∃ e, X.newFromStr "" = .ok e := by
    obtain ⟨e, he, _⟩ := new_eq hnew
    exact ⟨e, he⟩
  have hstart : Sound mode srv ls (System.start s₀ mode sources) :=
    sound_start hnew mode sources srv ls
  have hmid := running_final hE hf hb hempty hstart.running pre
  have hend := running_final hE hf hb hempty hstart.running (pre ++ post)
  have hloaded := schema_loaded hE hf hmid hschema
  constructor
  · rintro ⟨_, hready⟩
    have hall := (staged_ready_iff hend.staged).mp hready
    by_cases hperm : mode = .permissive
    · exact Or.inl hperm
    · by_cases habs : (srv .policies).origin.validators () = Validators.absent
      · exact Or.inr (Or.inl habs)
      · -- a premature turn would leave the policies missing to the end
        refine Or.inr (Or.inr ?_)
        intro before at' after hsplit hprem
        have hstrict : mode = .strict := by
          cases mode with
          | strict => rfl
          | permissive => exact absurd rfl hperm
        have hmissing : loaded (final (System.advance srv)
            (before ++ (.policies, at') :: (after ++ post))
            (System.start s₀ mode sources)).shared.value .policies = false :=
          missing_of_premature hE hf hb hempty hstart.running hstrict habs hprem
        rw [← List.cons_append, ← List.append_assoc, ← hsplit, hall .policies] at hmissing
        exact nomatch hmissing
  · intro hok
    have hsound := sound_run hE hf hb hempty hstart pre hok
    have hall : ∀ k, loaded (final (System.advance srv) (pre ++ post)
        (System.start s₀ mode sources)).shared.value k = true := by
      intro k
      rw [final_append]
      exact loaded_of_completesPoll hE hf hb hempty hsound hloaded (hpolls k)
    refine ⟨?_, (staged_ready_iff hend.staged).mpr hall⟩
    intro k
    rw [hend.staged.content k, hall k]
    rfl

/-! ## Policies first -/

open TreetopSample

/-- The three documents, each under an entity tag. -/
def taggedServers : Remotes := fun k =>
  { body := fun _ => match k with
      | .policies => permitAll
      | .labels => photoLabels
      | .schema => photoSchema
    etag := fun _ => some ⟨[34, 49, 34]⟩
    lastModified := fun _ => none }

theorem document_taggedServers : document taggedServers = photoDocuments := by
  funext k
  cases k <;> rfl

/-- The order in which `main` spawns the fetchers, each polling once. -/
def inSpawnOrder : List Turn :=
  [(.policies, 1), (.policies, 2), (.policies, 3), (.labels, 4), (.labels, 5), (.labels, 6),
    (.schema, 7), (.schema, 8), (.schema, 9)]

/-- Every fetcher's next poll is answered "not modified". -/
def secondRound : List Turn := [(.policies, 10), (.labels, 11), (.schema, 12)]

/-- Every fetcher asks for its document once a minute. -/
def minutely : Component → Endpoint × UInt64 := fun _ => (⟨"u"⟩, 60)

theorem secondRound_completes (k : Component) : CompletesPoll taggedServers k secondRound
    (final (System.advance taggedServers) inSpawnOrder
      (System.start fresh .strict minutely)) := by
  cases k with
  | policies => exact ⟨[], 10, _, rfl, by decide +kernel⟩
  | labels => exact ⟨[(.policies, 10)], 11, _, rfl, by decide +kernel⟩
  | schema => exact ⟨[(.policies, 10), (.labels, 11)], 12, _, rfl, by decide +kernel⟩

theorem inSpawnOrder_schema :
    contentOf (final (System.advance taggedServers) inSpawnOrder
        (System.start fresh .strict minutely)).shared.value .schema
      = document taggedServers .schema := by decide +kernel

/-- The criterion for two rounds of polls in spawn order. -/
theorem startup_exact_small :
    ((∀ k, contentOf (final (System.advance taggedServers) (inSpawnOrder ++ secondRound)
          (System.start fresh .strict minutely)).shared.value k = document taggedServers k)
        ∧ configuredSourcesLoaded (final (System.advance taggedServers)
          (inSpawnOrder ++ secondRound) (System.start fresh .strict minutely)).shared.value = true)
      ↔ SchemaValidationMode.strict = .permissive
        ∨ (taggedServers .policies).origin.validators () = Validators.absent
        ∨ ∀ before at' after, inSpawnOrder = before ++ (.policies, at') :: after →
          ¬ Premature (final (System.advance taggedServers) before
            (System.start fresh .strict minutely)) :=
  startup_exact emptyTextLaws_small (document_taggedServers ▸ fitting_small)
    (document_taggedServers ▸ buildLaws_small) new_fresh .strict minutely
    inSpawnOrder secondRound inSpawnOrder_schema secondRound_completes

/-- **POLICIES FIRST** under strict validation: the schema is loaded, every
    fetcher completes another poll, and the policies are still missing. -/
theorem policies_never_loaded :
    contentOf (final (System.advance taggedServers) inSpawnOrder
        (System.start fresh .strict minutely)).shared.value .schema
      = document taggedServers .schema
    ∧ (∀ k, CompletesPoll taggedServers k secondRound
      (final (System.advance taggedServers) inSpawnOrder
        (System.start fresh .strict minutely)))
    ∧ ¬ ((∀ k, contentOf (final (System.advance taggedServers) (inSpawnOrder ++ secondRound)
          (System.start fresh .strict minutely)).shared.value k = document taggedServers k)
        ∧ configuredSourcesLoaded (final (System.advance taggedServers)
          (inSpawnOrder ++ secondRound)
          (System.start fresh .strict minutely)).shared.value = true) := by
  refine ⟨inSpawnOrder_schema, secondRound_completes, ?_⟩
  rintro ⟨_, hready⟩
  exact absurd hready (by decide +kernel)

end TreetopStartup
