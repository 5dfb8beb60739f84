import Mathlib.Tactic.Common

/-! # Fallible state programs — running them and what a rejection leaves behind

    A program over a mutable state that may stop with an error, in the order
    in which an imperative language stacks the two effects: the state written
    before the error SURVIVES the error.  `exec` runs such a program; the
    lemmas here take a program apart one statement at a time, so that a proof
    about a long program never unfolds the monad. -/

namespace FallibleState

variable {σ ε α β : Type}

/-- Programs over a state `σ` that fail with an `ε` and keep the state they
    reached when they fail. -/
abbrev Prog (σ ε α : Type) := ExceptT ε (StateM σ) α

/-- Run a program: its result, and the state it leaves. -/
def exec (m : Prog σ ε α) (s : σ) : Except ε α × σ := m.run.run s

@[simp] theorem exec_modify (f : σ → σ) (s : σ) :
    exec (modify f : Prog σ ε PUnit) s = (.ok ⟨⟩, f s) := rfl

@[simp] theorem exec_lift (x : Except ε α) (s : σ) :
    exec (liftM x : Prog σ ε α) s = (x, s) := by
  cases x <;> rfl

/-- A sequence runs its continuation exactly where the first part succeeds. -/
theorem exec_bind (m : Prog σ ε α) (f : α → Prog σ ε β) (s : σ) :
    exec (m >>= f) s = match exec m s with
      | (.ok a, s') => exec (f a) s'
      | (.error e, s') => (.error e, s') := by
  show exec (ExceptT.bind m f) s = _
  cases h : exec m s with
  | mk r s' =>
      have h' : (m.run s : Except ε α × σ) = (r, s') := h
      cases r with
      | ok a =>
          show (StateT.bind m (ExceptT.bindCont f) s : Except ε β × σ) = _
          simp only [StateT.bind, Id, bind]
          rw [show (m s : Except ε α × σ) = (.ok a, s') from h']
          rfl
      | error e =>
          show (StateT.bind m (ExceptT.bindCont f) s : Except ε β × σ) = _
          simp only [StateT.bind, Id, bind]
          rw [show (m s : Except ε α × σ) = (.error e, s') from h']
          rfl

@[simp] theorem exec_bind_get (f : σ → Prog σ ε β) (s : σ) :
    exec (get >>= f) s = exec (f s) s := by
  rw [exec_bind]; rfl

@[simp] theorem exec_bind_modify (g : σ → σ) (f : PUnit → Prog σ ε β) (s : σ) :
    exec (modify g >>= f) s = exec (f ⟨⟩) (g s) := by
  rw [exec_bind]; rfl

@[simp] theorem exec_bind_lift_ok (a : α) (f : α → Prog σ ε β) (s : σ) :
    exec ((liftM (Except.ok a : Except ε α) : Prog σ ε α) >>= f) s = exec (f a) s := by
  rw [exec_bind, exec_lift]

@[simp] theorem exec_bind_lift_error (e : ε) (f : α → Prog σ ε β) (s : σ) :
    exec ((liftM (Except.error e : Except ε α) : Prog σ ε α) >>= f) s
      = (.error e, s) := by
  rw [exec_bind, exec_lift]

/-- What follows a lifted result is compared where the result is a success. -/
theorem exec_bind_lift_congr {x : Except ε α} {f g : α → Prog σ ε β} {s : σ}
    (h : ∀ a, x = .ok a → exec (f a) s = exec (g a) s) :
    exec ((liftM x : Prog σ ε α) >>= f) s = exec ((liftM x : Prog σ ε α) >>= g) s := by
  cases x with
  | ok a =>
      rw [exec_bind_lift_ok, exec_bind_lift_ok]
      exact h a rfl
  | error e => rw [exec_bind_lift_error, exec_bind_lift_error]

/-- Lifting a sequence of results lifts its parts. -/
theorem exec_bind_lift_bind {γ : Type} (x : Except ε γ) (y : γ → Except ε α)
    (f : α → Prog σ ε β) (s : σ) :
    exec ((liftM (x >>= y) : Prog σ ε α) >>= f) s
      = exec ((liftM x : Prog σ ε γ) >>= fun c => (liftM (y c) : Prog σ ε α) >>= f) s := by
  cases x with
  | ok c =>
      rw [exec_bind_lift_ok]
      rfl
  | error e =>
      rw [exec_bind_lift_error]
      exact exec_bind_lift_error e f s

/-! ## Results without a state -/

variable {ε' : Type}

/-- A sequence of results succeeds exactly where every part does. -/
theorem bind_eq_ok {x : Except ε α} {f : α → Except ε β} {b : β} :
    x >>= f = .ok b ↔ ∃ a, x = .ok a ∧ f a = .ok b := by
  cases x with
  | ok a =>
      constructor
      · intro h
        exact ⟨a, rfl, h⟩
      · rintro ⟨a', ha, h⟩
        cases ha
        exact h
  | error e =>
      constructor
      · intro h
        exact nomatch h
      · rintro ⟨a, ha, _⟩
        exact nomatch ha

/-- A sequence of results fails where its first failing part does. -/
theorem bind_eq_error {x : Except ε α} {f : α → Except ε β} {e : ε} :
    x >>= f = .error e ↔ x = .error e ∨ ∃ a, x = .ok a ∧ f a = .error e := by
  cases x with
  | ok a =>
      constructor
      · intro h
        exact Or.inr ⟨a, rfl, h⟩
      · rintro (h | ⟨a', ha, h⟩)
        · cases h
        · cases ha
          exact h
  | error e' =>
      constructor
      · intro h
        cases h
        exact Or.inl rfl
      · rintro (h | ⟨a, ha, _⟩)
        · cases h
          rfl
        · cases ha

/-- A check in front of the rest: the rest runs where it does not apply. -/
theorem check_eq_ok {c : Prop} [Decidable c] {e : ε} {f : Unit → Except ε α} {a : α} :
    (if c then (throw e : Except ε Unit) >>= f else f ()) = .ok a ↔ ¬ c ∧ f () = .ok a := by
  by_cases hc : c
  · rw [if_pos hc]
    constructor
    · intro h
      cases h
    · intro h
      exact absurd hc h.1
  · rw [if_neg hc]
    constructor
    · intro h
      exact ⟨hc, h⟩
    · intro h
      exact h.2

/-- What is mapped is there before. -/
theorem map_eq_ok {ε α β : Type} {f : α → β} {x : Except ε α} {b : β} :
    x.map f = .ok b ↔ ∃ a, x = .ok a ∧ f a = b := by
  cases x with
  | error e => exact iff_of_false nofun nofun
  | ok a =>
      constructor
      · intro h
        exact ⟨a, rfl, Except.ok.inj h⟩
      · rintro ⟨_, ⟨⟩, rfl⟩
        rfl

/-- Translating the error leaves a success alone. -/
theorem mapError_eq_ok {x : Except ε α} {g : ε → ε'} {a : α} :
    x.mapError g = .ok a ↔ x = .ok a := by
  cases x with
  | ok a' =>
      constructor
      · intro h
        exact congrArg Except.ok (Except.ok.inj h)
      · intro h
        exact congrArg Except.ok (Except.ok.inj h)
  | error e =>
      constructor
      · intro h
        exact nomatch h
      · intro h
        exact nomatch h

theorem map_mapError (x : Except ε α) (f : ε → ε') (g : α → β) :
    (x.mapError f).map g = (x.map g).mapError f := by
  cases x <;> rfl

/-! ## All or nothing

    The triple of this style of program: it either rejects and has changed
    NOTHING, or it succeeds and the state it leaves is described.  The rules
    follow a program from its first statement: reads may fail, and from the
    first write on nothing may. -/

/-- From `s` the program rejects without a trace, or succeeds with `Q`. -/
def AllOrNothing (m : Prog σ ε α) (s : σ) (Q : α → σ → Prop) : Prop :=
  (∃ e, exec m s = (.error e, s)) ∨ (∃ a s', exec m s = (.ok a, s') ∧ Q a s')

variable {m : Prog σ ε α} {s : σ} {Q : α → σ → Prop}

theorem allOrNothing_of_ok {a : α} {s' : σ} (h : exec m s = (.ok a, s')) (hq : Q a s') :
    AllOrNothing m s Q := Or.inr ⟨a, s', h, hq⟩

/-- A fallible read: the rest may assume it succeeded. -/
theorem allOrNothing_bind_lift {x : Except ε β} {f : β → Prog σ ε α}
    (h : ∀ b, x = .ok b → AllOrNothing (f b) s Q) :
    AllOrNothing ((liftM x : Prog σ ε β) >>= f) s Q := by
  cases x with
  | ok b =>
      rw [AllOrNothing]
      rw [exec_bind_lift_ok]
      exact h b rfl
  | error e => exact Or.inl ⟨e, exec_bind_lift_error e f s⟩

theorem allOrNothing_bind_get {f : σ → Prog σ ε α} (h : AllOrNothing (f s) s Q) :
    AllOrNothing (get >>= f) s Q := by
  rw [AllOrNothing]
  rw [exec_bind_get]
  exact h

/-- A part that cannot fail, then the rest of the program, which must not. -/
theorem allOrNothing_bind_ok {m₁ : Prog σ ε β} {f : β → Prog σ ε α} {b : β} {s₁ : σ}
    {a : α} {s' : σ} (h1 : exec m₁ s = (.ok b, s₁)) (h2 : exec (f b) s₁ = (.ok a, s'))
    (hq : Q a s') : AllOrNothing (m₁ >>= f) s Q := by
  refine allOrNothing_of_ok ?_ hq
  rw [exec_bind, h1]
  exact h2

/-- An all-or-nothing part, then a rest that cannot fail where the part succeeds. -/
theorem AllOrNothing.bind {m₁ : Prog σ ε β} {f : β → Prog σ ε α} {P : β → σ → Prop}
    (h : AllOrNothing m₁ s P)
    (hrest : ∀ b s₁, P b s₁ → ∃ a s', exec (f b) s₁ = (.ok a, s') ∧ Q a s') :
    AllOrNothing (m₁ >>= f) s Q := by
  rcases h with ⟨e, hno⟩ | ⟨b, s₁, hrun, hp⟩
  · refine Or.inl ⟨e, ?_⟩
    rw [exec_bind, hno]
  · obtain ⟨a, s', hend, hq⟩ := hrest b s₁ hp
    exact allOrNothing_bind_ok hrun hend hq

/-- Weakening what is said about a success. -/
theorem AllOrNothing.imp {R : α → σ → Prop} (h : AllOrNothing m s Q)
    (hqr : ∀ a s', Q a s' → R a s') : AllOrNothing m s R := by
  rcases h with hno | ⟨a, s', hrun, hq⟩
  · exact Or.inl hno
  · exact Or.inr ⟨a, s', hrun, hqr a s' hq⟩

/-! ## Commits around a fallible cleanup

    An update checks, writes its commit, and cleans up behind it, and the
    cleanup may fail too.  What of the update can be SEEN after a failure is
    decided by the order of the last two: a commit that comes last leaves no
    trace of a failure, and one that comes first leaves itself. -/

variable {ν : Type} {view : σ → ν}

/-- The program changes nothing of what is seen, however it ends. -/
def Silent (view : σ → ν) (m : Prog σ ε α) : Prop := ∀ s, view (exec m s).2 = view s

/-- If the program fails from `s`, nothing of it is seen. -/
def FailsSilently (view : σ → ν) (m : Prog σ ε α) (s : σ) : Prop :=
  ∀ e s', exec m s = (.error e, s') → view s' = view s

/-- Only the run counts. -/
theorem failsSilently_congr {m m' : Prog σ ε α} {s : σ} (h : exec m s = exec m' s) :
    FailsSilently view m s ↔ FailsSilently view m' s := by
  rw [FailsSilently, FailsSilently, h]

theorem silent_lift (x : Except ε α) : Silent view (liftM x : Prog σ ε α) := by
  intro s
  rw [exec_lift]

theorem silent_modify {g : σ → σ} (hg : ∀ s, view (g s) = view s) :
    Silent view (modify g : Prog σ ε PUnit) := by
  intro s
  rw [exec_modify]
  exact hg s

theorem silent_bind {m₁ : Prog σ ε β} {f : β → Prog σ ε α} (hm : Silent view m₁)
    (hf : ∀ b, Silent view (f b)) : Silent view (m₁ >>= f) := by
  intro s
  rw [exec_bind]
  have hone := hm s
  cases hrun : exec m₁ s with
  | mk r s₁ =>
      rw [hrun] at hone
      cases r with
      | ok b => exact (hf b s₁).trans hone
      | error e => exact hone

theorem silent_bind_get {f : σ → Prog σ ε α} (hf : ∀ b, Silent view (f b)) :
    Silent view (get >>= f) :=
  silent_bind (fun _ => rfl) hf

/-- **COMMIT LAST**: a failure is a failure of the cleanup or of the checks. -/
theorem failsSilently_commit_last {cleanup : Prog σ ε β} {commit : σ → σ}
    (h : Silent view cleanup) (s : σ) :
    FailsSilently view (cleanup >>= fun _ => modify commit) s := by
  intro e s' hrun
  rw [exec_bind] at hrun
  have hone := h s
  cases hclean : exec cleanup s with
  | mk r s₁ =>
      rw [hclean] at hrun hone
      cases r with
      | ok b => exact nomatch congrArg Prod.fst hrun
      | error e' =>
          cases hrun
          exact hone

/-- **COMMIT FIRST**: nothing is seen of a failure exactly if the checks fail,
    or the cleanup succeeds, or nothing is seen of the commit itself. -/
theorem failsSilently_commit_first_iff {x : Except ε β} {commit : β → σ → σ}
    {cleanup : Prog σ ε α} (h : Silent view cleanup) (s : σ) :
    FailsSilently view
        ((liftM x : Prog σ ε β) >>= fun b => modify (commit b) >>= fun _ => cleanup) s
      ↔ ∀ b, x = .ok b →
        (exec cleanup (commit b s)).1.isOk = true ∨ view (commit b s) = view s := by
  cases x with
  | error e =>
      refine iff_of_true ?_ (fun _ hb => nomatch hb)
      intro e' s' hrun
      rw [exec_bind_lift_error] at hrun
      cases hrun
      rfl
  | ok b =>
      have hseen := h (commit b s)
      rw [FailsSilently, exec_bind_lift_ok, exec_bind_modify]
      cases hclean : exec cleanup (commit b s) with
      | mk r s₁ =>
          rw [hclean] at hseen
          cases r with
          | ok a =>
              refine iff_of_true (fun _ _ hrun => nomatch congrArg Prod.fst hrun) ?_
              rintro _ ⟨⟩
              refine Or.inl ?_
              rw [hclean]
              rfl
          | error e =>
              constructor
              · rintro hall _ ⟨⟩
                exact Or.inr (hseen.symm.trans (hall e s₁ rfl))
              · intro hall e' s' hrun
                cases hrun
                rcases hall b rfl with hok | hsame
                · rw [hclean] at hok
                  exact nomatch hok
                · exact hseen.trans hsame

/-! ## The errors that are raised

    What a result or a program can fail with, whatever the state: a sequence
    fails as one of its parts does. -/

variable {S : ε → Prop}

/-- Every error of the result is one of these. -/
def Raises (S : ε → Prop) (x : Except ε α) : Prop := ∀ e, x = .error e → S e

theorem raises_ok (a : α) : Raises S (.ok a) := nofun

theorem raises_error {e : ε} (h : S e) : Raises S (.error e : Except ε α) := by
  rintro _ ⟨⟩
  exact h

theorem Raises.imp {S' : ε → Prop} {x : Except ε α} (h : Raises S x) (hs : ∀ e, S e → S' e) :
    Raises S' x :=
  fun e he => hs e (h e he)

theorem Raises.bind {x : Except ε α} {f : α → Except ε β} (hx : Raises S x)
    (hf : ∀ a, Raises S (f a)) : Raises S (x >>= f) := by
  intro e h
  rcases bind_eq_error.mp h with he | ⟨a, _, he⟩
  · exact hx e he
  · exact hf a e he

theorem Raises.map {x : Except ε α} (h : Raises S x) (f : α → β) : Raises S (x.map f) := by
  cases x with
  | ok a => exact raises_ok _
  | error e => exact raises_error (h e rfl)

/-- A translated error is a translation. -/
theorem raises_mapError {x : Except ε' α} {g : ε' → ε} (h : ∀ e, S (g e)) :
    Raises S (x.mapError g) := by
  cases x with
  | ok a => exact raises_ok a
  | error e => exact raises_error (h e)

/-- A check in front of the rest. -/
theorem raises_check {c : Prop} [Decidable c] {e : ε} {f : Unit → Except ε α} (he : S e)
    (hf : Raises S (f ())) : Raises S (if c then (throw e : Except ε Unit) >>= f else f ()) := by
  by_cases hc : c
  · rw [if_pos hc]
    exact raises_error he
  · rw [if_neg hc]
    exact hf

theorem raises_mapM {f : α → Except ε β} (h : ∀ a, Raises S (f a)) (as : List α) :
    Raises S (as.mapM f) := by
  induction as with
  | nil => exact raises_ok _
  | cons a as ih =>
      rw [List.mapM_cons]
      exact (h a).bind fun b => ih.bind fun bs => raises_ok _

/-- Every error of the program, from whatever state, is one of these. -/
def ProgRaises (S : ε → Prop) (m : Prog σ ε α) : Prop := ∀ s, Raises S (exec m s).1

theorem progRaises_lift {x : Except ε α} (h : Raises S x) :
    ProgRaises S (liftM x : Prog σ ε α) := by
  intro s
  rw [exec_lift]
  exact h

theorem progRaises_modify (f : σ → σ) : ProgRaises S (modify f : Prog σ ε PUnit) :=
  fun _ => raises_ok _

theorem progRaises_pure (a : α) : ProgRaises S (pure a : Prog σ ε α) :=
  fun _ => raises_ok a

theorem ProgRaises.bind {m : Prog σ ε α} {f : α → Prog σ ε β} (hm : ProgRaises S m)
    (hf : ∀ a, ProgRaises S (f a)) : ProgRaises S (m >>= f) := by
  intro s
  rw [exec_bind]
  have hone := hm s
  cases hrun : exec m s with
  | mk r s' =>
      rw [hrun] at hone
      cases r with
      | ok a => exact hf a s'
      | error e => exact raises_error (hone e rfl)

theorem progRaises_bind_get {f : σ → Prog σ ε β} (hf : ∀ s, ProgRaises S (f s)) :
    ProgRaises S (get >>= f) :=
  ProgRaises.bind (fun _ => raises_ok _) hf

end FallibleState
