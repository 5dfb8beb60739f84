import Mathlib.Algebra.BigOperators.Group.List.Basic
import Mathlib.Tactic.Common

/-! # Interleaved tasks over a shared state

    Finitely many tasks take atomic steps on one shared state; a schedule
    names the task that moves next, and every list of names is one.  Four
    rules reduce a claim about all interleavings to one about one step:

    * an invariant of the shared state and of every task, if a step of one
      task does not disturb the others (`run_keeps`);
    * a simulation, if a step is a step of the other machine or none at all
      (`run_simulates`);
    * a conservation law, if a step moves between the shared state and its own
      task (`run_conserves`);
    * an end, if a step of a task is one less for it to take (`run_finishes`). -/

namespace Interleaving

variable {T S : Type}

/-- One step of the task at a position; where there is none, nothing happens. -/
def advance (step : T → S → T × S) (M : List T × S) (i : Nat) : List T × S :=
  match M.1[i]? with
  | none => M
  | some t => (M.1.set i (step t M.2).1, (step t M.2).2)

/-- The tasks and the shared state after a schedule. -/
def run (step : T → S → T × S) (schedule : List Nat) (M : List T × S) : List T × S :=
  schedule.foldl (advance step) M

variable {step : T → S → T × S}

/-- A step of a machine: of no task, or of one in the middle of the others. -/
theorem advance_cases (M : List T × S) (i : Nat) :
    advance step M i = M
      ∨ ∃ before t after, M.1 = before ++ t :: after ∧ before.length = i
        ∧ advance step M i = (before ++ (step t M.2).1 :: after, (step t M.2).2) := by
  rw [advance]
  cases ht : M.1[i]? with
  | none => exact Or.inl rfl
  | some t =>
      obtain ⟨hi, hget⟩ := List.getElem?_eq_some_iff.mp ht
      refine Or.inr ⟨M.1.take i, t, M.1.drop (i + 1), ?_, ?_, ?_⟩
      · rw [← hget, List.cons_getElem_drop_succ, List.take_append_drop]
      · rw [List.length_take]
        omega
      · dsimp only
        rw [List.set_eq_take_append_cons_drop, if_pos hi]

/-! ## Invariants -/

/-- The shared state and every task on it are as they should be. -/
structure Holds (shared : S → Prop) (own : S → T → Prop) (M : List T × S) : Prop where
  shared : shared M.2
  own : ∀ t ∈ M.1, own M.2 t

variable {shared : S → Prop} {own : S → T → Prop}

/-- What one step of one task keeps, its own part and that of every other. -/
def Undisturbed (step : T → S → T × S) (shared : S → Prop) (own : S → T → Prop) : Prop :=
  ∀ s t, shared s → own s t →
    shared (step t s).2 ∧ own (step t s).2 (step t s).1
      ∧ ∀ other, own s other → own (step t s).2 other

theorem advance_keeps (hstep : Undisturbed step shared own) {M : List T × S}
    (h : Holds shared own M) (i : Nat) : Holds shared own (advance step M i) := by
  rcases advance_cases M i with hsame | ⟨before, t, after, htasks, _, hnext⟩
  · rw [hsame]
    exact h
  · have ht : t ∈ M.1 := by
      rw [htasks]
      exact List.mem_append_right _ (List.mem_cons_self ..)
    obtain ⟨hshared, hown, hothers⟩ := hstep M.2 t h.shared (h.own t ht)
    rw [hnext]
    refine ⟨hshared, fun other hmem => ?_⟩
    rcases List.mem_append.mp hmem with hmem | hmem
    · refine hothers other (h.own other ?_)
      rw [htasks]
      exact List.mem_append_left _ hmem
    · rcases List.mem_cons.mp hmem with rfl | hmem
      · exact hown
      · refine hothers other (h.own other ?_)
        rw [htasks]
        exact List.mem_append_right _ (List.mem_cons_of_mem _ hmem)

/-- **INVARIANT RULE**. -/
theorem run_keeps (hstep : Undisturbed step shared own) (schedule : List Nat) :
    ∀ M : List T × S, Holds shared own M → Holds shared own (run step schedule M) := by
  induction schedule with
  | nil =>
      intro M h
      exact h
  | cons i schedule ih =>
      intro M h
      exact ih (advance step M i) (advance_keeps hstep h i)

/-- A machine-wide invariant, kept by every step of every task. -/
theorem run_induct {Inv : List T × S → Prop} (hstep : ∀ M i, Inv M → Inv (advance step M i))
    (schedule : List Nat) : ∀ M : List T × S, Inv M → Inv (run step schedule M) := by
  induction schedule with
  | nil =>
      intro M h
      exact h
  | cons i schedule ih =>
      intro M h
      exact ih (advance step M i) (hstep M i h)

/-! ## Simulation -/

variable {T' S' : Type} {step' : T' → S' → T' × S'} {α : T → T'} {β : S → S'}

/-- The machine seen through its tasks and its shared state. -/
def see (α : T → T') (β : S → S') (M : List T × S) : List T' × S' := (M.1.map α, β M.2)

theorem advance_simulates
    (hsim : ∀ s t, shared s → own s t →
      (α (step t s).1, β (step t s).2) = (α t, β s)
        ∨ (α (step t s).1, β (step t s).2) = step' (α t) (β s))
    {M : List T × S} (h : Holds shared own M) (i : Nat) :
    see α β (advance step M i) = see α β M
      ∨ see α β (advance step M i) = advance step' (see α β M) i := by
  rcases advance_cases M i with hsame | ⟨before, t, after, htasks, hlen, hnext⟩
  · exact Or.inl (congrArg (see α β) hsame)
  · have ht : t ∈ M.1 := by
      rw [htasks]
      exact List.mem_append_right _ (List.mem_cons_self ..)
    have hseen : (see α β M).1 = before.map α ++ α t :: after.map α := by
      show M.1.map α = _
      rw [htasks, List.map_append, List.map_cons]
    have hafter : see α β (advance step M i)
        = (before.map α ++ α (step t M.2).1 :: after.map α, β (step t M.2).2) := by
      rw [hnext, see, List.map_append, List.map_cons]
    rcases hsim M.2 t h.shared (h.own t ht) with hstutter | hstep
    · obtain ⟨htask, hshared⟩ := Prod.mk.inj hstutter
      refine Or.inl ?_
      rw [hafter, htask, hshared, ← hseen]
      rfl
    · obtain ⟨htask, hshared⟩ := Prod.mk.inj hstep
      refine Or.inr ?_
      have hget : (see α β M).1[i]? = some (α t) := by
        have hpos : i = (before.map α).length := by rw [List.length_map, hlen]
        rw [hseen, hpos, List.getElem?_append_right (Nat.le_refl _), Nat.sub_self,
          List.getElem?_cons_zero]
      have hset : (see α β M).1.set i (step' (α t) (β M.2)).1
          = before.map α ++ (step' (α t) (β M.2)).1 :: after.map α := by
        have hpos : i = (before.map α).length := by rw [List.length_map, hlen]
        rw [hseen, hpos, List.set_append_right _ _ (Nat.le_refl _), Nat.sub_self,
          List.set_cons_zero]
      rw [hafter, advance, hget]
      dsimp only
      rw [htask, hshared, ← hset]
      rfl

/-- **SIMULATION RULE**: the steps that are seen are a schedule of the other
    machine, in their order. -/
theorem run_simulates (hkeep : Undisturbed step shared own)
    (hsim : ∀ s t, shared s → own s t →
      (α (step t s).1, β (step t s).2) = (α t, β s)
        ∨ (α (step t s).1, β (step t s).2) = step' (α t) (β s))
    (schedule : List Nat) :
    ∀ M : List T × S, Holds shared own M →
      ∃ seen, seen.Sublist schedule
        ∧ see α β (run step schedule M) = run step' seen (see α β M) := by
  induction schedule with
  | nil =>
      intro M _
      exact ⟨[], .slnil, rfl⟩
  | cons i schedule ih =>
      intro M h
      obtain ⟨seen, hsub, hrun⟩ := ih (advance step M i) (advance_keeps hkeep h i)
      have hrun' : see α β (run step (i :: schedule) M)
          = run step' seen (see α β (advance step M i)) := hrun
      rcases advance_simulates hsim h i with hstutter | hstep
      · rw [hstutter] at hrun'
        exact ⟨seen, hsub.cons i, hrun'⟩
      · rw [hstep] at hrun'
        exact ⟨i :: seen, hsub.cons_cons i, hrun'⟩

/-! ## Conservation -/

variable {A : Type} [AddCommMonoid A] {value : S → A} {pending : T → A}

/-- What the shared state holds and what the tasks still carry. -/
def total (value : S → A) (pending : T → A) (M : List T × S) : A :=
  value M.2 + (M.1.map pending).sum

theorem advance_conserves
    (hmove : ∀ s t, shared s → own s t →
      value (step t s).2 + pending (step t s).1 = value s + pending t)
    {M : List T × S} (h : Holds shared own M) (i : Nat) :
    total value pending (advance step M i) = total value pending M := by
  rcases advance_cases M i with hsame | ⟨before, t, after, htasks, _, hnext⟩
  · rw [hsame]
  · have ht : t ∈ M.1 := by
      rw [htasks]
      exact List.mem_append_right _ (List.mem_cons_self ..)
    have hone := hmove M.2 t h.shared (h.own t ht)
    have hsum : ∀ u, ((before ++ u :: after).map pending).sum
        = pending u + ((before ++ after).map pending).sum := by
      intro u
      rw [List.map_append, List.map_cons, List.sum_append, List.sum_cons, List.map_append,
        List.sum_append, add_left_comm]
    rw [hnext, total, total, htasks]
    dsimp only
    rw [hsum, hsum, ← add_assoc, ← add_assoc, hone]

/-- **CONSERVATION RULE**. -/
theorem run_conserves (hkeep : Undisturbed step shared own)
    (hmove : ∀ s t, shared s → own s t →
      value (step t s).2 + pending (step t s).1 = value s + pending t)
    (schedule : List Nat) :
    ∀ M : List T × S, Holds shared own M →
      total value pending (run step schedule M) = total value pending M := by
  induction schedule with
  | nil =>
      intro M _
      rfl
  | cons i schedule ih =>
      intro M h
      exact (ih (advance step M i) (advance_keeps hkeep h i)).trans
        (advance_conserves hmove h i)

/-! ## Progress -/

/-- **PROGRESS RULE**: every schedule that lets each task move as often as it
    has steps to take brings all of them to their end. -/
theorem run_finishes {remaining : T → Nat} (hkeep : Undisturbed step shared own)
    (hdown : ∀ s t, shared s → own s t → remaining (step t s).1 ≤ remaining t - 1)
    (schedule : List Nat) :
    ∀ M : List T × S, Holds shared own M →
      (∀ i t, M.1[i]? = some t → remaining t ≤ schedule.count i) →
      ∀ t ∈ (run step schedule M).1, remaining t = 0 := by
  induction schedule with
  | nil =>
      intro M _ hturns t ht
      obtain ⟨i, hi⟩ := List.mem_iff_getElem?.mp ht
      exact Nat.le_zero.mp (hturns i t hi)
  | cons j schedule ih =>
      intro M h hturns
      refine ih (advance step M j) (advance_keeps hkeep h j) fun i t' hi => ?_
      rw [advance] at hi
      cases hj : M.1[j]? with
      | none =>
          rw [hj] at hi
          have hne : j ≠ i := by
            rintro rfl
            rw [hj] at hi
            exact nomatch hi
          have hcount := hturns i t' hi
          rwa [List.count_cons_of_ne hne] at hcount
      | some t =>
          rw [hj] at hi
          have hget : (M.1.set j (step t M.2).1)[i]? = some t' := hi
          by_cases hsame : j = i
          · rw [← hsame, List.getElem?_set_self (List.getElem?_eq_some_iff.mp hj).1] at hget
            have hone := hdown M.2 t h.shared (h.own t (List.mem_of_getElem? hj))
            have hcount := hturns j t hj
            rw [List.count_cons_self] at hcount
            rw [← Option.some.inj hget, ← hsame]
            omega
          · rw [List.getElem?_set_ne hsame] at hget
            have hcount := hturns i t' hget
            rwa [List.count_cons_of_ne hsame] at hcount

end Interleaving
