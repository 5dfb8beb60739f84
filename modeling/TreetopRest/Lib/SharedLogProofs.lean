import TreetopRest.Lib.InterleavingProofs
import Mathlib.Algebra.BigOperators.Pi
import Mathlib.Algebra.Order.BigOperators.Group.List
import Mathlib.Algebra.Order.Group.Multiset
import Mathlib.Algebra.Order.Group.Nat
import Mathlib.Logic.Function.Basic

/-! # Shared logs behind addresses

    A family has one log per key and hands out ADDRESSES of logs; what is
    recorded at an address is recorded under its key (`Family.log_record`).
    Tasks that ask the family before every record can be interleaved as one
    likes: what is in a log and what the tasks still carry for it never
    changes (`direct_conserves`), and where all are done the log of a key is
    what they meant for it, nothing lost and nothing doubled (`direct_done`). -/

namespace SharedLog

open Interleaving

variable {Id Slot K R : Type}

/-! ## Families -/

/-- Logs by address, and the address of each key that has one. -/
structure Family (K R : Type) where
  index : K → Option Nat
  logs : Nat → List R
  next : Nat
  bound : ∀ k a, index k = some a → a < next
  apart : ∀ k k' a, index k = some a → index k' = some a → k = k'

namespace Family

def empty : Family K R where
  index _ := none
  logs _ := []
  next := 0
  bound := by
    intro k a h
    cases h
  apart := by
    intro k k' a h
    cases h

/-- What was recorded under a key. -/
def log (F : Family K R) (k : K) : List R :=
  match F.index k with
  | none => []
  | some a => F.logs a

/-- Record at an address. -/
def record (F : Family K R) (a : Nat) (r : R) : Family K R :=
  { F with logs := Function.update F.logs a (F.logs a ++ [r]) }

variable [DecidableEq K]

/-- The address of a key, with an empty log if it has none yet. -/
def getOrCreate (F : Family K R) (k : K) : Nat × Family K R :=
  match F.index k with
  | some a => (a, F)
  | none => (F.next, {
      index := Function.update F.index k (some F.next)
      logs := Function.update F.logs F.next []
      next := F.next + 1
      bound := by
        intro k' a h
        by_cases hk : k' = k
        · rw [hk, Function.update_self] at h
          cases h
          exact Nat.lt_succ_self _
        · rw [Function.update_of_ne hk] at h
          exact Nat.lt_succ_of_lt (F.bound k' a h)
      apart := by
        intro k₁ k₂ a h₁ h₂
        -- the new address is larger than any before it
        by_cases hk₁ : k₁ = k
        · by_cases hk₂ : k₂ = k
          · rw [hk₁, hk₂]
          · rw [hk₁, Function.update_self] at h₁
            rw [Function.update_of_ne hk₂] at h₂
            cases h₁
            exact absurd (F.bound k₂ _ h₂) (Nat.lt_irrefl _)
        · rw [Function.update_of_ne hk₁] at h₁
          by_cases hk₂ : k₂ = k
          · rw [hk₂, Function.update_self] at h₂
            cases h₂
            exact absurd (F.bound k₁ _ h₁) (Nat.lt_irrefl _)
          · rw [Function.update_of_ne hk₂] at h₂
            exact F.apart k₁ k₂ a h₁ h₂ })

variable {F : Family K R} {k k' : K} {a : Nat}

theorem getOrCreate_of_some (h : F.index k = some a) : F.getOrCreate k = (a, F) := by
  rw [getOrCreate, h]

theorem index_getOrCreate (F : Family K R) (k : K) :
    (F.getOrCreate k).2.index k = some (F.getOrCreate k).1 := by
  rw [getOrCreate]
  cases h : F.index k with
  | some a => exact h
  | none => exact Function.update_self ..

theorem index_getOrCreate_of_ne (hk : k' ≠ k) :
    (F.getOrCreate k).2.index k' = F.index k' := by
  rw [getOrCreate]
  cases F.index k with
  | some a => rfl
  | none => exact Function.update_of_ne hk ..

/-- A key keeps its address. -/
theorem index_getOrCreate_mono (h : F.index k' = some a) :
    (F.getOrCreate k).2.index k' = some a := by
  by_cases hk : k' = k
  · rw [hk] at h ⊢
    rw [getOrCreate_of_some h]
    exact h
  · rw [index_getOrCreate_of_ne hk]
    exact h

/-- Asking for an address records nothing. -/
theorem log_getOrCreate : (F.getOrCreate k).2.log k' = F.log k' := by
  cases hnone : F.index k with
  | some a => rw [getOrCreate_of_some hnone]
  | none =>
      rw [getOrCreate, hnone, log, log]
      dsimp only
      by_cases hk : k' = k
      · rw [hk, Function.update_self, hnone]
        exact Function.update_self ..
      · rw [Function.update_of_ne hk]
        cases hindex : F.index k' with
        | none => rfl
        | some b => exact Function.update_of_ne (Nat.ne_of_lt (F.bound k' b hindex)) ..

/-- Recording at the address of a key is recording under the key, and no other. -/
theorem log_record (h : F.index k = some a) (r : R) (k' : K) :
    (F.record a r).log k' = if k' = k then F.log k ++ [r] else F.log k' := by
  have hk : F.log k = F.logs a := by rw [log, h]
  by_cases hsame : k' = k
  · rw [if_pos hsame, hsame, hk, log]
    show (match F.index k with | none => [] | some b => (F.record a r).logs b) = _
    rw [h]
    exact Function.update_self ..
  · rw [if_neg hsame, log, log]
    show (match F.index k' with | none => [] | some b => (F.record a r).logs b) = _
    cases hindex : F.index k' with
    | none => rfl
    | some b =>
        have hne : b ≠ a := by
          rintro rfl
          exact hsame (F.apart k' k b hindex h)
        exact Function.update_of_ne hne ..

end Family

/-! ## Tasks -/

/-- The records an id still has to make, each through one of its slots. -/
abbrev Todo (Slot R : Type) := List (Slot × R)

/-- A task that asks the family before every record. -/
inductive Direct (Id Slot K R : Type) where
  | touch (id : Id) (todo : Todo Slot R)
  | record (id : Id) (key : K) (handle : Nat) (r : R) (todo : Todo Slot R)

variable [DecidableEq K]

def Direct.step (keyOf : Id → Slot → K) (t : Direct Id Slot K R) (F : Family K R) :
    Direct Id Slot K R × Family K R :=
  match t with
  | .touch id [] => (.touch id [], F)
  | .touch id ((slot, r) :: todo) =>
      (.record id (keyOf id slot) (F.getOrCreate (keyOf id slot)).1 r todo,
        (F.getOrCreate (keyOf id slot)).2)
  | .record id _ handle r todo => (.touch id todo, F.record handle r)

/-- Nothing is left to do. -/
def Direct.Done (t : Direct Id Slot K R) : Prop := ∃ id, t = .touch id []

/-- The key a task is about to record under. -/
def Direct.recording : Direct Id Slot K R → Option K
  | .touch .. => none
  | .record _ key .. => some key

/-- A task holds the address of the key it is about to record under. -/
def Direct.Valid (F : Family K R) : Direct Id Slot K R → Prop
  | .touch .. => True
  | .record _ key handle _ _ => F.index key = some handle

variable (keyOf : Id → Slot → K)

theorem Direct.undisturbed :
    Undisturbed (Direct.step (R := R) keyOf) (fun _ => True) Direct.Valid := by
  intro F t _ ht
  cases t with
  | touch id todo =>
      cases todo with
      | nil => exact ⟨trivial, trivial, fun _ h => h⟩
      | cons sr todo =>
          refine ⟨trivial, Family.index_getOrCreate F _, fun other h => ?_⟩
          cases other with
          | touch id' todo' => trivial
          | record id' key handle r todo' => exact Family.index_getOrCreate_mono h
  | record id key handle r todo =>
      refine ⟨trivial, trivial, fun other h => ?_⟩
      cases other with
      | touch id' todo' => trivial
      | record id' key' handle' r' todo' => exact h

/-- The records meant for a key. -/
def meant (id : Id) (todo : Todo Slot R) (k : K) : Multiset R :=
  ((todo.filter fun sr => keyOf id sr.1 = k).map Prod.snd : List R)

def Direct.pending (k : K) : Direct Id Slot K R → Multiset R
  | .touch id todo => meant keyOf id todo k
  | .record id key _ r todo => (if key = k then {r} else 0) + meant keyOf id todo k

theorem meant_cons (id : Id) (slot : Slot) (r : R) (todo : Todo Slot R) (k : K) :
    meant keyOf id ((slot, r) :: todo) k
      = (if keyOf id slot = k then {r} else 0) + meant keyOf id todo k := by
  rw [meant, meant, List.filter_cons]
  by_cases hk : keyOf id slot = k
  · rw [if_pos hk, if_pos (decide_eq_true hk)]
    rfl
  · rw [if_neg hk, if_neg (by simpa using hk), zero_add]

/-- A step moves a record from a task to the log, or nothing. -/
theorem Direct.step_moves (k : K) (F : Family K R) (t : Direct Id Slot K R)
    (ht : Direct.Valid F t) :
    ((Direct.step keyOf t F).2.log k : Multiset R)
        + Direct.pending keyOf k (Direct.step keyOf t F).1
      = (F.log k : Multiset R) + Direct.pending keyOf k t := by
  cases t with
  | touch id todo =>
      cases todo with
      | nil => rfl
      | cons sr todo =>
          obtain ⟨slot, r⟩ := sr
          rw [Direct.step, Family.log_getOrCreate, Direct.pending, Direct.pending, meant_cons]
  | record id key handle r todo =>
      rw [Direct.step, Direct.pending, Direct.pending, Family.log_record ht]
      by_cases hk : k = key
      · rw [if_pos hk, if_pos hk.symm, hk, ← Multiset.coe_add, add_assoc]
        rfl
      · rw [if_neg hk, if_neg (Ne.symm hk), zero_add]

/-- The tasks of a direct machine, and a family without logs. -/
def Direct.start (tasks : List (Id × Todo Slot R)) :
    List (Direct Id Slot K R) × Family K R :=
  (tasks.map fun t => .touch t.1 t.2, .empty)

/-- All records the tasks mean for a key. -/
def planned (tasks : List (Id × Todo Slot R)) (k : K) : Multiset R :=
  (tasks.map fun t => meant keyOf t.1 t.2 k).sum

/-- Records of a kind meant for a key, where each of the origins of the tasks
    has one or none. -/
theorem countP_planned {A : Type} (task : A → Id × Todo Slot R) {p : R → Bool} {q : A → Bool}
    {k : K}
    (hone : ∀ a, (task a).2.countP (fun sr => p sr.2 && decide (keyOf (task a).1 sr.1 = k))
      = if q a = true then 1 else 0) (origins : List A) :
    (planned keyOf (origins.map task) k).countP (fun r => p r = true) = origins.countP q := by
  induction origins with
  | nil => rfl
  | cons a origins ih =>
      have hmeant : (meant keyOf (task a).1 (task a).2 k).countP (fun r => p r = true)
          = if q a = true then 1 else 0 := by
        rw [← hone a, meant, Multiset.coe_countP, List.countP_map, List.countP_filter]
        refine List.countP_congr fun sr _ => ?_
        simp
      have hcons : planned keyOf ((a :: origins).map task) k
          = meant keyOf (task a).1 (task a).2 k + planned keyOf (origins.map task) k := by
        rw [planned, planned, List.map_cons, List.map_cons, List.sum_cons]
      rw [hcons, Multiset.countP_add, hmeant, ih, List.countP_cons, Nat.add_comm]

omit [DecidableEq K] in
theorem Direct.start_holds (tasks : List (Id × Todo Slot R)) :
    Holds (fun _ => True) Direct.Valid (Direct.start (K := K) tasks) := by
  refine ⟨trivial, fun t ht => ?_⟩
  obtain ⟨task, _, rfl⟩ := List.mem_map.mp ht
  trivial

/-- **CONSERVATION**: at every moment what is in the log and what the tasks
    still carry is what they meant for the key. -/
theorem direct_conserves (tasks : List (Id × Todo Slot R)) (schedule : List Nat) (k : K) :
    total (fun F : Family K R => (F.log k : Multiset R)) (Direct.pending keyOf k)
        (run (Direct.step keyOf) schedule (Direct.start tasks))
      = planned keyOf tasks k := by
  rw [run_conserves (Direct.undisturbed keyOf)
    (fun F t _ ht => Direct.step_moves keyOf k F t ht) schedule _ (Direct.start_holds tasks),
    total, Direct.start, List.map_map]
  exact zero_add _

/-- A key with an address has something in its log, or is about to. -/
def Created (M : List (Direct Id Slot K R) × Family K R) : Prop :=
  ∀ k, M.2.index k ≠ none → M.2.log k ≠ [] ∨ ∃ t ∈ M.1, t.recording = some k

theorem advance_created {M : List (Direct Id Slot K R) × Family K R}
    (hvalid : Holds (fun _ => True) Direct.Valid M) (h : Created M) (i : Nat) :
    Created (advance (Direct.step keyOf) M i) := by
  rcases advance_cases M i with hsame | ⟨before, t, after, htasks, _, hnext⟩
  · rw [hsame]
    exact h
  · rw [hnext]
    intro k hk
    -- the other tasks are still there
    have hothers : ∀ t', (∃ u ∈ M.1, u.recording = some k) → t.recording ≠ some k →
        ∃ u ∈ before ++ t' :: after, u.recording = some k := by
      rintro t' ⟨u, hu, hrecording⟩ hne
      rw [htasks] at hu
      rcases List.mem_append.mp hu with hu | hu
      · exact ⟨u, List.mem_append_left _ hu, hrecording⟩
      · rcases List.mem_cons.mp hu with rfl | hu
        · exact absurd hrecording hne
        · exact ⟨u, List.mem_append_right _ (List.mem_cons_of_mem _ hu), hrecording⟩
    have ht : Direct.Valid M.2 t := by
      refine hvalid.own t ?_
      rw [htasks]
      exact List.mem_append_right _ (List.mem_cons_self ..)
    cases t with
    | touch id todo =>
        cases todo with
        | nil =>
            refine (h k hk).imp_right fun hu => hothers _ hu ?_
            exact fun hrecording => nomatch hrecording
        | cons sr todo =>
            obtain ⟨slot, r⟩ := sr
            by_cases hsame : k = keyOf id slot
            · refine Or.inr ⟨_, List.mem_append_right _ (List.mem_cons_self ..), ?_⟩
              rw [hsame]
              rfl
            · have hold : M.2.index k ≠ none := by
                have hindex : ((M.2.getOrCreate (keyOf id slot)).2).index k ≠ none := hk
                rwa [Family.index_getOrCreate_of_ne hsame] at hindex
              rcases h k hold with hlog | hu
              · refine Or.inl ?_
                show (M.2.getOrCreate (keyOf id slot)).2.log k ≠ []
                rw [Family.log_getOrCreate]
                exact hlog
              · exact Or.inr (hothers _ hu fun hrecording => nomatch hrecording)
    | record id key handle r todo =>
        have hlog := Family.log_record (show M.2.index key = some handle from ht) r k
        by_cases hsame : k = key
        · refine Or.inl ?_
          show (M.2.record handle r).log k ≠ []
          rw [hlog, if_pos hsame]
          exact List.append_ne_nil_of_right_ne_nil _ (List.cons_ne_nil _ _)
        · rw [if_neg hsame] at hlog
          have hold : M.2.index k ≠ none := hk
          rcases h k hold with hne | hu
          · refine Or.inl ?_
            show (M.2.record handle r).log k ≠ []
            rw [hlog]
            exact hne
          · refine Or.inr (hothers _ hu ?_)
            intro hrecording
            exact hsame (Option.some.inj hrecording).symm

theorem run_created (tasks : List (Id × Todo Slot R)) (schedule : List Nat) :
    Created (run (Direct.step keyOf) schedule (Direct.start tasks)) := by
  have hstep : ∀ (M : List (Direct Id Slot K R) × Family K R) (i : Nat),
      Holds (fun _ => True) Direct.Valid M ∧ Created M →
      Holds (fun _ => True) Direct.Valid (advance (Direct.step keyOf) M i)
        ∧ Created (advance (Direct.step keyOf) M i) :=
    fun M i h => ⟨advance_keeps (Direct.undisturbed keyOf) h.1 i, advance_created keyOf h.1 h.2 i⟩
  exact (run_induct hstep schedule (Direct.start tasks)
    ⟨Direct.start_holds tasks, fun _ hk => absurd rfl hk⟩).2

/-- **DONE**: after any interleaving of the whole of all tasks the log of a key
    holds what they meant for it, and there is one exactly if that is anything. -/
theorem direct_done {tasks : List (Id × Todo Slot R)} {schedule : List Nat}
    (hdone : ∀ t ∈ (run (Direct.step keyOf) schedule (Direct.start tasks)).1, t.Done) (k : K) :
    ((run (Direct.step keyOf) schedule (Direct.start tasks)).2.log k : Multiset R)
        = planned keyOf tasks k
      ∧ ((run (Direct.step keyOf) schedule (Direct.start tasks)).2.index k = none
        ↔ planned keyOf tasks k = 0) := by
  have hpending : ((run (Direct.step keyOf) schedule (Direct.start tasks)).1.map
      (Direct.pending keyOf k)).sum = 0 := by
    refine List.sum_eq_zero fun m hm => ?_
    obtain ⟨t, ht, rfl⟩ := List.mem_map.mp hm
    obtain ⟨id, rfl⟩ := hdone t ht
    rfl
  have hlog : ((run (Direct.step keyOf) schedule (Direct.start tasks)).2.log k : Multiset R)
      = planned keyOf tasks k := by
    rw [← direct_conserves keyOf tasks schedule k, total, hpending, add_zero]
  refine ⟨hlog, ?_⟩
  rw [← hlog, Multiset.coe_eq_zero]
  constructor
  · intro hnone
    rw [Family.log, hnone]
  · intro hempty
    by_contra hsome
    rcases run_created keyOf tasks schedule k hsome with hne | ⟨t, ht, hrecording⟩
    · exact hne hempty
    · obtain ⟨id, rfl⟩ := hdone t ht
      exact absurd hrecording (Option.some_ne_none k).symm

/-! ## What is recorded -/

/-- Where every origin means at most one record for a key, those are what is
    meant for it. -/
theorem planned_filterMap {A : Type} (task : A → Id × Todo Slot R) {k : K}
    {recordOf : A → Option R}
    (hone : ∀ a, meant keyOf (task a).1 (task a).2 k = ((recordOf a).toList : Multiset R))
    (origins : List A) :
    planned keyOf (origins.map task) k = (origins.filterMap recordOf : Multiset R) := by
  induction origins with
  | nil => rfl
  | cons a origins ih =>
      have hcons : planned keyOf ((a :: origins).map task) k
          = meant keyOf (task a).1 (task a).2 k + planned keyOf (origins.map task) k := by
        rw [planned, planned, List.map_cons, List.map_cons, List.sum_cons]
      rw [hcons, ih, hone, Multiset.coe_add, List.filterMap_cons]
      cases recordOf a <;> rfl

/-- A task has still to do the last part of what one of the tasks had at first. -/
def Remains (tasks : List (Id × Todo Slot R)) (t : Direct Id Slot K R) : Prop :=
  ∃ task ∈ tasks, ∃ rest, rest <:+ task.2
    ∧ ∀ k, Direct.pending keyOf k t = meant keyOf task.1 rest k

/-- A task that asks still has to do what it says. -/
def Direct.Asks (tasks : List (Id × Todo Slot R)) (t : Direct Id Slot K R) : Prop :=
  match t with
  | .touch id todo => ∃ task ∈ tasks, task.1 = id ∧ todo <:+ task.2
  | .record id key _ r todo =>
      ∃ task ∈ tasks, task.1 = id ∧ ∃ slot, keyOf id slot = key ∧ (slot, r) :: todo <:+ task.2

theorem Direct.asks_undisturbed (tasks : List (Id × Todo Slot R)) :
    Undisturbed (Direct.step (R := R) keyOf) (fun _ => True)
      (fun _ t => Direct.Asks keyOf tasks t) := by
  intro F t _ ht
  refine ⟨trivial, ?_, fun _ h => h⟩
  cases t with
  | touch id todo =>
      cases todo with
      | nil => exact ht
      | cons sr todo =>
          obtain ⟨task, hmem, hid, hsuffix⟩ := ht
          exact ⟨task, hmem, hid, sr.1, rfl, hsuffix⟩
  | record id key handle r todo =>
      obtain ⟨task, hmem, hid, slot, _, hsuffix⟩ := ht
      exact ⟨task, hmem, hid, (List.suffix_cons ..).trans hsuffix⟩

theorem Direct.Asks.remains {tasks : List (Id × Todo Slot R)} {t : Direct Id Slot K R}
    (h : Direct.Asks keyOf tasks t) : Remains keyOf tasks t := by
  cases t with
  | touch id todo =>
      obtain ⟨task, hmem, rfl, hsuffix⟩ := h
      exact ⟨task, hmem, todo, hsuffix, fun k => rfl⟩
  | record id key handle r todo =>
      obtain ⟨task, hmem, rfl, slot, rfl, hsuffix⟩ := h
      exact ⟨task, hmem, (slot, r) :: todo, hsuffix, fun k => (meant_cons ..).symm⟩

/-- At every moment what a task carries is the last part of its plan. -/
theorem run_remains (tasks : List (Id × Todo Slot R)) (schedule : List Nat) :
    ∀ t ∈ (run (Direct.step keyOf) schedule (Direct.start tasks)).1, Remains keyOf tasks t := by
  have hstart : Holds (fun _ => True) (fun _ t => Direct.Asks keyOf tasks t)
      (Direct.start (K := K) tasks) := by
    refine ⟨trivial, fun t ht => ?_⟩
    obtain ⟨task, hmem, rfl⟩ := List.mem_map.mp ht
    exact ⟨task, hmem, rfl, List.suffix_refl _⟩
  exact fun t ht => ((run_keeps (Direct.asks_undisturbed keyOf tasks) schedule _ hstart).own t
    ht).remains keyOf

/-- **PRECEDENCE**: where every task records as much of one kind as of another
    and at no point has less of the later one before it, the later one is at no
    moment ahead in the logs. -/
theorem direct_precedes {tasks : List (Id × Todo Slot R)}
    {early late : (K → Multiset R) →+ ℕ}
    (hplan : ∀ task ∈ tasks, early (meant keyOf task.1 task.2) = late (meant keyOf task.1 task.2))
    (hrest : ∀ task ∈ tasks, ∀ rest, rest <:+ task.2 →
      early (meant keyOf task.1 rest) ≤ late (meant keyOf task.1 rest)) (schedule : List Nat) :
    late (fun k => ((run (Direct.step keyOf) schedule (Direct.start tasks)).2.log k : Multiset R))
      ≤ early fun k =>
        ((run (Direct.step keyOf) schedule (Direct.start tasks)).2.log k : Multiset R) := by
  let M := run (Direct.step keyOf) schedule (Direct.start tasks)
  let logs : K → Multiset R := fun k => (M.2.log k : Multiset R)
  let carried : List (K → Multiset R) := M.1.map fun t k => Direct.pending keyOf k t
  let plans : List (K → Multiset R) := tasks.map fun task => meant keyOf task.1 task.2
  -- what is logged and what is carried make up the plans
  have hsum : logs + carried.sum = plans.sum := by
    funext k
    have hk := direct_conserves keyOf tasks schedule k
    rw [total, planned] at hk
    rw [Pi.add_apply, Pi.list_sum_apply, Pi.list_sum_apply, List.map_map, List.map_map]
    exact hk
  have hplans : early plans.sum = late plans.sum := by
    rw [map_list_sum, map_list_sum, List.map_map, List.map_map]
    exact congrArg List.sum (List.map_congr_left hplan)
  have hcarried : early carried.sum ≤ late carried.sum := by
    rw [map_list_sum, map_list_sum, List.map_map, List.map_map]
    refine List.sum_le_sum fun t ht => ?_
    obtain ⟨task, hmem, rest, hsuffix, hpending⟩ := run_remains keyOf tasks schedule t ht
    have heq : (fun k => Direct.pending keyOf k t) = meant keyOf task.1 rest := funext hpending
    show early (fun k => Direct.pending keyOf k t) ≤ late fun k => Direct.pending keyOf k t
    rw [heq]
    exact hrest task hmem rest hsuffix
  have hearly : early logs + early carried.sum = late logs + late carried.sum := by
    rw [← map_add, ← map_add, hsum, hplans]
  show late logs ≤ early logs
  omega

/-- How many records of a kind the logs of some keys hold. -/
def logCount (ks : Finset K) (p : R → Bool) : (K → Multiset R) →+ ℕ where
  toFun logs := ∑ k ∈ ks, (logs k).countP (p · = true)
  map_zero' := by
    refine Finset.sum_eq_zero fun k _ => ?_
    exact Multiset.countP_zero _
  map_add' logs logs' := by
    rw [← Finset.sum_add_distrib]
    exact Finset.sum_congr rfl fun k _ => Multiset.countP_add ..

/-- Whether a record that is to be made is of a kind, for one of some keys. -/
def ofKind (id : Id) (ks : Finset K) (p : R → Bool) (sr : Slot × R) : Bool :=
  decide (keyOf id sr.1 ∈ ks) && p sr.2

/-- The records a task means for some keys are those of its plan. -/
theorem logCount_meant (ks : Finset K) (p : R → Bool) (id : Id) (todo : Todo Slot R) :
    logCount ks p (meant keyOf id todo) = todo.countP (ofKind keyOf id ks p) := by
  induction todo with
  | nil => exact (logCount ks p).map_zero
  | cons sr todo ih =>
      obtain ⟨slot, r⟩ := sr
      have hcons : meant keyOf id ((slot, r) :: todo)
          = (fun k => if keyOf id slot = k then {r} else 0) + meant keyOf id todo :=
        funext (meant_cons keyOf id slot r todo)
      have hone : logCount ks p (fun k => if keyOf id slot = k then {r} else 0)
          = if ofKind keyOf id ks p (slot, r) = true then 1 else 0 := by
        show ∑ k ∈ ks, Multiset.countP (p · = true) (if keyOf id slot = k then {r} else 0) = _
        simp only [apply_ite (Multiset.countP (p · = true)), Multiset.countP_zero,
          Finset.sum_ite_eq, ofKind, Bool.and_eq_true, decide_eq_true_eq]
        by_cases hk : keyOf id slot ∈ ks
        · simp [hk, Multiset.countP_eq_card_filter, Multiset.filter_singleton, apply_ite]
        · simp [hk]
      rw [hcons, map_add, hone, ih, List.countP_cons, Nat.add_comm]

/-- A plan in which what is of the early kind has one of the late kind right
    behind it, and the late kind comes only there. -/
inductive Paired (early late : Slot × R → Bool) : Todo Slot R → Prop where
  | nil : Paired early late []
  | skip {sr : Slot × R} {todo : Todo Slot R} :
      early sr = false → late sr = false → Paired early late todo → Paired early late (sr :: todo)
  | pair {sr sr' : Slot × R} {todo : Todo Slot R} :
      early sr = late sr' → late sr = false → early sr' = false → Paired early late todo →
      Paired early late (sr :: sr' :: todo)

omit [DecidableEq K] in
theorem Paired.count {early late : Slot × R → Bool} {todo : Todo Slot R}
    (h : Paired early late todo) : todo.countP early = todo.countP late := by
  induction h with
  | nil => rfl
  | skip hearly hlate _ ih => simp only [List.countP_cons, hearly, hlate, ih]
  | pair hsame hlate hearly _ ih =>
      simp only [List.countP_cons, hsame, hlate, hearly, ih]
      rfl

omit [DecidableEq K] in
/-- From any point on, there is no less left of the late kind. -/
theorem Paired.suffix {early late : Slot × R → Bool} {todo rest : Todo Slot R}
    (h : Paired early late todo) (hrest : rest <:+ todo) :
    rest.countP early ≤ rest.countP late := by
  induction h with
  | nil =>
      rw [List.suffix_nil.mp hrest]
      exact Nat.le_refl _
  | skip hearly hlate htodo ih =>
      rcases List.suffix_cons_iff.mp hrest with rfl | hrest
      · exact Nat.le_of_eq (Paired.skip hearly hlate htodo).count
      · exact ih hrest
  | pair hsame hlate hearly htodo ih =>
      rcases List.suffix_cons_iff.mp hrest with rfl | hrest
      · exact Nat.le_of_eq (Paired.pair hsame hlate hearly htodo).count
      · rcases List.suffix_cons_iff.mp hrest with rfl | hrest
        · rw [List.countP_cons, List.countP_cons, hearly, htodo.count]
          exact Nat.le_add_right ..
        · exact ih hrest

variable {tasks : List (Id × Todo Slot R)} {ks ks' : Finset K} {p p' : R → Bool}

/-- **PAIRS**: at no moment do the logs hold more of the late kind, and where
    all tasks are done they hold as much of it. -/
theorem paired_precedes
    (h : ∀ task ∈ tasks,
      Paired (ofKind keyOf task.1 ks p) (ofKind keyOf task.1 ks' p') task.2)
    (schedule : List Nat) :
    let M := run (Direct.step keyOf) schedule (Direct.start tasks)
    logCount ks' p' (fun k => (M.2.log k : Multiset R))
        ≤ logCount ks p (fun k => (M.2.log k : Multiset R))
      ∧ ((∀ t ∈ M.1, t.Done) → logCount ks' p' (fun k => (M.2.log k : Multiset R))
        = logCount ks p fun k => (M.2.log k : Multiset R)) := by
  intro M
  have hplan : ∀ task ∈ tasks, logCount ks p (meant keyOf task.1 task.2)
      = logCount ks' p' (meant keyOf task.1 task.2) := by
    intro task htask
    rw [logCount_meant, logCount_meant]
    exact (h task htask).count
  refine ⟨direct_precedes keyOf hplan (fun task htask rest hrest => ?_) schedule, fun hdone => ?_⟩
  · rw [logCount_meant, logCount_meant]
    exact (h task htask).suffix hrest
  · have hlogs : (fun k => (M.2.log k : Multiset R))
        = (tasks.map fun task => meant keyOf task.1 task.2).sum := by
      funext k
      rw [Pi.list_sum_apply, List.map_map]
      exact (direct_done keyOf hdone k).1
    rw [hlogs, map_list_sum, map_list_sum, List.map_map, List.map_map]
    exact (congrArg List.sum (List.map_congr_left hplan)).symm

end SharedLog
