import Mathlib.Data.List.Basic
import Mathlib.Data.List.Induction
import Mathlib.Tactic.Common

/-! # A parallel map that keeps positions

    A list is mapped by several workers: its indices are split into contiguous
    chunks, the chunks are evaluated in SOME order, each value is written to
    the slot of its index, and the filled slots are read off in order.  The
    split and the order are a `Schedule`, whose one field says that no index
    is lost or done twice; the result does not depend on it
    (`parMapIdx_eq`). -/

namespace ParallelMap

variable {α β : Type}

/-- A splitting of the indices below `n` into chunks `(start, length)`, in the
    order in which they are evaluated. -/
structure Schedule (n : Nat) where
  chunks : List (Nat × Nat)
  covers : (chunks.flatMap fun c => List.range' c.1 c.2).Perm (List.range n)

/-- All of it as one chunk. -/
def Schedule.single (n : Nat) : Schedule n where
  chunks := [(0, n)]
  covers := by
    rw [List.flatMap_cons, List.flatMap_nil, List.append_nil, List.range_eq_range']

instance (n : Nat) : Inhabited (Schedule n) := ⟨.single n⟩

/-- Write the value of one index to its slot. -/
def fill (f : Nat → Option β) (slots : Nat → Option β) (i : Nat) : Nat → Option β :=
  fun j => if j = i then f i else slots j

/-- Evaluate one chunk. -/
def runChunk (f : Nat → Option β) (slots : Nat → Option β) (c : Nat × Nat) :
    Nat → Option β :=
  (List.range' c.1 c.2).foldl (fill f) slots

/-- The parallel map: evaluate the chunks, then read the slots in order. -/
def parMapIdx (xs : List α) (schedule : Schedule xs.length) (g : Nat → α → β) : List β :=
  let f := fun i => xs[i]?.map (g i)
  (List.range xs.length).filterMap (schedule.chunks.foldl (runChunk f) fun _ => none)

/-! ## The slots -/

/-- A slot holds the value of its index once that was evaluated. -/
theorem foldl_fill (f : Nat → Option β) (l : List Nat) (slots : Nat → Option β) (j : Nat) :
    l.foldl (fill f) slots j = if j ∈ l then f j else slots j := by
  induction l generalizing slots with
  | nil => rfl
  | cons i l ih =>
      rw [List.foldl_cons, ih, fill]
      by_cases hl : j ∈ l
      · rw [if_pos hl, if_pos (List.mem_cons_of_mem i hl)]
      · rw [if_neg hl]
        by_cases hi : j = i
        · rw [if_pos hi, hi, if_pos List.mem_cons_self]
        · have hnot : j ∉ i :: l := by
            intro hmem
            rcases List.mem_cons.mp hmem with heq | hmem
            · exact hi heq
            · exact hl hmem
          rw [if_neg hi, if_neg hnot]

/-- Evaluating chunks one after the other is evaluating their indices. -/
theorem foldl_runChunk (f : Nat → Option β) (chunks : List (Nat × Nat))
    (slots : Nat → Option β) :
    chunks.foldl (runChunk f) slots
      = (chunks.flatMap fun c => List.range' c.1 c.2).foldl (fill f) slots := by
  induction chunks generalizing slots with
  | nil => rfl
  | cons c chunks ih =>
      rw [List.foldl_cons, ih, List.flatMap_cons, List.foldl_append]
      rfl

/-- Reading a list off by its indices gives it back, mapped. -/
theorem filterMap_range_getElem? (xs : List α) (g : Nat → α → β) :
    (List.range xs.length).filterMap (fun i => xs[i]?.map (g i)) = xs.mapIdx g := by
  induction xs using List.reverseRecOn with
  | nil => rfl
  | append_singleton xs x ih =>
      have hinit : (List.range xs.length).filterMap (fun i => (xs ++ [x])[i]?.map (g i))
          = (List.range xs.length).filterMap (fun i => xs[i]?.map (g i)) := by
        refine List.filterMap_congr ?_
        intro i hi
        rw [List.getElem?_append_left (List.mem_range.mp hi)]
      rw [List.length_append, List.length_singleton, List.range_succ, List.filterMap_append,
        hinit, ih, List.mapIdx_concat]
      simp

/-- **POSITIONS**: the schedule does not show in the result. -/
theorem parMapIdx_eq (xs : List α) (schedule : Schedule xs.length) (g : Nat → α → β) :
    parMapIdx xs schedule g = xs.mapIdx g := by
  rw [← filterMap_range_getElem?, parMapIdx]
  refine List.filterMap_congr ?_
  intro i hi
  rw [foldl_runChunk, foldl_fill, if_pos (schedule.covers.mem_iff.mpr hi)]

end ParallelMap
