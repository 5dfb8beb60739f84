import Mathlib.Data.List.Nodup
import Mathlib.Tactic.Common

/-! # A bounded least-recently-used cache in front of a function

    The cache holds its entries newest first, each key once and never more
    than its capacity: both facts are fields, so no cache without them exists.
    `readThrough` is the usual way to use it — answer from the cache, else
    compute and remember — and the point of the file is when it is invisible:

    * while every entry is what the function answers (`Agrees`), a read
      through the cache IS the function (`readThrough_fst`), whatever has been
      evicted, and it keeps the agreement (`agrees_readThrough`);
    * conversely a cache that answers like the function on every key agrees
      with it (`agrees_of_readThrough`). -/

namespace LruCache

variable {κ ν ε : Type} [DecidableEq κ] {cap : Nat}

/-- A cache of at most `cap` entries, newest first, no key twice. -/
structure Cache (κ ν : Type) (cap : Nat) where
  entries : List (κ × ν)
  nodup : (entries.map Prod.fst).Nodup
  bounded : entries.length ≤ cap

/-- The empty cache. -/
def Cache.empty : Cache κ ν cap := ⟨[], List.nodup_nil, Nat.zero_le _⟩

omit [DecidableEq κ] in
theorem nodup_take_cons {k : κ} {v : ν} {l : List (κ × ν)}
    (hk : k ∉ l.map Prod.fst) (hl : (l.map Prod.fst).Nodup) (n : Nat) :
    ((((k, v) :: l).take n).map Prod.fst).Nodup := by
  rw [List.map_take]
  refine List.Nodup.sublist (List.take_sublist n _) ?_
  rw [List.map_cons]
  exact List.nodup_cons.mpr ⟨hk, hl⟩

theorem key_notMem_filter (k : κ) (l : List (κ × ν)) :
    k ∉ (l.filter (fun e => !decide (e.1 = k))).map Prod.fst := by
  intro hmem
  obtain ⟨e, he, hek⟩ := List.mem_map.mp hmem
  have hne := (List.mem_filter.mp he).2
  simp [hek] at hne

/-- Put `k ↦ v` in front, dropping an older entry of `k` and whatever then
    exceeds the capacity (the least recently used entry). -/
def Cache.touch (c : Cache κ ν cap) (k : κ) (v : ν) : Cache κ ν cap where
  entries := ((k, v) :: c.entries.filter (fun e => !decide (e.1 = k))).take cap
  nodup := nodup_take_cons (key_notMem_filter k c.entries)
    (c.nodup.sublist (List.filter_sublist.map _)) cap
  bounded := by rw [List.length_take]; exact Nat.min_le_left _ _

/-- The value of a key, and the cache with the key moved to the front. -/
def Cache.get (c : Cache κ ν cap) (k : κ) : Option ν × Cache κ ν cap :=
  match c.entries.find? (fun e => decide (e.1 = k)) with
  | some e => (some e.2, c.touch k e.2)
  | none => (none, c)

/-- Answer from the cache, else from `f`, remembering an answer of `f`. -/
def readThrough (f : κ → Except ε ν) (k : κ) (c : Cache κ ν cap) :
    Except ε ν × Cache κ ν cap :=
  match c.get k with
  | (some v, c') => (.ok v, c')
  | (none, c') =>
      match f k with
      | .ok v => (.ok v, c'.touch k v)
      | .error e => (.error e, c')

/-! ## Entries -/

theorem mem_touch {c : Cache κ ν cap} {k : κ} {v : ν} {e : κ × ν}
    (h : e ∈ (c.touch k v).entries) : e = (k, v) ∨ e ∈ c.entries := by
  have h' : e ∈ (k, v) :: c.entries.filter (fun e => !decide (e.1 = k)) :=
    List.mem_of_mem_take h
  rcases List.mem_cons.mp h' with heq | hmem
  · exact Or.inl heq
  · exact Or.inr (List.mem_filter.mp hmem).1

theorem get_some {c c' : Cache κ ν cap} {k : κ} {v : ν}
    (h : c.get k = (some v, c')) : (k, v) ∈ c.entries ∧ c' = c.touch k v := by
  rw [Cache.get] at h
  cases hf : c.entries.find? (fun e => decide (e.1 = k)) with
  | none => rw [hf] at h; exact absurd (congrArg Prod.fst h) (by simp)
  | some e =>
      rw [hf] at h
      have hv : e.2 = v := Option.some.inj (congrArg Prod.fst h)
      have hk : e.1 = k := by simpa using List.find?_some hf
      refine ⟨?_, ?_⟩
      · rw [← hk, ← hv]; exact List.mem_of_find?_eq_some hf
      · rw [← hv]; exact (congrArg Prod.snd h).symm

theorem get_none {c c' : Cache κ ν cap} {k : κ} (h : c.get k = (none, c')) :
    c' = c := by
  rw [Cache.get] at h
  cases hf : c.entries.find? (fun e => decide (e.1 = k)) with
  | none => rw [hf] at h; exact (congrArg Prod.snd h).symm
  | some e => rw [hf] at h; exact absurd (congrArg Prod.fst h) (by simp)

/-- A stored entry is found under its key: no second entry can shadow it. -/
theorem get_fst_of_mem {c : Cache κ ν cap} {k : κ} {v : ν}
    (h : (k, v) ∈ c.entries) : (c.get k).1 = some v := by
  rw [Cache.get]
  cases hf : c.entries.find? (fun e => decide (e.1 = k)) with
  | none =>
      have := List.find?_eq_none.mp hf (k, v) h
      simp at this
  | some e =>
      have hk : e.1 = k := by simpa using List.find?_some hf
      have he : e ∈ c.entries := List.mem_of_find?_eq_some hf
      have heq : e = (k, v) :=
        List.inj_on_of_nodup_map c.nodup he h hk
      rw [heq]

/-! ## A cache that agrees with the function it stands for -/

/-- Every entry is an answer of `f`. -/
def Agrees (f : κ → Except ε ν) (c : Cache κ ν cap) : Prop :=
  ∀ k v, (k, v) ∈ c.entries → f k = .ok v

omit [DecidableEq κ] in
theorem agrees_empty (f : κ → Except ε ν) : Agrees f (Cache.empty : Cache κ ν cap) := by
  intro k v h
  exact nomatch h

theorem agrees_touch {f : κ → Except ε ν} {c : Cache κ ν cap} {k : κ} {v : ν}
    (h : Agrees f c) (hv : f k = .ok v) : Agrees f (c.touch k v) := by
  intro k' v' hmem
  rcases mem_touch hmem with heq | hold
  · cases heq; exact hv
  · exact h k' v' hold

omit [DecidableEq κ] in
/-- Changing the function keeps the agreement exactly when the stored keys
    are answered as before. -/
theorem agrees_congr {f g : κ → Except ε ν} {c : Cache κ ν cap} (h : Agrees f c) :
    Agrees g c ↔ ∀ k v, (k, v) ∈ c.entries → g k = f k := by
  constructor
  · intro hg k v hmem
    rw [hg k v hmem, h k v hmem]
  · intro hsame k v hmem
    rw [hsame k v hmem]
    exact h k v hmem

/-- A read through a cache that agrees is the function itself. -/
theorem readThrough_fst {f : κ → Except ε ν} {c : Cache κ ν cap} (h : Agrees f c)
    (k : κ) : (readThrough f k c).1 = f k := by
  rw [readThrough]
  cases hg : c.get k with
  | mk r c' =>
      cases r with
      | some v => exact (h k v (get_some hg).1).symm
      | none =>
          cases hf : f k with
          | ok v => rfl
          | error e => rfl

theorem agrees_readThrough {f : κ → Except ε ν} {c : Cache κ ν cap} (h : Agrees f c)
    (k : κ) : Agrees f (readThrough f k c).2 := by
  rw [readThrough]
  cases hg : c.get k with
  | mk r c' =>
      cases r with
      | some v =>
          obtain ⟨hmem, hc⟩ := get_some hg
          show Agrees f c'
          rw [hc]
          exact agrees_touch h (h k v hmem)
      | none =>
          have hc := get_none hg
          subst hc
          cases hf : f k with
          | ok v => exact agrees_touch h hf
          | error e => exact h

/-- A read that fails stores nothing. -/
theorem readThrough_error {f : κ → Except ε ν} {c : Cache κ ν cap} {k : κ} {e : ε}
    (h : (readThrough f k c).1 = .error e) : (readThrough f k c).2 = c := by
  rw [readThrough] at h ⊢
  cases hg : c.get k with
  | mk r c' =>
      rw [hg] at h
      cases r with
      | some v => exact nomatch h
      | none =>
          cases hf : f k with
          | ok v => rw [hf] at h; exact nomatch h
          | error e' => exact get_none hg

/-- Reads that are right on every stored key come from a cache that agrees. -/
theorem agrees_of_readThrough {f : κ → Except ε ν} {c : Cache κ ν cap}
    (h : ∀ k v, (k, v) ∈ c.entries → (readThrough f k c).1 = f k) : Agrees f c := by
  intro k v hmem
  have hk := h k v hmem
  rw [readThrough] at hk
  have hget := get_fst_of_mem hmem
  cases hg : c.get k with
  | mk r c' =>
      rw [hg] at hget hk
      have hr : r = some v := hget
      subst hr
      exact hk.symm

/-- A read only adds an entry under the key it reads. -/
theorem mem_readThrough {f : κ → Except ε ν} {c : Cache κ ν cap} {k : κ} {e : κ × ν}
    (h : e ∈ (readThrough f k c).2.entries) : e.1 = k ∨ e ∈ c.entries := by
  rw [readThrough] at h
  cases hg : c.get k with
  | mk r c' =>
      rw [hg] at h
      cases r with
      | some v =>
          rw [(get_some hg).2] at h
          rcases mem_touch h with heq | hold
          · exact Or.inl (congrArg Prod.fst heq)
          · exact Or.inr hold
      | none =>
          have hc := get_none hg
          subst hc
          cases hf : f k with
          | error e' => rw [hf] at h; exact Or.inr h
          | ok v =>
              rw [hf] at h
              rcases mem_touch h with heq | hold
              · exact Or.inl (congrArg Prod.fst heq)
              · exact Or.inr hold

end LruCache
