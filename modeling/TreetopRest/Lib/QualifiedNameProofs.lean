import Mathlib.Data.List.Basic
import Mathlib.Tactic.Common

/-! # Names joined by a doubled separator

    Names such as `A::B::c` over any alphabet: components joined by a doubled
    separator that occurs in none of them.  Splitting undoes joining
    (`splitDoubled_join`), a split at the LAST occurrence of a pattern finds
    the one before a text that lacks the pattern's end (`rsplitOnce_append`),
    and two qualified texts agree exactly where one path continues the other
    (`qualify_append_inj`). -/

namespace QualifiedName

variable {α : Type} [DecidableEq α]

/-- Split at the last occurrence of a pattern that is not empty. -/
def rsplitOnce (pat : List α) : List α → Option (List α × List α)
  | [] => none
  | c :: rest =>
      match rsplitOnce pat rest with
      | some (a, b) => some (c :: a, b)
      | none =>
          if pat.isPrefixOf (c :: rest) then some ([], (c :: rest).drop pat.length) else none

/-- The pieces between the occurrences of a doubled separator. -/
def splitDoubled (sep : α) : List α → List (List α)
  | [] => [[]]
  | [c] => [[c]]
  | c :: d :: rest =>
      if c = sep ∧ d = sep then [] :: splitDoubled sep rest
      else match splitDoubled sep (d :: rest) with
        | [] => [[c]]
        | piece :: pieces => (c :: piece) :: pieces

omit [DecidableEq α] in
/-- Every component with the doubled separator after it. -/
def qualify (sep : α) (comps : List (List α)) : List α :=
  comps.flatMap fun comp => comp ++ [sep, sep]

/-! ## The last occurrence -/

/-- What is found is an occurrence. -/
theorem rsplitOnce_spec {pat s a b : List α} (h : rsplitOnce pat s = some (a, b)) :
    s = a ++ (pat ++ b) := by
  induction s generalizing a with
  | nil => exact nomatch h
  | cons c rest ih =>
      rw [rsplitOnce] at h
      cases hlast : rsplitOnce pat rest with
      | some found =>
          obtain ⟨a', b'⟩ := found
          rw [hlast] at h
          obtain ⟨rfl, rfl⟩ := Prod.mk.inj (Option.some.inj h)
          rw [List.cons_append, ← ih hlast]
      | none =>
          rw [hlast] at h
          by_cases hpre : pat.isPrefixOf (c :: rest) = true
          · rw [if_pos hpre] at h
            obtain ⟨rfl, rfl⟩ := Prod.mk.inj (Option.some.inj h)
            obtain ⟨tail, htail⟩ := List.isPrefixOf_iff_prefix.mp hpre
            rw [← htail, List.drop_left, List.nil_append]
          · rw [if_neg hpre] at h
            exact nomatch h

/-- Before a text without the pattern's last element, the occurrence is the last. -/
theorem rsplitOnce_append {p b : List α} {q : α} (hq : q ∉ b) (a : List α) :
    rsplitOnce (p ++ [q]) (a ++ ((p ++ [q]) ++ b)) = some (a, b) := by
  induction a with
  | cons c a ih => rw [List.cons_append, rsplitOnce, ih]
  | nil =>
      rw [List.nil_append]
      cases hs : (p ++ [q]) ++ b with
      | nil => exact absurd hs (by simp)
      | cons c rest =>
          have hnone : rsplitOnce (p ++ [q]) rest = none := by
            cases hlast : rsplitOnce (p ++ [q]) rest with
            | none => rfl
            | some found =>
                -- a later occurrence would end inside `b`
                obtain ⟨a', b'⟩ := found
                rw [rsplitOnce_spec hlast] at hs
                have hdrop := congrArg (List.drop (p ++ [q]).length) hs
                have hfront : (p ++ [q]).length ≤ (c :: (a' ++ p)).length := by
                  simp only [List.length_append, List.length_cons, List.length_nil]
                  omega
                have hshape : c :: (a' ++ ((p ++ [q]) ++ b')) = (c :: (a' ++ p)) ++ (q :: b') := by
                  simp
                rw [List.drop_left, hshape, List.drop_append_of_le_length hfront] at hdrop
                exact absurd (hdrop ▸ List.mem_append_right _ (List.mem_cons_self ..)) hq
          have hpre : (p ++ [q]).isPrefixOf (c :: rest) = true := by
            rw [List.isPrefixOf_iff_prefix, ← hs]
            exact List.prefix_append _ _
          rw [rsplitOnce, hnone]
          dsimp only
          rw [if_pos hpre, ← hs, List.drop_left]

/-! ## Splitting and joining -/

variable {sep : α}

theorem splitDoubled_ne_nil (s : List α) : splitDoubled sep s ≠ [] := by
  fun_cases splitDoubled sep s <;> simp_all

/-- A character that is not the separator is part of the first piece. -/
theorem splitDoubled_cons {c : α} (hc : c ≠ sep) (s : List α) :
    splitDoubled sep (c :: s)
      = (splitDoubled sep s).modifyHead fun piece => c :: piece := by
  cases s with
  | nil => rfl
  | cons d rest =>
      rw [splitDoubled, if_neg (fun h => hc h.1)]
      cases hrest : splitDoubled sep (d :: rest) with
      | nil => exact absurd hrest (splitDoubled_ne_nil _)
      | cons piece pieces => rfl

/-- A component ends at the first doubled separator. -/
theorem splitDoubled_append {comp : List α} (hcomp : sep ∉ comp) (s : List α) :
    splitDoubled sep (comp ++ sep :: sep :: s) = comp :: splitDoubled sep s := by
  induction comp with
  | nil =>
      show splitDoubled sep (sep :: sep :: s) = _
      rw [splitDoubled, if_pos ⟨rfl, rfl⟩]
  | cons c comp ih =>
      obtain ⟨hc, hrest⟩ := List.ne_and_not_mem_of_not_mem_cons hcomp
      rw [List.cons_append, splitDoubled_cons (Ne.symm hc), ih hrest]
      rfl

theorem splitDoubled_single {comp : List α} (hcomp : sep ∉ comp) :
    splitDoubled sep comp = [comp] := by
  induction comp with
  | nil => rfl
  | cons c comp ih =>
      obtain ⟨hc, hrest⟩ := List.ne_and_not_mem_of_not_mem_cons hcomp
      rw [splitDoubled_cons (Ne.symm hc), ih hrest]
      rfl

/-- **Splitting undoes joining**, for components without the separator. -/
theorem splitDoubled_join {comps : List (List α)} (hne : comps ≠ [])
    (h : ∀ comp ∈ comps, sep ∉ comp) :
    splitDoubled sep ([sep, sep].intercalate comps) = comps := by
  induction comps with
  | nil => exact absurd rfl hne
  | cons comp comps ih =>
      obtain ⟨hcomp, hrest⟩ := List.forall_mem_cons.mp h
      cases comps with
      | nil => rw [List.intercalate_singleton, splitDoubled_single hcomp]
      | cons d comps =>
          have htail := ih (List.cons_ne_nil _ _) hrest
          rw [List.intercalate_cons_cons, List.append_assoc, List.cons_append,
            List.singleton_append, splitDoubled_append hcomp, htail]

/-- Joining undoes splitting. -/
theorem join_splitDoubled (s : List α) : [sep, sep].intercalate (splitDoubled sep s) = s := by
  induction s using splitDoubled.induct sep with
  | case1 => rfl
  | case2 c => rfl
  | case3 c d rest hsep ih =>
      obtain ⟨rfl, rfl⟩ := hsep
      rw [splitDoubled, if_pos ⟨rfl, rfl⟩,
        List.intercalate_cons_of_ne_nil (splitDoubled_ne_nil rest), ih]
      rfl
  | case4 c d rest hsep hnil ih => exact absurd hnil (splitDoubled_ne_nil _)
  | case5 c d rest hsep piece pieces hpieces ih =>
      rw [splitDoubled, if_neg hsep, hpieces]
      rw [hpieces] at ih
      cases pieces with
      | nil =>
          rw [List.intercalate_singleton] at ih ⊢
          rw [ih]
      | cons e pieces =>
          rw [List.intercalate_cons_cons] at ih ⊢
          rw [List.cons_append, List.cons_append, ih]

omit [DecidableEq α] in
theorem join_append_sep {comps : List (List α)} (hne : comps ≠ []) :
    [sep, sep].intercalate comps ++ [sep, sep] = qualify sep comps := by
  induction comps with
  | nil => exact absurd rfl hne
  | cons comp comps ih =>
      cases comps with
      | nil => simp [qualify]
      | cons d comps =>
          rw [List.intercalate_cons_cons, List.append_assoc, ih (List.cons_ne_nil _ _)]
          rfl

/-! ## Comparing qualified texts -/

omit [DecidableEq α] in
theorem component_append_inj {a b x y : List α} (ha : sep ∉ a) (hb : sep ∉ b)
    (h : a ++ sep :: x = b ++ sep :: y) : a = b ∧ x = y := by
  induction a generalizing b with
  | nil =>
      cases b with
      | nil => exact ⟨rfl, (List.cons.inj h).2⟩
      | cons d b => exact absurd (List.mem_cons.mpr (Or.inl (List.cons.inj h).1)) hb
  | cons c a ih =>
      obtain ⟨hc, ha'⟩ := List.ne_and_not_mem_of_not_mem_cons ha
      cases b with
      | nil => exact absurd (List.cons.inj h).1.symm hc
      | cons d b =>
          obtain ⟨rfl, hrest⟩ := List.cons.inj h
          obtain ⟨rfl, hxy⟩ := ih ha' (List.ne_and_not_mem_of_not_mem_cons hb).2 hrest
          exact ⟨rfl, hxy⟩

omit [DecidableEq α] in
/-- **Two qualified texts agree** exactly if one path continues the other, and
    the rest of the shorter one spells out the continuation. -/
theorem qualify_append_inj {cs ds : List (List α)} (hcs : ∀ comp ∈ cs, sep ∉ comp)
    (hds : ∀ comp ∈ ds, sep ∉ comp) {x y : List α} :
    qualify sep cs ++ x = qualify sep ds ++ y
      ↔ (∃ w, ds = cs ++ w ∧ x = qualify sep w ++ y)
        ∨ (∃ w, cs = ds ++ w ∧ y = qualify sep w ++ x) := by
  induction cs generalizing ds with
  | nil =>
      constructor
      · intro h
        exact Or.inl ⟨ds, rfl, h⟩
      · rintro (⟨w, rfl, h⟩ | ⟨w, hw, h⟩)
        · exact h
        · obtain ⟨rfl, rfl⟩ := List.append_eq_nil_iff.mp hw.symm
          exact h.symm
  | cons c cs ih =>
      obtain ⟨hc, hcs'⟩ := List.forall_mem_cons.mp hcs
      cases ds with
      | nil =>
          constructor
          · intro h
            exact Or.inr ⟨c :: cs, rfl, h.symm⟩
          · rintro (⟨w, hw, _⟩ | ⟨w, rfl, h⟩)
            · exact absurd hw.symm (by simp)
            · exact h.symm
      | cons d ds =>
          obtain ⟨hd, hds'⟩ := List.forall_mem_cons.mp hds
          have hsplit : ∀ (comp : List α) (comps : List (List α)) (z : List α),
              qualify sep (comp :: comps) ++ z
                = comp ++ sep :: sep :: (qualify sep comps ++ z) := by
            intro comp comps z
            simp [qualify]
          rw [hsplit, hsplit]
          constructor
          · intro h
            -- the components end at the same separator, so they are equal
            obtain ⟨rfl, hrest⟩ := component_append_inj hc hd h
            rcases (ih hcs' hds').mp (List.cons.inj hrest).2 with ⟨w, rfl, hx⟩ | ⟨w, rfl, hy⟩
            · exact Or.inl ⟨w, rfl, hx⟩
            · exact Or.inr ⟨w, rfl, hy⟩
          · rintro (⟨w, hw, hx⟩ | ⟨w, hw, hy⟩)
            · obtain ⟨rfl, hcont⟩ := List.cons.inj hw
              rw [(ih hcs' hds').mpr (Or.inl ⟨w, hcont, hx⟩)]
            · obtain ⟨rfl, hcont⟩ := List.cons.inj hw
              rw [(ih hcs' hds').mpr (Or.inr ⟨w, hcont, hy⟩)]

end QualifiedName
