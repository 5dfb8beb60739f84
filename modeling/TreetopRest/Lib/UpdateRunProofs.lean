import Mathlib.Tactic.Common

/-! # Runs of a machine that answers every call

    A machine answers each call with a reply and moves to a next state; `run`
    data (the replies, the last state, the trace of call/reply pairs) is
    read off a list of calls, oldest first.  Three rules carry the whole file:

    * an invariant of the calls made so far that every step keeps holds at
      the end of every run (`history_induct`);
    * a property that single steps keep exactly under a condition holds all
      along a run exactly if the condition does (`good_prefixes_iff`);
    * if a REJECTED call leaves the state alone, deleting the rejected calls
      changes neither the other replies nor the last state
      (`final_accepted`, `replies_accepted`). -/

namespace UpdateRun

variable {ι ρ σ : Type} (step : ι → σ → ρ × σ)

/-- The state after a list of calls. -/
def final : List ι → σ → σ
  | [], s => s
  | c :: cs, s => final cs (step c s).2

/-- The replies to a list of calls. -/
def replies : List ι → σ → List ρ
  | [], _ => []
  | c :: cs, s => (step c s).1 :: replies cs (step c s).2

/-- The calls with their replies, oldest first. -/
def trace : List ι → σ → List (ι × ρ)
  | [], _ => []
  | c :: cs, s => (c, (step c s).1) :: trace cs (step c s).2

theorem final_append (cs ds : List ι) (s : σ) :
    final step (cs ++ ds) s = final step ds (final step cs s) := by
  induction cs generalizing s with
  | nil => rfl
  | cons c cs ih => exact ih _

/-- The trace is of the calls made. -/
theorem trace_map_fst (cs : List ι) (s : σ) : (trace step cs s).map Prod.fst = cs := by
  induction cs generalizing s with
  | nil => rfl
  | cons c cs ih =>
      show c :: (trace step cs (step c s).2).map Prod.fst = _
      rw [ih]

theorem trace_append (cs ds : List ι) (s : σ) :
    trace step (cs ++ ds) s = trace step cs s ++ trace step ds (final step cs s) := by
  induction cs generalizing s with
  | nil => rfl
  | cons c cs ih =>
      show (c, (step c s).1) :: trace step (cs ++ ds) (step c s).2 = _
      rw [ih]; rfl

/-! ## Invariants -/

variable {step}

/-- **HISTORY RULE**: a relation between the calls made so far (newest first)
    and the state holds after every run whose calls all qualify, if each
    qualifying step keeps it.  Whether a call qualifies may depend on the past. -/
theorem history_induct_guarded (Inv : List (ι × ρ) → σ → Prop)
    (Ok : List (ι × ρ) → ι → Prop)
    (hstep : ∀ past s c, Inv past s → Ok past c →
      Inv ((c, (step c s).1) :: past) (step c s).2) :
    ∀ (cs : List ι) (past : List (ι × ρ)) (s : σ), Inv past s →
      (∀ pre c post, cs = pre ++ c :: post →
        Ok ((trace step pre s).reverse ++ past) c) →
      Inv ((trace step cs s).reverse ++ past) (final step cs s) := by
  intro cs
  induction cs with
  | nil => intro past s h _; exact h
  | cons c cs ih =>
      intro past s h hok
      have hhead : Ok past c := hok [] c cs rfl
      have hnext := ih ((c, (step c s).1) :: past) (step c s).2
        (hstep past s c h hhead) (by
          intro pre d post hsplit
          have h0 := hok (c :: pre) d post (by rw [hsplit]; rfl)
          have hrev : (trace step (c :: pre) s).reverse ++ past
              = (trace step pre (step c s).2).reverse ++ (c, (step c s).1) :: past := by
            show ((c, (step c s).1) :: trace step pre (step c s).2).reverse ++ past = _
            rw [List.reverse_cons, List.append_assoc]; rfl
          rw [hrev] at h0
          exact h0)
      have hrev : (trace step (c :: cs) s).reverse ++ past
          = (trace step cs (step c s).2).reverse ++ (c, (step c s).1) :: past := by
        show ((c, (step c s).1) :: trace step cs (step c s).2).reverse ++ past = _
        rw [List.reverse_cons, List.append_assoc]; rfl
      rw [hrev]
      exact hnext

/-- The history rule when every call qualifies, from the start of the run. -/
theorem history_induct (Inv : List (ι × ρ) → σ → Prop) {s₀ : σ}
    (hinit : Inv [] s₀)
    (hstep : ∀ past s c, Inv past s → Inv ((c, (step c s).1) :: past) (step c s).2)
    (cs : List ι) : Inv (trace step cs s₀).reverse (final step cs s₀) := by
  have h := history_induct_guarded Inv (fun _ _ => True)
    (fun past s c hi _ => hstep past s c hi) cs [] s₀ hinit (fun _ _ _ _ => trivial)
  rwa [List.append_nil] at h

/-- The history rule when the replies do not matter: the calls so far, oldest first. -/
theorem past_induct (Inv : List ι → σ → Prop) {s₀ : σ} (hinit : Inv [] s₀)
    (hstep : ∀ past s c, Inv past s → Inv (past ++ [c]) (step c s).2) (cs : List ι) :
    Inv cs (final step cs s₀) := by
  have h : Inv ((trace step cs s₀).reverse.reverse.map Prod.fst) (final step cs s₀) := by
    refine history_induct (fun past s => Inv (past.reverse.map Prod.fst) s) hinit ?_ cs
    intro past s c hi
    rw [List.reverse_cons, List.map_append]
    exact hstep _ s c hi
  rwa [List.reverse_reverse, trace_map_fst] at h

/-- The invariant rule for calls that all satisfy `Ok`. -/
theorem final_induct (Inv : σ → Prop) (Ok : ι → Prop)
    (hstep : ∀ s c, Inv s → Ok c → Inv (step c s).2) :
    ∀ (cs : List ι) (s : σ), (∀ c ∈ cs, Ok c) → Inv s → Inv (final step cs s) := by
  intro cs
  induction cs with
  | nil => intro s _ h; exact h
  | cons c cs ih =>
      intro s hok h
      exact ih _ (fun d hd => hok d (List.mem_cons_of_mem _ hd))
        (hstep s c h (hok c (List.mem_cons_self ..)))

/-- The invariant rule for calls that each qualify in the state they are made in. -/
theorem final_induct_guarded (Inv : σ → Prop) (Ok : σ → ι → Prop)
    (hstep : ∀ s c, Inv s → Ok s c → Inv (step c s).2) :
    ∀ (cs : List ι) (s : σ),
      (∀ pre c post, cs = pre ++ c :: post → Ok (final step pre s) c) → Inv s →
      Inv (final step cs s) := by
  intro cs
  induction cs with
  | nil => intro s _ h; exact h
  | cons c cs ih =>
      intro s hok h
      refine ih _ ?_ (hstep s c h (hok [] c cs rfl))
      intro pre d post hsplit
      exact hok (c :: pre) d post (by rw [hsplit]; rfl)

/-- **PREFIX RULE**: where a step from a good state leads to a good state exactly
    if the call keeps it good, a run is good at every point exactly if each of
    its calls keeps it good where it is made. -/
theorem good_prefixes_iff (Inv Good : σ → Prop) (Keeps : σ → ι → Prop)
    (hinv : ∀ s c, Inv s → Inv (step c s).2)
    (hstep : ∀ s c, Inv s → Good s → (Good (step c s).2 ↔ Keeps s c)) :
    ∀ (cs : List ι) (s : σ), Inv s → Good s →
      ((∀ pre post, cs = pre ++ post → Good (final step pre s))
        ↔ ∀ pre c post, cs = pre ++ c :: post → Keeps (final step pre s) c) := by
  intro cs
  induction cs with
  | nil =>
      intro s _ h
      constructor
      · intro _ pre c post hsplit
        exact absurd hsplit (by simp)
      · intro _ pre post hsplit
        have hpre : pre = [] := (List.append_eq_nil_iff.mp hsplit.symm).1
        subst hpre
        exact h
  | cons c cs ih =>
      intro s hi h
      have hone := hstep s c hi h
      constructor
      · intro hall
        have hnext : Good (step c s).2 := hall [c] cs rfl
        have htail := (ih (step c s).2 (hinv s c hi) hnext).mp
          (fun pre post hsplit => hall (c :: pre) post (by rw [hsplit]; rfl))
        intro pre d post hsplit
        cases pre with
        | nil =>
            have hd : c = d := (List.cons.inj hsplit).1
            subst hd
            exact hone.mp hnext
        | cons e pre =>
            obtain ⟨he, hrest⟩ := List.cons.inj hsplit
            subst he
            exact htail pre d post hrest
      · intro hall
        have hnext : Good (step c s).2 := hone.mpr (hall [] c cs rfl)
        have htail := (ih (step c s).2 (hinv s c hi) hnext).mpr
          (fun pre d post hsplit => hall (c :: pre) d post (by rw [hsplit]; rfl))
        intro pre post hsplit
        cases pre with
        | nil => exact h
        | cons e pre =>
            obtain ⟨he, hrest⟩ := List.cons.inj hsplit
            subst he
            exact htail pre post hrest

/-! ## Deleting the rejected calls -/

variable (step) (rejected : ρ → Bool)

/-- The calls of a run that were not rejected. -/
def accepted : List ι → σ → List ι
  | [], _ => []
  | c :: cs, s =>
      if rejected (step c s).1 then accepted cs (step c s).2
      else c :: accepted cs (step c s).2

variable {step rejected}

/-- Where rejections are inert, the accepted calls alone lead to the same state. -/
theorem final_accepted (Inv : σ → Prop)
    (hkeep : ∀ s c, Inv s → Inv (step c s).2)
    (hinert : ∀ s c, Inv s → rejected (step c s).1 = true → (step c s).2 = s) :
    ∀ (cs : List ι) (s : σ), Inv s →
      final step (accepted step rejected cs s) s = final step cs s := by
  intro cs
  induction cs with
  | nil => intro s _; rfl
  | cons c cs ih =>
      intro s h
      have htail := ih (step c s).2 (hkeep s c h)
      by_cases hr : rejected (step c s).1 = true
      · rw [accepted, if_pos hr]
        show _ = final step cs (step c s).2
        rw [hinert s c h hr] at htail ⊢
        exact htail
      · rw [accepted, if_neg hr]
        exact htail

/-- Where rejections are inert, the accepted calls alone get the same replies. -/
theorem replies_accepted (Inv : σ → Prop)
    (hkeep : ∀ s c, Inv s → Inv (step c s).2)
    (hinert : ∀ s c, Inv s → rejected (step c s).1 = true → (step c s).2 = s) :
    ∀ (cs : List ι) (s : σ), Inv s →
      replies step (accepted step rejected cs s) s
        = (replies step cs s).filter (fun r => !rejected r) := by
  intro cs
  induction cs with
  | nil => intro s _; rfl
  | cons c cs ih =>
      intro s h
      have htail := ih (step c s).2 (hkeep s c h)
      show _ = ((step c s).1 :: replies step cs (step c s).2).filter (fun r => !rejected r)
      by_cases hr : rejected (step c s).1 = true
      · rw [accepted, if_pos hr, List.filter_cons_of_neg (by simp [hr])]
        rw [hinert s c h hr] at htail ⊢
        exact htail
      · rw [accepted, if_neg hr, List.filter_cons_of_pos (by simpa using hr)]
        show (step c s).1 :: replies step _ (step c s).2 = _
        rw [htail]

end UpdateRun
