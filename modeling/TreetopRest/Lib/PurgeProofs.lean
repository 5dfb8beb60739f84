import TreetopRest.Lib.UpdateRunProofs

/-! # Purging a run

    Some calls are HIDDEN from an observer.  If a hidden call leaves the state
    as the observer sees it, and a visible call does the same to states the
    observer cannot tell apart and gets the same reply, then the observer
    cannot tell a run from the run without its hidden calls: the visible part
    of the trace is the same (`trace_purge`), and so is the view of the state
    at the end (`final_purge`). -/

namespace Purge

open UpdateRun

variable {ι ρ σ : Type} (step : ι → σ → ρ × σ)

/-- The calls of a run that are not hidden. -/
def purge (hidden : ι → Bool) (calls : List ι) : List ι := calls.filter fun c => !hidden c

/-- A relation of states that an observer cannot tell apart, for states that
    satisfy an invariant. -/
structure Unwinding (hidden : ι → Bool) (Inv : σ → Prop) (Same : σ → σ → Prop) : Prop where
  keeps : ∀ s c, Inv s → Inv (step c s).2
  hides : ∀ s s' c, hidden c = true → Inv s → Same s s' → Same (step c s).2 s'
  shows : ∀ s s' c, hidden c = false → Inv s → Inv s' → Same s s' →
    (step c s).1 = (step c s').1 ∧ Same (step c s).2 (step c s').2

variable {step} {hidden : ι → Bool} {Inv : σ → Prop} {Same : σ → σ → Prop}

theorem purge_cons_hidden {c : ι} (h : hidden c = true) (calls : List ι) :
    purge hidden (c :: calls) = purge hidden calls := by
  rw [purge, List.filter_cons_of_neg (by rw [h]; exact Bool.false_ne_true)]
  rfl

theorem purge_cons_visible {c : ι} (h : hidden c = false) (calls : List ι) :
    purge hidden (c :: calls) = c :: purge hidden calls := by
  rw [purge, List.filter_cons_of_pos (by rw [h]; rfl)]
  rfl

/-- **PURGE**: the run without its hidden calls ends in a state that looks the same. -/
theorem final_purge (h : Unwinding step hidden Inv Same) (calls : List ι) :
    ∀ s s', Inv s → Inv s' → Same s s' →
      Same (final step calls s) (final step (purge hidden calls) s') := by
  induction calls with
  | nil =>
      intro s s' _ _ hsame
      exact hsame
  | cons c calls ih =>
      intro s s' hs hs' hsame
      cases hc : hidden c with
      | true =>
          rw [purge_cons_hidden hc]
          exact ih _ _ (h.keeps s c hs) hs' (h.hides s s' c hc hs hsame)
      | false =>
          rw [purge_cons_visible hc]
          exact ih _ _ (h.keeps s c hs) (h.keeps s' c hs') (h.shows s s' c hc hs hs' hsame).2

/-- **PURGE**: what the run without its hidden calls answers is the visible part
    of what the run answers. -/
theorem trace_purge (h : Unwinding step hidden Inv Same) (calls : List ι) :
    ∀ s s', Inv s → Inv s' → Same s s' →
      (trace step calls s).filter (fun e => !hidden e.1)
        = trace step (purge hidden calls) s' := by
  induction calls with
  | nil =>
      intro s s' _ _ _
      rfl
  | cons c calls ih =>
      intro s s' hs hs' hsame
      show ((c, (step c s).1) :: trace step calls (step c s).2).filter _ = _
      cases hc : hidden c with
      | true =>
          rw [purge_cons_hidden hc,
            List.filter_cons_of_neg (by rw [hc]; exact Bool.false_ne_true)]
          exact ih _ _ (h.keeps s c hs) hs' (h.hides s s' c hc hs hsame)
      | false =>
          obtain ⟨hreply, hnext⟩ := h.shows s s' c hc hs hs' hsame
          rw [purge_cons_visible hc, List.filter_cons_of_pos (by rw [hc]; rfl), hreply]
          show _ = (c, (step c s').1) :: trace step (purge hidden calls) (step c s').2
          rw [ih _ _ (h.keeps s c hs) (h.keeps s' c hs') hnext]

end Purge
