import TreetopRest.MetricSinkModel

/-! # Cached metric handles

    A callback that finds its handles in the cache records in the same series
    as one that looks every label up, in whatever order the callbacks take
    their steps: a lost race for an entry or a cell loses no record, and ids
    that share a label share its series. -/

namespace TreetopMetricSink

open TreetopMetricLabels Interleaving SharedLog HandleCache

variable {C : TimeCrate} {U : UidCrate} {callbacks : List (Callback C)} {schedule : List Nat}

/-! ## One callback -/

def Callback.isEvaluation : Callback C → Bool
  | .onEvaluation _ => true
  | .onEvaluationPhases .. => false

def Callback.isEvaluationPhases : Callback C → Bool
  | .onEvaluation _ => false
  | .onEvaluationPhases .. => true

def Callback.allowed : Callback C → Bool
  | .onEvaluation stats | .onEvaluationPhases stats _ => stats.allowed

/-- The action id of a callback maps to a label. -/
def Callback.labelled (U : UidCrate) (label : List Char) (callback : Callback C) : Bool :=
  metricActionId U callback.task.1 == label

/-- The callbacks that record at a cell. -/
def Callback.uses (callback : Callback C) : Slot → Bool
  | .evalsTotal | .evalDurationSeconds => callback.isEvaluation
  | .evalsAllowed => callback.isEvaluation && callback.allowed
  | .evalsDenied => callback.isEvaluation && !callback.allowed
  | .phase _ => callback.isEvaluationPhases

/-- Counters are incremented and histograms observe. -/
def Slot.kind : Slot → Record C → Bool
  | .evalsTotal | .evalsAllowed | .evalsDenied => Record.isInc
  | .evalDurationSeconds | .phase _ => Record.isObserve

/-- A callback that records at a cell does so once. -/
theorem countP_slot (slot : Slot) (callback : Callback C) :
    callback.task.2.countP (fun sr => slot.kind sr.2 && decide (sr.1 = slot))
      = if callback.uses slot = true then 1 else 0 := by
  cases callback with
  | onEvaluation stats =>
      show (onEvaluation stats).countP _ = _
      rw [onEvaluation]
      cases hallowed : stats.allowed <;>
        cases slot <;> simp [Slot.kind, Record.isInc, Record.isObserve, Callback.uses,
          Callback.isEvaluation, Callback.isEvaluationPhases, Callback.allowed, hallowed]
  | onEvaluationPhases stats phases =>
      cases slot with
      | phase i => fin_cases i <;> rfl
      | _ => rfl

/-- And in the series of its label, not in that of another. -/
theorem countP_series (label : List Char) (slot : Slot) (callback : Callback C) :
    callback.task.2.countP (fun sr => slot.kind sr.2
        && decide (seriesOf U callback.task.1 sr.1 = seriesOfLabel label slot))
      = if (callback.labelled U label && callback.uses slot) = true then 1 else 0 := by
  by_cases hlabel : metricActionId U callback.task.1 = label
  · have hlabelled : callback.labelled U label = true := beq_iff_eq.mpr hlabel
    rw [hlabelled, Bool.true_and, ← countP_slot]
    refine List.countP_congr fun sr _ => ?_
    simp [seriesOf, seriesOfLabel_inj, hlabel]
  · have hlabelled : callback.labelled U label = false := beq_eq_false_iff_ne.mpr hlabel
    rw [hlabelled, Bool.false_and, if_neg Bool.false_ne_true, List.countP_eq_zero]
    intro sr _
    simp [seriesOf, seriesOfLabel_inj, hlabel]

/-! ## All of them -/

/-- What a series holds of its kind where all callbacks have returned. -/
theorem countP_done (hdone : ∀ t ∈ (cachedSink U callbacks schedule).1, t.Done)
    (label : List Char) (slot : Slot) :
    ((cachedSink U callbacks schedule).2.family.log (seriesOfLabel label slot)).countP slot.kind
      = callbacks.countP fun callback => callback.labelled U label && callback.uses slot := by
  have hlog := (cached_done hdone (seriesOfLabel label slot)).1
  rw [keyOf_handles] at hlog
  have hplanned := countP_planned (seriesOf U) Callback.task
    (fun callback => countP_series (U := U) label slot callback) callbacks
  rw [← hlog, Multiset.coe_countP] at hplanned
  simpa [cachedSink] using hplanned

/-- The series of a label after callbacks. -/
structure Counted (U : UidCrate) (callbacks : List (Callback C))
    (families : Family Series (Record C)) (label : List Char) : Prop where
  total : counterValue families (.evalsTotal ⟨label⟩)
    = callbacks.countP fun callback => callback.labelled U label && callback.isEvaluation
  split : counterValue families (.evalsAllowed ⟨label⟩)
      + counterValue families (.evalsDenied ⟨label⟩)
    = counterValue families (.evalsTotal ⟨label⟩)
  allowed : counterValue families (.evalsAllowed ⟨label⟩)
    = callbacks.countP fun callback =>
        callback.labelled U label && (callback.isEvaluation && callback.allowed)
  duration : sampleCount families (.evalDurationSeconds ⟨label⟩)
    = counterValue families (.evalsTotal ⟨label⟩)
  phases : ∀ i, sampleCount families (.evalPhaseDurationSeconds ⟨label, phaseName i⟩)
    = callbacks.countP fun callback => callback.labelled U label && callback.isEvaluationPhases

theorem counted_done (hdone : ∀ t ∈ (cachedSink U callbacks schedule).1, t.Done)
    (label : List Char) :
    Counted U callbacks (cachedSink U callbacks schedule).2.family label := by
  have htotal := countP_done hdone label .evalsTotal
  have hallowed := countP_done hdone label .evalsAllowed
  have hdenied := countP_done hdone label .evalsDenied
  refine ⟨htotal, ?_, hallowed, (countP_done hdone label .evalDurationSeconds).trans htotal.symm,
    fun i => countP_done hdone label (.phase i)⟩
  -- every evaluation is allowed or denied
  refine (congrArg₂ (· + ·) hallowed hdenied).trans (Eq.trans ?_ htotal.symm)
  rw [List.countP_eq_countP_filter_add callbacks
    (fun callback => callback.labelled U label && callback.uses .evalsTotal) Callback.allowed,
    List.countP_filter, List.countP_filter]
  simp only [Callback.uses, Bool.and_assoc]

/-! ## The two sinks -/

/-- Where the same series are there and hold the same records, what is exported
    is the same but for the order of the records. -/
theorem exportedUnordered_of_log {families families' : Family Series (Record C)} {series : Series}
    (hindex : families.index series = none ↔ families'.index series = none)
    (hlog : (families.log series : Multiset (Record C)) = families'.log series) :
    exportedUnordered families series = exportedUnordered families' series := by
  rw [exportedUnordered, exportedUnordered, exported, exported]
  rw [Family.log, Family.log] at hlog
  cases h : families.index series with
  | none =>
      rw [hindex.mp h]
      rfl
  | some a =>
      cases h' : families'.index series with
      | none => exact absurd (hindex.mpr h') (by rw [h]; exact Option.some_ne_none a)
      | some a' =>
          rw [h, h'] at hlog
          exact congrArg some hlog

/-- At every moment the cached sink exports what the uncached one does after
    the same callbacks in the same order, those steps left out that only look
    for an entry. -/
theorem cachedSink_simulates (U : UidCrate) (callbacks : List (Callback C))
    (schedule : List Nat) :
    ∃ seen, seen.Sublist schedule
      ∧ exported (cachedSink U callbacks schedule).2.family
        = exported (uncachedSink U callbacks seen).2
      ∧ ((∀ t ∈ (cachedSink U callbacks schedule).1, t.Done) →
          ∀ t ∈ (uncachedSink U callbacks seen).1, t.Done) := by
  obtain ⟨seen, hsub, hrun⟩ :=
    cached_simulates (L := handles U) (callbacks.map Callback.task) schedule
  rw [keyOf_handles] at hrun
  refine ⟨seen, hsub, congrArg (fun M => exported M.2) hrun, fun hdone => ?_⟩
  have htasks : (cachedSink U callbacks schedule).1.map (Task.seen (handles U))
      = (uncachedSink U callbacks seen).1 := congrArg Prod.fst hrun
  rw [← htasks]
  exact Task.seen_done hdone

theorem length_task (callback : Callback C) : callback.task.2.length ≤ 5 := by
  cases callback with
  | onEvaluation stats => exact Nat.le_of_ble_eq_true rfl
  | onEvaluationPhases stats phases => exact Nat.le_refl 5

/-- The steps of a callback that no other interrupts are its call. -/
theorem callback_alone {sink : PrometheusMetricsSink U C} (h : Coherent sink)
    (callback : Callback C) :
    ∃ n ≤ 13, Task.alone n (.lookup callback.task.1 callback.task.2) sink
      = (.touch callback.task.1 (sink.actionMetrics callback.task.1).1 [],
          callback.call sink) := by
  obtain ⟨n, hn, halone⟩ := alone_lookup callback.task.1 callback.task.2 h
  have hlength := length_task callback
  exact ⟨n, by omega, halone⟩

/-- At every moment the cells of all entries, of those too that lost a race,
    have the handles of their series, and the map is to entries of the label. -/
theorem cachedSink_coherent (U : UidCrate) (callbacks : List (Callback C))
    (schedule : List Nat) : Coherent (cachedSink U callbacks schedule).2 :=
  (run_keeps Task.undisturbed schedule _ (Task.start_holds _)).shared

/-- No callback waits for another: each has returned after at most 13 steps. -/
theorem cachedSink_finishes
    (hturns : ∀ i < callbacks.length, 13 ≤ schedule.count i) :
    ∀ t ∈ (cachedSink U callbacks schedule).1, t.Done := by
  refine cached_finishes fun i task htask => ?_
  rw [List.getElem?_map, Option.map_eq_some_iff] at htask
  obtain ⟨callback, hi, rfl⟩ := htask
  have hlength := length_task callback
  have hcount := hturns i (List.getElem?_eq_some_iff.mp hi).1
  omega

/-- **THE CACHE LOSES AND DOUBLES NOTHING**: whatever the callbacks and the
    order of their steps, at every moment the series are those of an uncached
    sink; all callbacks return; and when they have, every complete run of the
    uncached sink has the same series, and each label counts its callbacks. -/
theorem cached_handles_exact (U : UidCrate) (callbacks : List (Callback C))
    (schedule : List Nat) :
    (∃ seen, seen.Sublist schedule
      ∧ exported (cachedSink U callbacks schedule).2.family
        = exported (uncachedSink U callbacks seen).2
      ∧ ((∀ t ∈ (cachedSink U callbacks schedule).1, t.Done) →
          ∀ t ∈ (uncachedSink U callbacks seen).1, t.Done))
    ∧ ((∀ i < callbacks.length, 13 ≤ schedule.count i) →
        ∀ t ∈ (cachedSink U callbacks schedule).1, t.Done)
    ∧ ((∀ t ∈ (cachedSink U callbacks schedule).1, t.Done) →
        (∀ schedule', (∀ t ∈ (uncachedSink U callbacks schedule').1, t.Done) →
          exportedUnordered (cachedSink U callbacks schedule).2.family
            = exportedUnordered (uncachedSink U callbacks schedule').2)
        ∧ ∀ label, Counted U callbacks (cachedSink U callbacks schedule).2.family label) := by
  refine ⟨cachedSink_simulates U callbacks schedule, cachedSink_finishes, fun hdone => ⟨?_, ?_⟩⟩
  · intro schedule' hdone'
    funext series
    obtain ⟨hlog, hindex⟩ := cached_done hdone series
    obtain ⟨hlog', hindex'⟩ := direct_done (seriesOf U) hdone' series
    rw [keyOf_handles] at hlog hindex
    exact exportedUnordered_of_log (hindex.trans hindex'.symm) (hlog.trans hlog'.symm)
  · exact fun label => counted_done hdone label

end TreetopMetricSink
