import TreetopRest.MetricLabelModel
import TreetopRest.Lib.HandleCacheProofs
import Mathlib.Data.Fintype.Basic
import Mathlib.Tactic.FinCases

/-! # The sink of the engine's metrics

    The engine calls the sink after every evaluation, from many threads.  The
    sink keeps the handles of an action in `ActionMetrics`, which it finds by
    the raw action id.  A thread in `action_metrics` is at the read-locked
    lookup, at `ActionMetrics::new` or at the write-locked insert; after that
    `get_or_init` of a cell is its `touch`, and `inc` or `observe` its `record`. -/

namespace TreetopMetricSink

open TreetopMetricLabels Interleaving SharedLog HandleCache

/-! ## Labels and series -/

structure ActionLabels where
  action : List Char
deriving DecidableEq

structure EvaluationPhaseLabels where
  action : List Char
  phase : List Char
deriving DecidableEq

/-- The label sets of the five families. -/
inductive Series where
  | evalsTotal (labels : ActionLabels)
  | evalsAllowed (labels : ActionLabels)
  | evalsDenied (labels : ActionLabels)
  | evalDurationSeconds (labels : ActionLabels)
  | evalPhaseDurationSeconds (labels : EvaluationPhaseLabels)
deriving DecidableEq

/-! ## Handles -/

structure EvaluationPhaseMetric where
  labels : EvaluationPhaseLabels
  histogram : Option Nat

def EvaluationPhaseMetric.new (action phase : List Char) : EvaluationPhaseMetric where
  labels := { action, phase }
  histogram := none

structure ActionMetrics where
  labels : ActionLabels
  evalsTotal : Option Nat
  evalsAllowed : Option Nat
  evalsDenied : Option Nat
  evalDurationSeconds : Option Nat
  phases : Vector EvaluationPhaseMetric 5

def ActionMetrics.new (action : List Char) : ActionMetrics where
  phases := #v[
    .new action "apply_labels".toList,
    .new action "construct_entities".toList,
    .new action "resolve_groups".toList,
    .new action "cedar_authorize".toList,
    .new action "overhead".toList]
  labels := { action }
  evalsTotal := none
  evalsAllowed := none
  evalsDenied := none
  evalDurationSeconds := none

/-- The cells of `ActionMetrics`. -/
inductive Slot where
  | evalsTotal
  | evalsAllowed
  | evalsDenied
  | evalDurationSeconds
  | phase (i : Fin 5)
deriving DecidableEq

namespace ActionMetrics

def cell (metrics : ActionMetrics) : Slot → Option Nat
  | .evalsTotal => metrics.evalsTotal
  | .evalsAllowed => metrics.evalsAllowed
  | .evalsDenied => metrics.evalsDenied
  | .evalDurationSeconds => metrics.evalDurationSeconds
  | .phase i => metrics.phases[i].histogram

def setCell (metrics : ActionMetrics) (slot : Slot) (handle : Nat) : ActionMetrics :=
  match slot with
  | .evalsTotal => { metrics with evalsTotal := some handle }
  | .evalsAllowed => { metrics with evalsAllowed := some handle }
  | .evalsDenied => { metrics with evalsDenied := some handle }
  | .evalDurationSeconds => { metrics with evalDurationSeconds := some handle }
  | .phase i =>
      { metrics with
        phases := metrics.phases.set i { metrics.phases[i] with histogram := some handle } }

/-- What a cell is initialised with is the handle of a series. -/
def series (metrics : ActionMetrics) : Slot → Series
  | .evalsTotal => .evalsTotal metrics.labels
  | .evalsAllowed => .evalsAllowed metrics.labels
  | .evalsDenied => .evalsDenied metrics.labels
  | .evalDurationSeconds => .evalDurationSeconds metrics.labels
  | .phase i => .evalPhaseDurationSeconds metrics.phases[i].labels

theorem cell_new (action : List Char) (slot : Slot) : (new action).cell slot = none := by
  cases slot with
  | phase i => fin_cases i <;> rfl
  | _ => rfl

theorem series_setCell (metrics : ActionMetrics) (slot : Slot) (handle : Nat) :
    (metrics.setCell slot handle).series = metrics.series := by
  funext slot'
  cases slot with
  | phase i =>
      cases slot' with
      | phase j =>
          show Series.evalPhaseDurationSeconds (metrics.phases.set i _)[j].labels = _
          by_cases hij : i = j
          · rw [hij]
            simp [series]
          · have hne : i.val ≠ j.val := fun h => hij (Fin.ext h)
            simp [series, Vector.getElem_set_ne _ _ hne]
      | _ => rfl
  | _ => rfl

theorem cell_setCell (metrics : ActionMetrics) (slot : Slot) (handle : Nat) (slot' : Slot) :
    (metrics.setCell slot handle).cell slot'
      = if slot' = slot then some handle else metrics.cell slot' := by
  cases slot with
  | phase i =>
      cases slot' with
      | phase j =>
          show (metrics.phases.set i _)[j].histogram = _
          by_cases hij : i = j
          · rw [hij, if_pos rfl]
            simp
          · have hne : i.val ≠ j.val := fun h => hij (Fin.ext h)
            rw [if_neg (by simpa using Ne.symm hij)]
            simp [cell, Vector.getElem_set_ne _ _ hne]
      | _ => rfl
  | _ => cases slot' <;> rfl

end ActionMetrics

/-- The entries of the cache, made on the first use of an action id. -/
def handles (U : UidCrate) : Layout (List Char) Slot Series where
  Entry := ActionMetrics
  make := fun actionId => .new (metricActionId U actionId)
  key := ActionMetrics.series
  cell := ActionMetrics.cell
  setCell := ActionMetrics.setCell
  cell_make := fun actionId slot => ActionMetrics.cell_new (metricActionId U actionId) slot
  key_setCell := ActionMetrics.series_setCell
  cell_setCell := ActionMetrics.cell_setCell

/-! ## Callbacks -/

structure EvaluationPhases (F64 : Type) where
  applyLabelsMs : F64
  constructEntitiesMs : F64
  resolveGroupsMs : F64
  authorizeMs : F64
  totalMs : F64

/-- The times of the engine, which the sink only converts and passes on. -/
structure TimeCrate where
  F64 : Type
  Duration : Type
  asSecsF64 : Duration → F64
  div : F64 → F64 → F64
  thousand : F64
  overheadMs : EvaluationPhases F64 → F64

structure EvaluationStats (C : TimeCrate) where
  actionId : List Char
  allowed : Bool
  duration : C.Duration

/-- What is done with a handle. -/
inductive Record (C : TimeCrate) where
  | inc
  | observe (value : C.F64)

variable {C : TimeCrate}

def onEvaluation (stats : EvaluationStats C) : Todo Slot (Record C) :=
  [(.evalsTotal, .inc),
   (if stats.allowed then .evalsAllowed else .evalsDenied, .inc),
   (.evalDurationSeconds, .observe (C.asSecsF64 stats.duration))]

def observePhase (phase : Fin 5) (durationMs : C.F64) : Slot × Record C :=
  (.phase phase, .observe (C.div durationMs C.thousand))

def onEvaluationPhases (phases : EvaluationPhases C.F64) : Todo Slot (Record C) :=
  [observePhase 0 phases.applyLabelsMs,
   observePhase 1 phases.constructEntitiesMs,
   observePhase 2 phases.resolveGroupsMs,
   observePhase 3 phases.authorizeMs,
   observePhase 4 (C.overheadMs phases)]

inductive Callback (C : TimeCrate) where
  | onEvaluation (stats : EvaluationStats C)
  | onEvaluationPhases (stats : EvaluationStats C) (phases : EvaluationPhases C.F64)

/-- The families, the `action_metrics` map and the entries. -/
abbrev PrometheusMetricsSink (U : UidCrate) (C : TimeCrate) := Shared (handles U) (Record C)

def PrometheusMetricsSink.actionMetrics {U : UidCrate} (sink : PrometheusMetricsSink U C)
    (actionId : List Char) : Nat × PrometheusMetricsSink U C :=
  getOrInsert sink actionId

/-- The action id a callback looks up, and its records. -/
def Callback.task : Callback C → List Char × Todo Slot (Record C)
  | .onEvaluation stats => (stats.actionId, TreetopMetricSink.onEvaluation stats)
  | .onEvaluationPhases stats phases =>
      (stats.actionId, TreetopMetricSink.onEvaluationPhases phases)

/-- A callback that no other interrupts. -/
def Callback.call {U : UidCrate} (callback : Callback C) (sink : PrometheusMetricsSink U C) :
    PrometheusMetricsSink U C :=
  recordAll (sink.actionMetrics callback.task.1).2 (sink.actionMetrics callback.task.1).1
    callback.task.2

/-- Concurrent callbacks on a new sink, after a schedule of their steps. -/
def cachedSink (U : UidCrate) (callbacks : List (Callback C)) (schedule : List Nat) :
    List (Task (List Char) Slot (Record C)) × PrometheusMetricsSink U C :=
  run Task.step schedule (Task.start (handles U) (callbacks.map Callback.task))

/-! ## Without a cache -/

def phaseName (i : Fin 5) : List Char :=
  #v["apply_labels".toList, "construct_entities".toList, "resolve_groups".toList,
    "cedar_authorize".toList, "overhead".toList][i]

def seriesOfLabel (label : List Char) : Slot → Series
  | .evalsTotal => .evalsTotal ⟨label⟩
  | .evalsAllowed => .evalsAllowed ⟨label⟩
  | .evalsDenied => .evalsDenied ⟨label⟩
  | .evalDurationSeconds => .evalDurationSeconds ⟨label⟩
  | .phase i => .evalPhaseDurationSeconds ⟨label, phaseName i⟩

/-- The series of an action id, by its label. -/
def seriesOf (U : UidCrate) (actionId : List Char) : Slot → Series :=
  seriesOfLabel (metricActionId U actionId)

/-- The same callbacks where each looks up every label in its family. -/
def uncachedSink (U : UidCrate) (callbacks : List (Callback C)) (schedule : List Nat) :
    List (Direct (List Char) Slot Series (Record C)) × Family Series (Record C) :=
  run (Direct.step (seriesOf U)) schedule (Direct.start (callbacks.map Callback.task))

theorem keyOf_handles (U : UidCrate) : (handles U).keyOf = seriesOf U := by
  funext actionId slot
  cases slot with
  | phase i => fin_cases i <;> rfl
  | _ => rfl

theorem phaseName_inj (i j : Fin 5) : phaseName i = phaseName j ↔ i = j := by
  decide +revert

/-- Labels and cells do not share series. -/
theorem seriesOfLabel_inj (label label' : List Char) (slot slot' : Slot) :
    seriesOfLabel label slot = seriesOfLabel label' slot' ↔ slot = slot' ∧ label = label' := by
  cases slot with
  | phase i =>
      cases slot' with
      | phase j =>
          simp only [seriesOfLabel, Series.evalPhaseDurationSeconds.injEq,
            EvaluationPhaseLabels.mk.injEq, phaseName_inj, Slot.phase.injEq]
          exact And.comm
      | _ => simp [seriesOfLabel]
  | _ => cases slot' <;> simp [seriesOfLabel]

/-! ## What is exported -/

/-- A series that is there, with all that was recorded in it. -/
def exported (families : Family Series (Record C)) (series : Series) :
    Option (List (Record C)) :=
  (families.index series).map families.logs

/-- The same, whatever the order of the records. -/
def exportedUnordered (families : Family Series (Record C)) (series : Series) :
    Option (Multiset (Record C)) :=
  (exported families series).map Multiset.ofList

def Record.isInc : Record C → Bool
  | .inc => true
  | .observe _ => false

def Record.isObserve : Record C → Bool
  | .inc => false
  | .observe _ => true

/-- The value of a counter. -/
def counterValue (families : Family Series (Record C)) (series : Series) : Nat :=
  (families.log series).countP Record.isInc

/-- The count of a histogram. -/
def sampleCount (families : Family Series (Record C)) (series : Series) : Nat :=
  (families.log series).countP Record.isObserve

end TreetopMetricSink
