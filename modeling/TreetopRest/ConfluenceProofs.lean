import TreetopRest.CoherenceProofs
import TreetopRest.FittingProofs

/-! # Compatible loads in any order

    Three documents that fit together are loaded again and again, in any
    order.  At every point the store holds of each the whole document or
    nothing (`Progress`), so no load ever meets a document it does not fit,
    and what is in force is a function of WHICH documents are loaded.  Once
    all three are, two stores differ in their clock readings only. -/

namespace TreetopConfluence

open FallibleState UpdateRun
open TreetopErrors TreetopCrates TreetopMetadata TreetopWire TreetopStore
open TreetopSections TreetopCoherence TreetopStartup

variable {X : Crates}

/-! ## What a store records -/

/-- A record of a document, without when and from where it was loaded. -/
structure Document where
  content : String
  sha256 : String
  size : Nat
  entries : Nat
deriving DecidableEq, Repr

def Document.ofMetadata {T : ContentKind} (md : Metadata T) : Document :=
  ⟨md.content, md.sha256, md.size, md.entries⟩

def documentOf (s : PolicyStore X) : Component → Document
  | .policies => .ofMetadata s.policies
  | .labels => .ofMetadata s.labels
  | .schema => .ofMetadata s.schema

/-- Where the text of a component comes from. -/
abbrev Origin := Option Endpoint × Option UInt32

def originOf (s : PolicyStore X) : Component → Origin
  | .policies => (s.policies.source, s.policies.refreshFrequency)
  | .labels => (s.labels.source, s.labels.refreshFrequency)
  | .schema => (s.schema.source, s.schema.refreshFrequency)

/-- Metadata made at two times records the same document. -/
theorem ofMetadata_new {T : ContentKind} {now now' : Timestamp} {content : String}
    {source : Option Endpoint} {refreshFrequency : Option UInt32} {md md' : Metadata T}
    (h : Metadata.new X T now content source refreshFrequency = .ok md)
    (h' : Metadata.new X T now' content source refreshFrequency = .ok md') :
    Document.ofMetadata md = .ofMetadata md' := by
  by_cases hguard : (content.isEmpty && source.isNone && refreshFrequency.isNone) = true
  · rw [Metadata.new, if_pos hguard] at h h'
    cases h
    cases h'
    rfl
  · obtain ⟨entries, hentries, rfl⟩ := Metadata.new_loaded hguard h
    obtain ⟨entries', hentries', rfl⟩ := Metadata.new_loaded hguard h'
    rw [hentries] at hentries'
    cases hentries'
    rfl

variable (X) in
/-- The record a load of the component leaves. -/
def IsRecord (doc : Component → String) (origin : Component → Origin) (ls : X.LabelSet)
    (k : Component) (d : Document) : Prop :=
  match k with
  | .policies => ∃ now md, Metadata.new X .ofPolicies now (doc .policies) (origin .policies).1
      (origin .policies).2 = .ok md ∧ d = .ofMetadata md
  | .labels => d = .ofMetadata (Metadata.fromValidatedContent X .ofLabels 0 (doc .labels)
      (origin .labels).1 (origin .labels).2 (X.labelSetRules ls))
  | .schema => ∃ now md, Metadata.new X .ofSchema now (doc .schema) (origin .schema).1
      (origin .schema).2 = .ok md ∧ d = .ofMetadata md

theorem isRecord_unique {doc : Component → String} {origin : Component → Origin}
    {ls : X.LabelSet} {k : Component} {d d' : Document} (h : IsRecord X doc origin ls k d)
    (h' : IsRecord X doc origin ls k d') : d = d' := by
  cases k with
  | policies =>
      obtain ⟨_, _, hmd, rfl⟩ := h
      obtain ⟨_, _, hmd', rfl⟩ := h'
      exact ofMetadata_new hmd hmd'
  | labels => exact Eq.trans h (Eq.symm h')
  | schema =>
      obtain ⟨_, _, hmd, rfl⟩ := h
      obtain ⟨_, _, hmd', rfl⟩ := h'
      exact ofMetadata_new hmd hmd'

/-! ## Loads -/

/-- One load: a component, at a reading of the clock. -/
abbrev Load := Component × Timestamp

/-- Load a document from its origin. -/
def loadStep (doc : Component → String) (origin : Component → Origin) (l : Load)
    (s : PolicyStore X) : Answer X :=
  (l.1.update l.2 (doc l.1) (origin l.1).1 (origin l.1).2).step s

/-- The store while some of the documents are loaded. -/
structure Progress (mode : SchemaValidationMode) (doc : Component → String)
    (origin : Component → Origin) (ls : X.LabelSet) (has : Component → Bool)
    (s : PolicyStore X) : Prop where
  holds : Holds mode doc ls has s
  derived : Derived True s
  origins : ∀ k, originOf s k = if has k then origin k else (none, none)
  records : ∀ k, has k = true → IsRecord X doc origin ls k (documentOf s k)

variable {mode : SchemaValidationMode} {doc : Component → String}
  {origin : Component → Origin} {sch : X.CedarSchema} {ls : X.LabelSet}
  {has : Component → Bool} {s s' : PolicyStore X}

/-- The only load that is refused. -/
def Blocked (mode : SchemaValidationMode) (has : Component → Bool) (k : Component) : Prop :=
  k = .policies ∧ mode = .strict ∧ has .schema = false

/-- An origin that is given again is kept. -/
theorem or_origin {α : Type} {given old : Option α} {b : Bool}
    (h : old = if b then given else none) : given.or old = given := by
  cases given with
  | some a => rfl
  | none =>
      rw [h]
      cases b <;> rfl

/-- A load writes the record and the origin of its own component only. -/
theorem updated_records (hf : Fitting X doc sch ls) {k : Component} {now : Timestamp}
    (hok : StepOk s (k.update now (doc k) (origin k).1 (origin k).2) s')
    (hkeep : ∀ j, (origin j).1.or (originOf s j).1 = (origin j).1
      ∧ (origin j).2.or (originOf s j).2 = (origin j).2) :
    (originOf s' k = origin k ∧ IsRecord X doc origin ls k (documentOf s' k))
      ∧ ∀ j, k ≠ j → originOf s' j = originOf s j ∧ documentOf s' j = documentOf s j := by
  obtain ⟨hsource, hrf⟩ := hkeep k
  cases k with
  | policies =>
      obtain ⟨metadata, _, _, _, _, hmd, _, _, rfl⟩ := hok
      have hmd' : Metadata.new X .ofPolicies now (doc .policies) (origin .policies).1
          (origin .policies).2 = .ok metadata := by
        rw [← hsource, ← hrf]
        exact hmd
      obtain ⟨_, hmdsource, hmdrf, _⟩ := Metadata.new_records hmd'
      refine ⟨⟨Prod.ext hmdsource hmdrf, now, metadata, hmd', rfl⟩, ?_⟩
      intro j hj
      cases j with
      | policies => exact absurd rfl hj
      | labels => exact ⟨rfl, rfl⟩
      | schema => exact ⟨rfl, rfl⟩
  | labels =>
      obtain ⟨labelSet, _, _, _, hparse, _, _, _, rfl⟩ := hok
      -- a label record is not built by `Metadata.new`: the parsed labels are its count
      rw [hf.labels_parse] at hparse
      cases hparse
      refine ⟨⟨Prod.ext hsource hrf, rfl⟩, ?_⟩
      intro j hj
      cases j with
      | policies => exact ⟨rfl, rfl⟩
      | labels => exact absurd rfl hj
      | schema => exact ⟨rfl, rfl⟩
  | schema =>
      obtain ⟨metadata, _, _, _, hmd, _, _, _, rfl⟩ := hok
      have hmd' : Metadata.new X .ofSchema now (doc .schema) (origin .schema).1
          (origin .schema).2 = .ok metadata := by
        rw [← hsource, ← hrf]
        exact hmd
      obtain ⟨_, hmdsource, hmdrf, _⟩ := Metadata.new_records hmd'
      refine ⟨⟨Prod.ext hmdsource hmdrf, now, metadata, hmd', rfl⟩, ?_⟩
      intro j hj
      cases j with
      | policies => exact ⟨rfl, rfl⟩
      | labels => exact ⟨rfl, rfl⟩
      | schema => exact absurd rfl hj

/-- **STEP**: a load that goes through adds its component. -/
theorem progress_loaded (hE : EmptyTextLaws X) (hf : Fitting X doc sch ls)
    (h : Progress mode doc origin ls has s) {l : Load} {r : Reply X}
    (hrun : loadStep doc origin l s = (.ok r, s')) :
    Progress mode doc origin ls (fun k => has k || decide (l.1 = k)) s' := by
  obtain ⟨k, now⟩ := l
  have hok := stepOk_of_ok h.holds.usable hrun
  have hrep : Replaced s k (doc k) ls s' := replaced_of_stepOk hf h.holds.usable hok
  have hkeep : ∀ j, (origin j).1.or (originOf s j).1 = (origin j).1
      ∧ (origin j).2.or (originOf s j).2 = (origin j).2 := by
    intro j
    rw [h.origins j]
    exact ⟨or_origin (b := has j) (by cases has j <;> rfl),
      or_origin (b := has j) (by cases has j <;> rfl)⟩
  obtain ⟨⟨horigin, hrecord⟩, hothers⟩ := updated_records hf hok hkeep
  refine ⟨⟨hrep.usable, hrep.mode.trans h.holds.mode, ?_, ?_⟩, ?_, ?_, ?_⟩
  · intro j
    rw [hrep.content]
    by_cases hk : k = j
    · subst hk
      rw [if_pos rfl, decide_eq_true rfl, Bool.or_true, if_pos rfl]
    · rw [if_neg hk, decide_eq_false hk, Bool.or_false, h.holds.content j]
  · rw [hrep.labelers, h.holds.labelers]
    by_cases hk : k = .labels
    · rw [if_pos hk, decide_eq_true hk, Bool.or_true, if_pos rfl]
    · rw [if_neg hk, decide_eq_false hk, Bool.or_false]
  · cases k with
    | policies => exact derived_setDsl h.derived hok
    | labels => exact derived_setLabels hE h.derived hok
    | schema => exact derived_setSchema hE h.derived hok
  · intro j
    by_cases hk : k = j
    · subst hk
      rw [decide_eq_true rfl, Bool.or_true, if_pos rfl, horigin]
    · rw [decide_eq_false hk, Bool.or_false, (hothers j hk).1, h.origins j]
  · intro j hj
    by_cases hk : k = j
    · subst hk
      exact hrecord
    · rw [decide_eq_false hk, Bool.or_false] at hj
      rw [(hothers j hk).2]
      exact h.records j hj

/-! ## Runs -/

/-- The components with a load that went through. -/
def loadedBy (past : List (Load × Except ServiceError (Reply X))) (k : Component) : Bool :=
  past.any fun e => decide (e.1.1 = k) && e.2.isOk

/-- Where a run of loads is: what went through is loaded, and every load of a
    schema or of labels went through. -/
structure Tracks (mode : SchemaValidationMode) (doc : Component → String)
    (origin : Component → Origin) (ls : X.LabelSet)
    (past : List (Load × Except ServiceError (Reply X))) (s : PolicyStore X) : Prop where
  progress : Progress mode doc origin ls (loadedBy past) s
  schemas : ∀ e ∈ past, e.1.1 = .schema → e.2.isOk = true

theorem loadedBy_cons (past : List (Load × Except ServiceError (Reply X))) (l : Load)
    (r : Except ServiceError (Reply X)) :
    loadedBy ((l, r) :: past) = fun k => loadedBy past k || (decide (l.1 = k) && r.isOk) := by
  funext k
  rw [loadedBy, List.any_cons, Bool.or_comm]
  rfl

section Runs

variable (hE : EmptyTextLaws X) (hf : Fitting X doc sch ls) (hb : BuildLaws X doc sch ls)
  (hempty : ∃ e, X.newFromStr "" = .ok e)

include hE hf hb hempty

/-- A load goes through unless it is the blocked one, which changes nothing. -/
theorem loadStep_cases (h : Progress mode doc origin ls has s) (l : Load) :
    (Blocked mode has l.1 ∧ ∃ e, loadStep doc origin l s = (.error e, s))
      ∨ (¬ Blocked mode has l.1 ∧ ∃ s', loadStep doc origin l s = (.ok .done, s')) := by
  obtain ⟨k, now⟩ := l
  by_cases hblocked : Blocked mode has k
  · refine Or.inl ⟨hblocked, ?_⟩
    obtain ⟨rfl, hgate⟩ := hblocked
    exact update_refused hE hf h.holds now (doc .policies) _ _ hgate
  · exact Or.inr ⟨hblocked, update_succeeds hE hf hb hempty h.holds k now _ _
      (fun hk hgate => hblocked ⟨hk, hgate⟩)⟩

theorem tracks_step {past : List (Load × Except ServiceError (Reply X))}
    (h : Tracks mode doc origin ls past s) (l : Load) :
    Tracks mode doc origin ls ((l, (loadStep doc origin l s).1) :: past)
      (loadStep doc origin l s).2 := by
  rcases loadStep_cases hE hf hb hempty h.progress l with
    ⟨⟨hk, _⟩, e, hrun⟩ | ⟨_, s', hrun⟩
  · rw [hrun]
    refine ⟨?_, ?_⟩
    · have hsame : loadedBy ((l, .error e) :: past) = loadedBy past := by
        rw [loadedBy_cons]
        funext k
        exact (congrArg (loadedBy past k || ·) (Bool.and_false _)).trans (Bool.or_false _)
      rw [hsame]
      exact h.progress
    · intro entry hentry hschema
      rcases List.mem_cons.mp hentry with rfl | hold
      · exact absurd (hk.symm.trans hschema) (by decide)
      · exact h.schemas entry hold hschema
  · rw [hrun]
    refine ⟨?_, ?_⟩
    · have hadd : loadedBy ((l, .ok .done) :: past)
          = fun k => loadedBy past k || decide (l.1 = k) := by
        rw [loadedBy_cons]
        funext k
        exact congrArg (loadedBy past k || ·) (Bool.and_true _)
      rw [hadd]
      exact progress_loaded hE hf h.progress hrun
    · intro entry hentry hschema
      rcases List.mem_cons.mp hentry with rfl | hold
      · rfl
      · exact h.schemas entry hold hschema

/-- Where a run of loads ends. -/
theorem tracks_run (h : Tracks mode doc origin ls [] s) (loads : List Load) :
    Tracks mode doc origin ls (trace (loadStep doc origin) loads s).reverse
      (final (loadStep doc origin) loads s) :=
  history_induct (Tracks mode doc origin ls) h
    (fun _ _ l hpast => tracks_step hE hf hb hempty hpast l) loads

end Runs

/-- The order of the past does not matter to what is loaded. -/
theorem loadedBy_reverse (past : List (Load × Except ServiceError (Reply X))) :
    loadedBy past.reverse = loadedBy past := by
  funext k
  rw [loadedBy, loadedBy, List.any_reverse]

/-- A schema is loaded once one was given. -/
theorem loadedBy_schema {past : List (Load × Except ServiceError (Reply X))}
    (hschemas : ∀ e ∈ past, e.1.1 = .schema → e.2.isOk = true) :
    loadedBy past .schema = false ↔ ∀ e ∈ past, e.1.1 ≠ .schema := by
  rw [loadedBy, List.any_eq_false]
  constructor
  · intro h e he hk
    refine h e he ?_
    rw [decide_eq_true hk, hschemas e he hk]
    rfl
  · intro h e he hload
    rw [Bool.and_eq_true, decide_eq_true_iff] at hload
    exact h e he hload.1

/-! ## From a fresh store -/

variable (X) in
/-- A store just made and put in a validation mode. -/
def Started (mode : SchemaValidationMode) (s : PolicyStore X) : Prop :=
  ∃ now s₀, PolicyStore.new X now = .ok s₀ ∧ s = (exec (setSchemaValidationMode mode) s₀).2

theorem started_empty (h : Started X mode s) : ∃ e, X.newFromStr "" = .ok e := by
  obtain ⟨now, s₀, hnew, _⟩ := h
  obtain ⟨engine, hengine, _⟩ := new_eq hnew
  exact ⟨engine, hengine⟩

theorem tracks_started (h : Started X mode s) : Tracks mode doc origin ls [] s := by
  obtain ⟨now, s₀, hnew, rfl⟩ := h
  have hderived := derived_new hnew True
  obtain ⟨engine, _, rfl⟩ := new_eq hnew
  refine ⟨⟨⟨⟨rfl, rfl⟩, rfl, ?_, rfl⟩, ?_, ?_, ?_⟩, ?_⟩
  · intro k
    cases k <;> rfl
  · exact derived_frame hderived ⟨rfl, rfl, rfl, rfl, rfl, rfl, rfl⟩
  · intro k
    cases k <;> rfl
  · intro k hk
    exact nomatch hk
  · intro e he
    exact nomatch he

/-- Each component has a load that went through. -/
def EachSucceeded (doc : Component → String) (origin : Component → Origin)
    (loads : List Load) (s : PolicyStore X) : Prop :=
  ∀ k, ∃ l r, (l, .ok r) ∈ trace (loadStep doc origin) loads s ∧ l.1 = k

/-- What a component's replies were, without what they said. -/
theorem eachSucceeded_of_replies {loads : List Load}
    (h : ∀ k, (k, true) ∈ (trace (loadStep doc origin) loads s).map
      fun e => (e.1.1, e.2.isOk)) : EachSucceeded doc origin loads s := by
  intro k
  obtain ⟨⟨l, reply⟩, hmem, heq⟩ := List.mem_map.mp (h k)
  obtain ⟨hk, hok⟩ := Prod.mk.inj heq
  cases reply with
  | error e => exact nomatch hok
  | ok r => exact ⟨l, r, hmem, hk⟩

theorem loadedBy_of_eachSucceeded {loads : List Load}
    (h : EachSucceeded doc origin loads s) (k : Component) :
    loadedBy (trace (loadStep doc origin) loads s) k = true := by
  obtain ⟨l, r, hmem, hk⟩ := h k
  refine List.any_eq_true.mpr ⟨(l, .ok r), hmem, ?_⟩
  rw [decide_eq_true hk]
  rfl

/-- Stores that differ in clock readings only, with a schema behind the requests
    and engines built from the same inputs. -/
structure SameLoaded (s t : PolicyStore X) : Prop where
  documents : ∀ k, documentOf s k = documentOf t k
  labelers : s.labelRegistryLabelers = t.labelRegistryLabelers
  status : s.requestContextStatus = .schemaBackedStatus
    ∧ t.requestContextStatus = .schemaBackedStatus
  engine : ∃ dsl schema labelers version,
    buildEngineFromParts X dsl schema labelers version = .ok s.engine
      ∧ buildEngineFromParts X dsl schema labelers version = .ok t.engine

/-- With everything loaded, the derived data are those of the three documents. -/
theorem progress_complete (hE : EmptyTextLaws X) (hf : Fitting X doc sch ls)
    (h : Progress mode doc origin ls has s) (hall : ∀ k, has k = true) :
    s.labelRegistryLabelers = X.toLabelers ls
      ∧ s.requestContextStatus = .schemaBackedStatus
      ∧ buildEngineFromParts X (doc .policies) (some sch) (X.toLabelers ls)
          (makeHash X (doc .labels)) = .ok s.engine := by
  have hcontent : ∀ k, contentOf s k = doc k := by
    intro k
    rw [h.holds.content k, hall k]
    exact if_pos rfl
  have hpol : s.policies.content = doc .policies := hcontent .policies
  have hsch : s.schema.content = doc .schema := hcontent .schema
  have hloaded : loadedSchema X s.schema.content = some sch := by
    rw [hsch]
    exact loadedSchema_of_ok hE hf.schema_parses
  have haccepts : accepts X s.policies.content sch = true := by
    rw [hpol]
    exact (accepts_iff (doc .policies) sch).mpr hf.policies_valid
  have hlabelers : s.labelRegistryLabelers = X.toLabelers ls := by
    rw [h.holds.labelers, hall .labels]
    exact if_pos rfl
  have hversion : s.labels.sha256 = makeHash X (doc .labels) :=
    congrArg Document.sha256 (h.records .labels (hall .labels))
  have heffective : effectiveSchema s = some sch := by
    rw [effectiveSchema, hloaded, Option.filter_some, haccepts, if_pos rfl]
  refine ⟨hlabelers, ?_, ?_⟩
  · rw [h.derived.status, hloaded, Option.map_some, haccepts]
    rfl
  · rw [← h.derived.engine trivial, hpol, heffective, hlabelers, hversion]

/-- **CONFLUENCE**: of any loads of fitting documents into a fresh store, those
    of policies in strict mode before any schema fail, and no others; and two
    runs in which everything was loaded end in the same store, up to clock
    readings. -/
theorem loads_confluent (hE : EmptyTextLaws X) (hf : Fitting X doc sch ls)
    (hb : BuildLaws X doc sch ls) (hs : Started X mode s) (origin : Component → Origin)
    (loads : List Load) :
    (∀ pre l post, loads = pre ++ l :: post →
      ((loadStep doc origin l (final (loadStep doc origin) pre s)).1 = .ok .done
        ↔ ¬ (l.1 = .policies ∧ mode = .strict ∧ ∀ l' ∈ pre, l'.1 ≠ .schema)))
      ∧ ∀ mode' s' loads', Started X mode' s' →
          EachSucceeded doc origin loads s → EachSucceeded doc origin loads' s' →
          SameLoaded (final (loadStep doc origin) loads s)
            (final (loadStep doc origin) loads' s') := by
  have hrun : ∀ {mode s}, Started X mode s → ∀ loads,
      Tracks mode doc origin ls (trace (loadStep doc origin) loads s).reverse
        (final (loadStep doc origin) loads s) := fun hs =>
    tracks_run hE hf hb (started_empty hs) (tracks_started hs)
  constructor
  · intro pre l post _
    have htracks := hrun hs pre
    -- a schema load never fails, so one that was made has been loaded
    have hnever : loadedBy (trace (loadStep doc origin) pre s).reverse .schema = false
        ↔ ∀ l' ∈ pre, l'.1 ≠ .schema := by
      rw [loadedBy_schema htracks.schemas]
      constructor
      · intro h l' hl'
        rw [← trace_map_fst (loadStep doc origin) pre s] at hl'
        obtain ⟨e, he, rfl⟩ := List.mem_map.mp hl'
        exact h e (List.mem_reverse.mpr he)
      · intro h e he
        refine h e.1 ?_
        rw [← trace_map_fst (loadStep doc origin) pre s]
        exact List.mem_map_of_mem (List.mem_reverse.mp he)
    rw [← hnever]
    rcases loadStep_cases hE hf hb (started_empty hs) htracks.progress l with
      ⟨hblocked, e, hno⟩ | ⟨hfree, s', hyes⟩
    · rw [hno]
      exact ⟨(fun h => nomatch h), fun h => absurd hblocked h⟩
    · rw [hyes]
      exact ⟨fun _ => hfree, fun _ => rfl⟩
  · intro mode' s' loads' hs' hall hall'
    have h := (hrun hs loads).progress
    have h' := (hrun hs' loads').progress
    rw [loadedBy_reverse] at h h'
    have hdone := loadedBy_of_eachSucceeded hall
    have hdone' := loadedBy_of_eachSucceeded hall'
    obtain ⟨hlabelers, hstatus, hengine⟩ := progress_complete hE hf h hdone
    obtain ⟨hlabelers', hstatus', hengine'⟩ := progress_complete hE hf h' hdone'
    refine ⟨?_, ?_, ⟨hstatus, hstatus'⟩, ⟨_, _, _, _, hengine, hengine'⟩⟩
    · intro k
      exact isRecord_unique (h.records k (hdone k)) (h'.records k (hdone' k))
    · rw [hlabelers, hlabelers']

open TreetopSample in
/-- A strict store refuses the policies before the schema; loading them again
    afterwards leads where the other order leads. -/
theorem loads_confluent_small :
    (loadStep photoDocuments (fun _ => (none, none)) (.policies, 1)
        (exec (setSchemaValidationMode .strict) fresh).2).1 ≠ .ok .done
      ∧ SameLoaded
          (final (loadStep photoDocuments fun _ => (none, none))
            [(.policies, 1), (.labels, 2), (.schema, 3), (.policies, 4)]
            (exec (setSchemaValidationMode .strict) fresh).2)
          (final (loadStep photoDocuments fun _ => (none, none))
            [(.schema, 5), (.policies, 6), (.labels, 7)]
            (exec (setSchemaValidationMode .strict) fresh).2) := by
  have hs : Started small .strict (exec (setSchemaValidationMode .strict) fresh).2 :=
    ⟨0, fresh, new_fresh, rfl⟩
  have h := loads_confluent emptyTextLaws_small fitting_small buildLaws_small hs
    (fun _ => (none, none)) [(.policies, 1), (.labels, 2), (.schema, 3), (.policies, 4)]
  refine ⟨?_, h.2 .strict _ [(.schema, 5), (.policies, 6), (.labels, 7)] hs ?_ ?_⟩
  · intro hdone
    exact (h.1 [] (.policies, 1) _ rfl).mp hdone ⟨rfl, rfl, fun l' hl' => nomatch hl'⟩
  · refine eachSucceeded_of_replies ?_
    intro k
    cases k <;> decide +kernel
  · refine eachSucceeded_of_replies ?_
    intro k
    cases k <;> decide +kernel

end TreetopConfluence
