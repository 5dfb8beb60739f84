import TreetopRest.StoreStepProofs
import TreetopRest.Lib.UpdateRunProofs

/-! # Runs of the store

    A run is a list of calls, each answered with a reply or an error.  The one
    fact all later files start from is `step_cases`: while the listing caches
    are usable, a call is rejected and the store is AS BEFORE, or it succeeds
    and `StepOk` says everything about the next store. -/

namespace TreetopStore

open FallibleState LruCache UpdateRun
open TreetopErrors TreetopCrates TreetopMetadata TreetopWire

variable {X : Crates}

/-- The calls the rest of the service makes on its store. -/
inductive Call (X : Crates) where
  | setDsl (now : Timestamp) (dsl : String) (source : Option Endpoint)
      (refreshFrequency : Option UInt32)
  | setSchema (now : Timestamp) (schema : String) (source : Option Endpoint)
      (refreshFrequency : Option UInt32)
  | setLabels (now : Timestamp) (labels : String) (source : Option Endpoint)
      (refreshFrequency : Option UInt32)
  | applyPreparedBundle (prepared : PreparedBundle X) (genuine : prepared.Genuine)
  | setSchemaValidationMode (mode : SchemaValidationMode)
  | configureRemoteSource (kind : RemoteSourceKind) (source : Endpoint)
      (refreshFrequency : UInt32)
  | markRemoteSourceLoaded (kind : RemoteSourceKind)
  | listPoliciesRaw (user : String) (groups namespaces : List String)
  | listPoliciesJson (user : String) (groups namespaces : List String)

/-- What a successful call answers. -/
inductive Reply (X : Crates) where
  | done
  | raw (content : String)
  | json (response : UserPolicies X.Json)

/-- The result of a call and the store it leaves. -/
abbrev Answer (X : Crates) := Except ServiceError (Reply X) × PolicyStore X

/-- Make a call. -/
def Call.step (c : Call X) (s : PolicyStore X) : Answer X :=
  match c with
  | .setDsl now dsl source rf =>
      (exec (TreetopStore.setDsl now dsl source rf) s).map (·.map fun _ => .done) id
  | .setSchema now schema source rf =>
      (exec (TreetopStore.setSchema now schema source rf) s).map (·.map fun _ => .done) id
  | .setLabels now labels source rf =>
      (exec (TreetopStore.setLabels now labels source rf) s).map (·.map fun _ => .done) id
  | .applyPreparedBundle p _ =>
      (exec (TreetopStore.applyPreparedBundle p) s).map (·.map fun _ => .done) id
  | .setSchemaValidationMode mode =>
      (exec (TreetopStore.setSchemaValidationMode mode) s).map (·.map fun _ => .done) id
  | .configureRemoteSource kind source rf =>
      (exec (TreetopStore.configureRemoteSource kind source rf) s).map
        (·.map fun _ => .done) id
  | .markRemoteSourceLoaded kind =>
      (exec (TreetopStore.markRemoteSourceLoaded kind) s).map (·.map fun _ => .done) id
  | .listPoliciesRaw user groups namespaces =>
      (exec (TreetopStore.listPoliciesRaw user groups namespaces) s).map (·.map .raw) id
  | .listPoliciesJson user groups namespaces =>
      (exec (TreetopStore.listPoliciesJson user groups namespaces) s).map (·.map .json) id

/-- The four calls that replace policies, schema or labels. -/
def Call.isContentUpdate : Call X → Bool
  | .setDsl .. | .setSchema .. | .setLabels .. | .applyPreparedBundle .. => true
  | _ => false

def Call.isBundle : Call X → Bool
  | .applyPreparedBundle .. => true
  | _ => false

/-! ## Steps -/

/-- The store after a configuration of a remote source, which cannot fail. -/
def PolicyStore.configured (s : PolicyStore X) (kind : RemoteSourceKind)
    (source : Endpoint) (refreshFrequency : UInt32) : PolicyStore X :=
  (exec (TreetopStore.configureRemoteSource kind source refreshFrequency) s).2

/-- The store after a confirmed remote load, which cannot fail. -/
def PolicyStore.marked (s : PolicyStore X) (kind : RemoteSourceKind) : PolicyStore X :=
  (exec (TreetopStore.markRemoteSourceLoaded kind) s).2

/-- What a successful call did to the store. -/
def StepOk (s : PolicyStore X) (c : Call X) (s' : PolicyStore X) : Prop :=
  match c with
  | .setDsl now dsl source rf => DslInstalled s now dsl source rf s'
  | .setSchema now schema source rf => SchemaInstalled s now schema source rf s'
  | .setLabels now labels source rf => LabelsInstalled s now labels source rf s'
  | .applyPreparedBundle p _ => BundlePublished s p s'
  | .setSchemaValidationMode mode => s' = { s with schemaValidationMode := mode }
  | .configureRemoteSource kind source rf => s' = s.configured kind source rf
  | .markRemoteSourceLoaded kind => s' = s.marked kind
  | .listPoliciesRaw user groups namespaces =>
      s' = { s with listPoliciesRawCache :=
        ⟨(readThrough (renderRaw s.engine) (listPoliciesKey user groups namespaces)
          s.listPoliciesRawCache.value).2, false⟩ }
  | .listPoliciesJson user groups namespaces =>
      s' = { s with listPoliciesJsonCache :=
        ⟨(readThrough (renderJson s.engine) (listPoliciesKey user groups namespaces)
          s.listPoliciesJsonCache.value).2, false⟩ }

/-- A program that is all or nothing answers like one. -/
theorem answer_of_allOrNothing {α : Type} {m : StoreM X α} {s : PolicyStore X}
    {Q : α → PolicyStore X → Prop} (h : AllOrNothing m s Q) (f : α → Reply X) :
    (∃ e, (exec m s).map (·.map f) id = (.error e, s))
      ∨ (∃ r s', (exec m s).map (·.map f) id = (.ok r, s') ∧ ∃ a, Q a s') := by
  rcases h with ⟨e, hno⟩ | ⟨a, s', hrun, hq⟩
  · refine Or.inl ⟨e, ?_⟩
    rw [hno]
    rfl
  · refine Or.inr ⟨f a, s', ?_, a, hq⟩
    rw [hrun]
    rfl

theorem rawCache_eta {s : PolicyStore X} (h : CachesUsable s) :
    { s with listPoliciesRawCache := ⟨s.listPoliciesRawCache.value, false⟩ } = s := by
  have hp := h.raw
  cases s with
  | mk _ _ _ _ _ _ _ _ _ _ _ _ rawCache jsonCache =>
      cases rawCache with
      | mk value poisoned =>
          have hp' : poisoned = false := hp
          subst hp'
          rfl

theorem jsonCache_eta {s : PolicyStore X} (h : CachesUsable s) :
    { s with listPoliciesJsonCache := ⟨s.listPoliciesJsonCache.value, false⟩ } = s := by
  have hp := h.json
  cases s with
  | mk _ _ _ _ _ _ _ _ _ _ _ _ rawCache jsonCache =>
      cases jsonCache with
      | mk value poisoned =>
          have hp' : poisoned = false := hp
          subst hp'
          rfl

/-- **A call rejects without a trace or does exactly its step.** -/
theorem step_cases {s : PolicyStore X} (h : CachesUsable s) (c : Call X) :
    (∃ e, c.step s = (.error e, s)) ∨ (∃ r s', c.step s = (.ok r, s') ∧ StepOk s c s') := by
  cases c with
  | setDsl now dsl source rf =>
      rcases answer_of_allOrNothing (setDsl_cases h now dsl source rf) (fun _ => .done)
        with hno | ⟨r, s', hrun, _, hq⟩
      · exact Or.inl hno
      · exact Or.inr ⟨r, s', hrun, hq⟩
  | setSchema now schema source rf =>
      rcases answer_of_allOrNothing (setSchema_cases s now schema source rf)
        (fun _ => .done) with hno | ⟨r, s', hrun, _, hq⟩
      · exact Or.inl hno
      · exact Or.inr ⟨r, s', hrun, hq⟩
  | setLabels now labels source rf =>
      rcases answer_of_allOrNothing (setLabels_cases h now labels source rf)
        (fun _ => .done) with hno | ⟨r, s', hrun, _, hq⟩
      · exact Or.inl hno
      · exact Or.inr ⟨r, s', hrun, hq⟩
  | applyPreparedBundle p hp =>
      rcases answer_of_allOrNothing (applyPreparedBundle_cases h p) (fun _ => .done)
        with hno | ⟨r, s', hrun, _, hq⟩
      · exact Or.inl hno
      · exact Or.inr ⟨r, s', hrun, hq⟩
  | setSchemaValidationMode mode => exact Or.inr ⟨.done, _, rfl, rfl⟩
  | configureRemoteSource kind source rf =>
      cases kind <;> exact Or.inr ⟨.done, _, rfl, rfl⟩
  | markRemoteSourceLoaded kind =>
      cases kind <;> exact Or.inr ⟨.done, _, rfl, rfl⟩
  | listPoliciesRaw user groups namespaces =>
      have hrun := exec_listPoliciesRaw h user groups namespaces
      cases hr : (readThrough (renderRaw s.engine) (listPoliciesKey user groups namespaces)
          s.listPoliciesRawCache.value).1 with
      | error e =>
          refine Or.inl ⟨e, ?_⟩
          show (exec (TreetopStore.listPoliciesRaw user groups namespaces) s).map _ id = _
          rw [hrun, hr, readThrough_error hr, rawCache_eta h]
          rfl
      | ok v =>
          refine Or.inr ⟨.raw v, _, ?_, rfl⟩
          show (exec (TreetopStore.listPoliciesRaw user groups namespaces) s).map _ id = _
          rw [hrun, hr]
          rfl
  | listPoliciesJson user groups namespaces =>
      have hrun := exec_listPoliciesJson h user groups namespaces
      cases hr : (readThrough (renderJson s.engine) (listPoliciesKey user groups namespaces)
          s.listPoliciesJsonCache.value).1 with
      | error e =>
          refine Or.inl ⟨e, ?_⟩
          show (exec (TreetopStore.listPoliciesJson user groups namespaces) s).map _ id = _
          rw [hrun, hr, readThrough_error hr, jsonCache_eta h]
          rfl
      | ok v =>
          refine Or.inr ⟨.json v, _, ?_, rfl⟩
          show (exec (TreetopStore.listPoliciesJson user groups namespaces) s).map _ id = _
          rw [hrun, hr]
          rfl

/-- A call that answered did exactly its step. -/
theorem stepOk_of_ok {s s' : PolicyStore X} {c : Call X} {r : Reply X} (h : CachesUsable s)
    (hrun : c.step s = (.ok r, s')) : StepOk s c s' := by
  rcases step_cases h c with ⟨e, hno⟩ | ⟨r', s'', hyes, hok⟩
  · rw [hrun] at hno
    exact nomatch congrArg Prod.fst hno
  · rw [hrun] at hyes
    cases hyes
    exact hok

/-- The rule for invariants: what every successful step keeps, every call keeps. -/
theorem step_keeps {Inv : PolicyStore X → Prop} {s : PolicyStore X} (h : CachesUsable s)
    (c : Call X) (hi : Inv s) (hok : ∀ s', StepOk s c s' → Inv s') : Inv (c.step s).2 := by
  rcases step_cases h c with ⟨e, hrun⟩ | ⟨r, s', hrun, hstep⟩
  · rw [hrun]; exact hi
  · rw [hrun]; exact hok s' hstep

theorem stepOk_usable {s s' : PolicyStore X} {c : Call X} (h : CachesUsable s)
    (hstep : StepOk s c s') : CachesUsable s' := by
  cases c with
  | setDsl now dsl source rf =>
      obtain ⟨_, _, _, _, _, _, _, _, rfl⟩ := hstep
      exact ⟨rfl, rfl⟩
  | setSchema now schema source rf =>
      obtain ⟨_, _, _, _, _, _, _, _, rfl⟩ := hstep
      exact ⟨h.raw, h.json⟩
  | setLabels now labels source rf =>
      obtain ⟨_, _, _, _, _, _, _, _, rfl⟩ := hstep
      exact ⟨rfl, rfl⟩
  | applyPreparedBundle p hp =>
      obtain ⟨_, rfl⟩ := hstep
      exact ⟨rfl, rfl⟩
  | setSchemaValidationMode mode =>
      have hs : s' = _ := hstep
      subst hs
      exact ⟨h.raw, h.json⟩
  | configureRemoteSource kind source rf =>
      have hs : s' = _ := hstep
      subst hs
      cases kind <;> exact ⟨h.raw, h.json⟩
  | markRemoteSourceLoaded kind =>
      have hs : s' = _ := hstep
      subst hs
      cases kind <;> exact ⟨h.raw, h.json⟩
  | listPoliciesRaw user groups namespaces =>
      have hs : s' = _ := hstep
      subst hs
      exact ⟨rfl, h.json⟩
  | listPoliciesJson user groups namespaces =>
      have hs : s' = _ := hstep
      subst hs
      exact ⟨h.raw, rfl⟩

/-- No call poisons a listing cache. -/
theorem step_usable {s : PolicyStore X} (h : CachesUsable s) (c : Call X) :
    CachesUsable (c.step s).2 :=
  step_keeps h c h (fun _ hstep => stepOk_usable h hstep)

/-- Two stores that serve the same engine from the same documents. -/
structure SameServing (s s' : PolicyStore X) : Prop where
  engine : s'.engine = s.engine
  status : s'.requestContextStatus = s.requestContextStatus
  policies : s'.policies.content = s.policies.content
  labels : s'.labels.content = s.labels.content
  labelVersion : s'.labels.sha256 = s.labels.sha256
  schema : s'.schema.content = s.schema.content
  labelers : s'.labelRegistryLabelers = s.labelRegistryLabelers

theorem withConfigured_documents {T : ContentKind} (md : Metadata T)
    (c : Option (Endpoint × UInt32)) :
    (withConfigured md c).content = md.content
      ∧ (withConfigured md c).sha256 = md.sha256 := by
  cases c with
  | none => exact ⟨rfl, rfl⟩
  | some c => exact ⟨rfl, rfl⟩

/-- Only content updates change what is served. -/
theorem sameServing_of_stepOk {s s' : PolicyStore X} {c : Call X}
    (h : StepOk s c s') (hc : c.isContentUpdate = false) : SameServing s s' := by
  cases c with
  | setDsl now dsl source rf => exact nomatch hc
  | setSchema now schema source rf => exact nomatch hc
  | setLabels now labels source rf => exact nomatch hc
  | applyPreparedBundle p hp => exact nomatch hc
  | setSchemaValidationMode mode =>
      have hs : s' = _ := h
      subst hs
      exact ⟨rfl, rfl, rfl, rfl, rfl, rfl, rfl⟩
  | configureRemoteSource kind source rf =>
      have hs : s' = _ := h
      subst hs
      cases kind <;> exact ⟨rfl, rfl, rfl, rfl, rfl, rfl, rfl⟩
  | markRemoteSourceLoaded kind =>
      have hs : s' = _ := h
      subst hs
      cases kind with
      | policies => exact ⟨rfl, rfl, (withConfigured_documents _ _).1, rfl, rfl, rfl, rfl⟩
      | labels =>
          obtain ⟨hc', hv⟩ := withConfigured_documents s.labels
            s.remoteLoads.labels.configuration
          exact ⟨rfl, rfl, rfl, hc', hv, rfl, rfl⟩
      | schema => exact ⟨rfl, rfl, rfl, rfl, rfl, (withConfigured_documents _ _).1, rfl⟩
      | bundle => exact ⟨rfl, rfl, rfl, rfl, rfl, rfl, rfl⟩
  | listPoliciesRaw user groups namespaces =>
      have hs : s' = _ := h
      subst hs
      exact ⟨rfl, rfl, rfl, rfl, rfl, rfl, rfl⟩
  | listPoliciesJson user groups namespaces =>
      have hs : s' = _ := h
      subst hs
      exact ⟨rfl, rfl, rfl, rfl, rfl, rfl, rfl⟩

/-- Two records of the same document; where it came from is left open. -/
structure SameDocument {T : ContentKind} (md md' : Metadata T) : Prop where
  content : md'.content = md.content
  sha256 : md'.sha256 = md.sha256
  size : md'.size = md.size
  entries : md'.entries = md.entries

theorem SameDocument.refl {T : ContentKind} (md : Metadata T) : SameDocument md md :=
  ⟨rfl, rfl, rfl, rfl⟩

theorem SameDocument.trans {T : ContentKind} {md md' md'' : Metadata T}
    (h : SameDocument md md') (h' : SameDocument md' md'') : SameDocument md md'' :=
  ⟨h'.content.trans h.content, h'.sha256.trans h.sha256, h'.size.trans h.size,
    h'.entries.trans h.entries⟩

/-- A confirmed load only writes the origin of a record. -/
theorem sameDocument_withConfigured {T : ContentKind} (md : Metadata T)
    (c : Option (Endpoint × UInt32)) : SameDocument md (withConfigured md c) := by
  cases c with
  | none => exact .refl md
  | some c => exact ⟨rfl, rfl, rfl, rfl⟩

/-- Two stores with the same documents and the same report on them. -/
structure SameDocuments (s s' : PolicyStore X) : Prop where
  policies : SameDocument s.policies s'.policies
  labels : SameDocument s.labels s'.labels
  schema : SameDocument s.schema s'.schema
  bundle : s'.bundle = s.bundle

/-- Only content updates touch the documents and the report. -/
theorem sameDocuments_of_stepOk {s s' : PolicyStore X} {c : Call X}
    (h : StepOk s c s') (hc : c.isContentUpdate = false) : SameDocuments s s' := by
  cases c with
  | setDsl now dsl source rf => exact nomatch hc
  | setSchema now schema source rf => exact nomatch hc
  | setLabels now labels source rf => exact nomatch hc
  | applyPreparedBundle p hp => exact nomatch hc
  | setSchemaValidationMode mode =>
      have hs : s' = _ := h
      subst hs
      exact ⟨.refl _, .refl _, .refl _, rfl⟩
  | configureRemoteSource kind source rf =>
      have hs : s' = _ := h
      subst hs
      cases kind <;> exact ⟨⟨rfl, rfl, rfl, rfl⟩, ⟨rfl, rfl, rfl, rfl⟩, ⟨rfl, rfl, rfl, rfl⟩, rfl⟩
  | markRemoteSourceLoaded kind =>
      have hs : s' = _ := h
      subst hs
      cases kind with
      | policies => exact ⟨sameDocument_withConfigured _ _, .refl _, .refl _, rfl⟩
      | labels => exact ⟨.refl _, sameDocument_withConfigured _ _, .refl _, rfl⟩
      | schema => exact ⟨.refl _, .refl _, sameDocument_withConfigured _ _, rfl⟩
      | bundle => exact ⟨.refl _, .refl _, .refl _, rfl⟩
  | listPoliciesRaw user groups namespaces =>
      have hs : s' = _ := h
      subst hs
      exact ⟨.refl _, .refl _, .refl _, rfl⟩
  | listPoliciesJson user groups namespaces =>
      have hs : s' = _ := h
      subst hs
      exact ⟨.refl _, .refl _, .refl _, rfl⟩

/-- The store around an empty engine. -/
def freshStore (engine : X.PolicyEngine) (now : Timestamp) : PolicyStore X :=
  { engine := X.prepared engine, allowUpload := false, uploadToken := none
    schemaValidationMode := .permissive, requestContextStatus := .noSchema
    policies := .neverLoaded .ofPolicies now, labels := .neverLoaded .ofLabels now
    schema := .neverLoaded .ofSchema now, bundle := none, bundleUrlMode := false
    labelRegistryLabelers := [], remoteLoads := .default
    listPoliciesRawCache := ⟨.empty, false⟩, listPoliciesJsonCache := ⟨.empty, false⟩ }

/-- All there is to a store just made. -/
theorem new_eq {now : Timestamp} {s : PolicyStore X} (h : PolicyStore.new X now = .ok s) :
    ∃ engine, X.newFromStr "" = .ok engine ∧ s = freshStore engine now := by
  rw [PolicyStore.new] at h
  cases he : X.newFromStr "" with
  | error e => rw [he] at h; exact nomatch h
  | ok engine =>
      rw [he] at h
      simp only [Metadata.new_empty] at h
      exact ⟨engine, rfl, (Except.ok.inj h).symm⟩

theorem new_usable {now : Timestamp} {s : PolicyStore X}
    (h : PolicyStore.new X now = .ok s) : CachesUsable s := by
  obtain ⟨_, _, rfl⟩ := new_eq h
  exact ⟨rfl, rfl⟩

/-- The state after a run of calls. -/
abbrev run (calls : List (Call X)) (s : PolicyStore X) : PolicyStore X :=
  final Call.step calls s

theorem run_usable {s : PolicyStore X} (h : CachesUsable s) (calls : List (Call X)) :
    CachesUsable (run calls s) :=
  final_induct CachesUsable (fun _ => True) (fun _ c hs _ => step_usable hs c) calls s
    (fun _ _ => trivial) h

end TreetopStore
