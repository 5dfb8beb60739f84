import TreetopRest.CoherenceProofs

/-! # Where what is in force came from

    A store reports a bundle in one field, and every content update writes it:
    the publication of a bundle sets it, a component reload clears it, and a
    rejected call leaves it alone.  So the report is a function of the past of
    the run (`lastContentUpdate`), and while it names a bundle every part in
    force is that bundle's: the other calls only rewrite origins. -/

namespace TreetopProvenance

open UpdateRun
open TreetopErrors TreetopCrates TreetopMetadata TreetopWire TreetopStore TreetopCoherence

variable {X : Crates}

/-- Every part of a prepared bundle is in force, and it is the one reported. -/
structure InForce (p : PreparedBundle X) (s : PolicyStore X) : Prop where
  report : s.bundle = some p.bundle
  engine : s.engine = p.engine
  labelers : s.labelRegistryLabelers = p.labelers
  status : s.requestContextStatus = p.requestContextStatus
  policies : SameDocument p.policies s.policies
  labels : SameDocument p.labels s.labels
  schema : SameDocument p.schema s.schema

/-- The bundle a call publishes, if it is a publication. -/
def published : Call X → Option (PreparedBundle X)
  | .applyPreparedBundle p _ => some p
  | _ => none

/-- What the past says is in force: a bundle, if its publication came last. -/
def Provenance (past : List (Call X × Except ServiceError (Reply X)))
    (s : PolicyStore X) : Prop :=
  match (lastContentUpdate past).bind published with
  | some p => InForce p s
  | none => s.bundle = none

variable {past : List (Call X × Except ServiceError (Reply X))} {s s' : PolicyStore X}

/-- A bundle stays in force across the calls that are no content update. -/
theorem InForce.frame {p : PreparedBundle X} (h : InForce p s) (hserving : SameServing s s')
    (hdocs : SameDocuments s s') : InForce p s' where
  report := hdocs.bundle.trans h.report
  engine := hserving.engine.trans h.engine
  labelers := hserving.labelers.trans h.labelers
  status := hserving.status.trans h.status
  policies := h.policies.trans hdocs.policies
  labels := h.labels.trans hdocs.labels
  schema := h.schema.trans hdocs.schema

theorem Provenance.frame (h : Provenance past s) (hserving : SameServing s s')
    (hdocs : SameDocuments s s') : Provenance past s' := by
  rw [Provenance] at h ⊢
  cases hlast : (lastContentUpdate past).bind published with
  | none =>
      rw [hlast] at h
      exact hdocs.bundle.trans h
  | some p =>
      rw [hlast] at h
      exact InForce.frame h hserving hdocs

/-- An entry that is no successful content update says nothing new. -/
theorem provenance_skip {c : Call X} {r : Except ServiceError (Reply X)}
    (h : (c.isContentUpdate && r.isOk) = false) :
    Provenance ((c, r) :: past) s ↔ Provenance past s := by
  rw [Provenance, Provenance, lastContentUpdate_skip h]

/-- **STEP**: a call that goes through puts in force what it says, and a
    rejected one changes nothing. -/
theorem provenance_step (hu : CachesUsable s) (h : Provenance past s) (c : Call X) :
    Provenance ((c, (c.step s).1) :: past) (c.step s).2 := by
  rcases step_cases hu c with ⟨e, hrun⟩ | ⟨r, s', hrun, hok⟩
  · rw [hrun]
    exact (provenance_skip (Bool.and_false _)).mpr h
  · rw [hrun]
    cases hc : c.isContentUpdate with
    | false =>
        refine (provenance_skip ?_).mpr
          (h.frame (sameServing_of_stepOk hok hc) (sameDocuments_of_stepOk hok hc))
        rw [hc]
        rfl
    | true =>
        rw [Provenance, lastContentUpdate_hit hc]
        cases c with
        | setDsl now dsl source rf =>
            obtain ⟨_, _, _, _, _, _, _, _, rfl⟩ := hok
            rfl
        | setSchema now schema source rf =>
            obtain ⟨_, _, _, _, _, _, _, _, rfl⟩ := hok
            rfl
        | setLabels now labels source rf =>
            obtain ⟨_, _, _, _, _, _, _, _, rfl⟩ := hok
            rfl
        | applyPreparedBundle p hp =>
            obtain ⟨_, rfl⟩ := hok
            exact ⟨rfl, rfl, rfl, rfl, .refl _, .refl _, .refl _⟩
        | setSchemaValidationMode mode => exact nomatch hc
        | configureRemoteSource kind source rf => exact nomatch hc
        | markRemoteSourceLoaded kind => exact nomatch hc
        | listPoliciesRaw user groups namespaces => exact nomatch hc
        | listPoliciesJson user groups namespaces => exact nomatch hc

theorem published_eq_some {c : Call X} {p : PreparedBundle X} (h : published c = some p) :
    ∃ hp, c = .applyPreparedBundle p hp := by
  cases c with
  | applyPreparedBundle p' hp =>
      cases h
      exact ⟨hp, rfl⟩
  | setDsl now dsl source rf => exact nomatch h
  | setSchema now schema source rf => exact nomatch h
  | setLabels now labels source rf => exact nomatch h
  | setSchemaValidationMode mode => exact nomatch h
  | configureRemoteSource kind source rf => exact nomatch h
  | markRemoteSourceLoaded kind => exact nomatch h
  | listPoliciesRaw user groups namespaces => exact nomatch h
  | listPoliciesJson user groups namespaces => exact nomatch h

/-- What the past says is in force, after a whole run. -/
theorem run_provenance {now : Timestamp} {s₀ : PolicyStore X}
    (h : PolicyStore.new X now = .ok s₀) (calls : List (Call X)) :
    Provenance (trace Call.step calls s₀).reverse (run calls s₀) := by
  have hbundle : Provenance [] s₀ := by
    obtain ⟨_, _, rfl⟩ := new_eq h
    rfl
  have hinv : CachesUsable (run calls s₀)
      ∧ Provenance (trace Call.step calls s₀).reverse (run calls s₀) :=
    history_induct (fun past s => CachesUsable s ∧ Provenance past s) ⟨new_usable h, hbundle⟩
      (fun past s c hi => ⟨step_usable hi.1 c, provenance_step hi.1 hi.2 c⟩) calls
  exact hinv.2

/-- **PROVENANCE**: after every run from a fresh store a bundle is reported
    exactly if the last content update that went through published it, and
    then every part in force is that bundle's. -/
theorem bundle_provenance {now : Timestamp} {s₀ : PolicyStore X}
    (h : PolicyStore.new X now = .ok s₀) (calls : List (Call X)) :
    (∀ b, (run calls s₀).bundle = some b
      ↔ ∃ p hp, lastContentUpdate (trace Call.step calls s₀).reverse
          = some (.applyPreparedBundle p hp) ∧ p.bundle = b)
    ∧ ∀ p hp, lastContentUpdate (trace Call.step calls s₀).reverse
        = some (.applyPreparedBundle p hp) → InForce p (run calls s₀) := by
  have hinforce : ∀ p hp, lastContentUpdate (trace Call.step calls s₀).reverse
      = some (.applyPreparedBundle p hp) → InForce p (run calls s₀) := by
    intro p hp hlast
    have hprov := run_provenance h calls
    rw [Provenance, hlast] at hprov
    exact hprov
  refine ⟨?_, hinforce⟩
  intro b
  constructor
  · intro hb
    have hprov := run_provenance h calls
    rw [Provenance] at hprov
    cases hpub : (lastContentUpdate (trace Call.step calls s₀).reverse).bind published with
    | none =>
        rw [hpub, hb] at hprov
        exact nomatch hprov
    | some p =>
        rw [hpub] at hprov
        obtain ⟨c, hlast, hc⟩ := Option.bind_eq_some_iff.mp hpub
        obtain ⟨hp, rfl⟩ := published_eq_some hc
        refine ⟨p, hp, hlast, ?_⟩
        exact Option.some.inj (hprov.report.symm.trans hb)
  · rintro ⟨p, hp, hlast, rfl⟩
    exact (hinforce p hp hlast).report

open TreetopSample

/-- The bundle of the archive, with its schema. -/
def photosBundle : PreparedBundle small :=
  (prepareBundleWithEngineMode (X := small) ⟨1, 1, 1, 1⟩ (Bundle.mk true archiveDigest) none none
    .permissive .monolithic).toOption.get rfl

theorem photosBundle_genuine : photosBundle.Genuine :=
  ⟨⟨1, 1, 1, 1⟩, Bundle.mk true archiveDigest, none, none, .permissive, .monolithic, rfl⟩

/-- Policies, then a bundle, then labels that do not parse. -/
def bundleThenBroken : List (Call small) :=
  [.setDsl 1 permitAll none none, .applyPreparedBundle photosBundle photosBundle_genuine,
    .setLabels 2 permitAll none none]

/-- The rejected labels leave the bundle in force, and it is reported. -/
theorem bundle_provenance_small :
    (run bundleThenBroken fresh).bundle = some photosBundle.bundle
      ∧ InForce photosBundle (run bundleThenBroken fresh) := by
  have hlast : lastContentUpdate (trace Call.step bundleThenBroken fresh).reverse
      = some (.applyPreparedBundle photosBundle photosBundle_genuine) := rfl
  obtain ⟨hreport, hinforce⟩ := bundle_provenance new_fresh bundleThenBroken
  exact ⟨(hreport _).mpr ⟨photosBundle, photosBundle_genuine, hlast, rfl⟩,
    hinforce photosBundle photosBundle_genuine hlast⟩

end TreetopProvenance
