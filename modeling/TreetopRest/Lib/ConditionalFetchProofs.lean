import Mathlib.Tactic.Common

/-! # Conditional fetching — when "not modified" may be believed

    A client remembers the validators of some response and presents them with
    its next request; the origin answers "not modified" exactly when they are
    those of its current version.  The client may believe that answer only
    while its stored validators VOUCH for the body it holds: whichever version
    they match has that body.  The rules say how a vouching pair arises
    (`vouched_absent`, `vouched_adopt`) and, for validators that were read off
    some version, exactly when they vouch (`vouched_validators_iff`). -/

namespace ConditionalFetch

variable {ω β : Type} {τ : Type} [DecidableEq τ]

/-- The two validators of HTTP, as far as a client can read and echo them. -/
structure Validators (τ : Type) where
  etag : Option τ
  lastModified : Option τ
deriving DecidableEq

/-- No validator at all: a request that presents it is not conditional. -/
def Validators.absent : Validators τ := ⟨none, none⟩

/-- An origin: what each of its versions consists of. -/
structure Origin (ω τ β : Type) where
  body : ω → β
  validators : ω → Validators τ

/-- Distinct bodies are never served under the same validators.  Versions
    without validators are not constrained, and one body may be served under
    several. -/
def Origin.Distinguishes (o : Origin ω τ β) : Prop :=
  ∀ v w, o.validators v ≠ Validators.absent →
    o.validators v = o.validators w → o.body v = o.body w

/-- The origin, at version `v`, answers a request presenting `p` with "not
    modified". -/
def Origin.notModified (o : Origin ω τ β) (p : Validators τ) (v : ω) : Bool :=
  decide (p ≠ Validators.absent) && decide (p = o.validators v)

theorem notModified_iff {o : Origin ω τ β} {p : Validators τ} {v : ω} :
    o.notModified p v = true ↔ p ≠ Validators.absent ∧ p = o.validators v := by
  simp [Origin.notModified]

/-- A request without validators is answered in full. -/
@[simp] theorem notModified_absent (o : Origin ω τ β) (v : ω) :
    o.notModified Validators.absent v = false := by
  simp [Origin.notModified]

/-- Stored validators vouch for the body held. -/
def Vouched (o : Origin ω τ β) (stored : Validators τ) (held : Option β) : Prop :=
  ∀ v, o.notModified stored v = true → held = some (o.body v)

/-- **A believed "not modified" is true.** -/
theorem Vouched.held_eq {o : Origin ω τ β} {p : Validators τ} {held : Option β}
    {v : ω} (h : Vouched o p held) (hnm : o.notModified p v = true) :
    held = some (o.body v) := h v hnm

theorem vouched_absent (o : Origin ω τ β) (held : Option β) :
    Vouched o Validators.absent held := by
  intro v hnm
  rw [notModified_absent] at hnm
  exact absurd hnm (by simp)

/-- Validators adopted together with the body they came with vouch for it. -/
theorem vouched_adopt {o : Origin ω τ β} (hd : o.Distinguishes) (v : ω) :
    Vouched o (o.validators v) (some (o.body v)) := by
  intro w hnm
  obtain ⟨hne, heq⟩ := notModified_iff.mp hnm
  rw [hd v w hne heq]

/-- Validators read off version `v` vouch for exactly that version's body. -/
theorem vouched_validators_iff {o : Origin ω τ β} (hd : o.Distinguishes) {v : ω}
    {held : Option β} :
    Vouched o (o.validators v) held
      ↔ o.validators v = Validators.absent ∨ held = some (o.body v) := by
  constructor
  · intro h
    by_cases habs : o.validators v = Validators.absent
    · exact Or.inl habs
    · exact Or.inr (h v (notModified_iff.mpr ⟨habs, rfl⟩))
  · rintro (habs | hheld)
    · rw [habs]; exact vouched_absent o held
    · rw [hheld]; exact vouched_adopt hd v

end ConditionalFetch
