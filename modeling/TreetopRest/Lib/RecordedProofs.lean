import Mathlib.Tactic.Common

/-! # Fallible computations that record

    A computation that may fail, and the records it leaves behind on the way
    to its result, oldest first.  Forgetting the records leaves the plain
    computation (`result_bind`).  The question about the records is whether
    they ACCOUNT for the result: none for a success, and for an error the one
    record it owes, or none where it owes none.  What an error owes is a
    function given beside the computation, so the records are determined.  The
    rules follow a computation from its first part to its last. -/

namespace Recording

variable {κ ε ε' α β : Type}

/-- A result, and what was recorded on the way to it. -/
structure Recorded (κ ε α : Type) where
  result : Except ε α
  log : List κ

/-- The rest of a computation runs, and records, where the first part succeeds. -/
def Recorded.bind (m : Recorded κ ε α) (f : α → Recorded κ ε β) : Recorded κ ε β :=
  match m.result with
  | .ok a => ⟨(f a).result, m.log ++ (f a).log⟩
  | .error e => ⟨.error e, m.log⟩

instance : Monad (Recorded κ ε) where
  pure a := ⟨.ok a, []⟩
  bind := Recorded.bind

/-- A computation that records nothing. -/
def quiet (x : Except ε α) : Recorded κ ε α := ⟨x, []⟩

/-- A failure with its record. -/
def failWith (k : κ) (e : ε) : Recorded κ ε α := ⟨.error e, [k]⟩

/-- Record an error, and pass it on. -/
def Recorded.inspectErr (m : Recorded κ ε α) (k : ε → κ) : Recorded κ ε α :=
  match m.result with
  | .ok _ => m
  | .error e => ⟨m.result, m.log ++ [k e]⟩

def Recorded.mapError (m : Recorded κ ε α) (g : ε → ε') : Recorded κ ε' α :=
  ⟨m.result.mapError g, m.log⟩

/-! ## Forgetting the records -/

@[simp] theorem result_pure (a : α) : (pure a : Recorded κ ε α).result = .ok a := rfl

@[simp] theorem result_quiet (x : Except ε α) : (quiet x : Recorded κ ε α).result = x := rfl

@[simp] theorem result_failWith (k : κ) (e : ε) :
    (failWith k e : Recorded κ ε α).result = .error e := rfl

@[simp] theorem result_mapError (m : Recorded κ ε α) (g : ε → ε') :
    (m.mapError g).result = m.result.mapError g := rfl

@[simp] theorem result_inspectErr (m : Recorded κ ε α) (k : ε → κ) :
    (m.inspectErr k).result = m.result := by
  obtain ⟨r, log⟩ := m
  cases r <;> rfl

/-- A sequence without its records is the sequence of the plain parts. -/
@[simp] theorem result_bind (m : Recorded κ ε α) (f : α → Recorded κ ε β) :
    (m >>= f).result = m.result >>= fun a => (f a).result := by
  show (Recorded.bind m f).result = _
  rw [Recorded.bind]
  cases m.result <;> rfl

/-! ## Accounts -/

/-- The records a result owes: none for a success, and for an error the one it
    has to be recorded under, if there is one. -/
def owed (reason : ε → Option κ) : Except ε α → List κ
  | .ok _ => []
  | .error e => (reason e).toList

variable {reason : ε → Option κ}

/-- The records of a computation account for its result. -/
def Recorded.Accounted (reason : ε → Option κ) (m : Recorded κ ε α) : Prop :=
  m.log = owed reason m.result

theorem accounted_pure (a : α) : (pure a : Recorded κ ε α).Accounted reason := rfl

theorem accounted_failWith {k : κ} {e : ε} (h : reason e = some k) :
    (failWith k e : Recorded κ ε α).Accounted reason := by
  show [k] = (reason e).toList
  rw [h]
  rfl

/-- A success owes nothing, whatever errors owe. -/
theorem Recorded.Accounted.of_ok {m : Recorded κ ε α} (h : m.Accounted reason)
    {a : α} (ha : m.result = .ok a) (reason' : ε → Option κ) : m.Accounted reason' := by
  rw [Recorded.Accounted, ha] at h ⊢
  exact h

/-- An error that nobody records must owe no record. -/
theorem accounted_quiet {x : Except ε α} (h : ∀ e, x = .error e → reason e = none) :
    (quiet x : Recorded κ ε α).Accounted reason := by
  cases x with
  | ok a => rfl
  | error e =>
      show [] = (reason e).toList
      rw [h e rfl]
      rfl

/-- An error that is recorded before it is translated. -/
theorem accounted_mapError {x : Except ε α} {k : ε → κ} {g : ε → ε'} {reason' : ε' → Option κ}
    (h : ∀ e, x = .error e → reason' (g e) = some (k e)) :
    (((quiet x).inspectErr k).mapError g).Accounted reason' := by
  cases x with
  | ok a => rfl
  | error e =>
      show [k e] = (reason' (g e)).toList
      rw [h e rfl]
      rfl

theorem accounted_inspectErr {x : Except ε α} {k : ε → κ}
    (h : ∀ e, x = .error e → reason e = some (k e)) :
    ((quiet x).inspectErr k).Accounted reason := by
  cases x with
  | ok a => rfl
  | error e =>
      show [k e] = (reason e).toList
      rw [h e rfl]
      rfl

/-- **SEQUENCES** account for their result if their parts do. -/
theorem accounted_bind {m : Recorded κ ε α} {f : α → Recorded κ ε β}
    (hm : m.Accounted reason)
    (hf : ∀ a, m.result = .ok a → (f a).Accounted reason) :
    (m >>= f).Accounted reason := by
  obtain ⟨r, log⟩ := m
  have hlog : log = owed reason r := hm
  subst hlog
  cases r with
  | ok a => exact hf a rfl
  | error e => rfl

/-- A check that fails on its own account, in front of the rest. -/
theorem accounted_check {c : Prop} [Decidable c] {m : Recorded κ ε Unit}
    {f : Unit → Recorded κ ε α} (hm : c → m.Accounted reason)
    (hf : (f ()).Accounted reason) :
    (if c then m >>= f else f ()).Accounted reason := by
  by_cases hc : c
  · rw [if_pos hc]
    exact accounted_bind (hm hc) fun _ _ => hf
  · rw [if_neg hc]
    exact hf

end Recording
