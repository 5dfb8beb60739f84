import TreetopRest.StoreRunProofs
import TreetopRest.SampleCrates

/-! # Rejected calls leave no trace

    A call that is answered with an error leaves the store exactly as it was
    (`rejected_inert`): every check of an update precedes its first write, and
    what follows that write cannot fail while the listing caches are usable.
    So a run and the run of its accepted calls alone cannot be told apart. -/

namespace TreetopRejection

open UpdateRun
open TreetopErrors TreetopCrates TreetopMetadata TreetopWire TreetopStore

variable {X : Crates}

/-- The answer is an error. -/
def rejected (r : Except ServiceError (Reply X)) : Bool := !r.isOk

/-- A rejected call leaves every field of the store alone. -/
theorem rejected_inert (s : PolicyStore X) (c : Call X) (h : CachesUsable s)
    (hrej : rejected (c.step s).1 = true) : (c.step s).2 = s := by
  rcases step_cases h c with ⟨e, hrun⟩ | ⟨r, s', hrun, _⟩
  · rw [hrun]
  · rw [hrun] at hrej
    exact nomatch hrej

/-- **REJECTED CALLS ARE INVISIBLE**: deleting them from a run changes neither
    the answers to the calls that remain nor the store the run ends in. -/
theorem rejected_calls_invisible {s : PolicyStore X} (h : CachesUsable s)
    (calls : List (Call X)) :
    run (accepted Call.step rejected calls s) s = run calls s
      ∧ replies Call.step (accepted Call.step rejected calls s) s
        = (replies Call.step calls s).filter (fun r => !rejected r) := by
  have hkeep : ∀ (s : PolicyStore X) (c : Call X), CachesUsable s →
      CachesUsable (c.step s).2 := fun _ c hs => step_usable hs c
  have hinert : ∀ (s : PolicyStore X) (c : Call X), CachesUsable s →
      rejected (c.step s).1 = true → (c.step s).2 = s :=
    fun s c hs hrej => rejected_inert s c hs hrej
  exact ⟨final_accepted CachesUsable hkeep hinert calls s h,
    replies_accepted CachesUsable hkeep hinert calls s h⟩

open TreetopSample in
/-- A policy text that does not parse is rejected between two accepted calls. -/
theorem rejected_calls_invisible_small :
    run (accepted Call.step rejected [.setDsl 1 permitAll none none,
        .setDsl 2 "permit(" none none, .setSchema 3 photoSchema none none] fresh) fresh
      = run [.setDsl 1 permitAll none none, .setDsl 2 "permit(" none none,
          .setSchema 3 photoSchema none none] fresh
    ∧ replies Call.step (accepted Call.step rejected [.setDsl 1 permitAll none none,
        .setDsl 2 "permit(" none none, .setSchema 3 photoSchema none none] fresh) fresh
      = (replies Call.step [.setDsl 1 permitAll none none, .setDsl 2 "permit(" none none,
          .setSchema 3 photoSchema none none] fresh).filter (fun r => !rejected r) :=
  rejected_calls_invisible (new_usable new_fresh) _

end TreetopRejection
