import TreetopRest.SectionProofs
import TreetopRest.RefreshProofs
import Mathlib.Logic.Function.Basic

/-! # Starting up — three fetchers on one store

    `main` configures a store and spawns the three component fetchers, each a
    task of its own.  A task can be interrupted at its two requests, so a poll
    is three steps: the answered HEAD, the answered GET, and the critical
    section.  A schedule says whose fetcher makes its next step.  The servers
    here never fail, and each has one document under fixed validators. -/

namespace TreetopStartup

open FallibleState ConditionalFetch
open TreetopErrors TreetopCrates TreetopMetadata TreetopWire TreetopStore
open TreetopFetcher TreetopSections
open TreetopRefresh (Server)

variable {X : Crates}

/-! ## One fetcher -/

/-- Where a fetcher is in its poll: before the HEAD, before the GET, or before
    the critical section, with the changed body and its hash. -/
inductive Phase where
  | idle
  | headDone
  | bodyRead (body newHash : String)
deriving DecidableEq, Repr

/-- A running fetcher. -/
structure Task where
  fetcher : GenericFetcher
  phase : Phase
deriving DecidableEq, Repr

/-- The next step of a fetcher; a result ends its poll. -/
def Task.next (srv : Server Unit) (inner : Fetchable (SharedStore X)) (now : Timestamp)
    (t : Task) (shared : SharedStore X) :
    Option (Except FetchError Unit) × Task × SharedStore X :=
  match t.phase with
  | .idle =>
      match t.fetcher.onHead (.ok (srv.answerHead () t.fetcher.validators)) with
      | (.error e, f) => (some (.error e), ⟨f, .idle⟩, shared)
      | (.ok false, f) => (some (.ok ()), ⟨f, .idle⟩, shared)
      | (.ok true, f) => (none, ⟨f, .headDone⟩, shared)
  | .headDone =>
      match t.fetcher.onGet X (.ok ⟨200, .ok (srv.body ())⟩) with
      | .error e => (some (.error e), ⟨t.fetcher, .idle⟩, shared)
      | .ok none => (some (.ok ()), ⟨t.fetcher, .idle⟩, shared)
      | .ok (some (body, newHash)) => (none, ⟨t.fetcher, .bodyRead body newHash⟩, shared)
  | .bodyRead body newHash =>
      let (r, f, shared) := t.fetcher.onApply inner now body newHash shared
      (some r, ⟨f, .idle⟩, shared)

/-- What the network answers to a poll. -/
def exchange (srv : Server Unit) : Exchange where
  head presented := .ok (srv.answerHead () presented)
  get := .ok ⟨200, .ok (srv.body ())⟩

/-- Steps of one fetcher alone, until its poll ends. -/
def Task.alone (srv : Server Unit) (inner : Fetchable (SharedStore X)) (now : Timestamp) :
    Nat → Task → SharedStore X → Option (Except FetchError Unit) × Task × SharedStore X
  | 0, t, shared => (none, t, shared)
  | n + 1, t, shared =>
      match t.next srv inner now shared with
      | (some r, t, shared) => (some r, t, shared)
      | (none, t, shared) => Task.alone srv inner now n t shared

/-- Three steps that nobody interrupts are a poll. -/
theorem alone_checkAndUpdate (srv : Server Unit) (inner : Fetchable (SharedStore X))
    (now : Timestamp) (f : GenericFetcher) (shared : SharedStore X) :
    Task.alone srv inner now 3 ⟨f, .idle⟩ shared
      = (some (f.checkAndUpdate X inner now (exchange srv) shared).1,
          ⟨(f.checkAndUpdate X inner now (exchange srv) shared).2.1, .idle⟩,
          (f.checkAndUpdate X inner now (exchange srv) shared).2.2) := by
  simp only [Task.alone, Task.next, GenericFetcher.checkAndUpdate, exchange]
  cases f.onHead (.ok (srv.answerHead () f.validators)) with
  | mk r f' =>
      cases r with
      | error e => rfl
      | ok goesOn =>
          cases goesOn with
          | false => rfl
          | true =>
              dsimp only
              cases f'.onGet X (.ok ⟨200, .ok (srv.body ())⟩) with
              | error e => rfl
              | ok changed =>
                  cases changed with
                  | none => rfl
                  | some p => rfl

/-! ## The system -/

/-- The servers of the three documents. -/
abbrev Remotes := Component → Server Unit

structure System (X : Crates) where
  tasks : Component → Task
  shared : SharedStore X

/-- A step of a schedule: whose fetcher goes on, and the clock. -/
abbrev Turn := Component × Timestamp

/-- Make the next step of one fetcher. -/
def System.advance (srv : Remotes) (turn : Turn) (sys : System X) :
    Option (Except FetchError Unit) × System X :=
  let (r, t, shared) :=
    (sys.tasks turn.1).next (srv turn.1) (turn.1.adapter X) turn.2 sys.shared
  (r, ⟨Function.update sys.tasks turn.1 t, shared⟩)

/-- What `main` does to the store before any fetcher runs. -/
def configureAll (mode : SchemaValidationMode) (sources : Component → Endpoint × UInt64) :
    StoreM X Unit := do
  setSchemaValidationMode mode
  spawn .policies (sources .policies).1 (sources .policies).2
  spawn .labels (sources .labels).1 (sources .labels).2
  spawn .schema (sources .schema).1 (sources .schema).2

/-- The system when its fetchers start. -/
def System.start (s₀ : PolicyStore X) (mode : SchemaValidationMode)
    (sources : Component → Endpoint × UInt64) : System X where
  tasks k := ⟨.new (sources k).1.url, .idle⟩
  shared := ⟨(exec (configureAll mode sources) s₀).2, false⟩

end TreetopStartup
