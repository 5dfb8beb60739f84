import TreetopRest.ConfigModel
import TreetopRest.StartupModel
import TreetopRest.UploadProofs

/-! # The running server

    What runs after `main` has launched it: the component fetchers, the bundle
    fetcher and any number of upload requests, each a task that can be
    interrupted where it waits, and listing requests, on one store behind its
    lock.  The network, the clock and the order of all steps are events, and
    so is the panic of a lock holder.  Every step says what it PUBLISHED, so a
    run leaves a log of publications behind. -/

namespace TreetopServer

open FallibleState ConditionalFetch UpdateRun
open TreetopErrors TreetopCrates TreetopMetadata TreetopWire TreetopStore
open TreetopFetcher TreetopBundleFetcher TreetopSections TreetopRequest TreetopUpload
open TreetopAdmission TreetopConfig
open TreetopStartup (Task)
open TreetopUploadSafety (Service)

variable {X : Crates} {N : NetCrate} {ι : Type} [DecidableEq ι]

/-! ## Component fetchers -/

/-- The next step of a fetcher, whatever the network answers; a result ends
    its poll. -/
def fetcherStep (net : Exchange) (inner : Fetchable (SharedStore X)) (now : Timestamp)
    (t : Task) (shared : SharedStore X) :
    Option (Except FetchError Unit) × Task × SharedStore X :=
  match t.phase with
  | .idle =>
      match t.fetcher.onHead (net.head t.fetcher.validators) with
      | (.error e, f) => (some (.error e), ⟨f, .idle⟩, shared)
      | (.ok false, f) => (some (.ok ()), ⟨f, .idle⟩, shared)
      | (.ok true, f) => (none, ⟨f, .headDone⟩, shared)
  | .headDone =>
      match t.fetcher.onGet X net.get with
      | .error e => (some (.error e), ⟨t.fetcher, .idle⟩, shared)
      | .ok none => (some (.ok ()), ⟨t.fetcher, .idle⟩, shared)
      | .ok (some (body, newHash)) => (none, ⟨t.fetcher, .bodyRead body newHash⟩, shared)
  | .bodyRead body newHash =>
      let (r, f, shared) := t.fetcher.onApply inner now body newHash shared
      (some r, ⟨f, .idle⟩, shared)

/-- Against a server that never fails this is the step of the start-up. -/
theorem fetcherStep_exchange (srv : TreetopRefresh.Server Unit)
    (inner : Fetchable (SharedStore X)) (now : Timestamp) (t : Task) (shared : SharedStore X) :
    fetcherStep (TreetopStartup.exchange srv) inner now t shared
      = t.next srv inner now shared := rfl

/-! ## The bundle fetcher -/

/-- A bundle fetcher, and the archive it is about to commit. -/
structure BundleTask (X : Crates) where
  fetcher : BundleFetcher X
  ready : Option (Download × PreparedBundle X)

/-- The next step: everything up to the write lock, which looks at the store
    once, or the commit. -/
def bundleStep (get : Validators String → Except String BundleResponse) (clock : BundleClock)
    (taskFailure : Option String) (t : BundleTask X) (shared : SharedStore X) :
    Option (Except FetchError Unit) × BundleTask X × SharedStore X :=
  match t.ready with
  | none =>
      match t.fetcher.fetch ⟨get, shared, clock, taskFailure⟩ with
      | .error e => (some (.error e), ⟨t.fetcher, none⟩, shared)
      | .ok .notModified => (some (.ok ()), ⟨t.fetcher, none⟩, shared)
      | .ok (.unchanged validators) => (some (.ok ()), ⟨t.fetcher.adopt validators, none⟩, shared)
      | .ok (.replacement d prepared) => (none, ⟨t.fetcher, some (d, prepared)⟩, shared)
  | some (d, prepared) =>
      match shared.write "policy" (applyBundleAndMark prepared) with
      | (.error e, shared) => (some (.error e), ⟨t.fetcher, none⟩, shared)
      | (.ok (), shared) =>
          (some (.ok ()), ⟨{ t.fetcher.adopt d.validators with
            archiveSha256 := some (hexSha256 X d.bytes) }, none⟩, shared)

/-! ## Publications -/

/-- What replaces served documents: one component, or a whole bundle. -/
inductive Publication (X : Crates) where
  | component (k : Component) (text : String)
  | bundle (prepared : PreparedBundle X)

/-- What the commit of an upload publishes. -/
def publicationOf : Candidate X → Publication X
  | .policies dslString => .component .policies dslString
  | .schema schemaString => .component .schema schemaString
  | .bundle prepared _ => .bundle prepared

/-- What a step has to show. -/
inductive Outcome (X : Crates) where
  | nothing
  | published (p : Publication X)
  | listed (answer : Except ServiceError (Reply X))

def Outcome.publication : Outcome X → Option (Publication X)
  | .published p => some p
  | _ => none

/-- A step that ended well has published this. -/
def publishing {ε α : Type} (p : Publication X) : Except ε α → Outcome X
  | .ok _ => .published p
  | .error _ => .nothing

/-! ## The server -/

structure Server (X : Crates) (ι : Type) where
  fetchers : Component → Option Task
  bundleFetcher : Option (BundleTask X)
  service : Service X ι

/-- The store behind its lock. -/
def Server.shared (srv : Server X ι) : SharedStore X := srv.service.shared

def Server.store (srv : Server X ι) : PolicyStore X := srv.shared.value

/-- The server after a step that left its requests where they are. -/
def Server.withShared (srv : Server X ι) (shared : SharedStore X) : Server X ι :=
  { srv with service := ⟨srv.service.phase, shared⟩ }

/-- The server as `main` hands it over. -/
def Server.start (l : Launched X N) : Server X ι where
  fetchers k := (l.fetchers k).map fun f => ⟨f, .idle⟩
  bundleFetcher := l.bundleFetcher.map fun f => ⟨f, none⟩
  service := Service.start l.store

/-- Whose step is next, and what it meets.  A holder that panics poisons the
    lock of the store; the mutexes of the listing caches are taken not to be. -/
inductive Event (X : Crates) (ι : Type) where
  | fetch (k : Component) (net : Exchange) (now : Timestamp)
  | fetchBundle (get : Validators String → Except String BundleResponse) (clock : BundleClock)
      (taskFailure : Option String)
  | upload (i : ι) (now : Timestamp)
  | listPolicies (raw : Bool) (user : String) (groups namespaces : List String)
  | poison

/-- The source whose fetcher takes a step. -/
def Event.source : Event X ι → Option RemoteSourceKind
  | .fetch k _ _ => some k.kind
  | .fetchBundle _ _ _ => some .bundle
  | _ => none

/-- A listing request as a call of the store. -/
def listCall (raw : Bool) (user : String) (groups namespaces : List String) : Call X :=
  if raw then .listPoliciesRaw user groups namespaces
  else .listPoliciesJson user groups namespaces

/-- What a fetcher's step published: a body whose application succeeded. -/
def fetched (k : Component) (t : Task) (r : Option (Except FetchError Unit)) : Outcome X :=
  match t.phase, r with
  | .bodyRead body _, some r => publishing (.component k body) r
  | _, _ => .nothing

/-- What a bundle fetcher's step published. -/
def bundleFetched (t : BundleTask X) (r : Option (Except FetchError Unit)) : Outcome X :=
  match t.ready, r with
  | some (_, prepared), some r => publishing (.bundle prepared) r
  | _, _ => .nothing

/-- What a request's step published: a candidate whose commit succeeded. -/
def uploaded : TreetopUploadSafety.Phase X → TreetopUploadSafety.Phase X → Outcome X
  | .prepared c, .answered r => publishing (publicationOf c) r
  | _, _ => .nothing

variable (uploads : ι → Upload) (config : BundleRuntimeConfig X)
  (engineMode : Option BundleEngineMode)

/-- One step of the server. -/
def step (e : Event X ι) (srv : Server X ι) : Outcome X × Server X ι :=
  match e with
  | .fetch k net now =>
      match srv.fetchers k with
      | none => (.nothing, srv)
      | some t =>
          let (r, t', shared) := fetcherStep net (k.adapter X) now t srv.shared
          (fetched k t r, { srv.withShared shared with
            fetchers := Function.update srv.fetchers k (some t') })
  | .fetchBundle get clock taskFailure =>
      match srv.bundleFetcher with
      | none => (.nothing, srv)
      | some t =>
          let (r, t', shared) := bundleStep get clock taskFailure t srv.shared
          (bundleFetched t r, { srv.withShared shared with bundleFetcher := some t' })
  | .upload i now =>
      let service := srv.service.advance uploads config engineMode i now
      (uploaded (srv.service.phase i) (service.phase i), { srv with service })
  | .listPolicies raw user groups namespaces =>
      match readStore srv.shared with
      | .error e => (.listed (.error e), srv)
      | .ok s =>
          let (answer, s) := (listCall raw user groups namespaces).step s
          (.listed answer, srv.withShared ⟨s, srv.shared.poisoned⟩)
  | .poison => (.nothing, srv.withShared ⟨srv.store, true⟩)

/-- The server after a run of events. -/
abbrev serverAfter (events : List (Event X ι)) (srv : Server X ι) : Server X ι :=
  final (step uploads config engineMode) events srv

/-- A launched server after a run: its handlers have the settings of `main`. -/
abbrev running (l : Launched X N) (events : List (Event X ι)) : Server X ι :=
  serverAfter uploads l.bundleRuntime (some l.bundleEngineMode) events (Server.start l)

/-- What was published in a run, oldest first. -/
def publications (events : List (Event X ι)) (srv : Server X ι) : List (Publication X) :=
  (trace (step uploads config engineMode) events srv).filterMap fun e => e.2.publication

/-! ## What is served -/

/-- The three documents a server serves. -/
structure Board where
  policies : String
  labels : String
  schema : String
deriving DecidableEq, Repr

/-- The document of a component. -/
def Board.document (b : Board) : Component → String
  | .policies => b.policies
  | .labels => b.labels
  | .schema => b.schema

/-- A publication replaces one document, or all three. -/
def Board.post (b : Board) : Publication X → Board
  | .component .policies text => { b with policies := text }
  | .component .labels text => { b with labels := text }
  | .component .schema text => { b with schema := text }
  | .bundle prepared =>
      ⟨prepared.policies.content, prepared.labels.content, prepared.schema.content⟩

/-- The documents after some publications, from none at all. -/
def board (ps : List (Publication X)) : Board := ps.foldl Board.post ⟨"", "", ""⟩

/-- The documents of a store. -/
def boardOf (s : PolicyStore X) : Board :=
  ⟨s.policies.content, s.labels.content, s.schema.content⟩

/-! ## Polls that nobody interrupts -/

/-- Steps of one fetcher alone, until its poll ends. -/
def alone (net : Exchange) (inner : Fetchable (SharedStore X)) (now : Timestamp) :
    Nat → Task → SharedStore X → Option (Except FetchError Unit) × Task × SharedStore X
  | 0, t, shared => (none, t, shared)
  | n + 1, t, shared =>
      match fetcherStep net inner now t shared with
      | (some r, t, shared) => (some r, t, shared)
      | (none, t, shared) => alone net inner now n t shared

/-- Three steps of a fetcher are a poll. -/
theorem alone_checkAndUpdate (net : Exchange) (inner : Fetchable (SharedStore X))
    (now : Timestamp) (f : GenericFetcher) (shared : SharedStore X) :
    alone net inner now 3 ⟨f, .idle⟩ shared
      = (some (f.checkAndUpdate X inner now net shared).1,
          ⟨(f.checkAndUpdate X inner now net shared).2.1, .idle⟩,
          (f.checkAndUpdate X inner now net shared).2.2) := by
  simp only [alone, fetcherStep, GenericFetcher.checkAndUpdate]
  cases f.onHead (net.head f.validators) with
  | mk r f' =>
      cases r with
      | error e => rfl
      | ok goesOn =>
          cases goesOn with
          | false => rfl
          | true =>
              dsimp only
              cases f'.onGet X net.get with
              | error e => rfl
              | ok changed =>
                  cases changed with
                  | none => rfl
                  | some p => rfl

/-- Two steps of the bundle fetcher are a poll, or its first already is. -/
theorem bundle_checkAndUpdate (get : Validators String → Except String BundleResponse)
    (clock : BundleClock) (taskFailure : Option String) (f : BundleFetcher X)
    (shared : SharedStore X) :
    (match bundleStep get clock taskFailure ⟨f, none⟩ shared with
      | (some r, t, shared) => (some r, t, shared)
      | (none, t, shared) => bundleStep get clock taskFailure t shared)
      = (some (f.checkAndUpdate ⟨get, shared, clock, taskFailure⟩ shared).1,
          ⟨(f.checkAndUpdate ⟨get, shared, clock, taskFailure⟩ shared).2.1, none⟩,
          (f.checkAndUpdate ⟨get, shared, clock, taskFailure⟩ shared).2.2) := by
  rw [BundleFetcher.checkAndUpdate, bundleStep]
  dsimp only
  cases f.fetch ⟨get, shared, clock, taskFailure⟩ with
  | error e => rfl
  | ok fetched =>
      cases fetched with
      | notModified => rfl
      | unchanged validators => rfl
      | replacement d prepared =>
          dsimp only [bundleStep]
          cases shared.write "policy" (applyBundleAndMark prepared) with
          | mk r shared' =>
              cases r with
              | error e => rfl
              | ok u => rfl

end TreetopServer
