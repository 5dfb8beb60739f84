import TreetopRest.Lib.ConditionalFetchProofs
import TreetopRest.StoreModel

/-! # The component fetchers

    `GenericFetcher` polls one URL and hands a changed body to an adapter; the
    three adapters differ in the store operation, the source kind and the name
    in their lock error.  A poll is written as its three parts, so that polls
    of several fetchers can be interleaved; `checkAndUpdate` is their sequence.
    What the network answers, and the clock, are arguments.  Log lines and the
    sleep between polls are left out. -/

namespace TreetopFetcher

open FallibleState ConditionalFetch
open TreetopErrors TreetopCrates TreetopMetadata TreetopWire TreetopStore

/-! ## HTTP -/

/-- The bytes of a header value. -/
structure HeaderValue where
  bytes : List UInt8
deriving DecidableEq, Repr

/-- A byte `to_str` accepts: a tab, or visible ASCII. -/
def isVisibleAscii (b : UInt8) : Bool := (32 ≤ b && b < 127) || b == 9

/-- The value as text, if it is visible ASCII throughout. -/
def HeaderValue.toStr (v : HeaderValue) : Option String :=
  if v.bytes.all isVisibleAscii then
    some (String.ofList (v.bytes.map fun b => Char.ofNat b.toNat))
  else none

def isSuccess (status : Nat) : Bool := 200 ≤ status && status < 300

/-- `StatusCode::NOT_MODIFIED`. -/
def notModified : Nat := 304

structure HeadResponse where
  status : Nat
  etag : Option HeaderValue
  lastModified : Option HeaderValue
deriving DecidableEq, Repr

structure GetResponse where
  status : Nat
  /-- The body as text, or why it could not be read. -/
  text : Except String String

/-- The answers a poll gets: to its HEAD, by the validators it presents, and
    to its GET.  The error is of a request that got no response. -/
structure Exchange where
  head : Validators String → Except String HeadResponse
  get : Except String GetResponse

/-- Why a poll failed. -/
inductive FetchError where
  | request (msg : String)
  | status (url : String) (code : Nat)
  | sizeLimit (display : String)
  | lockPoisoned (store : String)
  | preparationTask (msg : String)
  | service (e : ServiceError)
deriving DecidableEq, Repr

/-- The message of a failed poll; `display` prints a status code. -/
def FetchError.message (display : Nat → String) : FetchError → String
  | request msg => msg
  | status url code => "GET " ++ url ++ " returned HTTP " ++ display code
  | sizeLimit display => display
  | preparationTask msg => "bundle preparation task failed: " ++ msg
  | lockPoisoned store =>
      store ++ " store lock poisoned: poisoned lock: another task failed inside"
  | service e => e.message

/-! ## The fetcher -/

/-- Something that can apply the body of a successful response; the hash it
    keeps is a field of the fetcher below. -/
structure Fetchable (σ : Type) where
  applySuccessfulResponse : Timestamp → String → σ → Except FetchError Unit × σ

/-- The state of a fetcher, with the hash its adapter keeps. -/
structure GenericFetcher where
  url : String
  etag : Option String
  lastModified : Option String
  hash : Option String
deriving DecidableEq, Repr

namespace GenericFetcher

def new (url : String) : GenericFetcher :=
  { url, etag := none, lastModified := none, hash := none }

/-- The validators a HEAD presents. -/
def validators (f : GenericFetcher) : Validators String := ⟨f.etag, f.lastModified⟩

/-- 1. HEAD for conditional: whether the poll goes on. -/
def onHead (f : GenericFetcher) (answer : Except String HeadResponse) :
    Except FetchError Bool × GenericFetcher :=
  match answer with
  | .error e => (.error (.request e), f)
  | .ok head =>
      if head.status = notModified then (.ok false, f)
      else if isSuccess head.status then
        (.ok true, { f with
          etag := head.etag.bind HeaderValue.toStr
          lastModified := head.lastModified.bind HeaderValue.toStr })
      else (.ok true, f)

variable (X : Crates)

/-- 2. GET + SHA256: a changed body, with its hash. -/
def onGet (f : GenericFetcher) (answer : Except String GetResponse) :
    Except FetchError (Option (String × String)) := do
  let resp ← answer.mapError FetchError.request
  if !isSuccess resp.status then throw (.status f.url resp.status)
  let body ← resp.text.mapError FetchError.request
  let newHash := makeHash X body
  if f.hash = some newHash then return none
  else return some (body, newHash)

/-- 3. Update store and record hash. -/
def onApply {σ : Type} (f : GenericFetcher) (inner : Fetchable σ) (now : Timestamp)
    (body newHash : String) (s : σ) : Except FetchError Unit × GenericFetcher × σ :=
  match inner.applySuccessfulResponse now body s with
  | (.error e, s') => (.error e, f, s')
  | (.ok (), s') => (.ok (), { f with hash := some newHash }, s')

/-- One poll. -/
def checkAndUpdate {σ : Type} (f : GenericFetcher) (inner : Fetchable σ) (now : Timestamp)
    (net : Exchange) (s : σ) : Except FetchError Unit × GenericFetcher × σ :=
  match f.onHead (net.head f.validators) with
  | (.error e, f) => (.error e, f, s)
  | (.ok false, f) => (.ok (), f, s)
  | (.ok true, f) =>
      match f.onGet X net.get with
      | .error e => (.error e, f, s)
      | .ok none => (.ok (), f, s)
      | .ok (some (body, newHash)) => f.onApply inner now body newHash s

end GenericFetcher

/-! ## The adapters -/

variable {X : Crates}

/-- The store behind its lock. -/
abbrev SharedStore (X : Crates) := Mutex (PolicyStore X)

/-- Run a program while holding the write lock, which nothing here poisons. -/
def SharedStore.write {α : Type} (shared : SharedStore X) (name : String)
    (m : StoreM X α) : Except FetchError α × SharedStore X :=
  if shared.poisoned then (.error (.lockPoisoned name), shared)
  else
    let (r, s) := exec m shared.value
    (r.mapError .service, ⟨s, false⟩)

/-- The critical section of an adapter: one store operation on the body, and
    then the mark of its kind. -/
def applyAndMark (set : Timestamp → String → Option Endpoint → Option UInt32 → StoreM X Unit)
    (kind : RemoteSourceKind) (now : Timestamp) (body : String) : StoreM X Unit := do
  set now body none none
  markRemoteSourceLoaded kind

def PolicyFetchAdapter : Fetchable (SharedStore X) where
  applySuccessfulResponse now body shared :=
    shared.write "policy" (applyAndMark setDsl .policies now body)

def LabelFetchAdapter : Fetchable (SharedStore X) where
  applySuccessfulResponse now body shared :=
    shared.write "label" (applyAndMark setLabels .labels now body)

def SchemaFetchAdapter : Fetchable (SharedStore X) where
  applySuccessfulResponse now body shared :=
    shared.write "schema" (applyAndMark setSchema .schema now body)

/-- `spawn`: configure the source before the first poll.  `refresh_secs` is
    narrowed to 32 bits. -/
def spawn (kind : RemoteSourceKind) (url : Endpoint) (refreshSecs : UInt64) : StoreM X Unit :=
  configureRemoteSource kind url refreshSecs.toUInt32

end TreetopFetcher
