import TreetopRest.FetcherModel
import TreetopRest.SampleCrates
import TreetopRest.Lib.UpdateRunProofs

/-! # Refreshing one component — which polls lose an update

    A fetcher adopts the validators of a successful HEAD before it has the
    body they describe.  It may believe a later "not modified" only while the
    stored validators VOUCH for the body its adapter applied last; a poll that
    adopts validators and then fails, or reads another version with its GET,
    leaves validators that vouch for nothing.  The run theorem says exactly
    which polls keep the vouching (`KeepsVouching`), and that a fetcher whose
    polls all do is right whenever it reports success. -/

namespace TreetopRefresh

open Text ConditionalFetch UpdateRun
open TreetopErrors TreetopCrates TreetopMetadata TreetopFetcher

variable {X : Crates} {ω σ : Type}

/-! ## Polls -/

/-- A server: what each version of its document consists of. -/
structure Server (ω : Type) where
  body : ω → String
  etag : ω → Option HeaderValue
  lastModified : ω → Option HeaderValue

/-- The validators of a version, as text: a header value that is no text is
    no validator. -/
def Server.origin (srv : Server ω) : Origin ω String String where
  body := srv.body
  validators v :=
    ⟨(srv.etag v).bind HeaderValue.toStr, (srv.lastModified v).bind HeaderValue.toStr⟩

/-- The answer to a conditional HEAD at version `v`. -/
def Server.answerHead (srv : Server ω) (v : ω) (presented : Validators String) :
    HeadResponse :=
  if srv.origin.notModified presented v then ⟨notModified, none, none⟩
  else ⟨200, srv.etag v, srv.lastModified v⟩

/-- A HEAD that gets no answer, or not the one of the protocol. -/
inductive HeadFault where
  | noResponse (msg : String)
  | status (code : Nat) (failure : isSuccess code = false) (other : code ≠ notModified)

/-- A GET that delivers no body. -/
inductive GetFault where
  | noResponse (msg : String)
  | status (code : Nat) (failure : isSuccess code = false)
  | body (msg : String)

/-- One poll: the versions its two requests and its end see, what fails, and
    the time and store of its critical section. -/
structure Poll (ω σ : Type) where
  atHead : ω
  atGet : ω
  atEnd : ω
  headFault : Option HeadFault
  getFault : Option GetFault
  now : Timestamp
  store : σ

variable (X) (srv : Server ω) (inner : Fetchable σ)

/-- What the network answers during a poll. -/
def Poll.exchange (p : Poll ω σ) : Exchange where
  head presented :=
    match p.headFault with
    | some (.noResponse msg) => .error msg
    | some (.status code _ _) => .ok ⟨code, none, none⟩
    | none => .ok (srv.answerHead p.atHead presented)
  get :=
    match p.getFault with
    | some (.noResponse msg) => .error msg
    | some (.status code _) => .ok ⟨code, .ok ""⟩
    | some (.body msg) => .ok ⟨200, .error msg⟩
    | none => .ok ⟨200, .ok (srv.body p.atGet)⟩

/-- The server's content does not change during the poll. -/
def Poll.Quiescent (p : Poll ω σ) : Prop :=
  srv.body p.atHead = srv.body p.atEnd ∧ srv.body p.atGet = srv.body p.atEnd

/-- The adapter, with the body it applied last. -/
def recording : Fetchable (σ × Option String) where
  applySuccessfulResponse now body s :=
    match inner.applySuccessfulResponse now body s.1 with
    | (.ok (), s') => (.ok (), (s', some body))
    | (.error e, s') => (.error e, (s', s.2))

/-- A fetcher between polls, and the body its adapter applied last. -/
structure Client where
  fetcher : GenericFetcher
  applied : Option String

def Client.new (url : String) : Client := ⟨.new url, none⟩

/-- Make a poll. -/
def poll (p : Poll ω σ) (c : Client) : Except FetchError Unit × Client :=
  let (r, f, _, applied) :=
    c.fetcher.checkAndUpdate X (recording inner) p.now (p.exchange srv) (p.store, c.applied)
  (r, ⟨f, applied⟩)

/-! ## What a poll can do -/

/-- The poll gets a body with a new hash, and the adapter accepts it. -/
def AppliesNew (c : Client) (p : Poll ω σ) : Prop :=
  p.getFault = none ∧ c.fetcher.hash ≠ some (makeHash X (srv.body p.atGet))
    ∧ (inner.applySuccessfulResponse p.now (srv.body p.atGet) p.store).1 = .ok ()

/-- The HEAD left the poll to its GET, with fetcher `f`. -/
def HeadDone (c : Client) (p : Poll ω σ) (f : GenericFetcher) : Prop :=
  f.hash = c.fetcher.hash
    ∧ ((∃ code h h', p.headFault = some (.status code h h')
          ∧ f.validators = c.fetcher.validators)
      ∨ (p.headFault = none ∧ srv.origin.notModified c.fetcher.validators p.atHead = false
          ∧ f.validators = srv.origin.validators p.atHead))

variable {X srv inner}

theorem onHead_cases (c : Client) (p : Poll ω σ) :
    (∃ msg, p.headFault = some (.noResponse msg)
        ∧ c.fetcher.onHead ((p.exchange srv).head c.fetcher.validators)
          = (.error (.request msg), c.fetcher))
      ∨ (p.headFault = none ∧ srv.origin.notModified c.fetcher.validators p.atHead = true
        ∧ c.fetcher.onHead ((p.exchange srv).head c.fetcher.validators)
          = (.ok false, c.fetcher))
      ∨ (∃ f, HeadDone srv c p f
        ∧ c.fetcher.onHead ((p.exchange srv).head c.fetcher.validators) = (.ok true, f)) := by
  rw [Poll.exchange]
  cases hf : p.headFault with
  | some fault =>
      cases fault with
      | noResponse msg => exact Or.inl ⟨msg, rfl, rfl⟩
      | status code h h' =>
          -- a failing HEAD is no reason to stop: the GET is made anyway
          refine Or.inr (Or.inr ⟨c.fetcher, ⟨rfl, Or.inl ⟨code, h, h', hf, rfl⟩⟩, ?_⟩)
          show GenericFetcher.onHead c.fetcher (.ok ⟨code, none, none⟩) = _
          rw [GenericFetcher.onHead]
          dsimp only
          rw [if_neg h', if_neg (by rw [h]; exact Bool.false_ne_true)]
  | none =>
      cases hnm : srv.origin.notModified c.fetcher.validators p.atHead with
      | true =>
          refine Or.inr (Or.inl ⟨rfl, rfl, ?_⟩)
          show GenericFetcher.onHead c.fetcher (.ok (srv.answerHead p.atHead _)) = _
          rw [Server.answerHead]
          rw [hnm]
          rfl
      | false =>
          refine Or.inr (Or.inr ⟨{ c.fetcher with
            etag := (srv.etag p.atHead).bind HeaderValue.toStr
            lastModified := (srv.lastModified p.atHead).bind HeaderValue.toStr },
            ⟨rfl, Or.inr ⟨hf, hnm, rfl⟩⟩, ?_⟩)
          show GenericFetcher.onHead c.fetcher (.ok (srv.answerHead p.atHead _)) = _
          rw [Server.answerHead]
          rw [hnm]
          rfl

theorem onGet_cases (f : GenericFetcher) (p : Poll ω σ) :
    (∃ e, p.getFault ≠ none ∧ f.onGet X (p.exchange srv).get = .error e)
      ∨ (p.getFault = none ∧ f.hash = some (makeHash X (srv.body p.atGet))
        ∧ f.onGet X (p.exchange srv).get = .ok none)
      ∨ (p.getFault = none ∧ f.hash ≠ some (makeHash X (srv.body p.atGet))
        ∧ f.onGet X (p.exchange srv).get
          = .ok (some (srv.body p.atGet, makeHash X (srv.body p.atGet)))) := by
  rw [Poll.exchange]
  cases hf : p.getFault with
  | some fault =>
      refine Or.inl ?_
      cases fault with
      | noResponse msg => exact ⟨_, by simp, rfl⟩
      | status code h =>
          refine ⟨.status f.url code, by simp, ?_⟩
          show GenericFetcher.onGet X f (.ok ⟨code, .ok ""⟩) = _
          rw [GenericFetcher.onGet]
          simp [h, Except.mapError, bind, Except.bind, throw, throwThe, MonadExceptOf.throw]
      | body msg => exact ⟨_, by simp, rfl⟩
  | none =>
      refine Or.inr ?_
      by_cases hh : f.hash = some (makeHash X (srv.body p.atGet))
      · refine Or.inl ⟨rfl, hh, ?_⟩
        show GenericFetcher.onGet X f (.ok ⟨200, .ok (srv.body p.atGet)⟩) = _
        rw [GenericFetcher.onGet]
        simp [hh, Except.mapError, bind, Except.bind, pure, Except.pure, isSuccess]
      · refine Or.inr ⟨rfl, hh, ?_⟩
        show GenericFetcher.onGet X f (.ok ⟨200, .ok (srv.body p.atGet)⟩) = _
        rw [GenericFetcher.onGet]
        simp [hh, Except.mapError, bind, Except.bind, pure, Except.pure, isSuccess]

/-- What a poll did: nothing, believed a "not modified", or went on to the GET
    and there applied a new body or not. -/
inductive Polled (X : Crates) (srv : Server ω) (inner : Fetchable σ) (c : Client)
    (p : Poll ω σ) : Except FetchError Unit → Client → Prop where
  | noResponse (msg : String) (e : FetchError) (h : p.headFault = some (.noResponse msg)) :
      Polled X srv inner c p (.error e) c
  | believed (h : p.headFault = none)
      (hnm : srv.origin.notModified c.fetcher.validators p.atHead = true) :
      Polled X srv inner c p (.ok ()) c
  | failed (f : GenericFetcher) (e : FetchError) (hd : HeadDone srv c p f)
      (h : ¬ AppliesNew X srv inner c p) : Polled X srv inner c p (.error e) ⟨f, c.applied⟩
  | unchanged (f : GenericFetcher) (hd : HeadDone srv c p f)
      (h : c.fetcher.hash = some (makeHash X (srv.body p.atGet))) :
      Polled X srv inner c p (.ok ()) ⟨f, c.applied⟩
  | applied (f : GenericFetcher) (hd : HeadDone srv c p f)
      (h : AppliesNew X srv inner c p) :
      Polled X srv inner c p (.ok ())
        ⟨{ f with hash := some (makeHash X (srv.body p.atGet)) }, some (srv.body p.atGet)⟩

/-- **Every poll is one of these five.** -/
theorem poll_polled (c : Client) (p : Poll ω σ) :
    Polled X srv inner c p (poll X srv inner p c).1 (poll X srv inner p c).2 := by
  rw [poll, GenericFetcher.checkAndUpdate]
  rcases onHead_cases c p with ⟨msg, hf, hh⟩ | ⟨hf, hnm, hh⟩ | ⟨f, hd, hh⟩
  · rw [hh]
    exact .noResponse msg _ hf
  · rw [hh]
    exact .believed hf hnm
  · rw [hh]
    dsimp only
    rcases onGet_cases f p with
      ⟨e, hf, hg⟩ | ⟨hf, hhash, hg⟩ | ⟨hf, hhash, hg⟩
    · rw [hg]
      exact .failed f e hd (fun h => hf h.1)
    · rw [hg]
      exact .unchanged f hd (hd.1.symm.trans hhash)
    · rw [hg]
      rw [hd.1] at hhash
      show Polled X srv inner c p _ _
      unfold GenericFetcher.onApply recording
      cases ha : inner.applySuccessfulResponse p.now (srv.body p.atGet) p.store with
      | mk r s' =>
          cases r with
          | error e =>
              simp only [ha]
              refine .failed f e hd (fun h => ?_)
              have h' := h.2.2
              rw [ha] at h'
              exact nomatch h'
          | ok u =>
              simp only [ha]
              exact .applied f hd ⟨hf, hhash, by rw [ha]⟩

/-! ## What the fetcher remembers -/

variable (X srv inner)

/-- The hash is that of the applied body, which the server had at some version,
    and the stored validators are those of some version, or none. -/
structure Tracked (c : Client) : Prop where
  hash : c.fetcher.hash = c.applied.map (makeHash X)
  served : ∀ b, c.applied = some b → ∃ v, srv.body v = b
  validators : c.fetcher.validators = Validators.absent
    ∨ ∃ v, c.fetcher.validators = srv.origin.validators v

/-- The stored validators vouch for the applied body. -/
def Trustworthy (c : Client) : Prop := Vouched srv.origin c.fetcher.validators c.applied

/-- What a poll must meet to leave trustworthy validators.  Validators adopted
    from a HEAD need the content they describe to be the applied one at the
    end of the poll; validators kept through a failing HEAD must not survive
    the application of another body. -/
def KeepsVouching (c : Client) (p : Poll ω σ) : Prop :=
  match p.headFault with
  | some (.noResponse _) => True
  | some (.status _ _ _) =>
      c.fetcher.validators = Validators.absent ∨ ¬ AppliesNew X srv inner c p
  | none =>
      srv.origin.notModified c.fetcher.validators p.atHead = true
        ∨ srv.origin.validators p.atHead = Validators.absent
        ∨ (AppliesNew X srv inner c p ∧ srv.body p.atGet = srv.body p.atHead)
        ∨ (¬ AppliesNew X srv inner c p ∧ c.applied = some (srv.body p.atHead))

variable {X srv inner}

theorem tracked_new (url : String) : Tracked X srv (Client.new url) :=
  ⟨rfl, (fun _ h => nomatch h), Or.inl rfl⟩

theorem headDone_validators {c : Client} {p : Poll ω σ} {f : GenericFetcher}
    (h : Tracked X srv c) (hd : HeadDone srv c p f) :
    f.validators = Validators.absent ∨ ∃ v, f.validators = srv.origin.validators v := by
  rcases hd.2 with ⟨_, _, _, _, hv⟩ | ⟨_, _, hv⟩
  · rw [hv]
    exact h.validators
  · exact Or.inr ⟨p.atHead, hv⟩

theorem tracked_polled {c c' : Client} {p : Poll ω σ} {r : Except FetchError Unit}
    (h : Tracked X srv c) (hp : Polled X srv inner c p r c') : Tracked X srv c' := by
  cases hp with
  | noResponse msg e hf => exact h
  | believed hf hnm => exact h
  | failed f e hd hno => exact ⟨hd.1.trans h.hash, h.served, headDone_validators h hd⟩
  | unchanged f hd hhash => exact ⟨hd.1.trans h.hash, h.served, headDone_validators h hd⟩
  | applied f hd happ =>
      refine ⟨rfl, ?_, ?_⟩
      · intro b hb
        exact ⟨p.atGet, Option.some.inj hb⟩
      · show f.validators = _ ∨ _
        exact headDone_validators h hd

/-- A poll that went on and applied nothing keeps the vouching exactly under
    its condition. -/
theorem trustworthy_kept_iff (hd : srv.origin.Distinguishes) {c : Client} {p : Poll ω σ}
    {f : GenericFetcher} (h : Trustworthy srv c) (hdone : HeadDone srv c p f)
    (hno : ¬ AppliesNew X srv inner c p) :
    Trustworthy srv ⟨f, c.applied⟩ ↔ KeepsVouching X srv inner c p := by
  rw [KeepsVouching, Trustworthy]
  rcases hdone.2 with ⟨code, h1, h2, hf, hv⟩ | ⟨hf, hnm, hv⟩
  · rw [hf, hv]
    exact ⟨fun _ => Or.inr hno, fun _ => h⟩
  · rw [hf, hv, vouched_validators_iff hd]
    dsimp only
    rw [hnm]
    constructor
    · rintro (habs | hbody)
      · exact Or.inr (Or.inl habs)
      · exact Or.inr (Or.inr (Or.inr ⟨hno, hbody⟩))
    · rintro (hf' | habs | ⟨happ, _⟩ | ⟨_, hbody⟩)
      · exact nomatch hf'
      · exact Or.inl habs
      · exact absurd happ hno
      · exact Or.inr hbody

/-- **One poll keeps the vouching exactly under its condition.** -/
theorem trustworthy_polled_iff (hd : srv.origin.Distinguishes) {c c' : Client}
    {p : Poll ω σ} {r : Except FetchError Unit} (ht : Tracked X srv c)
    (h : Trustworthy srv c) (hp : Polled X srv inner c p r c') :
    Trustworthy srv c' ↔ KeepsVouching X srv inner c p := by
  cases hp with
  | noResponse msg e hf =>
      rw [KeepsVouching]
      rw [hf]
      exact ⟨fun _ => trivial, fun _ => h⟩
  | believed hf hnm =>
      rw [KeepsVouching]
      rw [hf]
      exact ⟨fun _ => Or.inl hnm, fun _ => h⟩
  | failed f e hdone hno => exact trustworthy_kept_iff hd h hdone hno
  | unchanged f hdone hhash => exact trustworthy_kept_iff hd h hdone (fun happ => happ.2.1 hhash)
  | applied f hdone happ =>
      rw [KeepsVouching, Trustworthy]
      rcases hdone.2 with ⟨code, h1, h2, hf, hv⟩ | ⟨hf, hnm, hv⟩
      · rw [hf]
        show Vouched srv.origin f.validators (some (srv.body p.atGet)) ↔ _
        rw [hv]
        constructor
        · intro hvouch
          refine Or.inl ?_
          rcases ht.validators with habs | ⟨v, hval⟩
          · exact habs
          · rcases (vouched_validators_iff hd).mp (hval ▸ hvouch) with habs | hbody
            · exact hval.trans habs
            · -- the old vouching holds the same version's body, so its hash was known
              have hold : Vouched srv.origin c.fetcher.validators c.applied := h
              rw [hval] at hold
              rcases (vouched_validators_iff hd).mp hold with habs | hheld
              · exact hval.trans habs
              · have hsame : srv.body p.atGet = srv.body v := Option.some.inj hbody
                refine absurd ?_ happ.2.1
                rw [ht.hash, hheld, hsame]
                rfl
        · rintro (habs | hno)
          · rw [habs]
            exact vouched_absent _ _
          · exact absurd happ hno
      · rw [hf]
        show Vouched srv.origin f.validators (some (srv.body p.atGet)) ↔ _
        rw [hv, vouched_validators_iff hd]
        dsimp only
        rw [hnm]
        constructor
        · rintro (habs | hbody)
          · exact Or.inr (Or.inl habs)
          · exact Or.inr (Or.inr (Or.inl ⟨happ, Option.some.inj hbody⟩))
        · rintro (hf' | habs | ⟨_, hbody⟩ | ⟨hno, _⟩)
          · exact nomatch hf'
          · exact Or.inl habs
          · exact Or.inr (congrArg some hbody)
          · exact absurd happ hno

/-! ## When success may be believed -/

variable (X srv inner)

/-- Any poll the fetcher may make next, with the content not changing, that
    reports success ends with the server's content applied. -/
def Converges (c : Client) : Prop :=
  ∀ p : Poll ω σ, p.Quiescent srv → (poll X srv inner p c).1 = .ok () →
    (poll X srv inner p c).2.applied = some (srv.body p.atEnd)

variable {X srv inner}

theorem converges_of_trustworthy (hfree : CollisionFree X fun v => asBytes (srv.body v).toList)
    {c : Client} (ht : Tracked X srv c) (h : Trustworthy srv c) :
    Converges X srv inner c := by
  intro p hq hok
  have hp : Polled X srv inner c p (poll X srv inner p c).1 (poll X srv inner p c).2 :=
    poll_polled c p
  cases hpoll : poll X srv inner p c with
  | mk r c' =>
      rw [hpoll] at hp hok
      have hr : r = .ok () := hok
      subst hr
      cases hp with
      | believed hf hnm =>
          show c'.applied = some (srv.body p.atEnd)
          rw [h.held_eq hnm]
          exact congrArg some hq.1
      | unchanged f hdone hhash =>
          rw [ht.hash] at hhash
          show c.applied = some (srv.body p.atEnd)
          cases happ : c.applied with
          | none => rw [happ] at hhash; exact nomatch hhash
          | some b =>
              obtain ⟨v, hv⟩ := ht.served b happ
              rw [happ, Option.map_some, ← hv] at hhash
              have hb := makeHash_inj X hfree (Option.some.inj hhash)
              rw [← hv, hb, hq.2]
      | applied f hdone happ => exact congrArg some hq.2

/-- An untrustworthy "not modified" is waiting for the poll that believes it. -/
theorem trustworthy_of_converges [Inhabited σ] {c : Client} (h : Converges X srv inner c) :
    Trustworthy srv c := by
  intro v hnm
  have hpoll : poll X srv inner ⟨v, v, v, none, none, 0, default⟩ c = (.ok (), c) := by
    rw [poll, GenericFetcher.checkAndUpdate]
    rcases onHead_cases c (⟨v, v, v, none, none, 0, default⟩ : Poll ω σ) with
      ⟨msg, hf, _⟩ | ⟨_, _, hh⟩ | ⟨f, hdone, _⟩
    · exact nomatch hf
    · rw [hh]
    · rcases hdone.2 with ⟨_, _, _, hf, _⟩ | ⟨_, hno, _⟩
      · exact nomatch hf
      · rw [hnm] at hno
        exact nomatch hno
  have hc := h ⟨v, v, v, none, none, 0, default⟩ ⟨rfl, rfl⟩ (by rw [hpoll])
  rw [hpoll] at hc
  exact hc

/-- **REFRESH CONVERGENCE**: at every point of a run the next quiet success is
    right, exactly when each poll of the run keeps the stored validators
    vouching for the applied body. -/
theorem run_converges_iff [Inhabited σ] (hd : srv.origin.Distinguishes)
    (hfree : CollisionFree X fun v => asBytes (srv.body v).toList) (url : String)
    (polls : List (Poll ω σ)) :
    (∀ pre post, polls = pre ++ post →
        Converges X srv inner (final (poll X srv inner) pre (Client.new url)))
      ↔ ∀ pre p post, polls = pre ++ p :: post →
          KeepsVouching X srv inner (final (poll X srv inner) pre (Client.new url)) p := by
  have hinv : ∀ c (p : Poll ω σ), Tracked X srv c →
      Tracked X srv (poll X srv inner p c).2 :=
    fun c p ht => tracked_polled ht (poll_polled c p)
  have hnew : Tracked X srv (Client.new url) := tracked_new url
  rw [← good_prefixes_iff (Tracked X srv) (Trustworthy srv) (KeepsVouching X srv inner) hinv
    (fun c p ht h => trustworthy_polled_iff hd ht h (poll_polled c p)) polls
    (Client.new url) hnew (vouched_absent _ _)]
  constructor
  · intro hall pre post hsplit
    exact trustworthy_of_converges (hall pre post hsplit)
  · intro hall pre post hsplit
    refine converges_of_trustworthy hfree ?_ (hall pre post hsplit)
    exact final_induct (Tracked X srv) (fun _ => True) (fun c p ht _ => hinv c p ht) pre _
      (fun _ _ => trivial) hnew

/-! ## A lost update -/

open TreetopSample TreetopStore

/-- A server of two policy texts, each under an entity tag of its own. -/
def policyServer : Server Bool where
  body v := if v then permitOps else permitAll
  etag v := some ⟨asBytes (if v then "\"2\"" else "\"1\"").toList⟩
  lastModified _ := none

theorem policyServer_distinguishes : policyServer.origin.Distinguishes := by
  intro v w _ heq
  cases v with
  | false =>
      cases w with
      | false => rfl
      | true => exact absurd heq (by decide +kernel)
  | true =>
      cases w with
      | false => exact absurd heq (by decide +kernel)
      | true => rfl

theorem policyServer_collisionFree :
    CollisionFree small fun v => asBytes (policyServer.body v).toList := by
  intro v w heq
  cases v with
  | false =>
      cases w with
      | false => rfl
      | true => exact absurd heq (by decide +kernel)
  | true =>
      cases w with
      | false => exact absurd heq (by decide +kernel)
      | true => rfl

/-- A poll at the first version whose GET is answered with a server error. -/
def getFails : Poll Bool (SharedStore small) :=
  ⟨false, false, false, none, some (.status 503 rfl), 1, ⟨fresh, false⟩⟩

/-- A poll at the first version with nothing failing. -/
def quiet : Poll Bool (SharedStore small) :=
  ⟨false, false, false, none, none, 2, ⟨fresh, false⟩⟩

/-- Polls of the policy fetcher against `policyServer`. -/
abbrev policyPoll : Poll Bool (SharedStore small) → Client → Except FetchError Unit × Client :=
  poll small policyServer PolicyFetchAdapter

/-- The criterion for a run of one failing and one quiet poll. -/
theorem run_converges_iff_small :
    (∀ pre post, [getFails, quiet] = pre ++ post →
        Converges small policyServer (PolicyFetchAdapter : Fetchable (SharedStore small))
          (final policyPoll pre (Client.new "u")))
      ↔ ∀ pre p post, [getFails, quiet] = pre ++ p :: post →
        KeepsVouching small policyServer PolicyFetchAdapter
          (final policyPoll pre (Client.new "u")) p := by
  have : Inhabited (SharedStore small) := ⟨⟨fresh, false⟩⟩
  exact run_converges_iff policyServer_distinguishes policyServer_collisionFree "u" _

/-- A HEAD succeeds and the GET after it fails; the next poll is answered "not
    modified" and reports success, and nothing was ever applied. -/
theorem update_lost_after_failed_get :
    replies policyPoll [getFails, quiet] (Client.new "u") = [.error (.status "u" 503), .ok ()]
    ∧ (final policyPoll [getFails, quiet] (Client.new "u")).applied = none
    ∧ ¬ Converges small policyServer (PolicyFetchAdapter : Fetchable (SharedStore small))
        (final policyPoll [getFails] (Client.new "u")) := by
  refine ⟨?_, ?_, ?_⟩
  · rfl
  · rfl
  · intro h
    exact nomatch h quiet ⟨rfl, rfl⟩ rfl

end TreetopRefresh
