import TreetopRest.BundleFetcherModel
import TreetopRest.ProvenanceProofs

/-! # Refreshing the bundle — no update is lost

    The bundle fetcher has one request per poll, and takes over the validators
    of its response only together with the archive, or when the archive is the
    one it has already applied.  So its stored validators always VOUCH for the
    applied archive, however the server rotates and reverts and wherever a
    poll fails; a success is right, a failure leaves no trace, and an archive
    is applied only where its bundle comes into force. -/

namespace TreetopBundleRefresh

open FallibleState ConditionalFetch UpdateRun BoundedBuffer
open TreetopErrors TreetopCrates TreetopMetadata TreetopWire TreetopStore
open TreetopFetcher TreetopBundleFetcher TreetopCoherence
open TreetopProvenance (InForce)

variable {X : Crates} {ω : Type}

/-! ## Polls -/

/-- A server: what each version of its archive consists of. -/
structure ArchiveServer (ω : Type) where
  bytes : ω → List UInt8
  etag : ω → Option HeaderValue
  lastModified : ω → Option HeaderValue

/-- The validators of a version, as text: a header value that is no text is
    no validator. -/
def ArchiveServer.origin (srv : ArchiveServer ω) : Origin ω String (List UInt8) where
  body := srv.bytes
  validators v :=
    ⟨(srv.etag v).bind HeaderValue.toStr, (srv.lastModified v).bind HeaderValue.toStr⟩

/-- A GET that delivers no complete archive. -/
inductive BundleFault where
  | noResponse (msg : String)
  | status (code : Nat) (failure : isSuccess code = false) (other : code ≠ notModified)
  | brokenStream (chunks : List (List UInt8)) (msg : String)

/-- One poll: the versions its request and its end see, how the archive is
    delivered, what fails, and the stores it reads and commits to. -/
structure BundlePoll (X : Crates) (srv : ArchiveServer ω) where
  atGet : ω
  atEnd : ω
  fault : Option BundleFault
  contentLength : Option Nat
  chunks : List (List UInt8)
  whole : chunks.flatten = srv.bytes atGet
  atRead : SharedStore X
  clock : BundleClock
  taskFailure : Option String
  store : SharedStore X

variable {srv : ArchiveServer ω}

namespace BundlePoll

/-- The answer to a conditional GET, its body being the given stream. -/
def answer (p : BundlePoll X srv) (stream : List (Except String (List UInt8)))
    (presented : Validators String) : BundleResponse :=
  if srv.origin.notModified presented p.atGet then ⟨notModified, none, none, none, []⟩
  else ⟨200, p.contentLength, srv.etag p.atGet, srv.lastModified p.atGet, stream⟩

def surroundings (p : BundlePoll X srv) : BundleFetcher.Surroundings X where
  get presented :=
    match p.fault with
    | some (.noResponse msg) => .error msg
    | some (.status code _ _) => .ok ⟨code, none, none, none, []⟩
    | some (.brokenStream chunks msg) =>
        .ok (p.answer (chunks.map .ok ++ [.error msg]) presented)
    | none => .ok (p.answer (p.chunks.map .ok) presented)
  atRead := p.atRead
  clock := p.clock
  taskFailure := p.taskFailure

/-- The server's archive does not change during the poll. -/
def Quiescent (p : BundlePoll X srv) : Prop := srv.bytes p.atGet = srv.bytes p.atEnd

end BundlePoll

/-- A fetcher between polls, and the archive it committed last. -/
structure Client (X : Crates) where
  fetcher : BundleFetcher X
  applied : Option (List UInt8)

/-- The archive committed last, after a poll. -/
def appliedAfter (c : Client X) (env : BundleFetcher.Surroundings X)
    (shared : SharedStore X) : Option (List UInt8) :=
  match c.fetcher.fetch env with
  | .ok (.replacement d prepared) =>
      match (shared.write "policy" (applyBundleAndMark prepared)).1 with
      | .ok () => some d.bytes
      | .error _ => c.applied
  | _ => c.applied

/-- Make a poll: its result, the store it leaves, and the client. -/
def poll (p : BundlePoll X srv) (c : Client X) :
    (Except FetchError Unit × SharedStore X) × Client X :=
  let (r, f, shared) := c.fetcher.checkAndUpdate p.surroundings p.store
  ((r, shared), ⟨f, appliedAfter c p.surroundings p.store⟩)

/-! ## Downloads -/

/-- A successful response is downloaded as its stream is read, if its
    announced length fits. -/
theorem download_success (f : BundleFetcher X) (length : Option Nat)
    (etag lastModified : Option HeaderValue) (stream : List (Except String (List UInt8))) :
    (∃ e, f.download (.ok ⟨200, length, etag, lastModified, stream⟩) = .error e)
      ∨ f.download (.ok ⟨200, length, etag, lastModified, stream⟩)
        = (f.readStream stream []).map fun bytes => some ⟨bytes,
            ⟨etag.bind HeaderValue.toStr, lastModified.bind HeaderValue.toStr⟩⟩ := by
  by_cases hlen : length.any (fun n => n > f.limits.maxCompressedBytes) = true
  · refine Or.inl ⟨f.sizeLimitError, ?_⟩
    rw [BundleFetcher.download]
    simp [Except.mapError, bind, Except.bind, isSuccess, notModified, hlen, throw, throwThe,
      MonadExceptOf.throw]
  · refine Or.inr ?_
    rw [BundleFetcher.download]
    simp only [Except.mapError, bind, Except.bind, isSuccess, notModified]
    cases hread : f.readStream stream [] with
    | error e => simp [hlen, Except.map]
    | ok bytes => simp [hlen, Except.map, pure, Except.pure]

/-- A download fails, is believed unnecessary, or is the server's archive. -/
theorem download_cases (f : BundleFetcher X) (p : BundlePoll X srv) :
    (∃ e, f.download (p.surroundings.get f.validators) = .error e)
      ∨ (f.download (p.surroundings.get f.validators) = .ok none
        ∧ srv.origin.notModified f.validators p.atGet = true)
      ∨ f.download (p.surroundings.get f.validators)
        = .ok (some ⟨srv.bytes p.atGet, srv.origin.validators p.atGet⟩) := by
  -- what both kinds of answered requests come to
  have hanswer : ∀ stream, (∃ e, f.download (.ok (p.answer stream f.validators)) = .error e)
      ∨ (f.download (.ok (p.answer stream f.validators)) = .ok none
        ∧ srv.origin.notModified f.validators p.atGet = true)
      ∨ f.download (.ok (p.answer stream f.validators))
        = (f.readStream stream []).map fun bytes =>
            some ⟨bytes, srv.origin.validators p.atGet⟩ := by
    intro stream
    rw [BundlePoll.answer]
    cases hnm : srv.origin.notModified f.validators p.atGet with
    | true => exact Or.inr (Or.inl ⟨rfl, rfl⟩)
    | false =>
        rcases download_success f p.contentLength (srv.etag p.atGet)
          (srv.lastModified p.atGet) stream with herr | hread
        · exact Or.inl herr
        · exact Or.inr (Or.inr hread)
  rw [BundlePoll.surroundings]
  dsimp only
  cases p.fault with
  | none =>
      -- the chunks of an unbroken stream are the archive, if it is not too large
      rcases hanswer (p.chunks.map .ok) with herr | hnone | hread
      · exact Or.inl herr
      · exact Or.inr (Or.inl hnone)
      · rw [BundleFetcher.readStream_eq_collect] at hread
        rcases collect_chunks p.chunks [] with hfail | hok
        · rw [hfail] at hread
          exact Or.inl ⟨f.sizeLimitError, hread⟩
        · rw [hok, List.nil_append, p.whole] at hread
          exact Or.inr (Or.inr hread)
  | some fault =>
      cases fault with
      | noResponse msg => exact Or.inl ⟨_, rfl⟩
      | status code h h' =>
          refine Or.inl ⟨.status f.url.url code, ?_⟩
          rw [BundleFetcher.download]
          simp [Except.mapError, bind, Except.bind, h, h', throw, throwThe,
            MonadExceptOf.throw]
      | brokenStream chunks msg =>
          rcases hanswer (chunks.map .ok ++ [.error msg]) with herr | hnone | hread
          · exact Or.inl herr
          · exact Or.inr (Or.inl hnone)
          · rw [BundleFetcher.readStream_eq_collect] at hread
            obtain ⟨e, hfail⟩ := collect_broken chunks msg []
            rw [hfail] at hread
            exact Or.inl ⟨e, hread⟩

/-! ## What a poll can do -/

/-- The bundle that a fetcher prepares from an archive during a poll. -/
def Prepares (p : BundlePoll X srv) (f : BundleFetcher X) (bytes : List UInt8)
    (prepared : PreparedBundle X) : Prop :=
  f.prepare p.clock p.taskFailure bytes p.atRead.value.schemaValidationMode = .ok prepared

/-- The outcome of a poll: a failure that changed nothing, a believed "not
    modified", the archive that is applied already, or a commit, which puts the
    bundle of the archive in force. -/
inductive Polled (p : BundlePoll X srv) (c : Client X) :
    Except FetchError Unit × SharedStore X → Client X → Prop where
  | failed (e : FetchError) : Polled p c (.error e, p.store) c
  | believed (hnm : srv.origin.notModified c.fetcher.validators p.atGet = true) :
      Polled p c (.ok (), p.store) c
  | unchanged (h : c.fetcher.archiveSha256 = some (hexSha256 X (srv.bytes p.atGet))) :
      Polled p c (.ok (), p.store)
        ⟨c.fetcher.adopt (srv.origin.validators p.atGet), c.applied⟩
  | committed (shared : SharedStore X) (prepared : PreparedBundle X)
      (hprepared : Prepares p c.fetcher (srv.bytes p.atGet) prepared)
      (hinforce : InForce prepared shared.value) :
      Polled p c (.ok (), shared)
        ⟨{ c.fetcher.adopt (srv.origin.validators p.atGet) with
          archiveSha256 := some (hexSha256 X (srv.bytes p.atGet)) },
          some (srv.bytes p.atGet)⟩

/-- What is ready to be committed is the server's archive. -/
theorem fetch_cases (f : BundleFetcher X) (p : BundlePoll X srv) :
    (∃ e, f.fetch p.surroundings = .error e)
      ∨ (f.fetch p.surroundings = .ok .notModified
        ∧ srv.origin.notModified f.validators p.atGet = true)
      ∨ (f.fetch p.surroundings = .ok (.unchanged (srv.origin.validators p.atGet))
        ∧ f.archiveSha256 = some (hexSha256 X (srv.bytes p.atGet)))
      ∨ ∃ prepared, f.fetch p.surroundings = .ok (.replacement
          ⟨srv.bytes p.atGet, srv.origin.validators p.atGet⟩ prepared)
        ∧ Prepares p f (srv.bytes p.atGet) prepared := by
  rw [BundleFetcher.fetch]
  rcases download_cases f p with ⟨e, hdl⟩ | ⟨hdl, hnm⟩ | hdl
  · rw [hdl]
    exact Or.inl ⟨e, rfl⟩
  · rw [hdl]
    exact Or.inr (Or.inl ⟨rfl, hnm⟩)
  · rw [hdl]
    dsimp only
    by_cases hsame : f.archiveSha256 = some (hexSha256 X (srv.bytes p.atGet))
    · rw [if_pos hsame]
      exact Or.inr (Or.inr (Or.inl ⟨rfl, hsame⟩))
    · rw [if_neg hsame]
      by_cases hpoison : p.surroundings.atRead.poisoned = true
      · rw [if_pos hpoison]
        exact Or.inl ⟨_, rfl⟩
      · rw [if_neg hpoison]
        cases hprepare : f.prepare p.surroundings.clock p.surroundings.taskFailure
            (srv.bytes p.atGet) p.surroundings.atRead.value.schemaValidationMode with
        | error e => exact Or.inl ⟨e, rfl⟩
        | ok prepared => exact Or.inr (Or.inr (Or.inr ⟨prepared, rfl, hprepare⟩))

/-- A commit that fails leaves the shared store as it was. -/
theorem commit_error {shared shared' : SharedStore X} (hu : CachesUsable shared.value)
    {prepared : PreparedBundle X} {e : FetchError}
    (h : shared.write "policy" (applyBundleAndMark prepared) = (.error e, shared')) :
    shared' = shared := by
  rw [SharedStore.write] at h
  by_cases hpoison : shared.poisoned = true
  · rw [if_pos hpoison] at h
    exact (congrArg Prod.snd h).symm
  · rw [if_neg hpoison] at h
    rcases applyPreparedBundle_cases hu prepared with ⟨e', hno⟩ | ⟨_, s', hrun, _⟩
    · have hexec : exec (applyBundleAndMark prepared) shared.value
          = (.error e', shared.value) := by
        rw [applyBundleAndMark, exec_bind, hno]
      rw [hexec] at h
      have hshared : shared' = ⟨shared.value, false⟩ := (congrArg Prod.snd h).symm
      rw [hshared, ← Bool.eq_false_iff.mpr hpoison]
    · have hexec : (exec (applyBundleAndMark prepared) shared.value).1 = .ok () := by
        rw [applyBundleAndMark, exec_bind, hrun]
        rfl
      have hres := congrArg Prod.fst h
      dsimp only at hres
      rw [hexec] at hres
      exact nomatch hres

/-- A commit that goes through puts its bundle in force. -/
theorem commit_inForce {shared shared' : SharedStore X} (hu : CachesUsable shared.value)
    {prepared : PreparedBundle X}
    (h : shared.write "policy" (applyBundleAndMark prepared) = (.ok (), shared')) :
    InForce prepared shared'.value := by
  rw [SharedStore.write] at h
  by_cases hpoison : shared.poisoned = true
  · rw [if_pos hpoison] at h
    cases h
  rw [if_neg hpoison] at h
  rcases applyPreparedBundle_cases hu prepared with ⟨e, hno⟩ | ⟨_, s', hrun, _, rfl⟩
  · have hexec : exec (applyBundleAndMark prepared) shared.value
        = (.error e, shared.value) := by
      rw [applyBundleAndMark, exec_bind, hno]
    rw [hexec] at h
    cases h
  · rw [applyBundleAndMark, exec_bind, hrun] at h
    cases h
    -- the mark touches nothing that is in force
    exact InForce.frame ⟨rfl, rfl, rfl, rfl, .refl _, .refl _, .refl _⟩
      (sameServing_of_stepOk (c := .markRemoteSourceLoaded .bundle) rfl rfl)
      (sameDocuments_of_stepOk (c := .markRemoteSourceLoaded .bundle) rfl rfl)

/-- **Every poll is one of these four.** -/
theorem poll_polled (p : BundlePoll X srv) (c : Client X) (hu : CachesUsable p.store.value) :
    Polled p c (poll p c).1 (poll p c).2 := by
  rw [poll, BundleFetcher.checkAndUpdate, appliedAfter]
  rcases fetch_cases c.fetcher p with
    ⟨e, hf⟩ | ⟨hf, hnm⟩ | ⟨hf, hsame⟩ | ⟨prepared, hf, hprepared⟩
  · rw [hf]
    exact .failed e
  · rw [hf]
    exact .believed hnm
  · rw [hf]
    exact .unchanged hsame
  · rw [hf]
    dsimp only
    cases hw : p.store.write "policy" (applyBundleAndMark prepared) with
    | mk r shared =>
        cases r with
        | error e =>
            rw [commit_error hu hw]
            exact .failed e
        | ok u => exact .committed shared prepared hprepared (commit_inForce hu hw)

/-! ## Runs -/

variable (srv)

/-- The fetcher's hash is that of the applied archive, which the server had at
    some version, and its validators vouch for it. -/
structure Trustworthy (c : Client X) : Prop where
  hash : c.fetcher.archiveSha256 = c.applied.map (hexSha256 X)
  served : ∀ b, c.applied = some b → ∃ v, srv.bytes v = b
  vouched : Vouched srv.origin c.fetcher.validators c.applied

variable {srv}

/-- Under one hash there is one archive. -/
theorem applied_of_hash (hfree : CollisionFree X srv.bytes) {c : Client X} {v : ω}
    (h : Trustworthy srv c) (hhash : c.fetcher.archiveSha256 = some (hexSha256 X (srv.bytes v))) :
    c.applied = some (srv.bytes v) := by
  rw [h.hash] at hhash
  cases happ : c.applied with
  | none => rw [happ] at hhash; exact nomatch hhash
  | some b =>
      obtain ⟨w, rfl⟩ := h.served b happ
      rw [happ, Option.map_some] at hhash
      rw [hfree w v (hexDigest_injective (Option.some.inj hhash))]

/-- One poll keeps the fetcher trustworthy, whatever it met. -/
theorem trustworthy_polled (hd : srv.origin.Distinguishes)
    (hfree : CollisionFree X srv.bytes) {p : BundlePoll X srv} {c c' : Client X}
    {r : Except FetchError Unit × SharedStore X} (h : Trustworthy srv c)
    (hp : Polled p c r c') : Trustworthy srv c' := by
  cases hp with
  | failed e => exact h
  | believed hnm => exact h
  | unchanged hhash =>
      refine ⟨h.hash, h.served, ?_⟩
      rw [applied_of_hash hfree h hhash]
      exact vouched_adopt hd p.atGet
  | committed shared prepared _ _ =>
      refine ⟨rfl, ?_, vouched_adopt hd p.atGet⟩
      intro b hb
      exact ⟨p.atGet, Option.some.inj hb⟩

/-- A quiet success leaves the server's archive applied. -/
theorem applied_polled (hfree : CollisionFree X srv.bytes) {p : BundlePoll X srv}
    {c c' : Client X} {shared : SharedStore X} (h : Trustworthy srv c)
    (hp : Polled p c (.ok (), shared) c') (hq : p.Quiescent) :
    c'.applied = some (srv.bytes p.atEnd) := by
  have hbytes : srv.bytes p.atGet = srv.bytes p.atEnd := hq
  cases hp with
  | believed hnm =>
      have happ : c.applied = some (srv.bytes p.atGet) := h.vouched.held_eq hnm
      rw [happ, hbytes]
  | unchanged hhash =>
      show c.applied = _
      rw [applied_of_hash hfree h hhash, hbytes]
  | committed shared prepared _ _ => exact congrArg some hbytes

/-- A failed poll changed neither the store nor the fetcher. -/
theorem failed_polled {p : BundlePoll X srv} {c c' : Client X} {e : FetchError}
    {shared : SharedStore X} (hp : Polled p c (.error e, shared) c') :
    shared = p.store ∧ c' = c := by
  cases hp
  exact ⟨rfl, rfl⟩

/-- An archive that was not the applied one before has come into force. -/
theorem inForce_polled {p : BundlePoll X srv} {c c' : Client X} {r : Except FetchError Unit}
    {shared : SharedStore X} (hp : Polled p c (r, shared) c') {bytes : List UInt8}
    (hnow : c'.applied = some bytes) (hbefore : c.applied ≠ some bytes) :
    ∃ prepared, Prepares p c.fetcher bytes prepared ∧ InForce prepared shared.value := by
  cases hp with
  | failed e => exact absurd hnow hbefore
  | believed hnm => exact absurd hnow hbefore
  | unchanged hhash => exact absurd hnow hbefore
  | committed shared prepared hprepared hinforce =>
      cases hnow
      exact ⟨prepared, hprepared, hinforce⟩

theorem trustworthy_new {url : Endpoint} {refreshSecs : UInt32} {limits : ArchiveLimits}
    {signaturePolicy : X.SignaturePolicy} {trustStore : X.TrustStore}
    {engineMode : BundleEngineMode} {f : BundleFetcher X}
    (h : BundleFetcher.newWithEngineMode url refreshSecs limits signaturePolicy trustStore
      engineMode = .ok f) : Trustworthy srv ⟨f, none⟩ := by
  rw [BundleFetcher.newWithEngineMode] at h
  by_cases hz : refreshSecs = 0
  · rw [if_pos hz] at h
    exact nomatch h
  · rw [if_neg hz] at h
    cases h
    exact ⟨rfl, (fun _ h0 => nomatch h0), vouched_absent _ _⟩

/-- **BUNDLE REFRESH**: in every run of a new fetcher, a failing poll leaves the
    store and the fetcher alone, a quiet poll that succeeds leaves the server's
    archive as the one applied last, and the poll that applies an archive
    leaves the store with the bundle it has prepared from it in force. -/
theorem bundle_run_converges (hd : srv.origin.Distinguishes)
    (hfree : CollisionFree X srv.bytes) {url : Endpoint} {refreshSecs : UInt32}
    {limits : ArchiveLimits} {signaturePolicy : X.SignaturePolicy}
    {trustStore : X.TrustStore} {engineMode : BundleEngineMode} {f : BundleFetcher X}
    (hnew : BundleFetcher.newWithEngineMode url refreshSecs limits signaturePolicy trustStore
      engineMode = .ok f)
    (polls : List (BundlePoll X srv)) (husable : ∀ p ∈ polls, CachesUsable p.store.value) :
    ∀ pre p post, polls = pre ++ p :: post →
      (∀ e, (poll p (final poll pre ⟨f, none⟩)).1.1 = .error e →
        (poll p (final poll pre ⟨f, none⟩)).1.2 = p.store
          ∧ (poll p (final poll pre ⟨f, none⟩)).2 = final poll pre ⟨f, none⟩)
      ∧ (p.Quiescent → (poll p (final poll pre ⟨f, none⟩)).1.1 = .ok () →
        (poll p (final poll pre ⟨f, none⟩)).2.applied = some (srv.bytes p.atEnd))
      ∧ ∀ bytes, (poll p (final poll pre ⟨f, none⟩)).2.applied = some bytes →
        (final poll pre ⟨f, none⟩).applied ≠ some bytes →
        ∃ prepared, Prepares p (final poll pre ⟨f, none⟩).fetcher bytes prepared
          ∧ InForce prepared (poll p (final poll pre ⟨f, none⟩)).1.2.value := by
  intro pre p post hsplit
  have hpre : ∀ q ∈ pre, CachesUsable q.store.value :=
    fun q hq => husable q (by rw [hsplit]; exact List.mem_append_left _ hq)
  have hp : CachesUsable p.store.value :=
    husable p (by rw [hsplit]; exact List.mem_append_right _ (List.mem_cons_self ..))
  have hinv : Trustworthy srv (final poll pre ⟨f, none⟩) :=
    final_induct (Trustworthy srv) (fun q => CachesUsable q.store.value)
      (fun c q hc hq => trustworthy_polled hd hfree hc (poll_polled q c hq))
      pre _ hpre (trustworthy_new hnew)
  have hpolled := poll_polled p (final poll pre ⟨f, none⟩) hp
  cases hpoll : poll p (final poll pre ⟨f, none⟩) with
  | mk answer c' =>
      obtain ⟨r, shared⟩ := answer
      rw [hpoll] at hpolled
      refine ⟨?_, ?_, fun bytes hnow hbefore => inForce_polled hpolled hnow hbefore⟩
      · intro e he
        have hr : r = .error e := he
        subst hr
        exact failed_polled hpolled
      · intro hq hok
        have hr : r = .ok () := hok
        subst hr
        exact applied_polled hfree hinv hpolled hq

/-! ## A rotation -/

open TreetopSample

/-- A server of one archive whose entity tag is rotated once. -/
def rotatingServer : ArchiveServer Bool where
  bytes _ := archiveBytes
  etag v := some ⟨if v then [34, 50, 34] else [34, 49, 34]⟩
  lastModified _ := none

/-- A poll of the server at a version, over the fresh store. -/
def rotationPoll (v : Bool) : BundlePoll small rotatingServer where
  atGet := v
  atEnd := v
  fault := none
  contentLength := some 5
  chunks := [[31, 139], [8, 0, 1]]
  whole := rfl
  atRead := ⟨fresh, false⟩
  clock := ⟨1, 1, 1, 1⟩
  taskFailure := none
  store := ⟨fresh, false⟩

/-- The polls of a load, a rotation, and a refresh. -/
def rotationPolls : List (BundlePoll small rotatingServer) :=
  [rotationPoll false, rotationPoll true, rotationPoll true]

theorem rotationPolls_usable : ∀ p ∈ rotationPolls, CachesUsable p.store.value := by
  intro p hp
  have hfresh : p.store = ⟨fresh, false⟩ := by
    rcases List.mem_cons.mp hp with h | hp
    · rw [h, rotationPoll]
    · rcases List.mem_cons.mp hp with h | hp
      · rw [h, rotationPoll]
      · rw [List.mem_singleton.mp hp, rotationPoll]
  rw [hfresh]
  exact new_usable new_fresh

/-- A load, a rotation of the entity tag, and a poll under the new one. -/
theorem bundle_run_converges_small :
    ∃ f : BundleFetcher small,
      BundleFetcher.newWithEngineMode ⟨"u"⟩ 60 ⟨64, 1024⟩ () () .monolithic = .ok f
      ∧ ∀ pre p post, rotationPolls = pre ++ p :: post →
        (∀ e, (poll p (final poll pre ⟨f, none⟩)).1.1 = .error e →
          (poll p (final poll pre ⟨f, none⟩)).1.2 = p.store
            ∧ (poll p (final poll pre ⟨f, none⟩)).2 = final poll pre ⟨f, none⟩)
        ∧ (p.Quiescent → (poll p (final poll pre ⟨f, none⟩)).1.1 = .ok () →
          (poll p (final poll pre ⟨f, none⟩)).2.applied
            = some (rotatingServer.bytes p.atEnd))
        ∧ ∀ bytes, (poll p (final poll pre ⟨f, none⟩)).2.applied = some bytes →
          (final poll pre ⟨f, none⟩).applied ≠ some bytes →
          ∃ prepared, Prepares p (final poll pre ⟨f, none⟩).fetcher bytes prepared
            ∧ InForce prepared (poll p (final poll pre ⟨f, none⟩)).1.2.value := by
  obtain ⟨f, hf⟩ : ∃ f : BundleFetcher small,
      BundleFetcher.newWithEngineMode ⟨"u"⟩ 60 ⟨64, 1024⟩ () () .monolithic = .ok f := ⟨_, rfl⟩
  have hd : rotatingServer.origin.Distinguishes := fun _ _ _ _ => rfl
  have hfree : CollisionFree small rotatingServer.bytes := fun _ _ _ => rfl
  exact ⟨f, hf, bundle_run_converges hd hfree hf rotationPolls rotationPolls_usable⟩

end TreetopBundleRefresh
