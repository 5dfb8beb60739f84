import TreetopRest.UploadModel
import TreetopRest.SampleCrates

/-! # Uploads are safe under every interleaving

    Any number of upload requests take their three steps in any order, between
    them the critical sections of the fetchers and changes of the upload
    settings.  A request's answer and its commit come in ONE step, which
    rechecks under the lock what it commits under (`commit_cases`); a request
    that is ready carries a candidate made of its own body, whatever happened
    since (`Sound`).  So an error commits nothing, and a success describes the
    store it made. -/

namespace TreetopUploadSafety

open FallibleState UpdateRun
open TreetopErrors TreetopCrates TreetopMetadata TreetopWire TreetopStore
open TreetopFetcher TreetopSections TreetopRequest TreetopUpload

variable {X : Crates} {cfg : RemoteSourceKind → Endpoint × UInt32} {ι : Type} [DecidableEq ι]

/-! ## The service -/

/-- Where a request is: not looked at, past its check, ready to commit, or
    answered. -/
inductive Phase (X : Crates) where
  | received
  | checked (captured : Captured)
  | prepared (c : Candidate X)
  | answered (r : Except ServiceError PoliciesMetadata)

structure Service (X : Crates) (ι : Type) where
  phase : ι → Phase X
  shared : SharedStore X

/-- An upload token, as it is generated at startup. -/
abbrev UploadToken := { t : String // t ≠ "" }

/-- Someone's next step: a request's, a critical section of the rest of the
    service, a change of a setting, or a panic under the write lock. -/
inductive Event (X : Crates) (cfg : RemoteSourceKind → Endpoint × UInt32) (ι : Type) where
  | advance (i : ι) (now : Timestamp)
  | remote (sec : Section X cfg)
  | setAllowUpload (allow : Bool)
  | setUploadToken (token : Option UploadToken)
  | setBundleUrlMode (mode : Bool)
  | setSchemaValidationMode (mode : SchemaValidationMode)
  | poison

/-- Change the store under the write lock, if it can be taken. -/
def underLock (shared : SharedStore X) (f : PolicyStore X → PolicyStore X) : SharedStore X :=
  if shared.poisoned then shared else ⟨f shared.value, false⟩

/-- A request at a phase, and the store after that step. -/
def Service.put (svc : Service X ι) (i : ι) (p : Phase X) (shared : SharedStore X) :
    Service X ι := ⟨Function.update svc.phase i p, shared⟩

variable (uploads : ι → Upload) (config : BundleRuntimeConfig X)
  (engineMode : Option BundleEngineMode)

/-- The next step of a request. -/
def Service.advance (svc : Service X ι) (i : ι) (now : Timestamp) : Service X ι :=
  match svc.phase i with
  | .received =>
      match (readStore svc.shared).bind (uploads i).check with
      | .error e => svc.put i (.answered (.error e)) svc.shared
      | .ok captured => svc.put i (.checked captured) svc.shared
  | .checked captured =>
      match (uploads i).prepare config engineMode captured with
      | .error e => svc.put i (.answered (.error e)) svc.shared
      | .ok c => svc.put i (.prepared c) svc.shared
  | .prepared c =>
      let (r, shared) := writeStore svc.shared (c.commit (uploads i).headers now)
      svc.put i (.answered r) shared
  | .answered _ => svc

/-- What an event does to the store, when it is not a request's step. -/
def Event.setting : Event X cfg ι → SharedStore X → SharedStore X
  | .advance _ _, shared => shared
  | .remote sec, shared => underLock shared fun s => (sec.step s).2
  | .setAllowUpload allow, shared => underLock shared fun s => { s with allowUpload := allow }
  | .setUploadToken token, shared =>
      underLock shared fun s => { s with uploadToken := token.map (·.1) }
  | .setBundleUrlMode mode, shared => underLock shared fun s => { s with bundleUrlMode := mode }
  | .setSchemaValidationMode mode, shared =>
      underLock shared fun s => { s with schemaValidationMode := mode }
  | .poison, shared => ⟨shared.value, true⟩

/-- One step of the service. -/
def step (e : Event X cfg ι) (svc : Service X ι) : Unit × Service X ι :=
  match e with
  | .advance i now => ((), svc.advance uploads config engineMode i now)
  | e => ((), ⟨svc.phase, e.setting svc.shared⟩)

/-- A service that has seen no request yet. -/
def Service.start (s₀ : PolicyStore X) : Service X ι := ⟨fun _ => .received, ⟨s₀, false⟩⟩

variable {uploads config engineMode}

/-- Three steps that nobody interrupts are the handler. -/
theorem alone_handle (svc : Service X ι) (i : ι) (now : Timestamp)
    (h : svc.phase i = .received) :
    (((svc.advance uploads config engineMode i now).advance uploads config engineMode i
        now).advance uploads config engineMode i now)
      = svc.put i (.answered ((uploads i).handle config engineMode now svc.shared svc.shared).1)
          ((uploads i).handle config engineMode now svc.shared svc.shared).2 := by
  have hput : ∀ (p q : Phase X) (shared shared' : SharedStore X),
      (svc.put i p shared).put i q shared' = svc.put i q shared' := by
    intro p q shared shared'
    rw [Service.put, Service.put, Service.put, Function.update_idem]
  have hphase : ∀ (p : Phase X) (shared : SharedStore X),
      (svc.put i p shared).phase i = p := fun p shared => Function.update_self ..
  -- an answered request takes no further step
  have hstay : ∀ r, (svc.put i (.answered r) svc.shared).advance uploads config engineMode i now
      = svc.put i (.answered r) svc.shared := by
    intro r
    rw [Service.advance, hphase]
  rw [Upload.handle]
  cases hcheck : (readStore svc.shared).bind (uploads i).check with
  | error e =>
      have h1 : svc.advance uploads config engineMode i now
          = svc.put i (.answered (.error e)) svc.shared := by
        rw [Service.advance, h]
        dsimp only
        rw [hcheck]
      rw [h1, hstay, hstay]
  | ok captured =>
      have h1 : svc.advance uploads config engineMode i now
          = svc.put i (.checked captured) svc.shared := by
        rw [Service.advance, h]
        dsimp only
        rw [hcheck]
      dsimp only
      cases hprep : (uploads i).prepare config engineMode captured with
      | error e =>
          have h2 : (svc.put i (.checked captured) svc.shared).advance uploads config
              engineMode i now = svc.put i (.answered (.error e)) svc.shared := by
            rw [Service.advance, hphase]
            dsimp only
            rw [hprep]
            exact hput _ _ _ _
          rw [h1, h2, hstay]
      | ok c =>
          have h2 : (svc.put i (.checked captured) svc.shared).advance uploads config
              engineMode i now = svc.put i (.prepared c) svc.shared := by
            rw [Service.advance, hphase]
            dsimp only
            rw [hprep]
            exact hput _ _ _ _
          rw [h1, h2, Service.advance, hphase]
          exact hput _ _ _ _

/-! ## What a commit can do -/

/-- The token a request presents, as text. -/
def presentedToken (headers : HeaderMap) : Option String :=
  (headers.get "x-upload-token").bind HeaderValue.toStr

/-- A check that passes, with a token that is not empty, saw that token. -/
theorem checkUploadAuth_ok {headers : HeaderMap} {allow : Bool} {token : Option String}
    (hne : token ≠ some "") (h : checkUploadAuth headers allow token = .ok ()) :
    allow = true ∧ ∃ t, token = some t ∧ presentedToken headers = some t := by
  cases allow with
  | false => exact nomatch h
  | true =>
      cases token with
      | none => exact nomatch h
      | some expected =>
          refine ⟨rfl, expected, rfl, ?_⟩
          rw [checkUploadAuth, if_neg (by decide)] at h
          cases hheader : headers.get "x-upload-token" with
          | none =>
              rw [hheader] at h
              exact nomatch h
          | some value =>
              rw [presentedToken, hheader, Option.bind_some]
              rw [hheader, Option.all_some] at h
              by_cases hdiff : (value.toStr.getD "" != expected) = true
              · rw [if_pos hdiff] at h
                exact nomatch h
              · have heq : value.toStr.getD "" = expected := by
                  simpa using hdiff
                cases hstr : value.toStr with
                | some t =>
                    rw [hstr] at heq
                    exact congrArg some heq
                | none =>
                    -- an unreadable header counts as the empty token, which is no token
                    rw [hstr] at heq
                    exact absurd (congrArg some heq.symm) hne

/-- The request passes the check of its kind in this state. -/
structure Authorized (u : Upload) (s : PolicyStore X) : Prop where
  allowed : s.allowUpload = true
  token : ∃ t, s.uploadToken = some t ∧ presentedToken u.headers = some t
  independent : u.isBundle = false → s.bundleUrlMode = false

variable (config) in
/-- The request delivers a valid archive, of this bundle. -/
def Delivers (u : Upload) (v : X.ValidatedBundle) : Prop :=
  match u with
  | .bundle headers payload _ _ => ∃ bytes limits,
      archiveOfPayload config headers payload = .ok bytes
      ∧ X.archiveLimitsNew config.maxCompressedBytes config.maxUncompressedBytes = .ok limits
      ∧ X.validateArchive bytes config.signaturePolicy config.trustStore limits = .ok v
  | _ => False

variable (config) in
/-- A commit of the request, between the store before and after: authorised by
    the store before, with a schema where strict mode wants one, and answered
    with the metadata of the store after. -/
structure Committed (u : Upload) (before after : PolicyStore X) (body : PoliciesMetadata) :
    Prop where
  authorized : Authorized u before
  strictSchema : u.isBundle = true → before.schemaValidationMode = .strict →
    ∃ v, Delivers config u v ∧ (X.schemaJson v).isSome = true
  answer : body = after.metadata
  usable : CachesUsable after
  token : after.uploadToken = before.uploadToken

/-- What a bundle upload is ready to commit was made of its own archive. -/
theorem prepare_bundle {headers : HeaderMap} {payload : List (Except String (List UInt8))}
    {clock : BundleClock} {taskFailure : Option String} {captured : Captured} {c : Candidate X}
    (h : (Upload.bundle headers payload clock taskFailure).prepare config engineMode captured
      = .ok c) :
    ∃ v prepared, c = .bundle prepared
        (prepared.metadata captured.allowUpload captured.schemaValidationMode)
      ∧ Delivers config (.bundle headers payload clock taskFailure) v
      ∧ prepareBundleWithEngineMode clock v none none captured.schemaValidationMode
        (engineMode.getD .monolithic) = .ok prepared := by
  obtain ⟨bytes, hbytes, h⟩ := bind_eq_ok.mp h
  rw [prepareArchive] at h
  obtain ⟨limits, hlimits, h⟩ := bind_eq_ok.mp h
  cases htask : taskFailure with
  | some msg =>
      rw [htask] at h
      exact nomatch h
  | none =>
      rw [htask] at h
      obtain ⟨v, hv, h⟩ := bind_eq_ok.mp h
      obtain ⟨prepared, hprep, h⟩ := bind_eq_ok.mp h
      cases h
      exact ⟨v, prepared, rfl, ⟨bytes, limits, hbytes, mapError_eq_ok.mp hlimits,
        mapError_eq_ok.mp hv⟩, hprep⟩

theorem checkIndependentUpload_ok {headers : HeaderMap} {s : PolicyStore X}
    (h : checkIndependentUpload headers s = .ok ()) :
    checkUploadAuth headers s.allowUpload s.uploadToken = .ok () ∧ s.bundleUrlMode = false := by
  obtain ⟨_, hauth, hmode⟩ := bind_eq_ok.mp h
  refine ⟨hauth, ?_⟩
  cases hurl : s.bundleUrlMode with
  | false => rfl
  | true =>
      rw [hurl] at hmode
      exact nomatch hmode

/-- A policy or schema commit: the recheck, an update that keeps the token, and
    the answer read off the result. -/
theorem independent_commit {u : Upload} {s : PolicyStore X} {m : StoreM X Unit}
    {P : PolicyStore X → Prop} (hkind : u.isBundle = false) (hne : s.uploadToken ≠ some "")
    (hm : AllOrNothing m s (fun _ s' => P s'))
    (hkeep : ∀ s', P s' → CachesUsable s' ∧ s'.uploadToken = s.uploadToken) :
    AllOrNothing (do
      checkIndependentUpload u.headers (← get)
      m
      return (← get).metadata : StoreM X PoliciesMetadata) s
      (fun body s' => Committed config u s s' body) := by
  refine allOrNothing_bind_get (allOrNothing_bind_lift ?_)
  intro _ hcheck
  obtain ⟨hauth, hmode⟩ := checkIndependentUpload_ok hcheck
  obtain ⟨hallow, htoken⟩ := checkUploadAuth_ok hne hauth
  refine hm.bind ?_
  intro _ s' hp
  obtain ⟨husable, hsame⟩ := hkeep s' hp
  refine ⟨s'.metadata, s', rfl, ⟨hallow, htoken, fun _ => hmode⟩, ?_, rfl, husable, hsame⟩
  intro hbundle
  rw [hkind] at hbundle
  exact nomatch hbundle

/-- The schema check of a commit sees the schema the archive carries. -/
theorem schema_carried (hlaws : BundleLaws X) {clock : BundleClock} {v : X.ValidatedBundle}
    {mode : SchemaValidationMode} {engineMode : BundleEngineMode} {p : PreparedBundle X}
    (hp : prepareBundleWithEngineMode clock v none none mode engineMode = .ok p)
    (hne : p.schema.content.isEmpty = false) : (X.schemaJson v).isSome = true := by
  obtain ⟨txt, hprint, hcontent⟩ := (prepared_parts hp).schema
  refine (hlaws.schema_printed v txt hprint).mp ?_
  cases txt with
  | some t => rfl
  | none =>
      rw [hcontent] at hne
      exact nomatch hne

/-- **A commit is refused without a trace, or is authorised** by the state it
    is made in and answered with the state it makes. -/
theorem commit_cases (hlaws : BundleLaws X) {u : Upload} {captured : Captured}
    {c : Candidate X} (hprep : u.prepare config engineMode captured = .ok c)
    {s : PolicyStore X} (hu : CachesUsable s) (hne : s.uploadToken ≠ some "")
    (now : Timestamp) :
    AllOrNothing (c.commit u.headers now) s (fun body s' => Committed config u s s' body) := by
  cases u with
  | policies headers body =>
      obtain ⟨dslString, -, rfl⟩ := map_eq_ok.mp hprep
      refine independent_commit (u := .policies headers body) rfl hne
        (setDsl_cases hu now dslString none none) ?_
      rintro s' ⟨_, _, _, _, _, _, _, _, rfl⟩
      exact ⟨⟨rfl, rfl⟩, rfl⟩
  | schema headers body =>
      obtain ⟨schemaString, -, rfl⟩ := map_eq_ok.mp hprep
      refine independent_commit (u := .schema headers body) rfl hne
        (setSchema_cases s now schemaString none none) ?_
      rintro s' ⟨_, _, _, _, _, _, _, _, rfl⟩
      exact ⟨⟨hu.raw, hu.json⟩, rfl⟩
  | bundle headers payload clock taskFailure =>
      obtain ⟨v, prepared, rfl, hdelivers, hp⟩ := prepare_bundle hprep
      rw [Candidate.commit]
      refine allOrNothing_bind_get (allOrNothing_bind_get (allOrNothing_bind_lift ?_))
      intro _ hauth
      obtain ⟨hallow, htoken⟩ := checkUploadAuth_ok hne hauth
      refine allOrNothing_bind_get (allOrNothing_bind_get
        ((applyPreparedBundle_cases hu prepared).bind ?_))
      rintro _ s' ⟨hgate, rfl⟩
      -- a strict store only takes a bundle with a schema, which fits its policies
      refine ⟨_, _, rfl, ⟨hallow, htoken, (fun h => nomatch h)⟩, ?_, rfl, ⟨rfl, rfl⟩, rfl⟩
      intro _ hstrict
      refine ⟨v, hdelivers, schema_carried hlaws hp ?_⟩
      cases hempty : prepared.schema.content.isEmpty with
      | false => rfl
      | true =>
          rw [hempty, hstrict] at hgate
          exact nomatch hgate

/-! ## Steps of the service -/

variable (uploads config engineMode) in
/-- The listing caches are usable, the token is none or a real one, and what a
    request is ready to commit was made of its own body. -/
structure Sound (svc : Service X ι) : Prop where
  usable : CachesUsable svc.shared.value
  token : svc.shared.value.uploadToken ≠ some ""
  ready : ∀ i c, svc.phase i = .prepared c →
    ∃ captured, (uploads i).prepare config engineMode captured = .ok c

variable (uploads config engineMode) in
/-- What a request's step did: nothing more, progress or a refusal with the
    store untouched, or a commit answered with success. -/
inductive Advanced (svc : Service X ι) (i : ι) : Service X ι → Prop where
  | stayed (r : Except ServiceError PoliciesMetadata) (h : svc.phase i = .answered r) :
      Advanced svc i svc
  | went (p : Phase X) (h : ∀ r, svc.phase i ≠ .answered r)
      (hp : ∀ body, p ≠ .answered (.ok body))
      (hready : ∀ c, p = .prepared c →
        ∃ captured, (uploads i).prepare config engineMode captured = .ok c) :
      Advanced svc i (svc.put i p svc.shared)
  | committed (body : PoliciesMetadata) (s' : PolicyStore X)
      (h : ∀ r, svc.phase i ≠ .answered r)
      (hc : Committed config (uploads i) svc.shared.value s' body) :
      Advanced svc i (svc.put i (.answered (.ok body)) ⟨s', false⟩)

/-- A commit under the lock, from a store that is sound. -/
theorem writeStore_cases (hlaws : BundleLaws X) {u : Upload} {captured : Captured}
    {c : Candidate X} (hprep : u.prepare config engineMode captured = .ok c)
    {shared : SharedStore X} (hu : CachesUsable shared.value)
    (hne : shared.value.uploadToken ≠ some "") (now : Timestamp) :
    (∃ e, writeStore shared (c.commit u.headers now) = (.error e, shared))
      ∨ ∃ body s', writeStore shared (c.commit u.headers now) = (.ok body, ⟨s', false⟩)
        ∧ Committed config u shared.value s' body := by
  rw [writeStore]
  by_cases hpoison : shared.poisoned = true
  · rw [if_pos hpoison]
    exact Or.inl ⟨_, rfl⟩
  · rw [if_neg hpoison]
    rcases commit_cases hlaws hprep hu hne now with ⟨e, hno⟩ | ⟨body, s', hrun, hc⟩
    · rw [hno, ← Bool.eq_false_iff.mpr hpoison]
      exact Or.inl ⟨e, rfl⟩
    · rw [hrun]
      exact Or.inr ⟨body, s', rfl, hc⟩

/-- **Every step of a request is one of these three.** -/
theorem advance_advanced (hlaws : BundleLaws X) {svc : Service X ι}
    (h : Sound uploads config engineMode svc) (i : ι) (now : Timestamp) :
    Advanced uploads config engineMode svc i (svc.advance uploads config engineMode i now) := by
  rw [Service.advance]
  cases hphase : svc.phase i with
  | received =>
      have hopen : ∀ r, svc.phase i ≠ .answered r := by
        intro r hr
        exact nomatch hphase.symm.trans hr
      dsimp only
      cases (readStore svc.shared).bind (uploads i).check with
      | error e =>
          exact .went _ hopen (fun _ hp => nomatch hp) (fun _ hp => nomatch hp)
      | ok captured =>
          exact .went _ hopen (fun _ hp => nomatch hp) (fun _ hp => nomatch hp)
  | checked captured =>
      have hopen : ∀ r, svc.phase i ≠ .answered r := by
        intro r hr
        exact nomatch hphase.symm.trans hr
      dsimp only
      cases hprep : (uploads i).prepare config engineMode captured with
      | error e =>
          exact .went _ hopen (fun _ hp => nomatch hp) (fun _ hp => nomatch hp)
      | ok c =>
          -- what is ready to commit was made of the request's own body
          refine .went _ hopen (fun _ hp => nomatch hp) ?_
          rintro c' hc'
          cases hc'
          exact ⟨captured, hprep⟩
  | prepared c =>
      have hopen : ∀ r, svc.phase i ≠ .answered r := by
        intro r hr
        exact nomatch hphase.symm.trans hr
      obtain ⟨captured, hprep⟩ := h.ready i c hphase
      dsimp only
      rcases writeStore_cases hlaws hprep h.usable h.token now with
        ⟨e, hrun⟩ | ⟨body, s', hrun, hc⟩
      · rw [hrun]
        exact .went _ hopen (fun _ hp => nomatch hp) (fun _ hp => nomatch hp)
      · rw [hrun]
        exact .committed body s' hopen hc
  | answered r => exact .stayed r hphase

theorem put_phase (svc : Service X ι) (i j : ι) (p : Phase X)
    (shared : SharedStore X) :
    (svc.put i p shared).phase j = if j = i then p else svc.phase j :=
  Function.update_apply ..

/-- No call of the service changes the upload token. -/
theorem stepOk_token {s s' : PolicyStore X} {c : Call X} (h : StepOk s c s') :
    s'.uploadToken = s.uploadToken := by
  cases c with
  | setDsl now dsl source rf =>
      obtain ⟨_, _, _, _, _, _, _, _, rfl⟩ := h
      rfl
  | setSchema now schema source rf =>
      obtain ⟨_, _, _, _, _, _, _, _, rfl⟩ := h
      rfl
  | setLabels now labels source rf =>
      obtain ⟨_, _, _, _, _, _, _, _, rfl⟩ := h
      rfl
  | applyPreparedBundle p hp =>
      obtain ⟨_, rfl⟩ := h
      rfl
  | configureRemoteSource kind source rf =>
      have hs : s' = _ := h
      rw [hs]
      cases kind <;> rfl
  | markRemoteSourceLoaded kind =>
      have hs : s' = _ := h
      rw [hs]
      cases kind <;> rfl
  | setSchemaValidationMode mode =>
      have hs : s' = _ := h
      rw [hs]
  | listPoliciesRaw user groups namespaces =>
      have hs : s' = _ := h
      rw [hs]
  | listPoliciesJson user groups namespaces =>
      have hs : s' = _ := h
      rw [hs]

omit [DecidableEq ι] in
/-- No other event damages the store or installs an empty token. -/
theorem setting_sound (e : Event X cfg ι) {shared : SharedStore X}
    (hu : CachesUsable shared.value) (ht : shared.value.uploadToken ≠ some "") :
    CachesUsable (e.setting shared).value ∧ (e.setting shared).value.uploadToken ≠ some "" := by
  have hlock : ∀ f : PolicyStore X → PolicyStore X,
      (CachesUsable (f shared.value) ∧ (f shared.value).uploadToken ≠ some "") →
      CachesUsable (underLock shared f).value
        ∧ (underLock shared f).value.uploadToken ≠ some "" := by
    intro f hf
    rw [underLock]
    by_cases hpoison : shared.poisoned = true
    · rw [if_pos hpoison]
      exact ⟨hu, ht⟩
    · rw [if_neg hpoison]
      exact hf
  cases e with
  | advance i now => exact ⟨hu, ht⟩
  | remote sec =>
      refine hlock _ (section_keeps (fun s => s.uploadToken ≠ some "") ?_ sec.calls _ hu ht)
      intro s c s' hs hstep
      rw [stepOk_token hstep]
      exact hs
  | setAllowUpload allow => exact hlock _ ⟨⟨hu.raw, hu.json⟩, ht⟩
  | setUploadToken token =>
      refine hlock _ ⟨⟨hu.raw, hu.json⟩, ?_⟩
      cases token with
      | none => exact nofun
      | some t => exact fun h => t.2 (Option.some.inj h)
  | setBundleUrlMode mode => exact hlock _ ⟨⟨hu.raw, hu.json⟩, ht⟩
  | setSchemaValidationMode mode => exact hlock _ ⟨⟨hu.raw, hu.json⟩, ht⟩
  | poison => exact ⟨hu, ht⟩

theorem sound_step (hlaws : BundleLaws X) {svc : Service X ι}
    (h : Sound uploads config engineMode svc) (e : Event X cfg ι) :
    Sound uploads config engineMode (step uploads config engineMode e svc).2 := by
  have hsetting : Sound uploads config engineMode ⟨svc.phase, e.setting svc.shared⟩ :=
    ⟨(setting_sound e h.usable h.token).1, (setting_sound e h.usable h.token).2, h.ready⟩
  cases e with
  | advance i now =>
      show Sound uploads config engineMode (svc.advance uploads config engineMode i now)
      have hadv := advance_advanced hlaws h i now
      revert hadv
      generalize svc.advance uploads config engineMode i now = svc'
      intro hadv
      cases hadv with
      | stayed r hr => exact h
      | went p hopen hp hready =>
          refine ⟨h.usable, h.token, ?_⟩
          intro j c hc
          rw [put_phase] at hc
          by_cases hj : j = i
          · rw [if_pos hj] at hc
            rw [hj]
            exact hready c hc
          · rw [if_neg hj] at hc
            exact h.ready j c hc
      | committed body s' hopen hcommit =>
          refine ⟨hcommit.usable, ?_, ?_⟩
          · show s'.uploadToken ≠ some ""
            rw [hcommit.token]
            exact h.token
          · intro j c hc
            rw [put_phase] at hc
            by_cases hj : j = i
            · rw [if_pos hj] at hc
              exact nomatch hc
            · rw [if_neg hj] at hc
              exact h.ready j c hc
  | _ => exact hsetting

omit [DecidableEq ι] in
theorem sound_start {now : Timestamp} {s₀ : PolicyStore X}
    (hnew : PolicyStore.new X now = .ok s₀) :
    Sound uploads config engineMode (Service.start s₀ : Service X ι) := by
  obtain ⟨_, _, rfl⟩ := new_eq hnew
  exact ⟨⟨rfl, rfl⟩, nofun, fun _ _ h => nomatch h⟩

/-! ## Runs of the service -/

theorem sound_final (hlaws : BundleLaws X) (events : List (Event X cfg ι))
    {svc : Service X ι} (h : Sound uploads config engineMode svc) :
    Sound uploads config engineMode (final (step uploads config engineMode) events svc) :=
  final_induct (Sound uploads config engineMode) (fun _ => True)
    (fun _ e hs _ => sound_step hlaws hs e) events svc (fun _ _ => trivial) h

/-- An answered request stays answered. -/
theorem answered_step (hlaws : BundleLaws X) {svc : Service X ι}
    (h : Sound uploads config engineMode svc) (e : Event X cfg ι) {i : ι}
    {r : Except ServiceError PoliciesMetadata} (hr : svc.phase i = .answered r) :
    (step uploads config engineMode e svc).2.phase i = .answered r := by
  cases e with
  | advance j now =>
      show (svc.advance uploads config engineMode j now).phase i = .answered r
      have hadv := advance_advanced hlaws h j now
      revert hadv
      generalize svc.advance uploads config engineMode j now = svc'
      intro hadv
      cases hadv with
      | stayed r' hr' => exact hr
      | went p hopen hp hready =>
          have hij : i ≠ j := by
            rintro rfl
            exact hopen r hr
          rw [put_phase, if_neg hij]
          exact hr
      | committed body s' hopen hcommit =>
          have hij : i ≠ j := by
            rintro rfl
            exact hopen r hr
          rw [put_phase, if_neg hij]
          exact hr
  | _ => exact hr

theorem answered_final (hlaws : BundleLaws X) (events : List (Event X cfg ι)) {i : ι}
    {r : Except ServiceError PoliciesMetadata} :
    ∀ {svc : Service X ι}, Sound uploads config engineMode svc → svc.phase i = .answered r →
      (final (step uploads config engineMode) events svc).phase i = .answered r := by
  induction events with
  | nil => intro svc _ hr; exact hr
  | cons e events ih =>
      intro svc h hr
      exact ih (sound_step hlaws h e) (answered_step hlaws h e hr)

/-- A step of a request leaves the store alone, or commits and answers. -/
theorem advance_commits (hlaws : BundleLaws X) {svc : Service X ι}
    (h : Sound uploads config engineMode svc) (i : ι) (now : Timestamp) :
    (svc.advance uploads config engineMode i now).shared = svc.shared
      ∨ ∃ body, (svc.advance uploads config engineMode i now).phase i = .answered (.ok body)
        ∧ Committed config (uploads i) svc.shared.value
          (svc.advance uploads config engineMode i now).shared.value body := by
  have hadv := advance_advanced hlaws h i now
  revert hadv
  generalize svc.advance uploads config engineMode i now = svc'
  intro hadv
  cases hadv with
  | stayed r hr => exact Or.inl rfl
  | went p hopen hp hready => exact Or.inl rfl
  | committed body s' hopen hcommit =>
      refine Or.inr ⟨body, ?_, hcommit⟩
      rw [put_phase, if_pos rfl]

/-- A request answers success in a step of its own, and that step commits. -/
theorem success_now (hlaws : BundleLaws X) {svc : Service X ι}
    (h : Sound uploads config engineMode svc) {i j : ι} {now : Timestamp}
    {body : PoliciesMetadata} (hno : svc.phase i ≠ .answered (.ok body))
    (hr : (svc.advance uploads config engineMode j now).phase i = .answered (.ok body)) :
    i = j ∧ Committed config (uploads i) svc.shared.value
      (svc.advance uploads config engineMode j now).shared.value body := by
  have hadv := advance_advanced hlaws h j now
  revert hadv hr
  generalize svc.advance uploads config engineMode j now = svc'
  intro hr hadv
  by_cases hij : i = j
  · subst hij
    refine ⟨rfl, ?_⟩
    cases hadv with
    | stayed r hr' => exact absurd hr hno
    | went p hopen hp hready =>
        rw [put_phase, if_pos rfl] at hr
        exact absurd hr (hp body)
    | committed body' s' hopen hcommit =>
        rw [put_phase, if_pos rfl] at hr
        cases hr
        exact hcommit
  · cases hadv with
    | stayed r hr' => exact absurd hr hno
    | went p hopen hp hready =>
        rw [put_phase, if_neg hij] at hr
        exact absurd hr hno
    | committed body' s' hopen hcommit =>
        rw [put_phase, if_neg hij] at hr
        exact absurd hr hno

/-- A success was answered by a step that committed. -/
theorem success_commits (hlaws : BundleLaws X) {i : ι} {body : PoliciesMetadata}
    (events : List (Event X cfg ι)) :
    ∀ {svc : Service X ι}, Sound uploads config engineMode svc →
      svc.phase i ≠ .answered (.ok body) →
      (final (step uploads config engineMode) events svc).phase i = .answered (.ok body) →
      ∃ pre now post, events = pre ++ .advance i now :: post
        ∧ Committed config (uploads i)
          (final (step uploads config engineMode) pre svc).shared.value
          ((final (step uploads config engineMode) pre svc).advance uploads config engineMode i
            now).shared.value body := by
  induction events with
  | nil => intro svc _ hno hr; exact absurd hr hno
  | cons e events ih =>
      intro svc h hno hr
      by_cases hnow : (step uploads config engineMode e svc).2.phase i = .answered (.ok body)
      · cases e with
        | advance j now =>
            obtain ⟨rfl, hc⟩ := success_now hlaws h hno hnow
            exact ⟨[], now, events, rfl, hc⟩
        | _ => exact absurd hnow hno
      · obtain ⟨pre, now, post, rfl, hc⟩ := ih (sound_step hlaws h e) hnow hr
        exact ⟨e :: pre, now, post, rfl, hc⟩

variable (uploads config engineMode) in
/-- The service after a run of events. -/
abbrev serviceAfter (s₀ : PolicyStore X) (events : List (Event X cfg ι)) : Service X ι :=
  final (step uploads config engineMode) events (Service.start s₀)

/-- **UPLOADS ARE SAFE**: in every run, a step of a request changes nothing or
    is an authorised commit; a request answered with an error changed nothing
    in any of its steps; and a request answered with success made a commit,
    whose store its body describes. -/
theorem uploads_safe (hlaws : BundleLaws X) {now : Timestamp} {s₀ : PolicyStore X}
    (hnew : PolicyStore.new X now = .ok s₀) (uploads : ι → Upload)
    (config : BundleRuntimeConfig X) (engineMode : Option BundleEngineMode)
    (events : List (Event X cfg ι)) :
    (∀ pre i at' post, events = pre ++ .advance i at' :: post →
      let before := serviceAfter uploads config engineMode s₀ pre
      let after := before.advance uploads config engineMode i at'
      after.shared = before.shared
        ∨ ∃ body, after.phase i = .answered (.ok body)
          ∧ Committed config (uploads i) before.shared.value after.shared.value body)
    ∧ (∀ i e, (serviceAfter uploads config engineMode s₀ events).phase i = .answered (.error e) →
      ∀ pre at' post, events = pre ++ .advance i at' :: post →
        ((serviceAfter uploads config engineMode s₀ pre).advance uploads config engineMode i
          at').shared = (serviceAfter uploads config engineMode s₀ pre).shared)
    ∧ (∀ i body, (serviceAfter uploads config engineMode s₀ events).phase i
        = .answered (.ok body) →
      ∃ pre at' post, events = pre ++ .advance i at' :: post
        ∧ Committed config (uploads i)
          (serviceAfter uploads config engineMode s₀ pre).shared.value
          ((serviceAfter uploads config engineMode s₀ pre).advance uploads config engineMode i
            at').shared.value body) := by
  have hstart : Sound uploads config engineMode (Service.start s₀ : Service X ι) :=
    sound_start hnew
  refine ⟨?_, ?_, ?_⟩
  · intro pre i at' post _
    exact advance_commits hlaws (sound_final hlaws pre hstart) i at'
  · intro i e herr pre at' post hsplit
    have hpre := sound_final hlaws pre hstart
    rcases advance_commits hlaws hpre i at' with hsame | ⟨body, hbody, _⟩
    · exact hsame
    · -- a success stays, so the request could not have ended with an error
      have hend : (serviceAfter uploads config engineMode s₀ events).phase i
          = .answered (.ok body) := by
        rw [hsplit, serviceAfter, final_append]
        exact answered_final hlaws post
          (sound_step hlaws hpre (.advance i at' : Event X cfg ι)) hbody
      exact nomatch hend.symm.trans herr
  · intro i body hok
    exact success_commits hlaws events hstart (fun h => nomatch h) hok

/-! ## A bundle upload -/

open TreetopSample

/-- An upload of the archive, under the token "t". -/
def archiveUpload : Unit → Upload := fun _ =>
  .bundle [("content-type", ⟨Text.asBytes "application/gzip".toList⟩), ("x-upload-token", ⟨[116]⟩)]
    [.ok archiveBytes] ⟨1, 1, 1, 1⟩ none

def smallLimits : BundleRuntimeConfig small := ⟨(), (), 1024, 64, 1024⟩

/-- Nobody configured a source. -/
def noSource : RemoteSourceKind → Endpoint × UInt32 := fun _ => (⟨""⟩, 0)

/-- Uploads are enabled, and the store turns to bundle mode and to strict
    validation while the upload is under way. -/
def uploadRun : List (Event small noSource Unit) :=
  [.setAllowUpload true, .setUploadToken (some ⟨"t", by decide⟩), .advance () 1,
    .setBundleUrlMode true, .advance () 2, .setSchemaValidationMode .strict, .advance () 3]

/-- The body a request was answered with, if it succeeded. -/
def Phase.success : Phase X → Option PoliciesMetadata
  | .answered (.ok body) => some body
  | _ => none

theorem success_eq_some {p : Phase X} {body : PoliciesMetadata} (h : p.success = some body) :
    p = .answered (.ok body) := by
  cases p with
  | answered r =>
      cases r with
      | error e => exact nomatch h
      | ok b => exact congrArg (fun b => Phase.answered (.ok b)) (Option.some.inj h)
  | _ => exact nomatch h

/-- The upload succeeds, and its success is a safe commit. -/
theorem uploads_safe_small :
    ∃ body, (serviceAfter archiveUpload smallLimits none fresh uploadRun).phase ()
        = .answered (.ok body)
      ∧ ∃ pre at' post, uploadRun = pre ++ .advance () at' :: post
        ∧ Committed smallLimits (archiveUpload ())
          (serviceAfter archiveUpload smallLimits none fresh pre).shared.value
          ((serviceAfter archiveUpload smallLimits none fresh pre).advance archiveUpload
            smallLimits none () at').shared.value body := by
  have hsuccess : ((serviceAfter archiveUpload smallLimits none fresh
      uploadRun).phase ()).success.isSome = true := by decide +kernel
  obtain ⟨body, hbody⟩ := Option.isSome_iff_exists.mp hsuccess
  have hphase := success_eq_some hbody
  exact ⟨body, hphase, (uploads_safe bundleLaws_small new_fresh archiveUpload smallLimits none
    uploadRun).2.2 () body hphase⟩

end TreetopUploadSafety
