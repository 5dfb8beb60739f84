import TreetopRest.LaunchProofs

/-! # Runs of the server

    Along every run a server keeps the settings it started with, since no step
    writes them (`step_inOrder`), and its documents are those it started with
    and its publications posted over them (`run_board`).  What a request or a
    fetcher carries from one of its steps to the next was made by the step
    before, under those settings (`Carried`). -/

namespace TreetopServerRuns

open FallibleState ConditionalFetch UpdateRun
open TreetopErrors TreetopCrates TreetopMetadata TreetopWire TreetopStore
open TreetopFetcher TreetopBundleFetcher TreetopSections TreetopRequest TreetopUpload
open TreetopAdmission TreetopConfig TreetopServer TreetopServerSteps TreetopLaunch
open TreetopStartup (Task)
open TreetopUploadSafety (Service Phase prepare_bundle)

variable {X : Crates} {ι : Type}
  (uploads : ι → Upload) (config : BundleRuntimeConfig X) (engineMode : Option BundleEngineMode)

/-! ## Order -/

/-- The listing caches are usable and the settings those of a first store. -/
structure InOrder (s₀ : PolicyStore X) (srv : Server X ι) : Prop where
  usable : CachesUsable srv.store
  settings : SameSettings s₀ srv.store

theorem InOrder.token {s₀ : PolicyStore X} {srv : Server X ι} (h : InOrder s₀ srv)
    (hne : s₀.uploadToken ≠ some "") : srv.store.uploadToken ≠ some "" := by
  rw [h.settings.uploadToken]
  exact hne

theorem sameSettings_sameButCaches {s s' : PolicyStore X} (h : SameButCaches s s') :
    SameSettings s s' := by
  obtain ⟨_, _, rfl⟩ := h.same
  exact ⟨rfl, rfl, rfl, rfl⟩

theorem boardOf_sameButCaches {s s' : PolicyStore X} (h : SameButCaches s s') :
    boardOf s' = boardOf s := by
  obtain ⟨_, _, rfl⟩ := h.same
  rfl

variable [DecidableEq ι]

/-- One step keeps the order. -/
theorem step_inOrder {s₀ : PolicyStore X} (hne : s₀.uploadToken ≠ some "") {srv : Server X ι}
    (h : InOrder s₀ srv) (e : Event X ι) :
    InOrder s₀ (step uploads config engineMode e srv).2 := by
  rcases step_cases uploads config engineMode h.usable (h.token hne) e with
    ⟨_, hsame⟩ | ⟨who, p, hpub⟩
  · exact ⟨hsame.usable, h.settings.trans (sameSettings_sameButCaches hsame)⟩
  · exact ⟨published_usable h.usable hpub.published,
      h.settings.trans (published_settings hpub.published)⟩

/-! ## The board -/

/-- What a step publishes is posted on the board, and nothing else is. -/
theorem step_board {s₀ : PolicyStore X} (hne : s₀.uploadToken ≠ some "") {srv : Server X ι}
    (h : InOrder s₀ srv) (e : Event X ι) :
    boardOf (step uploads config engineMode e srv).2.store
      = ((step uploads config engineMode e srv).1.publication.toList).foldl Board.post
          (boardOf srv.store) := by
  rcases step_cases uploads config engineMode h.usable (h.token hne) e with
    ⟨hnone, hsame⟩ | ⟨who, p, hpub⟩
  · rw [hnone, boardOf_sameButCaches hsame]
    rfl
  · rw [hpub.outcome, published_board hpub.published]
    rfl

/-- What a run publishes, its first step apart. -/
theorem publications_cons (e : Event X ι) (events : List (Event X ι)) (srv : Server X ι) :
    publications uploads config engineMode (e :: events) srv
      = (step uploads config engineMode e srv).1.publication.toList
        ++ publications uploads config engineMode events
          (step uploads config engineMode e srv).2 := by
  show ((e, (step uploads config engineMode e srv).1)
    :: trace (step uploads config engineMode) events
      (step uploads config engineMode e srv).2).filterMap _ = _
  rw [List.filterMap_cons]
  cases (step uploads config engineMode e srv).1 <;> rfl

/-- What a run publishes, its last step apart. -/
theorem publications_append (past : List (Event X ι)) (e : Event X ι) (srv : Server X ι) :
    publications uploads config engineMode (past ++ [e]) srv
      = publications uploads config engineMode past srv
        ++ (step uploads config engineMode e
          (serverAfter uploads config engineMode past srv)).1.publication.toList := by
  have hlast := publications_cons uploads config engineMode e []
    (serverAfter uploads config engineMode past srv)
  rw [publications, trace_append, List.filterMap_append]
  refine congrArg (publications uploads config engineMode past srv ++ ·) (hlast.trans ?_)
  exact List.append_nil _

/-- **THE BOARD**: the documents after a run are those before it with the
    publications of the run posted in their order. -/
theorem run_board {s₀ : PolicyStore X} (hne : s₀.uploadToken ≠ some "")
    (events : List (Event X ι)) :
    ∀ {srv : Server X ι}, InOrder s₀ srv →
      boardOf (serverAfter uploads config engineMode events srv).store
        = (publications uploads config engineMode events srv).foldl Board.post
            (boardOf srv.store) := by
  induction events with
  | nil =>
      intro srv _
      rfl
  | cons e events ih =>
      intro srv h
      have hone := step_board uploads config engineMode hne h e
      have hrest := ih (step_inOrder uploads config engineMode hne h e)
      rw [publications_cons, List.foldl_append, ← hone]
      exact hrest

/-! ## Requests

    A request takes its settings along from its check to its commit.  They are
    those of the launch, and so are the store's when the commit checks again. -/

theorem checkIndependentUpload_congr {s s' : PolicyStore X} (h : SameSettings s s')
    (headers : HeaderMap) :
    checkIndependentUpload headers s' = checkIndependentUpload headers s := by
  rw [checkIndependentUpload, checkIndependentUpload, h.allowUpload, h.uploadToken,
    h.bundleUrlMode]

/-- A check reads nothing but settings. -/
theorem check_congr {s s' : PolicyStore X} (h : SameSettings s s') (u : Upload) :
    u.check s' = u.check s := by
  cases u with
  | policies headers body =>
      simp only [Upload.check, checkIndependentUpload_congr h, h.allowUpload, h.mode]
  | schema headers body =>
      simp only [Upload.check, checkIndependentUpload_congr h, h.allowUpload, h.mode]
  | bundle headers payload clock taskFailure =>
      simp only [Upload.check, h.allowUpload, h.uploadToken, h.mode]

/-- What a check lets through it captures, and the check of its kind passed. -/
theorem check_ok {u : Upload} {s : PolicyStore X} {captured : Captured}
    (h : u.check s = .ok captured) :
    captured = ⟨s.allowUpload, s.schemaValidationMode⟩
      ∧ (u.isBundle = false → checkIndependentUpload u.headers s = .ok ())
      ∧ (u.isBundle = true →
        checkUploadAuth u.headers s.allowUpload s.uploadToken = .ok ()) := by
  cases u with
  | policies headers body =>
      obtain ⟨_, hcheck, hcaptured⟩ := bind_eq_ok.mp h
      cases hcaptured
      exact ⟨rfl, fun _ => hcheck, by rintro ⟨⟩⟩
  | schema headers body =>
      obtain ⟨_, hcheck, hcaptured⟩ := bind_eq_ok.mp h
      cases hcaptured
      exact ⟨rfl, fun _ => hcheck, by rintro ⟨⟩⟩
  | bundle headers payload clock taskFailure =>
      obtain ⟨_, hcheck, hcaptured⟩ := bind_eq_ok.mp h
      cases hcaptured
      exact ⟨rfl, by rintro ⟨⟩, fun _ => hcheck⟩

/-- What a request carries came out of its check, and of its own body. -/
def Carried (s₀ : PolicyStore X) (u : Upload) : Phase X → Prop
  | .checked captured => u.check s₀ = .ok captured
  | .prepared c => ∃ captured, u.check s₀ = .ok captured
      ∧ u.prepare config engineMode captured = .ok c
  | _ => True

/-- A request that is ready to publish a bundle delivered its archive, and
    prepared it for no source. -/
theorem prepare_of_bundle {u : Upload} {captured : Captured} {c : Candidate X}
    {prepared : PreparedBundle X} (hprep : u.prepare config engineMode captured = .ok c)
    (hc : publicationOf c = .bundle prepared) :
    ∃ v clock, TreetopUploadSafety.Delivers config u v
      ∧ prepareBundleWithEngineMode clock v none none captured.schemaValidationMode
        (engineMode.getD .monolithic) = .ok prepared := by
  cases u with
  | policies headers body =>
      obtain ⟨_, _, rfl⟩ := map_eq_ok.mp hprep
      cases hc
  | schema headers body =>
      obtain ⟨_, _, rfl⟩ := map_eq_ok.mp hprep
      cases hc
  | bundle headers payload clock taskFailure =>
      obtain ⟨v, prepared', rfl, hdelivers, hmade⟩ := prepare_bundle hprep
      cases hc
      exact ⟨v, clock, hdelivers, hmade⟩

/-- A bundle upload publishes a bundle. -/
theorem prepare_isBundle {u : Upload} {captured : Captured} {c : Candidate X}
    (hprep : u.prepare config engineMode captured = .ok c) (hkind : u.isBundle = true) :
    ∃ prepared, publicationOf c = .bundle prepared := by
  cases u with
  | policies headers body => cases hkind
  | schema headers body => cases hkind
  | bundle headers payload clock taskFailure =>
      obtain ⟨_, prepared, rfl, _, _⟩ := prepare_bundle hprep
      exact ⟨prepared, rfl⟩

/-- A request's step moves the request alone. -/
theorem advance_ne (svc : Service X ι) {i j : ι} (hj : j ≠ i) (now : Timestamp) :
    (svc.advance uploads config engineMode i now).phase j = svc.phase j := by
  have hput : ∀ p shared, (svc.put i p shared).phase j = svc.phase j :=
    fun p shared => Function.update_of_ne hj ..
  rw [Service.advance]
  cases svc.phase i with
  | received =>
      dsimp only
      cases (readStore svc.shared).bind (uploads i).check with
      | error e => exact hput _ _
      | ok captured => exact hput _ _
  | checked captured =>
      dsimp only
      cases (uploads i).prepare config engineMode captured with
      | error e => exact hput _ _
      | ok c => exact hput _ _
  | prepared c => exact hput _ _
  | answered r => rfl

/-- A step moves no request but the one whose step it is. -/
theorem step_phase (e : Event X ι) (srv : Server X ι) (j : ι) :
    (step uploads config engineMode e srv).2.service.phase j = srv.service.phase j
      ∨ ∃ now, e = .upload j now := by
  cases e with
  | fetch k net now =>
      rw [step]
      cases srv.fetchers k <;> exact Or.inl rfl
  | fetchBundle get clock taskFailure =>
      rw [step]
      cases srv.bundleFetcher <;> exact Or.inl rfl
  | upload i now =>
      by_cases hij : j = i
      · rw [hij]
        exact Or.inr ⟨now, rfl⟩
      · exact Or.inl (advance_ne uploads config engineMode _ hij now)
  | listPolicies raw user groups namespaces =>
      rw [step]
      cases readStore srv.shared <;> exact Or.inl rfl
  | poison => exact Or.inl rfl

/-- The step of a request keeps what it carries. -/
theorem advance_carried {s₀ : PolicyStore X} {svc : Service X ι}
    (hsame : SameSettings s₀ svc.shared.value)
    (h : ∀ j, Carried config engineMode s₀ (uploads j) (svc.phase j)) (i : ι) (now : Timestamp)
    (j : ι) :
    Carried config engineMode s₀ (uploads j)
      ((svc.advance uploads config engineMode i now).phase j) := by
  -- only the phase of `i` moves
  have hput : ∀ p shared, Carried config engineMode s₀ (uploads i) p →
      Carried config engineMode s₀ (uploads j) ((svc.put i p shared).phase j) := by
    intro p shared hp
    by_cases hj : j = i
    · subst hj
      show Carried config engineMode s₀ (uploads j) (Function.update svc.phase j p j)
      rw [Function.update_self]
      exact hp
    · show Carried config engineMode s₀ (uploads j) (Function.update svc.phase i p j)
      rw [Function.update_of_ne hj]
      exact h j
  have hi := h i
  rw [Service.advance]
  cases hphase : svc.phase i with
  | received =>
      dsimp only
      cases hcheck : (readStore svc.shared).bind (uploads i).check with
      | error e => exact hput _ _ trivial
      | ok captured =>
          refine hput _ _ ?_
          obtain ⟨s, hread, hcheck⟩ := bind_eq_ok.mp hcheck
          rw [readStore] at hread
          by_cases hpoison : svc.shared.poisoned = true
          · rw [if_pos hpoison] at hread
            cases hread
          · rw [if_neg hpoison] at hread
            cases hread
            exact (check_congr hsame _).symm.trans hcheck
  | checked captured =>
      rw [hphase] at hi
      dsimp only
      cases hprep : (uploads i).prepare config engineMode captured with
      | error e => exact hput _ _ trivial
      | ok c => exact hput _ _ ⟨captured, hi, hprep⟩
  | prepared c => exact hput _ _ trivial
  | answered r => exact h j

/-! ## Fetchers -/

/-- The event is a poll of a component's source that delivers this text. -/
def Delivers (k : Component) (body : String) : Event X ι → Prop
  | .fetch k' net _ => k' = k ∧ ∃ resp, net.get = .ok resp ∧ isSuccess resp.status = true
      ∧ resp.text = .ok body
  | _ => False

/-- The event is a poll of the bundle source that delivers this archive. -/
def DeliversArchive (bytes : List UInt8) : Event X ι → Prop
  | .fetchBundle get _ _ => ∃ presented, CarriesArchive (get presented) bytes
  | _ => False

/-- A body that a GET hands over was its response, and comes with its hash. -/
theorem onGet_some {f : GenericFetcher} {answer : Except String GetResponse}
    {body newHash : String} (h : f.onGet X answer = .ok (some (body, newHash))) :
    newHash = makeHash X body
      ∧ ∃ resp, answer = .ok resp ∧ isSuccess resp.status = true ∧ resp.text = .ok body := by
  obtain ⟨resp, hanswer, h⟩ := bind_eq_ok.mp h
  obtain ⟨hstatus, h⟩ := check_eq_ok.mp h
  obtain ⟨text, htext, h⟩ := bind_eq_ok.mp h
  rw [Bool.not_eq_true, Bool.not_eq_false'] at hstatus
  dsimp only at h
  by_cases hsame : f.hash = some (makeHash X text)
  · rw [if_pos hsame] at h
    cases h
  · rw [if_neg hsame] at h
    cases h
    exact ⟨rfl, resp, mapError_eq_ok.mp hanswer, hstatus, mapError_eq_ok.mp htext⟩

/-- A fetcher that has a body after a step got it in this step. -/
theorem fetcherStep_reads {net : Exchange} {inner : Fetchable (SharedStore X)}
    {now : Timestamp} {t : Task} {shared : SharedStore X} {body newHash : String}
    (h : (fetcherStep net inner now t shared).2.1.phase = .bodyRead body newHash) :
    newHash = makeHash X body
      ∧ ∃ resp, net.get = .ok resp ∧ isSuccess resp.status = true ∧ resp.text = .ok body := by
  obtain ⟨f, phase⟩ := t
  cases phase with
  | idle =>
      simp only [fetcherStep] at h
      cases hhead : f.onHead (net.head f.validators) with
      | mk r f' =>
          rw [hhead] at h
          cases r with
          | error e => cases h
          | ok goesOn => cases goesOn <;> cases h
  | headDone =>
      simp only [fetcherStep] at h
      cases hget : f.onGet X net.get with
      | error e =>
          rw [hget] at h
          cases h
      | ok changed =>
          rw [hget] at h
          cases changed with
          | none => cases h
          | some p =>
              cases h
              exact onGet_some hget
  | bodyRead body' newHash' =>
      simp only [fetcherStep, GenericFetcher.onApply] at h
      cases h

/-- A poll of the bundle source changes what the fetcher remembers, and none
    of its settings. -/
theorem bundleStep_configured {config : Config} {runtime : BundleRuntimeConfig X}
    {get : Validators String → Except String BundleResponse} {clock : BundleClock}
    {taskFailure : Option String} {t : BundleTask X} {shared : SharedStore X}
    (h : ConfiguredFetcher config runtime t.fetcher) :
    ConfiguredFetcher config runtime (bundleStep get clock taskFailure t shared).2.1.fetcher := by
  have hadopt : ∀ v, ConfiguredFetcher config runtime (t.fetcher.adopt v) :=
    fun v => ⟨h.url, h.refreshSecs, h.limits, h.signaturePolicy, h.trustStore, h.engineMode⟩
  obtain ⟨f, ready⟩ := t
  cases ready with
  | none =>
      simp only [bundleStep]
      cases f.fetch ⟨get, shared, clock, taskFailure⟩ with
      | error e => exact h
      | ok fetched =>
          cases fetched with
          | notModified => exact h
          | unchanged validators => exact hadopt validators
          | replacement d prepared => exact h
  | some archive =>
      obtain ⟨d, prepared⟩ := archive
      simp only [bundleStep]
      cases shared.write "policy" (applyBundleAndMark prepared) with
      | mk r shared' =>
          cases r with
          | error e => exact h
          | ok u =>
              have hnew := hadopt d.validators
              exact ⟨hnew.url, hnew.refreshSecs, hnew.limits, hnew.signaturePolicy,
                hnew.trustStore, hnew.engineMode⟩

/-- An archive that is ready after a step was fetched in this step. -/
theorem bundleStep_ready {get : Validators String → Except String BundleResponse}
    {clock : BundleClock} {taskFailure : Option String} {t : BundleTask X}
    {shared : SharedStore X} {d : Download} {prepared : PreparedBundle X}
    (h : (bundleStep get clock taskFailure t shared).2.1.ready = some (d, prepared)) :
    t.fetcher.fetch ⟨get, shared, clock, taskFailure⟩ = .ok (.replacement d prepared) := by
  obtain ⟨f, ready⟩ := t
  cases ready with
  | none =>
      simp only [bundleStep] at h
      cases hfetch : f.fetch ⟨get, shared, clock, taskFailure⟩ with
      | error e =>
          rw [hfetch] at h
          cases h
      | ok fetched =>
          rw [hfetch] at h
          cases fetched with
          | notModified => cases h
          | unchanged validators => cases h
          | replacement d' prepared' =>
              cases h
              rfl
  | some archive =>
      obtain ⟨d', prepared'⟩ := archive
      simp only [bundleStep] at h
      cases hwrite : shared.write "policy" (applyBundleAndMark prepared') with
      | mk r shared' =>
          rw [hwrite] at h
          cases r <;> cases h

end TreetopServerRuns
