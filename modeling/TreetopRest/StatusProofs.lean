import TreetopRest.RouteModel
import TreetopRest.ServerRunProofs

/-! # The statuses of errors

    Which errors an operation can end with is read off its definition, part by
    part: an update of the store is refused with a 400 or fails with a 500, and
    what an upload adds to that depends on its kind alone.  Every upload that
    is under way keeps to the errors of its kind along every run
    (`run_phaseOk`). -/

namespace TreetopStatuses

open FallibleState Text UpdateRun
open TreetopErrors TreetopCrates TreetopMetadata TreetopWire TreetopStore
open TreetopFetcher TreetopRequest TreetopUpload TreetopHandlers
open TreetopAdmission TreetopConfig TreetopPipeline TreetopServer TreetopRoutes
open TreetopServerRuns (step_phase)
open TreetopUploadSafety (Service Phase)

variable {X : Crates} {N : NetCrate} {C : EvalCrate X} {ι : Type} {W : WebCrate}

/-! ## The errors of the store -/

/-- The error is answered with one of these statuses. -/
def Within (statuses : List Nat) (e : ServiceError) : Prop := e.statusCode ∈ statuses

theorem Within.mono {statuses statuses' : List Nat} (hsub : statuses ⊆ statuses')
    {e : ServiceError} (h : Within statuses e) : Within statuses' e :=
  hsub h

theorem fromPolicyError_within (e : PolicyError) :
    Within [400, 500] (ServiceError.fromPolicyError e) := by
  cases e with
  | parseError msg => exact .head _
  | evalError msg => exact .tail _ (.head _)
  | entityError msg => exact .tail _ (.head _)
  | entityAttrError msg => exact .tail _ (.head _)
  | requestValidationError msg => exact .head _
  | invalidFormat msg => exact .head _
  | contextError msg => exact .head _
  | other display => exact .tail _ (.head _)

/-- The label documents of the crates can be refused for their size. -/
def LabelsTooLarge (X : Crates) : Prop :=
  ∃ kind limit display,
    (∃ text, X.labelSetFromJsonStr text = .error (.sizeLimit kind limit display))
      ∨ ∃ labels text, X.validateSchemaJsonStr labels text = .error (.sizeLimit kind limit display)

/-- What the updates of the store fail with. -/
def StoreError (X : Crates) (e : ServiceError) : Prop :=
  Within [400, 500] e ∨ e.statusCode = 413 ∧ LabelsTooLarge X

theorem currentSchema_raises (s : PolicyStore X) :
    Raises (Within [400, 500]) (currentSchema s) := by
  rw [currentSchema]
  by_cases h : s.schema.content.isEmpty = true
  · rw [if_pos h]
    exact raises_ok _
  · rw [if_neg h]
    cases X.schemaFromJsonStr s.schema.content with
    | ok sch => exact raises_ok _
    | error e => exact raises_error (.head _)

theorem runtimeSchemaForDsl_raises (s : PolicyStore X) (dsl : String)
    (schema : Option X.CedarSchema) :
    Raises (Within [400, 500]) (runtimeSchemaForDsl s dsl schema) := by
  have hvalidate : ∀ sch, Raises (Within [400, 500]) (validatePoliciesWithSchema X dsl sch) := by
    intro sch
    rw [validatePoliciesWithSchema]
    cases X.policySetParse dsl with
    | error e => exact raises_error (.head _)
    | ok policySet =>
        dsimp only
        split
        · exact raises_ok _
        · exact raises_error (.head _)
  cases schema with
  | none => exact raises_ok _
  | some schema =>
      rw [runtimeSchemaForDsl]
      cases hvalid : validatePoliciesWithSchema X dsl schema with
      | ok u => exact raises_ok _
      | error e =>
          dsimp only
          split
          · exact raises_ok _
          · exact raises_error (hvalidate schema e hvalid)

theorem buildEngineFromParts_raises (dsl : String) (schema : Option X.CedarSchema)
    (labelers : List X.Labeler) (labelVersion : String) :
    Raises (Within [400, 500]) (buildEngineFromParts X dsl schema labelers labelVersion) := by
  -- the labels, once there is an engine
  have hlabels : ∀ engine : X.PreparedEngine, Raises (Within [400, 500])
      (if labelers.isEmpty then Except.ok engine
        else (X.registryBuild (labelers.foldl X.addLabeler
            (X.registryVersioned labelVersion))).mapError ServiceError.fromPolicyError
          >>= fun registry => Except.ok (X.withLabelRegistry engine registry)) := by
    intro engine
    split
    · exact raises_ok _
    · exact (raises_mapError fromPolicyError_within).bind fun registry => raises_ok _
  cases schema with
  | none => exact (raises_mapError fromPolicyError_within).bind fun engine => hlabels _
  | some schema => exact (raises_mapError fromPolicyError_within).bind fun engine => hlabels _

theorem rebuildEngine_raises (dsl : String) (schema : Option X.CedarSchema)
    (labelers : List X.Labeler) (labelVersion : String) :
    ProgRaises (Within [400, 500])
      (rebuildEngineForDslWithParts (X := X) dsl schema labelers labelVersion) := by
  rw [rebuildEngineForDslWithParts]
  refine progRaises_bind_get fun s => ?_
  refine (progRaises_lift (runtimeSchemaForDsl_raises s dsl schema)).bind fun p => ?_
  obtain ⟨runtimeSchema, status⟩ := p
  exact (progRaises_lift (buildEngineFromParts_raises dsl runtimeSchema labelers
    labelVersion)).bind fun engine => progRaises_modify _

theorem lock_raises {α : Type} (m : Mutex α) (name : String) :
    Raises (Within [400, 500]) (m.lock name) := by
  rw [Mutex.lock]
  by_cases h : m.poisoned = true
  · rw [if_pos h]
    exact raises_error (.tail _ (.head _))
  · rw [if_neg h]
    exact raises_ok _

theorem clearListPoliciesCache_raises :
    ProgRaises (Within [400, 500]) (clearListPoliciesCache (X := X)) := by
  rw [clearListPoliciesCache]
  refine progRaises_bind_get fun s => ?_
  refine (progRaises_lift (lock_raises _ _)).bind fun _ => ?_
  refine (progRaises_modify _).bind fun _ => progRaises_bind_get fun s => ?_
  exact (progRaises_lift (lock_raises _ _)).bind fun _ => progRaises_modify _

theorem setDsl_raises (now : Timestamp) (dsl : String) (source : Option Endpoint)
    (refreshFrequency : Option UInt32) :
    ProgRaises (Within [400, 500]) (setDsl (X := X) now dsl source refreshFrequency) := by
  rw [setDsl]
  refine progRaises_bind_get fun s => ?_
  refine (progRaises_lift ?_).bind fun _ => ?_
  · rw [ensureSchemaPresentForPolicyReload]
    split
    · exact raises_error (.head _)
    · exact raises_ok _
  refine progRaises_bind_get fun s => (progRaises_lift ?_).bind fun metadata => ?_
  · obtain ⟨md, hmd⟩ := Metadata.new_ofPolicies (X := X) now dsl (source.or s.policies.source)
      (refreshFrequency.or s.policies.refreshFrequency)
    rw [hmd]
    exact raises_ok _
  refine progRaises_bind_get fun s => (progRaises_lift (currentSchema_raises s)).bind fun _ => ?_
  refine progRaises_bind_get fun s => progRaises_bind_get fun s' => ?_
  refine (rebuildEngine_raises _ _ _ _).bind fun _ => ?_
  exact (progRaises_modify _).bind fun _ => clearListPoliciesCache_raises

/-- What the crates say against a label document. -/
theorem labels_raises {α : Type} {x : Except BundleError α}
    (h : ∀ kind limit display, x = .error (.sizeLimit kind limit display) → LabelsTooLarge X) :
    Raises (StoreError X) (x.mapError ServiceError.fromBundleError) := by
  cases x with
  | ok a => exact raises_ok a
  | error e =>
      cases e with
      | sizeLimit kind limit display =>
          exact raises_error (Or.inr ⟨rfl, h kind limit display rfl⟩)
      | archive message display => exact raises_error (Or.inl (.head _))
      | validation diagnostics => exact raises_error (Or.inl (.head _))
      | other display => exact raises_error (Or.inl (.head _))

theorem ensureLabelsFitSchema_raises (s : PolicyStore X) (schema : String) :
    Raises (StoreError X) (ensureLabelsFitSchema s schema) := by
  rw [ensureLabelsFitSchema]
  split
  · exact raises_ok _
  · refine (labels_raises fun kind limit display h => ?_).bind fun labelSet =>
      labels_raises fun kind limit display h => ?_
    · exact ⟨kind, limit, display, Or.inl ⟨_, h⟩⟩
    · exact ⟨kind, limit, display, Or.inr ⟨_, _, h⟩⟩

theorem newSchema_raises (now : Timestamp) (content : String) (source : Option Endpoint)
    (refreshFrequency : Option UInt32) :
    Raises (Within [400, 500]) (Metadata.new X .ofSchema now content source refreshFrequency) := by
  rw [Metadata.new]
  split
  · exact raises_ok _
  · refine Raises.bind ?_ fun _ => Raises.bind ?_ fun _ => raises_ok _
    · rw [validateContent]
      cases X.schemaFromJsonStr content with
      | ok sch => exact raises_ok _
      | error e => exact raises_error (.head _)
    · rw [countEntries]
      cases X.jsonFromStr content with
      | ok v => exact raises_ok _
      | error e => exact raises_error (.head _)

theorem setSchema_raises (now : Timestamp) (schema : String) (source : Option Endpoint)
    (refreshFrequency : Option UInt32) :
    ProgRaises (StoreError X) (setSchema (X := X) now schema source refreshFrequency) := by
  have hparse : Raises (Within [400, 500]) (parseSchema X schema) :=
    raises_mapError fun e => .head _
  rw [setSchema]
  refine progRaises_bind_get fun s => ?_
  refine (progRaises_lift ((newSchema_raises _ _ _ _).imp fun _ => Or.inl)).bind fun metadata => ?_
  refine (progRaises_lift (hparse.imp fun _ => Or.inl)).bind fun parsedSchema => ?_
  refine progRaises_bind_get fun s => ?_
  refine (progRaises_lift (ensureLabelsFitSchema_raises s schema)).bind fun _ => ?_
  refine progRaises_bind_get fun s => progRaises_bind_get fun s' => ?_
  refine progRaises_bind_get fun s'' => ?_
  refine ProgRaises.bind ?_ fun _ => progRaises_modify _
  exact fun t => (rebuildEngine_raises _ _ _ _ t).imp fun _ => Or.inl

theorem ensureBundleSchemaPresent_raises (mode : SchemaValidationMode) (schemaPresent : Bool) :
    Raises (Within [400, 500]) (ensureBundleSchemaPresent mode schemaPresent) := by
  rw [ensureBundleSchemaPresent]
  split
  · exact raises_error (.head _)
  · exact raises_ok _

theorem applyPreparedBundle_raises (prepared : PreparedBundle X) :
    ProgRaises (Within [400, 500]) (applyPreparedBundle prepared) := by
  rw [applyPreparedBundle]
  refine progRaises_bind_get fun s => ?_
  refine (progRaises_lift (ensureBundleSchemaPresent_raises _ _)).bind fun _ => ?_
  exact clearListPoliciesCache_raises.bind fun _ => progRaises_modify _

/-! ## The errors of an upload -/

/-- The statuses of the errors an upload documents. -/
def uploadStatuses : Upload → List Nat
  | .policies .. | .schema .. => [400, 403, 409, 500]
  | .bundle .. => [400, 403, 413, 415, 500]

/-- What an upload fails with: an error it documents, or, for a schema, what
    the crates say to the labels. -/
def UploadError (X : Crates) (u : Upload) (e : ServiceError) : Prop :=
  Within (uploadStatuses u) e
    ∨ uploadHandler u = "upload_schema" ∧ e.statusCode = 413 ∧ LabelsTooLarge X

theorem within_upload {e : ServiceError} (h : Within [400, 500] e) (u : Upload) :
    UploadError X u e := by
  refine Or.inl ?_
  rcases List.mem_pair.mp h with h | h
  · cases u <;> simp [Within, uploadStatuses, h]
  · cases u <;> simp [Within, uploadStatuses, h]

theorem fromBundleError_within (e : BundleError) :
    Within [400, 413] (ServiceError.fromBundleError e) := by
  cases e with
  | sizeLimit kind limit display => exact .tail _ (.head _)
  | archive message display => exact .head _
  | validation diagnostics => exact .head _
  | other display => exact .head _

theorem checkUploadAuth_raises (headers : HeaderMap) (allowUpload : Bool) (token : Option String) :
    Raises (Within [403]) (checkUploadAuth headers allowUpload token) := by
  unfold checkUploadAuth
  split
  · exact raises_error (.head _)
  · cases token with
    | none => exact raises_error (.head _)
    | some expectedToken =>
        dsimp only
        split
        · exact raises_error (.head _)
        · exact raises_ok _

theorem checkIndependentUpload_raises (headers : HeaderMap) (s : PolicyStore X) :
    Raises (Within [403, 409]) (checkIndependentUpload headers s) := by
  rw [checkIndependentUpload]
  refine ((checkUploadAuth_raises headers s.allowUpload s.uploadToken).imp
    fun _ => Within.mono (by decide)).bind fun _ => ?_
  split
  · exact raises_error (.tail _ (.head _))
  · exact raises_ok _

theorem readStore_raises (shared : SharedStore X) :
    Raises (Within [400, 500]) (readStore shared) := by
  rw [readStore]
  split
  · exact raises_error (.tail _ (.head _))
  · exact raises_ok _

theorem textOfBody_raises (body : List UInt8) : Raises (Within [400, 500]) (textOfBody body) := by
  rw [textOfBody]
  cases String.fromUTF8? ⟨body.toArray⟩ with
  | some text => exact raises_ok _
  | none => exact raises_error (.head _)

theorem policiesOfBody_raises (headers : HeaderMap) (body : List UInt8) :
    Raises (Within [400, 500]) (policiesOfBody X headers body) := by
  have hrest : ∀ dslString : String, Raises (Within [400, 500])
      (if dslString.isEmpty then Except.error .invalidTextPayload else Except.ok dslString) := by
    intro dslString
    split
    · exact raises_error (.head _)
    · exact raises_ok _
  unfold policiesOfBody
  dsimp only
  split
  · exact (raises_mapError fun e => .head _).bind hrest
  · exact (textOfBody_raises body).bind hrest

theorem schemaOfBody_raises (headers : HeaderMap) (body : List UInt8) :
    Raises (Within [400, 500]) (schemaOfBody X headers body) := by
  have hrest : ∀ schemaString : String, Raises (Within [400, 500])
      (if (trim schemaString.toList).isEmpty then Except.error .invalidTextPayload
        else Except.ok schemaString) := by
    intro schemaString
    split
    · exact raises_error (.head _)
    · exact raises_ok _
  unfold schemaOfBody
  dsimp only
  split
  · refine (raises_mapError fun e => .head _).bind fun upload => ?_
    cases upload with
    | wrapped schema => exact hrest schema
    | raw value => exact (raises_mapError fun e => .head _).bind hrest
  · exact (textOfBody_raises body).bind hrest

theorem readPayload_raises (limit : Nat) (payload : List (Except String (List UInt8)))
    (bytes : List UInt8) : Raises (Within [400, 413]) (readPayload limit payload bytes) := by
  induction payload generalizing bytes with
  | nil => exact raises_ok _
  | cons chunk rest ih =>
      cases chunk with
      | error e => exact raises_error (.head _)
      | ok chunk =>
          rw [readPayload]
          split
          · exact raises_error (.tail _ (.head _))
          · exact ih _

theorem archiveOfPayload_raises (config : BundleRuntimeConfig X) (headers : HeaderMap)
    (payload : List (Except String (List UInt8))) :
    Raises (Within [400, 413, 415]) (archiveOfPayload config headers payload) := by
  unfold archiveOfPayload
  refine raises_check (.tail _ (.tail _ (.head _))) (raises_check (.tail _ (.head _)) ?_)
  exact (readPayload_raises _ _ _).imp fun _ => Within.mono (by decide)

theorem prepareBundle_raises (clock : BundleClock) (validated : X.ValidatedBundle)
    (source : Option Endpoint) (refreshFrequency : Option UInt32) (mode : SchemaValidationMode)
    (engineMode : BundleEngineMode) :
    Raises (Within [400, 413, 500]) (prepareBundleWithEngineMode clock validated source
      refreshFrequency mode engineMode) := by
  have hbundle : ∀ {α : Type} {x : Except BundleError α},
      Raises (Within [400, 413, 500]) (x.mapError ServiceError.fromBundleError) := by
    intro α x
    exact raises_mapError fun e => (fromBundleError_within e).mono (by decide)
  rw [prepareBundleWithEngineMode]
  refine ((ensureBundleSchemaPresent_raises _ _).imp
    fun _ => Within.mono (by decide)).bind fun _ => ?_
  cases engineMode with
  | monolithic =>
      exact hbundle.bind fun engine => hbundle.bind fun labelsJson =>
        hbundle.bind fun schemaText => raises_ok _
  | bundleModules =>
      exact hbundle.bind fun engine => hbundle.bind fun labelsJson =>
        hbundle.bind fun schemaText => raises_ok _

theorem prepareArchive_raises (config : BundleRuntimeConfig X)
    (engineMode : Option BundleEngineMode) (clock : BundleClock) (taskFailure : Option String)
    (bytes : List UInt8) (captured : Captured) :
    Raises (Within [400, 413, 500])
      (prepareArchive config engineMode clock taskFailure bytes captured) := by
  rw [prepareArchive]
  refine (raises_mapError fun e => (fromBundleError_within e).mono (by decide)).bind
    fun limits => ?_
  cases taskFailure with
  | some msg => exact raises_error (.tail _ (.tail _ (.head _)))
  | none =>
      refine (raises_mapError fun e => (fromBundleError_within e).mono (by decide)).bind
        fun validated => ?_
      exact (prepareBundle_raises _ _ _ _ _ _).bind fun prepared => raises_ok _

/-- The check of an upload, on the store as it is read. -/
theorem check_raises (u : Upload) (shared : SharedStore X) :
    Raises (UploadError X u) ((readStore shared).bind u.check) := by
  refine ((readStore_raises shared).imp fun e he => within_upload he u).bind fun s => ?_
  cases u with
  | policies headers body =>
      refine ((checkIndependentUpload_raises headers s).imp fun e he => Or.inl ?_).bind
        fun _ => raises_ok _
      exact he.mono (by simp [uploadStatuses])
  | schema headers body =>
      refine ((checkIndependentUpload_raises headers s).imp fun e he => Or.inl ?_).bind
        fun _ => raises_ok _
      exact he.mono (by simp [uploadStatuses])
  | bundle headers payload clock taskFailure =>
      refine ((checkUploadAuth_raises headers _ _).imp fun e he => Or.inl ?_).bind
        fun _ => raises_ok _
      exact he.mono (by simp [uploadStatuses])

theorem prepare_raises (config : BundleRuntimeConfig X) (engineMode : Option BundleEngineMode)
    (u : Upload) (captured : Captured) :
    Raises (UploadError X u) (u.prepare config engineMode captured) := by
  cases u with
  | policies headers body =>
      exact ((policiesOfBody_raises headers body).imp fun e he => within_upload he _).map _
  | schema headers body =>
      exact ((schemaOfBody_raises headers body).imp fun e he => within_upload he _).map _
  | bundle headers payload clock taskFailure =>
      refine ((archiveOfPayload_raises config headers payload).imp fun e he => Or.inl ?_).bind
        fun bytes => (prepareArchive_raises config engineMode clock taskFailure bytes
          captured).imp fun e he => Or.inl ?_
      · exact he.mono (by simp [uploadStatuses])
      · exact he.mono (by simp [uploadStatuses])

/-- What an upload has ready is of its own kind. -/
def OfKind : Upload → Candidate X → Prop
  | .policies .., .policies _ | .schema .., .schema _ | .bundle .., .bundle _ _ => True
  | _, _ => False

theorem prepare_ofKind {config : BundleRuntimeConfig X} {engineMode : Option BundleEngineMode}
    {u : Upload} {captured : Captured} {c : Candidate X}
    (h : u.prepare config engineMode captured = .ok c) : OfKind u c := by
  cases u with
  | policies headers body =>
      obtain ⟨_, _, rfl⟩ := map_eq_ok.mp h
      trivial
  | schema headers body =>
      obtain ⟨_, _, rfl⟩ := map_eq_ok.mp h
      trivial
  | bundle headers payload clock taskFailure =>
      obtain ⟨_, _, rfl, _⟩ := TreetopUploadSafety.prepare_bundle h
      trivial

/-- The commit of an upload, on the store as it is then. -/
theorem commit_raises {u : Upload} {c : Candidate X} (hkind : OfKind u c) (headers : HeaderMap)
    (now : Timestamp) : ProgRaises (UploadError X u) (c.commit headers now) := by
  cases u with
  | policies h body =>
      cases c with
      | policies dslString =>
          refine progRaises_bind_get fun s => ?_
          refine (progRaises_lift ((checkIndependentUpload_raises headers s).imp
            fun e he => Or.inl (he.mono (by simp [uploadStatuses])))).bind fun _ => ?_
          refine ProgRaises.bind ?_ fun _ => progRaises_bind_get fun s => progRaises_pure _
          exact fun t => (setDsl_raises _ _ _ _ t).imp fun e he => within_upload he _
      | schema schemaString => exact hkind.elim
      | bundle prepared response => exact hkind.elim
  | schema h body =>
      cases c with
      | policies dslString => exact hkind.elim
      | schema schemaString =>
          refine progRaises_bind_get fun s => ?_
          refine (progRaises_lift ((checkIndependentUpload_raises headers s).imp
            fun e he => Or.inl (he.mono (by simp [uploadStatuses])))).bind fun _ => ?_
          refine ProgRaises.bind ?_ fun _ => progRaises_bind_get fun s => progRaises_pure _
          refine fun t => (setSchema_raises _ _ _ _ t).imp fun e he => ?_
          rcases he with he | ⟨hstatus, hlabels⟩
          · exact within_upload he _
          · exact Or.inr ⟨rfl, hstatus, hlabels⟩
      | bundle prepared response => exact hkind.elim
  | bundle h payload clock taskFailure =>
      cases c with
      | policies dslString => exact hkind.elim
      | schema schemaString => exact hkind.elim
      | bundle prepared response =>
          refine progRaises_bind_get fun s => progRaises_bind_get fun s' => ?_
          refine (progRaises_lift ((checkUploadAuth_raises headers _ _).imp
            fun e he => Or.inl (he.mono (by simp [uploadStatuses])))).bind fun _ => ?_
          refine progRaises_bind_get fun s => progRaises_bind_get fun s' => ?_
          refine ProgRaises.bind ?_ fun _ => progRaises_pure _
          exact fun t => (applyPreparedBundle_raises prepared t).imp fun e he => within_upload he _

/-! ## Uploads along a run -/

/-- An upload has something of its kind ready, or one of its errors to answer. -/
def PhaseOk (u : Upload) : Phase X → Prop
  | .prepared c => OfKind u c
  | .answered r => Raises (UploadError X u) r
  | _ => True

section Runs

variable [DecidableEq ι] (uploads : ι → Upload) (config : BundleRuntimeConfig X)
  (engineMode : Option BundleEngineMode)

/-- The next step of an upload. -/
theorem advance_phaseOk {svc : Service X ι} {i : ι} (h : PhaseOk (uploads i) (svc.phase i))
    (now : Timestamp) :
    PhaseOk (uploads i) ((svc.advance uploads config engineMode i now).phase i) := by
  have hput : ∀ p shared, (svc.put i p shared).phase i = p :=
    fun p shared => Function.update_self ..
  rw [Service.advance]
  -- an upload fails in its check, in its preparation or in its commit
  cases hphase : svc.phase i with
  | received =>
      dsimp only
      cases hcheck : (readStore svc.shared).bind (uploads i).check with
      | error e =>
          rw [hput]
          exact raises_error (check_raises (uploads i) svc.shared e hcheck)
      | ok captured =>
          rw [hput]
          trivial
  | checked captured =>
      dsimp only
      cases hprepare : (uploads i).prepare config engineMode captured with
      | error e =>
          rw [hput]
          exact raises_error (prepare_raises config engineMode (uploads i) captured e hprepare)
      | ok c =>
          rw [hput]
          exact prepare_ofKind hprepare
  | prepared c =>
      rw [hphase] at h
      dsimp only
      rw [hput, writeStore]
      split
      · exact raises_error (within_upload (.tail _ (.head _)) _)
      · exact commit_raises h _ now _
  | answered r =>
      dsimp only
      rw [hphase] at h ⊢
      exact h

/-- One step of the server. -/
theorem step_phaseOk {srv : Server X ι}
    (h : ∀ i, PhaseOk (uploads i) (srv.service.phase i)) (e : Event X ι) (j : ι) :
    PhaseOk (uploads j) ((step uploads config engineMode e srv).2.service.phase j) := by
  rcases step_phase uploads config engineMode e srv j with hsame | ⟨now, rfl⟩
  · rw [hsame]
    exact h j
  · exact advance_phaseOk uploads config engineMode (h j) now

/-- **RUNS**: every upload that has failed did so with an error of its kind. -/
theorem run_phaseOk (l : Launched X N) (events : List (Event X ι)) (i : ι) :
    PhaseOk (uploads i) ((running uploads l events).service.phase i) := by
  have hall : ∀ i, PhaseOk (uploads i) ((running uploads l events).service.phase i) := by
    refine final_induct (fun srv => ∀ i, PhaseOk (uploads i) (srv.service.phase i))
      (fun _ => True) ?_ events (Server.start l) (fun _ _ => trivial) ?_
    · intro srv e h _
      exact step_phaseOk uploads l.bundleRuntime (some l.bundleEngineMode) h e
    · intro i
      exact trivial
  exact hall i

end Runs

/-! ## Reading requests -/

theorem renderRaw_raises (engine : X.PreparedEngine) (key : ListPoliciesCacheKey) :
    Raises (Within [400, 500]) (renderRaw engine key) :=
  (raises_mapError fromPolicyError_within).bind fun _ => raises_ok _

theorem renderJson_raises (engine : X.PreparedEngine) (key : ListPoliciesCacheKey) :
    Raises (Within [400, 500]) (renderJson engine key) := by
  refine (raises_mapError fromPolicyError_within).bind fun policies => ?_
  rw [UserPolicies.tryFrom]
  refine (raises_mapM (fun policy => ?_) _).bind fun _ => raises_ok _
  cases X.policyToJson policy with
  | ok v => exact raises_ok _
  | error err => exact raises_error (.tail _ (.head _))

theorem listPoliciesRaw_raises (user : String) (groups namespaces : List String) :
    ProgRaises (Within [400, 500]) (listPoliciesRaw (X := X) user groups namespaces) := by
  rw [listPoliciesRaw]
  refine progRaises_bind_get fun s => (progRaises_lift (lock_raises _ _)).bind fun cache => ?_
  refine (progRaises_modify _).bind fun _ => ?_
  split
  · exact progRaises_pure _
  · refine progRaises_bind_get fun s => ?_
    refine (progRaises_lift (renderRaw_raises _ _)).bind fun content => ?_
    refine progRaises_bind_get fun s => (progRaises_lift (lock_raises _ _)).bind fun cache => ?_
    exact (progRaises_modify _).bind fun _ => progRaises_pure _

theorem listPoliciesJson_raises (user : String) (groups namespaces : List String) :
    ProgRaises (Within [400, 500]) (listPoliciesJson (X := X) user groups namespaces) := by
  rw [listPoliciesJson]
  refine progRaises_bind_get fun s => (progRaises_lift (lock_raises _ _)).bind fun cache => ?_
  refine (progRaises_modify _).bind fun _ => ?_
  split
  · exact progRaises_pure _
  · refine progRaises_bind_get fun s => ?_
    refine (progRaises_lift (renderJson_raises _ _)).bind fun response => ?_
    refine progRaises_bind_get fun s => (progRaises_lift (lock_raises _ _)).bind fun cache => ?_
    exact (progRaises_modify _).bind fun _ => progRaises_pure _

theorem listPolicies_raises (user query : String) (shared : SharedStore X) :
    Raises (Within [400, 500]) (listPolicies W user query shared).1 := by
  have hread := readStore_raises shared
  rw [listPolicies]
  cases hs : readStore shared with
  | error e => exact raises_error (hread e hs)
  | ok s =>
      dsimp only
      split
      · exact (listPoliciesRaw_raises _ _ _ s).map _
      · exact (listPoliciesJson_raises _ _ _ s).map _

theorem authorizeHandler_raises (l : Launched X N) (shared : SharedStore X) (stamp : Stamp)
    (detail : Option String) (requests : List (AuthRequest C))
    (schedule : ParallelMap.Schedule requests.length) :
    Raises (Within [400, 500]) (authorizeHandler l shared stamp detail requests schedule).2 := by
  rw [authorizeHandler]
  split
  · exact raises_error (.head _)
  · refine (readStore_raises shared).bind fun s => ?_
    rw [authorize]
    dsimp only
    split
    · exact raises_error (.head _)
    · split
      · exact raises_ok _
      · exact raises_ok _

/-- The status of a success, or of one of the errors. -/
theorem statusOf_mem {α : Type} {statuses : List Nat} {x : Except ServiceError α}
    (h : Raises (Within statuses) x) : statusOf x ∈ 200 :: statuses := by
  cases x with
  | ok a => exact .head _
  | error e => exact .tail _ (h e rfl)

end TreetopStatuses
