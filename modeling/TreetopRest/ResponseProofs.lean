import TreetopRest.ResponseModel
import TreetopRest.SampleCrates

/-! # What survives the wire

    Every response type on its own survives being written and read.  The two
    variants of a response are not told apart by a tag but by what they
    contain, and they differ inside SUCCESSES only: a failure is written the
    same way in both.  A detailed response is therefore read back as such
    exactly if one of its entries is a success. -/

namespace TreetopResponses

open Serde TreetopCrates TreetopHandlers

variable {X : Crates} {C : EvalCrate X} (W : CoreWire C) {T U : Type}

/-! ## The parts -/

@[simp] theorem DecisionBrief.roundTrip (d : DecisionBrief) :
    DecisionBrief.deserialize (DecisionBrief.serialize d) = some d := by
  cases d <;> rfl

@[simp] theorem AuthorizeDecisionBrief.roundTrip (d : AuthorizeDecisionBrief C) :
    AuthorizeDecisionBrief.deserialize W (AuthorizeDecisionBrief.serialize W d) = some d := by
  simp [AuthorizeDecisionBrief.deserialize, AuthorizeDecisionBrief.serialize, structFields,
    W.policyVersion.read_write, Serde.string]

@[simp] theorem AuthorizeDecisionDetailed.roundTrip (d : AuthorizeDecisionDetailed C) :
    AuthorizeDecisionDetailed.deserialize W (AuthorizeDecisionDetailed.serialize W d)
      = some d := by
  have hpolicy : vec W.permitPolicy.read (.arr (d.policy.map W.permitPolicy.write))
      = some d.policy := by
    have h := mapM_write id d.policy fun policy _ => W.permitPolicy.read_write policy
    rw [List.map_id] at h
    exact h
  simp [AuthorizeDecisionDetailed.deserialize, AuthorizeDecisionDetailed.serialize,
    structFields, W.policyVersion.read_write, hpolicy]

/-- A detailed decision has no policy id, so it is no brief one. -/
theorem AuthorizeDecisionBrief.deserialize_detailed (d : AuthorizeDecisionDetailed C) :
    AuthorizeDecisionBrief.deserialize W (AuthorizeDecisionDetailed.serialize W d) = none := by
  simp [AuthorizeDecisionBrief.deserialize, AuthorizeDecisionDetailed.serialize, structFields]

/-! ## Entries -/

/-- The message of a failure. -/
def failureMessage : BatchResult T → String
  | .success _ => ""
  | .failed message => message

/-- A failure, as an entry of a batch with other data. -/
def failureAs (U : Type) (r : IndexedResult T) : IndexedResult U :=
  ⟨r.index, r.id, .failed (failureMessage r.result)⟩

/-- Index and id come back, and the result is read from what is beside them. -/
theorem IndexedResult.deserialize_serialize (data : T → Json) (read : Json → Option U)
    (r : IndexedResult T) :
    IndexedResult.deserialize read (IndexedResult.serialize data r)
      = (BatchResult.deserialize read (BatchResult.serialize data r.result)).map
          fun result => ⟨r.index, r.id, result⟩ := by
  obtain ⟨index, id, result⟩ := r
  cases id with
  | none =>
      cases result <;>
        simp [IndexedResult.deserialize, IndexedResult.serialize, BatchResult.serialize,
          mapFields, optionalField, flattened, usize, Option.map_eq_bind]
  | some id =>
      cases result <;>
        simp [IndexedResult.deserialize, IndexedResult.serialize, BatchResult.serialize,
          mapFields, optionalField, flattened, usize, Serde.string, Option.map_eq_bind]

/-- A success is read as its data are. -/
theorem BatchResult.deserialize_success (data : T → Json) (read : Json → Option U) (d : T) :
    BatchResult.deserialize read (BatchResult.serialize data (.success d))
      = (read (data d)).map .success := by
  simp [BatchResult.deserialize, BatchResult.serialize, tagged, flattened, Option.map_eq_bind]

/-- A failure is the same for every type of data. -/
theorem BatchResult.deserialize_failed (data : T → Json) (read : Json → Option U)
    (message : String) :
    BatchResult.deserialize read (BatchResult.serialize data (.failed message))
      = some (.failed message) := by
  simp [BatchResult.deserialize, BatchResult.serialize, tagged, flattened, Serde.string]

/-- Entries survive if their data do. -/
theorem IndexedResult.roundTrip {data : T → Json} {read : Json → Option T}
    (h : ∀ d, read (data d) = some d) (r : IndexedResult T) :
    IndexedResult.deserialize read (IndexedResult.serialize data r) = some r := by
  rw [IndexedResult.deserialize_serialize]
  obtain ⟨index, id, result⟩ := r
  cases result with
  | success d =>
      rw [BatchResult.deserialize_success, h]
      rfl
  | failed message =>
      rw [BatchResult.deserialize_failed]
      rfl

/-- Data of another type are read from the failures alone. -/
theorem IndexedResult.deserialize_other {data : T → Json} {read : Json → Option U}
    (h : ∀ d, read (data d) = none) (r : IndexedResult T) :
    IndexedResult.deserialize read (IndexedResult.serialize data r)
      = if r.result.isSuccess then none else some (failureAs U r) := by
  rw [IndexedResult.deserialize_serialize]
  obtain ⟨index, id, result⟩ := r
  cases result with
  | success d =>
      rw [BatchResult.deserialize_success, h]
      rfl
  | failed message =>
      rw [BatchResult.deserialize_failed]
      rfl

/-! ## Responses -/

/-- The fields of a response are read one by one. -/
theorem AuthorizeResponse.deserialize_serialize (data : T → Json) (read : Json → Option U)
    (r : AuthorizeResponse C T) :
    AuthorizeResponse.deserialize W read (AuthorizeResponse.serialize W data r)
      = ((r.results.map (IndexedResult.serialize data)).mapM
          (IndexedResult.deserialize read)).map
            fun results => ⟨results, r.version, r.successful, r.failed⟩ := by
  simp [AuthorizeResponse.deserialize, AuthorizeResponse.serialize, structFields, vec, usize,
    W.policyVersion.read_write, Option.map_eq_bind, Function.comp_def]

/-- **ONE TYPE**: a response survives if its data do. -/
theorem AuthorizeResponse.roundTrip {data : T → Json} {read : Json → Option T}
    (h : ∀ d, read (data d) = some d) (r : AuthorizeResponse C T) :
    AuthorizeResponse.deserialize W read (AuthorizeResponse.serialize W data r) = some r := by
  have hresults := mapM_write id r.results fun entry _ => IndexedResult.roundTrip h entry
  rw [AuthorizeResponse.deserialize_serialize, hresults, List.map_id]
  rfl

/-- A detailed response fits the brief type exactly if it has no success. -/
theorem AuthorizeResponse.deserialize_detailed
    (r : AuthorizeResponse C (AuthorizeDecisionDetailed C)) :
    AuthorizeResponse.deserialize W (AuthorizeDecisionBrief.deserialize W)
        (AuthorizeResponse.serialize W (AuthorizeDecisionDetailed.serialize W) r)
      = if r.results.any fun entry => entry.result.isSuccess then none
        else some ⟨r.results.map (failureAs _), r.version, r.successful, r.failed⟩ := by
  have hentry := IndexedResult.deserialize_other (AuthorizeDecisionBrief.deserialize_detailed W)
  rw [AuthorizeResponse.deserialize_serialize]
  by_cases hsuccess : (r.results.any fun entry => entry.result.isSuccess) = true
  · obtain ⟨entry, hmem, hs⟩ := List.any_eq_true.mp hsuccess
    have hnone := hentry entry
    rw [if_pos hs] at hnone
    rw [if_pos hsuccess, mapM_write_none r.results ⟨entry, hmem, hnone⟩]
    rfl
  · have hall : ∀ entry ∈ r.results, IndexedResult.deserialize
        (AuthorizeDecisionBrief.deserialize W)
        (IndexedResult.serialize (AuthorizeDecisionDetailed.serialize W) entry)
          = some (failureAs _ entry) := by
      intro entry hmem
      rw [hentry entry, if_neg]
      exact fun hs => hsuccess (List.any_eq_true.mpr ⟨entry, hmem, hs⟩)
    rw [if_neg hsuccess, mapM_write (failureAs _) r.results hall]
    rfl

/-- **VARIANTS**: a response is read back as it was written exactly if it is
    brief, or one of its entries is a success. -/
theorem AuthorizeResponseVariant.roundTrip_iff (v : AuthorizeResponseVariant C) :
    AuthorizeResponseVariant.deserialize W (AuthorizeResponseVariant.serialize W v) = some v
      ↔ ∀ response, v = .detailed response →
          ∃ entry ∈ response.results, entry.result.isSuccess = true := by
  cases v with
  | brief response =>
      have hbrief := AuthorizeResponse.roundTrip W (AuthorizeDecisionBrief.roundTrip W) response
      constructor
      · intro _ detailed hv
        exact nomatch hv
      · intro _
        refine untagged_first ?_
        rw [AuthorizeResponseVariant.serialize, hbrief]
        rfl
  | detailed response =>
      have hdetailed :=
        AuthorizeResponse.roundTrip W (AuthorizeDecisionDetailed.roundTrip W) response
      have hbrief := AuthorizeResponse.deserialize_detailed W response
      rw [AuthorizeResponseVariant.deserialize, AuthorizeResponseVariant.serialize]
      by_cases hsuccess : (response.results.any fun entry => entry.result.isSuccess) = true
      · rw [if_pos hsuccess] at hbrief
        constructor
        · rintro _ _ ⟨⟩
          exact List.any_eq_true.mp hsuccess
        · intro _
          rw [untagged_skip (by rw [hbrief]; rfl)]
          refine untagged_first ?_
          rw [hdetailed]
          rfl
      · -- the brief alternative comes first, and takes it
        rw [if_neg hsuccess] at hbrief
        constructor
        · intro hback
          rw [untagged_first (by rw [hbrief]; rfl)] at hback
          exact nomatch hback
        · intro hsome
          exact absurd (List.any_eq_true.mpr (hsome response rfl)) hsuccess

/-! ## An empty batch -/

open TreetopSample

/-- A text that may be null, but must be there. -/
def nullable : Json → Option (Option String)
  | .null => some none
  | .str s => some (some s)
  | _ => none

/-- A generation is a number below 2^64. -/
def generation : Json → Option UInt64
  | .num (.posInt n) => if n < UInt64.size then some (UInt64.ofNat n) else none
  | _ => none

theorem generation_toNat (n : UInt64) : generation (.num (.posInt n.toNat)) = some n := by
  rw [generation, if_pos n.toNat_lt_size, UInt64.ofNat_toNat]

/-- Times are left in nanoseconds. -/
def Version.serialize (v : Version) : Json :=
  .obj [("hash", .str v.hash), ("loaded_at", .num (.posInt v.loadedAt)),
    ("label_set", (v.labelSet.map Json.str).getD .null),
    ("generation", .num (.posInt v.generation.toNat))]

def Version.deserialize (value : Json) : Option Version := do
  let entries ← structFields ["hash", "loaded_at", "label_set", "generation"] value
  let hash ← requiredField entries "hash" string
  let loadedAt ← requiredField entries "loaded_at" usize
  let labelSet ← requiredField entries "label_set" nullable
  let generation ← requiredField entries "generation" generation
  return { hash, loadedAt, labelSet, generation }

theorem Version.deserialize_serialize (v : Version) :
    Version.deserialize (Version.serialize v) = some v := by
  obtain ⟨hash, loadedAt, labelSet, generation⟩ := v
  cases labelSet with
  | none =>
      simp [Version.serialize, Version.deserialize, structFields, Serde.string, usize, nullable,
        generation_toNat]
  | some labels =>
      simp [Version.serialize, Version.deserialize, structFields, Serde.string, usize, nullable,
        generation_toNat]

def smallWire : CoreWire smallEval :=
  ⟨⟨Version.serialize, Version.deserialize, Version.deserialize_serialize⟩, .string⟩

/-- The version of an engine of one policy, as it was first built. -/
def firstVersion : Version := versionOf ⟨permitAll, false, none⟩ ⟨1, 0⟩

/-- The detailed response to an empty batch is read back as a brief one. -/
theorem emptyDetailed_readBack :
    ¬ ∀ v, AuthorizeResponseVariant.deserialize smallWire
        (AuthorizeResponseVariant.serialize smallWire v) = some v := by
  intro h
  have hback : AuthorizeResponseVariant.deserialize smallWire
      (AuthorizeResponseVariant.serialize smallWire (.detailed ⟨[], firstVersion, 0, 0⟩))
        = some (.brief ⟨[], firstVersion, 0, 0⟩) := rfl
  rw [h] at hback
  exact nomatch hback

end TreetopResponses
