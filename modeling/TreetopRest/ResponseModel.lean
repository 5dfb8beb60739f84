import TreetopRest.Lib.SerdeProofs
import TreetopRest.HandlerModel

/-! # Authorization responses on the wire

    The derived serialisers and deserialisers of the response types, at the
    level of JSON values: the text of a value is left to serde_json.  How the
    core writes its policy versions and permit policies is a parameter. -/

namespace TreetopResponses

open Serde TreetopCrates TreetopHandlers

variable {X : Crates} {T : Type}

/-- The wire formats of the core's own types. -/
structure CoreWire (C : EvalCrate X) where
  policyVersion : Codec C.PolicyVersion
  permitPolicy : Codec C.PermitPolicy

variable {C : EvalCrate X} (W : CoreWire C)

/-! ## Decisions -/

def DecisionBrief.serialize : DecisionBrief → Json
  | .allow => .str "Allow"
  | .deny => .str "Deny"

def DecisionBrief.deserialize (value : Json) : Option DecisionBrief :=
  (unitVariant value).bind fun name =>
    if name = "Allow" then some .allow
    else if name = "Deny" then some .deny
    else none

def AuthorizeDecisionBrief.serialize (d : AuthorizeDecisionBrief C) : Json :=
  .obj [("decision", DecisionBrief.serialize d.decision),
    ("version", W.policyVersion.write d.version),
    ("policy_id", .str d.policyId)]

def AuthorizeDecisionBrief.deserialize (value : Json) : Option (AuthorizeDecisionBrief C) := do
  let entries ← structFields ["decision", "version", "policy_id"] value
  let decision ← requiredField entries "decision" DecisionBrief.deserialize
  let version ← requiredField entries "version" W.policyVersion.read
  let policyId ← requiredField entries "policy_id" string
  return { decision, version, policyId }

def AuthorizeDecisionDetailed.serialize (d : AuthorizeDecisionDetailed C) : Json :=
  .obj [("policy", .arr (d.policy.map W.permitPolicy.write)),
    ("decision", DecisionBrief.serialize d.decision),
    ("version", W.policyVersion.write d.version)]

def AuthorizeDecisionDetailed.deserialize (value : Json) :
    Option (AuthorizeDecisionDetailed C) := do
  let entries ← structFields ["policy", "decision", "version"] value
  let policy ← requiredField entries "policy" (vec W.permitPolicy.read)
  let decision ← requiredField entries "decision" DecisionBrief.deserialize
  let version ← requiredField entries "version" W.policyVersion.read
  return { policy, decision, version }

/-! ## Results -/

/-- Tagged by `status`, in lower case. -/
def BatchResult.serialize (data : T → Json) : BatchResult T → List (String × Json)
  | .success d => [("status", .str "success"), ("result", data d)]
  | .failed message => [("status", .str "failed"), ("error", .str message)]

def BatchResult.deserialize (data : Json → Option T) (entries : List (String × Json)) :
    Option (BatchResult T) := do
  let (status, entries) ← tagged "status" ["success", "failed"] entries
  if status = "success" then
    return .success (← requiredField entries "result" data)
  else
    return .failed (← requiredField entries "error" string)

/-- An absent id is not written, and the result is flattened. -/
def IndexedResult.serialize (data : T → Json) (r : IndexedResult T) : Json :=
  .obj (("index", .num (.posInt r.index)) ::
    ((r.id.map fun id => ("id", .str id)).toList ++ BatchResult.serialize data r.result))

def IndexedResult.deserialize (data : Json → Option T) (value : Json) :
    Option (IndexedResult T) := do
  let entries ← mapFields value
  let index ← requiredField entries "index" usize
  let id ← optionalField entries "id" string
  let result ← BatchResult.deserialize data (flattened ["index", "id"] entries)
  return { index, id, result }

/-! ## Responses -/

def AuthorizeResponse.serialize (data : T → Json) (r : AuthorizeResponse C T) : Json :=
  .obj [("results", .arr (r.results.map (IndexedResult.serialize data))),
    ("version", W.policyVersion.write r.version),
    ("successful", .num (.posInt r.successful)),
    ("failed", .num (.posInt r.failed))]

def AuthorizeResponse.deserialize (data : Json → Option T) (value : Json) :
    Option (AuthorizeResponse C T) := do
  let entries ← structFields ["results", "version", "successful", "failed"] value
  let results ← requiredField entries "results" (vec (IndexedResult.deserialize data))
  let version ← requiredField entries "version" W.policyVersion.read
  let successful ← requiredField entries "successful" usize
  let failed ← requiredField entries "failed" usize
  return { results, version, successful, failed }

def AuthorizeResponseVariant.serialize : AuthorizeResponseVariant C → Json
  | .brief response =>
      AuthorizeResponse.serialize W (AuthorizeDecisionBrief.serialize W) response
  | .detailed response =>
      AuthorizeResponse.serialize W (AuthorizeDecisionDetailed.serialize W) response

def AuthorizeResponseVariant.deserialize (value : Json) : Option (AuthorizeResponseVariant C) :=
  untagged [
    fun value => (AuthorizeResponse.deserialize W
      (AuthorizeDecisionBrief.deserialize W) value).map .brief,
    fun value => (AuthorizeResponse.deserialize W
      (AuthorizeDecisionDetailed.deserialize W) value).map .detailed] value

end TreetopResponses
