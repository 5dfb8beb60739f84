import TreetopRest.MetadataModel

/-! # The records the API answers with

    Request-context status, bundle metadata, and the listing of a user's
    policies with its conversion from the core listing. -/

namespace TreetopWire

open TreetopErrors TreetopCrates TreetopMetadata

inductive SchemaValidationMode where
  | permissive
  | strict
deriving DecidableEq, Repr

/-- `Display` of the mode, as the metadata reports it. -/
def SchemaValidationMode.display : SchemaValidationMode → String
  | .permissive => "permissive"
  | .strict => "strict"

/-- How validated bundles are compiled into the policy engine. -/
inductive BundleEngineMode where
  | monolithic
  | bundleModules
deriving DecidableEq, Repr

inductive RequestContextFallbackReason where
  | noSchema
  | schemaIncompatible
deriving DecidableEq, Repr

structure RequestContextStatus where
  supported : Bool
  schemaBacked : Bool
  fallbackReason : Option RequestContextFallbackReason
deriving DecidableEq, Repr

namespace RequestContextStatus

/-- The three statuses the service ever reports. -/
def noSchema : RequestContextStatus := ⟨true, false, some .noSchema⟩
@[inherit_doc noSchema] def schemaBackedStatus : RequestContextStatus := ⟨true, true, none⟩
@[inherit_doc noSchema] def schemaIncompatible : RequestContextStatus :=
  ⟨true, false, some .schemaIncompatible⟩

end RequestContextStatus

/-- Metadata for the complete bundle that produced the active policy state. -/
structure BundleMetadata where
  formatVersion : UInt32
  bundleId : String
  archiveSha256 : String
  compressedSize : Nat
  moduleCount : Nat
  signed : Bool
  signingKeyId : Option String
  source : Option Endpoint
  refreshFrequency : Option UInt32
  loadedAt : Timestamp
deriving DecidableEq, Repr

/-- What uploads and the status answer about the policy state. -/
structure PoliciesMetadata where
  allowUpload : Bool
  schemaValidationMode : String
  policies : Metadata .ofPolicies
  labels : Metadata .ofLabels
  schema : Metadata .ofSchema
  bundle : Option BundleMetadata
deriving DecidableEq, Repr

/-- Why a policy was selected by list policies APIs. -/
inductive PolicyMatchReason where
  | principalEq | principalIn | principalAny | principalIs | principalIsIn
  | actionEq | actionIn | actionAny
  | resourceEq | resourceIn | resourceAny | resourceIs | resourceIsIn
deriving DecidableEq, Repr

def PolicyMatchReason.fromCore : CoreMatchReason → PolicyMatchReason
  | .principalEq => .principalEq
  | .principalIn => .principalIn
  | .principalAny => .principalAny
  | .principalIs => .principalIs
  | .principalIsIn => .principalIsIn
  | .actionEq => .actionEq
  | .actionIn => .actionIn
  | .actionAny => .actionAny
  | .resourceEq => .resourceEq
  | .resourceIn => .resourceIn
  | .resourceAny => .resourceAny
  | .resourceIs => .resourceIs
  | .resourceIsIn => .resourceIsIn

/-- Match metadata for one listed policy. -/
structure PolicyMatch where
  cedarId : String
  reasons : List PolicyMatchReason
deriving DecidableEq, Repr

def PolicyMatch.fromCore (m : CoreMatch) : PolicyMatch :=
  { cedarId := m.cedarId, reasons := m.reasons.map .fromCore }

/-- Policies associated with a specific user. -/
structure UserPolicies (Json : Type) where
  user : String
  policies : List Json
  matches' : List PolicyMatch

variable (X : Crates)

/-- The JSON rendering of a listing; fails on the first policy without one. -/
def UserPolicies.tryFrom (c : PolicyCandidates X.CedarPolicy) :
    Except ServiceError (UserPolicies X.Json) := do
  let policies ← c.policies.mapM fun policy =>
    match X.policyToJson policy with
    | .ok v => Except.ok v
    | .error err =>
        .error (.listPoliciesError ("failed to serialize policy to JSON: " ++ err))
  return { user := c.user, policies, matches' := c.matches'.map .fromCore }

/-- The raw rendering of a listing: one policy after the other. -/
def formatPoliciesRaw (c : PolicyCandidates X.CedarPolicy) : String :=
  "\n".intercalate (c.policies.map X.policyDisplay)

end TreetopWire
