import TreetopRest.ErrorModel

/-! # What the service takes from its crates

    Cedar, treetop-core, treetop-bundle, serde_json and sha2 are outside the
    repository: their types and functions are the fields of one structure,
    `Crates`, and every definition of the service is parametric in it.
    Nothing about them holds by definition; where a result relies on their
    documented behaviour it takes one of the laws below as a hypothesis. -/

namespace TreetopCrates

open TreetopErrors

/-- `treetop_core::PolicyMatchReason`. -/
inductive CoreMatchReason where
  | principalEq | principalIn | principalAny | principalIs | principalIsIn
  | actionEq | actionIn | actionAny
  | resourceEq | resourceIn | resourceAny | resourceIs | resourceIsIn
deriving DecidableEq, Repr

/-- `treetop_core::PolicyMatch`. -/
structure CoreMatch where
  cedarId : String
  reasons : List CoreMatchReason
deriving DecidableEq, Repr

/-- The outcome of `cedar_policy::Validator::validate`. -/
structure ValidationResult where
  validationPassed : Bool
  validationErrors : List String

/-- `treetop_core::PolicyCandidates`: the policies listed for a user. -/
structure PolicyCandidates (CedarPolicy : Type) where
  user : String
  policies : List CedarPolicy
  matches' : List CoreMatch

/-- `treetop_bundle::ArchiveLimits`. -/
structure ArchiveLimits where
  maxCompressedBytes : Nat
  maxUncompressedBytes : Nat
deriving DecidableEq, Repr

/-- The body of a schema upload: a wrapper, or the schema document itself. -/
inductive SchemaUpload (Json : Type) where
  | wrapped (schema : String)
  | raw (value : Json)

/-- The types and functions of the crates, as the service calls them. -/
structure Crates where
  -- serde_json: a value, its text, and the number of keys of an object
  Json : Type
  jsonFromStr : String → Except String Json
  jsonObjectLen : Json → Option Nat
  jsonToString : Json → Except String String
  -- serde: the derived deserialisers of `Upload` and `SchemaUpload`
  uploadFromSlice : List UInt8 → Except String String
  schemaUploadFromSlice : List UInt8 → Except String (SchemaUpload Json)
  -- sha2
  sha256 : List UInt8 → Vector UInt8 32
  -- cedar_policy
  CedarSchema : Type
  CedarPolicySet : Type
  CedarPolicy : Type
  schemaFromJsonStr : String → Except String CedarSchema
  policySetParse : String → Except String CedarPolicySet
  validateStrict : CedarSchema → CedarPolicySet → ValidationResult
  policyDisplay : CedarPolicy → String
  policyToJson : CedarPolicy → Except String Json
  -- treetop_core: engines, without the time and the generation they are
  -- stamped with as they are built; label registries, listings
  PolicyEngine : Type
  PreparedEngine : Type
  Labeler : Type
  LabelRegistryBuilder : Type
  LabelRegistry : Type
  newFromStr : String → Except PolicyError PolicyEngine
  newFromStrWithSchema : String → CedarSchema → Except PolicyError PolicyEngine
  prepared : PolicyEngine → PreparedEngine
  registryVersioned : String → LabelRegistryBuilder
  addLabeler : LabelRegistryBuilder → Labeler → LabelRegistryBuilder
  registryBuild : LabelRegistryBuilder → Except PolicyError LabelRegistry
  withLabelRegistry : PreparedEngine → LabelRegistry → PreparedEngine
  listPoliciesForUser : PreparedEngine → String → List String → List String →
    Except PolicyError (PolicyCandidates CedarPolicy)
  -- treetop_bundle: label documents
  LabelSet : Type
  labelSetFromJsonStr : String → Except BundleError LabelSet
  labelSetRules : LabelSet → Nat
  toLabelers : LabelSet → List Labeler
  validateSchemaJsonStr : LabelSet → String → Except BundleError Unit
  -- treetop_bundle: archives and their validation
  ValidatedBundle : Type
  SignaturePolicy : Type
  TrustStore : Type
  archiveLimitsNew : Nat → Nat → Except BundleError ArchiveLimits
  validateArchive : List UInt8 → SignaturePolicy → TrustStore → ArchiveLimits →
    Except BundleError ValidatedBundle
  sizeLimitDisplay : String → Nat → String
  -- treetop_bundle: a validated bundle
  schemaJson : ValidatedBundle → Option Json
  schemaJsonString : ValidatedBundle → Except BundleError (Option String)
  bundlePolicies : ValidatedBundle → String
  policyIds : ValidatedBundle → List String
  bundleLabels : ValidatedBundle → LabelSet
  labelsJson : ValidatedBundle → Except BundleError String
  prepareEngine : ValidatedBundle → Except BundleError PreparedEngine
  prepareEngineWithPolicyStores : ValidatedBundle → Except BundleError PreparedEngine
  formatVersion : ValidatedBundle → UInt32
  bundleId : ValidatedBundle → String
  archiveSha256 : ValidatedBundle → String
  compressedSize : ValidatedBundle → Nat
  moduleCount : ValidatedBundle → Nat
  /-- The key id of the verified signature, when the bundle is signed. -/
  verifiedSignature : ValidatedBundle → Option (Option String)

variable (X : Crates)

/-- Cedar accepts this policy text strictly against this schema. -/
def StrictlyValid (dsl : String) (schema : X.CedarSchema) : Prop :=
  ∃ ps, X.policySetParse dsl = .ok ps ∧
    (X.validateStrict schema ps).validationPassed = true

/-- The empty text is neither a JSON schema nor a JSON label document. -/
structure EmptyTextLaws : Prop where
  schema_empty : ∀ sch, X.schemaFromJsonStr "" ≠ .ok sch
  labels_empty : ∀ ls, X.labelSetFromJsonStr "" ≠ .ok ls

/-- What validation of a bundle guarantees about its parts: its label text is
    the document its labels are read from, it prints a schema exactly when it
    carries one, and that schema parses and accepts its own policies. -/
structure BundleLaws : Prop where
  labels_roundTrip : ∀ v txt, X.labelsJson v = .ok txt →
    ∃ ls, X.labelSetFromJsonStr txt = .ok ls ∧
      X.toLabelers ls = X.toLabelers (X.bundleLabels v)
  schema_printed : ∀ v txt, X.schemaJsonString v = .ok txt →
    (txt.isSome = true ↔ (X.schemaJson v).isSome = true)
  schema_validates : ∀ v txt, X.schemaJsonString v = .ok (some txt) →
    ∃ sch, X.schemaFromJsonStr txt = .ok sch ∧ StrictlyValid X (X.bundlePolicies v) sch

end TreetopCrates
