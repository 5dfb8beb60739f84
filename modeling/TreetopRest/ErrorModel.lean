import Mathlib.Tactic.Common

/-! # Errors of the service and of the crates below it

    `ServiceError` with its message, HTTP status and code, and the two crate
    errors it is converted from.  The texts are the source's own. -/

namespace TreetopErrors

/-- Every way a request or an update of the service can fail. -/
inductive ServiceError where
  | lockPoison (msg : String)
  | invalidIp
  | invalidJsonPayload (msg : String)
  | invalidTextPayload
  | uploadNotAllowed
  | invalidUploadToken
  | uploadTokenNotSet
  | clientNotAllowed
  | invalidAccessToken
  | compileError (msg : String)
  | schemaValidationError (msg : String)
  | contextValidationError (msg : String)
  | evaluationError (msg : String)
  | listPoliciesError (msg : String)
  | validationError (msg : String)
  | invalidBundle (msg : String)
  | bundleTooLarge (msg : String)
  | unsupportedBundleMediaType
  | bundleModeConflict
deriving DecidableEq, Repr

namespace ServiceError

/-- The message of an error (`Display`). -/
def message : ServiceError → String
  | lockPoison msg => "Internal server error: " ++ msg
  | invalidIp => "Invalid IP address"
  | invalidJsonPayload msg => "Invalid JSON payload: " ++ msg
  | invalidTextPayload => "Invalid text payload"
  | compileError msg => "Failed to compile policies: " ++ msg
  | evaluationError msg => "Policy evaluation error: " ++ msg
  | listPoliciesError _ => "Error listing policies"
  | uploadNotAllowed => "Policy upload is not allowed"
  | invalidUploadToken => "Invalid upload token provided"
  | uploadTokenNotSet => "Upload token is not set"
  | clientNotAllowed => "Client is not allowed"
  | invalidAccessToken => "Invalid or missing access token"
  | validationError msg => "Validation error: " ++ msg
  | invalidBundle msg => "Invalid bundle: " ++ msg
  | bundleTooLarge msg => "Bundle too large: " ++ msg
  | unsupportedBundleMediaType =>
      "Bundle uploads require application/gzip or application/x-gzip"
  | bundleModeConflict =>
      "Individual policy and schema uploads are disabled in bundle URL mode"
  | schemaValidationError msg => "Schema validation error: " ++ msg
  | contextValidationError msg => "Context validation error: " ++ msg

def statusCode : ServiceError → Nat
  | lockPoison _ | evaluationError _ | listPoliciesError _ => 500
  | invalidIp | invalidJsonPayload _ | invalidTextPayload | validationError _
  | compileError _ | schemaValidationError _ | contextValidationError _ => 400
  | invalidBundle _ => 400
  | bundleTooLarge _ => 413
  | unsupportedBundleMediaType => 415
  | bundleModeConflict => 409
  | uploadNotAllowed | invalidUploadToken | uploadTokenNotSet | clientNotAllowed => 403
  | invalidAccessToken => 401

def code : ServiceError → String
  | lockPoison _ => "lock_poisoned"
  | invalidIp => "invalid_ip"
  | invalidJsonPayload _ => "invalid_json_payload"
  | invalidTextPayload => "invalid_text_payload"
  | uploadNotAllowed => "upload_not_allowed"
  | invalidUploadToken => "invalid_upload_token"
  | uploadTokenNotSet => "upload_token_not_set"
  | clientNotAllowed => "client_not_allowed"
  | invalidAccessToken => "invalid_access_token"
  | compileError _ => "compile_error"
  | schemaValidationError _ => "schema_validation_error"
  | contextValidationError _ => "context_validation_error"
  | evaluationError _ => "evaluation_error"
  | listPoliciesError _ => "list_policies_error"
  | validationError _ => "validation_error"
  | invalidBundle _ => "invalid_bundle"
  | bundleTooLarge _ => "bundle_too_large"
  | unsupportedBundleMediaType => "unsupported_bundle_media_type"
  | bundleModeConflict => "bundle_mode_conflict"

/-- No error is answered with a success or a redirect. -/
theorem statusCode_ge (e : ServiceError) : 400 ≤ e.statusCode := by
  cases e <;> simp [statusCode]

end ServiceError

/-- `treetop_core::PolicyError`, by the variants the conversion tells apart. -/
inductive PolicyError where
  | parseError (msg : String)
  | evalError (msg : String)
  | entityError (msg : String)
  | entityAttrError (msg : String)
  | requestValidationError (msg : String)
  | invalidFormat (msg : String)
  | contextError (msg : String)
  | other (display : String)
deriving DecidableEq, Repr

def ServiceError.fromPolicyError : PolicyError → ServiceError
  | .parseError msg => .compileError msg
  | .evalError msg | .entityError msg | .entityAttrError msg => .evaluationError msg
  | .requestValidationError msg | .invalidFormat msg => .validationError msg
  | .contextError msg => .contextValidationError msg
  | .other display => .evaluationError display

/-- `treetop_bundle::BundleError`; every variant knows its `Display` text. -/
inductive BundleError where
  | sizeLimit (kind : String) (limit : Nat) (display : String)
  | archive (message : String) (display : String)
  | validation (diagnostics : List String)
  | other (display : String)
deriving DecidableEq, Repr

def ServiceError.fromBundleError : BundleError → ServiceError
  | .sizeLimit _ _ display => .bundleTooLarge display
  | .validation diagnostics => .invalidBundle ("; ".intercalate diagnostics)
  | .archive _ display => .invalidBundle display
  | .other display => .invalidBundle display

end TreetopErrors
