import TreetopRest.RouteModel

/-! # The OpenAPI document

    The document is generated from the attributes of the handlers, and
    `AdmissionSecurity` then adds to every operation behind admission control
    the two rejections and the security alternatives.  The generator is a
    crate: what it is relied on for is `Generated`.  Parameters, request bodies
    and the contents of successful responses are left out. -/

namespace TreetopOpenApi

open TreetopErrors TreetopAdmission TreetopUpload TreetopRoutes

/-! ## Documents -/

/-- A response, with the names of its headers and the schema of each content. -/
structure Response where
  description : String
  headers : List (String × String)
  content : List (String × String)
deriving DecidableEq, Repr

/-- The security schemes that are all needed together. -/
abbrev SecurityRequirement := List String

structure Operation where
  operationId : Option String
  responses : List (String × Response)
  security : Option (List SecurityRequirement)
deriving DecidableEq, Repr

structure PathItem where
  get : Option Operation
  put : Option Operation
  post : Option Operation
  delete : Option Operation
  options : Option Operation
  head : Option Operation
  patch : Option Operation
  trace : Option Operation
deriving DecidableEq, Repr

/-- The operation of a method the routes use. -/
def PathItem.operation (item : PathItem) : Method → Option Operation
  | .get => item.get
  | .post => item.post

inductive SecurityScheme where
  | apiKeyHeader (name description : String)
  | httpBearer (description : String)
deriving DecidableEq, Repr

structure OpenApi where
  securitySchemes : List (String × SecurityScheme)
  paths : List (String × PathItem)
deriving DecidableEq, Repr

/-- The operation at a path. -/
def OpenApi.operation (doc : OpenApi) (path : String) (method : Method) : Option Operation :=
  (doc.paths.lookup path).bind fun item => item.operation method

/-! ## Admission -/

def uploadTokenSecurityScheme : String := "upload_token"

def accessTokenSecurityScheme : String := "access_token"

/-- `entry(key).or_insert_with(value)` -/
def orInsert {β : Type} (entries : List (String × β)) (key : String) (value : β) :
    List (String × β) :=
  if (entries.lookup key).isSome then entries else entries ++ [(key, value)]

/-- `insert(key, value)` -/
def insert {β : Type} (entries : List (String × β)) (key : String) (value : β) :
    List (String × β) :=
  entries.filter (fun entry => entry.1 != key) ++ [(key, value)]

def errorContent : List (String × String) := [("application/json", "ErrorResponse")]

def addAdmissionResponses (operation : Operation) : Operation :=
  { operation with
    responses :=
      orInsert
        (orInsert operation.responses "401"
          { description := "Missing, malformed, or invalid Bearer token"
            headers := [("WWW-Authenticate", "Bearer authentication challenge")]
            content := errorContent })
        "403"
        { description := "Client IP is not allowed or cannot be resolved"
          headers := []
          content := errorContent } }

def isUploadOperation (operationId : Option String) : Bool :=
  operationId = some "upload_policies" || operationId = some "upload_schema"
    || operationId = some "upload_bundle"

/-- An operation behind admission control. -/
def admissionOperation (operation : Operation) : Operation :=
  { addAdmissionResponses operation with
    security :=
      some
        (if isUploadOperation operation.operationId then
          [[uploadTokenSecurityScheme, accessTokenSecurityScheme], [uploadTokenSecurityScheme]]
        else [[accessTokenSecurityScheme], []]) }

/-- Change every operation of a path: `operations_mut`. -/
def PathItem.mapOperations (f : Operation → Operation) (item : PathItem) : PathItem where
  get := item.get.map f
  put := item.put.map f
  post := item.post.map f
  delete := item.delete.map f
  options := item.options.map f
  head := item.head.map f
  patch := item.patch.map f
  trace := item.trace.map f

/-- `AdmissionSecurity::modify` -/
def modify (openapi : OpenApi) : OpenApi where
  securitySchemes :=
    insert
      (insert openapi.securitySchemes uploadTokenSecurityScheme
        (.apiKeyHeader "X-Upload-Token" "Token printed at startup when uploads are enabled"))
      accessTokenSecurityScheme
      (.httpBearer ("Opaque operator-provided Bearer token. Required for /api/v1/** and /metrics "
        ++ "only when TREETOP_ACCESS_TOKENS is configured."))
  paths := openapi.paths.map fun (path, item) =>
    (path, if isProtectedPath path then item.mapOperations admissionOperation else item)

/-! ## The attributes of the handlers -/

/-- A `utoipa::path` attribute: the operation of a handler and the statuses it
    documents. -/
structure PathAttribute where
  handler : String
  method : Method
  path : String
  statuses : List Nat
deriving DecidableEq, Repr

/-- The handlers under `paths` of `ApiDoc`. -/
def apiDoc : List PathAttribute := [
  ⟨"authorize", .post, "/api/v1/authorize", [200, 400, 500]⟩,
  ⟨"get_policies", .get, "/api/v1/policies", [200, 400, 500]⟩,
  ⟨"upload_policies", .post, "/api/v1/policies", [200, 400, 403, 409, 500]⟩,
  ⟨"upload_bundle", .post, "/api/v1/bundle", [200, 400, 403, 413, 415, 500]⟩,
  ⟨"get_schema", .get, "/api/v1/schema", [200, 400, 500]⟩,
  ⟨"upload_schema", .post, "/api/v1/schema", [200, 400, 403, 409, 500]⟩,
  ⟨"list_policies", .get, "/api/v1/policies/\x7buser\x7d", [200, 400, 500]⟩,
  ⟨"get_status", .get, "/api/v1/status", [200, 400, 500]⟩,
  ⟨"livez", .get, "/livez", [200]⟩,
  ⟨"readyz", .get, "/readyz", [200, 503]⟩,
  ⟨"version", .get, "/api/v1/version", [200]⟩,
  ⟨"metrics", .get, "/metrics", [200]⟩,
  ⟨"openapi_json", .get, "/openapi.json", [200]⟩]

/-- The operation has a response for the status. -/
def Operation.documents (operation : Operation) (status : Nat) : Prop :=
  (operation.responses.lookup (toString status)).isSome = true

/-- What the generator makes of an attribute: an operation under its path and
    method, named after the handler, with a response for each status. -/
def PathAttribute.Generates (a : PathAttribute) (openapi : OpenApi) : Prop :=
  ∃ operation, openapi.operation a.path a.method = some operation
    ∧ operation.operationId = some a.handler
    ∧ ∀ status ∈ a.statuses, operation.documents status

/-- A document generated from the attributes, before it is modified. -/
def Generated (openapi : OpenApi) : Prop := ∀ a ∈ apiDoc, a.Generates openapi

end TreetopOpenApi
