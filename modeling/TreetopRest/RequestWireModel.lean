import TreetopRest.ResponseModel
import TreetopRest.PipelineModel

/-! # Authorization requests on the wire

    What a client builds, how it is written, and what the server reads: the
    derived serialisers of the request types, at the level of JSON values, and
    the accessors with which a client looks its results up.  How the core
    writes a request and an attribute value is a parameter.  A context is a
    hash map on both sides, so the server reads it in an order of its own. -/

namespace TreetopRequestWire

open Serde
open TreetopErrors TreetopCrates TreetopStore TreetopFetcher
open TreetopAdmission TreetopConfig TreetopHandlers TreetopPipeline TreetopResponses

variable {X : Crates} {N : NetCrate} {C : EvalCrate X}

/-! ## Building -/

namespace AuthRequest

/-- `AuthRequest::new` -/
def new (request : C.Request) : AuthRequest C := ⟨none, none, request⟩

def withId (id : String) (request : C.Request) : AuthRequest C := ⟨some id, none, request⟩

/-- An empty context is no context. -/
def withContext (r : AuthRequest C) (context : List (String × AttrValue C.Atom)) :
    AuthRequest C :=
  if context.isEmpty then r else { r with context := some context }

end AuthRequest

/-- A batch of requests. -/
structure AuthorizeRequest (C : EvalCrate X) where
  requests : List (AuthRequest C)

namespace AuthorizeRequest

def new : AuthorizeRequest C := ⟨[]⟩

def addRequest (batch : AuthorizeRequest C) (request : C.Request) : AuthorizeRequest C :=
  ⟨batch.requests ++ [AuthRequest.new request]⟩

def addWithId (batch : AuthorizeRequest C) (id : String) (request : C.Request) :
    AuthorizeRequest C :=
  ⟨batch.requests ++ [AuthRequest.withId id request]⟩

def single (request : C.Request) : AuthorizeRequest C := ⟨[AuthRequest.new request]⟩

def fromRequests (requests : List C.Request) : AuthorizeRequest C := ⟨requests.map AuthRequest.new⟩

def withIds (requests : List (String × C.Request)) : AuthorizeRequest C :=
  ⟨requests.map fun (id, request) => AuthRequest.withId id request⟩

end AuthorizeRequest

/-! ## Writing and reading -/

/-- The wire formats of the core's own types: an attribute value, and the
    fields of a request, none of which is named like a field beside it. -/
structure RequestWire (C : EvalCrate X) where
  attrValue : Codec (AttrValue C.Atom)
  request : C.Request → List (String × Json)
  readRequest : List (String × Json) → Option C.Request
  read_write : ∀ r, readRequest (request r) = some r
  names : ∀ r, ∀ e ∈ request r, e.1 ≠ "id" ∧ e.1 ≠ "context"

variable (R : RequestWire C)
  (order : List (String × AttrValue C.Atom) → List (String × AttrValue C.Atom))

/-- An absent id is written as null, an absent context is not written, and the
    request is flattened. -/
def AuthRequest.serialize (r : AuthRequest C) : Json :=
  .obj (("id", (r.id.map Json.str).getD .null) ::
    ((r.context.map fun context =>
        ("context", Json.obj (context.map fun e => (e.1, R.attrValue.write e.2)))).toList
      ++ R.request r.request))

def AuthRequest.deserialize (value : Json) : Option (AuthRequest C) := do
  let entries ← mapFields value
  let id ← optionalField entries "id" string
  let context ← optionalField entries "context" (hashMap order R.attrValue.read)
  let request ← R.readRequest (flattened ["id", "context"] entries)
  return { id, context, request }

def AuthorizeRequest.serialize (batch : AuthorizeRequest C) : Json :=
  .obj [("requests", .arr (batch.requests.map (AuthRequest.serialize R)))]

def AuthorizeRequest.deserialize (value : Json) : Option (AuthorizeRequest C) := do
  let entries ← structFields ["requests"] value
  let requests ← requiredField entries "requests" (vec (AuthRequest.deserialize R order))
  return { requests }

/-! ## Looking results up -/

/-- The first result with an id. -/
def AuthorizeResponse.findById {T : Type} (response : AuthorizeResponse C T) (id : String) :
    Option (IndexedResult T) :=
  response.results.find? fun r => r.id = some id

/-- The result at a position. -/
def AuthorizeResponse.getAt {T : Type} (response : AuthorizeResponse C T) (index : Nat) :
    Option (IndexedResult T) :=
  response.results[index]?

/-! ## An exchange -/

/-- What a client gets for its batch: the server reads what it wrote, answers
    it with the store as the handler finds it, and the client reads the answer.
    Nothing comes of it if either side cannot read the other. -/
def exchange (W : CoreWire C) (l : Launched X N) (shared : SharedStore X) (stamp : Stamp)
    (detail : Option String) (schedule : ∀ n, ParallelMap.Schedule n)
    (batch : AuthorizeRequest C) :
    Option (Except ServiceError (AuthorizeResponseVariant C)) := do
  let received ← AuthorizeRequest.deserialize R order (AuthorizeRequest.serialize R batch)
  match (authorizeHandler l shared stamp detail received.requests (schedule _)).2 with
  | .error e => return .error e
  | .ok v =>
      return .ok (← AuthorizeResponseVariant.deserialize W
        (AuthorizeResponseVariant.serialize W v))

end TreetopRequestWire
