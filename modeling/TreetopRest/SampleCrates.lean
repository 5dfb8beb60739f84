import TreetopRest.HandlerModel

/-! # A small instance of the crates

    `Crates` is a long list of parameters, and the laws about it are
    hypotheses.  The instance below knows a handful of documents and behaves
    on them as the crates do, but for listings under a schema, so the laws hold
    together (`emptyTextLaws_small`, `bundleLaws_small`) and every definition
    of the service can be run. -/

namespace TreetopSample

open Text TreetopErrors TreetopCrates TreetopMetadata TreetopStore TreetopHandlers

/-! ## Documents -/

def permitAll : String := "permit(principal, action, resource);"

/-- A policy about an entity type that `photoSchema` does not declare. -/
def permitOps : String := "permit(principal == Group::\"ops\", action, resource);"

/-- Users may view photos. -/
def photoSchema : String :=
    "\x7b\"\":\x7b\"entityTypes\":\x7b\"User\":\x7b\x7d,\"Photo\":\x7b\"shape\":" ++
    "\x7b\"type\":\"Record\",\"attributes\":\x7b\"name\":\x7b\"type\":\"String\"\x7d," ++
    "\"tags\":\x7b\"type\":\"Set\",\"element\":\x7b\"type\":\"String\"\x7d\x7d\x7d\x7d\x7d\x7d," ++
    "\"actions\":\x7b\"view\":\x7b\"appliesTo\":\x7b\"principalTypes\":[\"User\"]," ++
    "\"resourceTypes\":[\"Photo\"]\x7d\x7d\x7d\x7d\x7d"

def photoLabels : String :=
    "[\x7b\"target\":\x7b\"resource_type\":\"Photo\",\"attribute\":\"tags\"\x7d,\"field" ++
    "\":\"name\",\"patterns\":[\x7b\"name\":\"trip\",\"regex\":\"^Trip\"\x7d]\x7d]"

/-- The SHA-256 digests of these documents, and of two access tokens. -/
def digests : List (String × Vector UInt8 32) := [
  ("",
    #v[227, 176, 196, 66, 152, 252, 28, 20, 154, 251, 244, 200, 153, 111, 185, 36, 39,
      174, 65, 228, 100, 155, 147, 76, 164, 149, 153, 27, 120, 82, 184, 85]),
  (permitAll,
    #v[186, 207, 163, 250, 184, 179, 74, 135, 251, 230, 141, 43, 148, 155, 143, 182, 43,
      192, 147, 148, 42, 132, 253, 154, 8, 84, 63, 21, 160, 182, 62, 226]),
  (permitOps,
    #v[230, 4, 207, 141, 162, 214, 93, 40, 6, 106, 73, 164, 238, 252, 53, 67, 53, 5,
      178, 37, 135, 32, 252, 90, 134, 184, 21, 87, 167, 148, 147, 59]),
  (photoSchema,
    #v[177, 132, 147, 248, 198, 168, 78, 134, 118, 73, 21, 66, 169, 248, 20, 218, 159, 36,
      77, 70, 105, 139, 171, 98, 171, 24, 55, 40, 195, 240, 72, 58]),
  (photoLabels,
    #v[219, 130, 203, 47, 6, 26, 243, 245, 161, 204, 105, 160, 30, 122, 248, 25, 178,
      98, 219, 162, 36, 23, 143, 181, 166, 32, 86, 61, 203, 174, 109, 103]),
  ("photo-reader",
    #v[49, 33, 210, 115, 152, 193, 31, 135, 221, 147, 203, 99, 90, 189, 148, 233, 176,
      69, 140, 113, 220, 145, 168, 242, 142, 120, 143, 106, 222, 17, 80, 211]),
  ("photo-writer",
    #v[223, 46, 2, 114, 45, 88, 73, 237, 251, 80, 64, 173, 117, 101, 73, 121, 148, 37,
      244, 227, 58, 126, 255, 201, 69, 115, 11, 139, 242, 137, 17, 157])]

/-- The bytes of the one archive the instance can validate, and their digest. -/
def archiveBytes : List UInt8 := [31, 139, 8, 0, 1]

@[inherit_doc archiveBytes]
def archiveDigestBytes : Vector UInt8 32 :=
  #v[112, 101, 235, 237, 181, 16, 127, 154, 105, 146, 76, 218, 238, 199, 31, 254, 63,
    68, 194, 11, 54, 180, 248, 20, 156, 80, 54, 204, 28, 73, 148, 79]

def archiveDigest : String := hexDigest archiveDigestBytes

/-! ## The instance -/

/-- An engine is the policy text, whether a schema came with it, and the
    version of its label registry. -/
structure Engine where
  dsl : String
  withSchema : Bool
  labels : Option String
deriving DecidableEq, Repr

/-- A validated bundle of `permitAll` and `photoLabels`, with or without
    `photoSchema`. -/
structure Bundle where
  withSchema : Bool
  archiveSha256 : String
deriving DecidableEq, Repr

/-- The crates on these documents.  An engine with a schema lists no policy
    for a user: the core leaves open whether a schema narrows a listing. -/
def small : Crates where
  Json := String
  jsonFromStr t :=
    if t = photoSchema then .ok t
    else .error "EOF while parsing a value at line 1 column 0"
  jsonObjectLen t := if t = photoSchema then some 1 else none
  jsonToString t := .ok t
  uploadFromSlice _ := .error "expected value at line 1 column 1"
  schemaUploadFromSlice bs :=
    if bs = asBytes photoSchema.toList then .ok (.raw photoSchema)
    else .error "expected value at line 1 column 1"
  sha256 bs :=
    if bs = archiveBytes then archiveDigestBytes
    else match digests.find? (fun d => asBytes d.1.toList = bs) with
      | some d => d.2
      | none => Vector.replicate 32 0
  CedarSchema := Unit
  CedarPolicySet := String
  CedarPolicy := String
  schemaFromJsonStr t :=
    if t = photoSchema then .ok ()
    else .error "failed to parse schema from JSON: EOF while parsing a value"
  policySetParse t :=
    if t = "" ∨ t = permitAll ∨ t = permitOps then .ok t
    else .error "unexpected token"
  validateStrict _ ps :=
    if ps = permitOps then ⟨false, ["unrecognized entity type Group"]⟩ else ⟨true, []⟩
  policyDisplay p := p
  policyToJson p := .ok p
  PolicyEngine := Engine
  PreparedEngine := Engine
  Labeler := String
  LabelRegistryBuilder := String
  LabelRegistry := String
  newFromStr t :=
    if t = "" ∨ t = permitAll ∨ t = permitOps then .ok ⟨t, false, none⟩
    else .error (.parseError "unexpected token")
  newFromStrWithSchema t _ :=
    if t = "" ∨ t = permitAll then .ok ⟨t, true, none⟩
    else .error (.parseError "unexpected token")
  prepared e := e
  registryVersioned v := v
  addLabeler b _ := b
  registryBuild b := .ok b
  withLabelRegistry e r := { e with labels := some r }
  listPoliciesForUser e user _ _ :=
    .ok ⟨user, if e.withSchema ∨ e.dsl = "" then [] else [e.dsl], []⟩
  LabelSet := List String
  labelSetFromJsonStr t :=
    if t = photoLabels then .ok ["tags"]
    else .error (.other "invalid labels JSON: EOF while parsing a value")
  labelSetRules ls := ls.length
  toLabelers ls := ls
  validateSchemaJsonStr _ t :=
    if t = photoSchema then .ok () else .error (.other "invalid schema JSON")
  ValidatedBundle := Bundle
  SignaturePolicy := Unit
  TrustStore := Unit
  archiveLimitsNew compressed uncompressed := .ok ⟨compressed, uncompressed⟩
  validateArchive bs _ _ _ :=
    if bs = archiveBytes then .ok ⟨true, archiveDigest⟩
    else .error (.archive "invalid_gzip" "archive error: invalid gzip header")
  sizeLimitDisplay kind limit := kind ++ " size limit of " ++ toString limit ++ " exceeded"
  schemaJson v := if v.withSchema then some photoSchema else none
  schemaJsonString v := .ok (if v.withSchema then some photoSchema else none)
  bundlePolicies _ := permitAll
  policyIds _ := ["policy0"]
  bundleLabels _ := ["tags"]
  labelsJson _ := .ok photoLabels
  prepareEngine v := .ok ⟨permitAll, v.withSchema, some "bundle"⟩
  prepareEngineWithPolicyStores v := .ok ⟨permitAll, v.withSchema, some "bundle"⟩
  formatVersion _ := 2
  bundleId _ := "photos"
  archiveSha256 v := v.archiveSha256
  compressedSize _ := 512
  moduleCount _ := 1
  verifiedSignature _ := none

theorem emptyTextLaws_small : EmptyTextLaws small where
  schema_empty := by
    intro sch h
    exact nomatch h
  labels_empty := by
    intro ls h
    exact nomatch h

theorem bundleLaws_small : BundleLaws small where
  labels_roundTrip := by
    intro v txt h
    have htxt : photoLabels = txt := Except.ok.inj h
    exact ⟨["tags"], if_pos htxt.symm, rfl⟩
  schema_printed := by
    rintro ⟨withSchema, sha⟩ txt h
    cases h
    cases withSchema <;> exact Iff.rfl
  schema_validates := by
    rintro ⟨withSchema, sha⟩ txt h
    cases withSchema with
    | false => exact nomatch h
    | true =>
        have htxt : photoSchema = txt := Option.some.inj (Except.ok.inj h)
        exact ⟨(), if_pos htxt.symm, permitAll, rfl, rfl⟩

/-- The fresh store over these crates. -/
def fresh : PolicyStore small := (PolicyStore.new small 0).toOption.get rfl

theorem new_fresh : PolicyStore.new small 0 = .ok fresh := rfl

/-- The version of an engine, with its stamp. -/
structure Version where
  hash : String
  loadedAt : Timestamp
  labelSet : Option String
  generation : UInt64
deriving DecidableEq, Repr

def versionOf (e : Engine) (stamp : Stamp) : Version :=
  ⟨makeHash small e.dsl, stamp.loadedAt, e.labels, stamp.generation⟩

/-- The core on these engines: a session is an engine with its stamp, and a
    request is answered by the policies that list for its user. -/
def smallEval : EvalCrate small where
  coreVersion := "0.3.0"
  cedarVersion := "4.13.0"
  PolicyVersion := Version
  versionHash v := v.hash
  versionLabelSet v := v.labelSet
  currentVersion := versionOf
  Session := Engine × Stamp
  session := Prod.mk
  sessionVersion session := versionOf session.1 session.2
  Request := String
  RequestContext := List String
  Atom := String
  contextNew := []
  contextInsert context key _ := key :: context
  contextToVec context := .ok (context.flatMap fun entry => asBytes entry.1.toList)
  Decision := Engine × Stamp
  evaluate session user :=
    if user = "" then .error (.entityError "empty principal") else .ok session
  evaluateWithContext session user _ :=
    if user = "" then .error (.entityError "empty principal") else .ok session
  policyErrorToString _ := "entity error: empty principal"
  PermitPolicy := String
  isAllowed d := d.1.dsl = permitAll
  decisionVersion d := versionOf d.1 d.2
  permitPolicies d := if d.1.dsl = permitAll then some [permitAll] else none
  permitPolicyIds policies := policies.map fun _ => "policy0"

end TreetopSample
