import TreetopRest.AddressModel
import TreetopRest.RequestModel
import Mathlib.Data.List.Dedup

/-! # Admission control

    The admission settings with their three text parsers, and the middleware
    that decides on every request before any handler sees it.  Networks are
    those of the address crate, which is a parameter (`NetCrate`), and so is
    the route matching of the framework (`RouteLaws`).  Metrics and log
    lines are left out. -/

namespace TreetopAdmission

open Text TreetopErrors TreetopCrates TreetopMetadata
open TreetopAddress TreetopRequest

/-! ## Networks -/

/-- What the service takes from the network crate: the two kinds of network,
    their notation `address/prefix`, and which addresses they contain. -/
structure NetCrate where
  Ipv4Net : Type
  Ipv6Net : Type
  ipNetFromStr : List Char → Option (Ipv4Net ⊕ Ipv6Net)
  ipv4NetNew : Ipv4Addr → Nat → Option Ipv4Net
  ipv6NetNew : Ipv6Addr → Nat → Option Ipv6Net
  contains4 : Ipv4Net → Ipv4Addr → Bool
  contains6 : Ipv6Net → Ipv6Addr → Bool

/-- A bare address is not the notation of a network, and a network with all
    bits fixed is one address. -/
structure NetLaws (N : NetCrate) : Prop where
  bare : ∀ s ip, IpAddr.fromStr s = some ip → N.ipNetFromStr s = none
  host4 : ∀ addr, ∃ net, N.ipv4NetNew addr 32 = some net
    ∧ ∀ b, N.contains4 net b = true ↔ b = addr
  host6 : ∀ addr, ∃ net, N.ipv6NetNew addr 128 = some net
    ∧ ∀ b, N.contains6 net b = true ↔ b = addr

/-- A network of either family. -/
abbrev IpNet (N : NetCrate) := N.Ipv4Net ⊕ N.Ipv6Net

variable {X : Crates} {N : NetCrate}

/-- A network contains addresses of its own family only. -/
def IpNet.contains (net : IpNet N) (ip : IpAddr) : Bool :=
  match net, ip with
  | .inl net, .v4 addr => N.contains4 net addr
  | .inr net, .v6 addr => N.contains6 net addr
  | _, _ => false

/-! ## Settings -/

inductive ClientAllowlist (N : NetCrate) where
  | any
  | nets (nets : List (IpNet N))

namespace ClientAllowlist

/-- A bare address as the network of just that address. -/
def ipToHostNet (N : NetCrate) (raw : List Char) : Option (IpNet N) :=
  match IpAddr.fromStr raw with
  | some (.v4 addr) => (N.ipv4NetNew addr 32).map .inl
  | some (.v6 addr) => (N.ipv6NetNew addr 128).map .inr
  | none => none

def parseNet (N : NetCrate) (raw : List Char) : Except ServiceError (IpNet N) :=
  match (N.ipNetFromStr raw).or (ipToHostNet N raw) with
  | some net => .ok net
  | none => .error .invalidIp

/-- The entries of the list, one after the other. -/
def parseEntries (N : NetCrate) : List (List Char) → Except ServiceError (List (IpNet N))
  | [] => .ok []
  | entry :: entries => do
      if entry.isEmpty then
        throw (.validationError "TREETOP_CLIENT_ALLOWLIST contains an empty entry")
      if entry = "*".toList then
        throw (.validationError
          "TREETOP_CLIENT_ALLOWLIST cannot mix '*' with addresses or networks")
      let net ← parseNet N entry
      let nets ← parseEntries N entries
      return net :: nets

/-- Parse the environment value. Unset, blank, and `*` all mean open access. -/
def parseEnv (N : NetCrate) (input : Option String) :
    Except ServiceError (ClientAllowlist N) :=
  match input with
  | none => .ok .any
  | some input =>
      let trimmed := trim input.toList
      if trimmed.isEmpty || trimmed = "*".toList then .ok .any
      else (parseEntries N ((trimmed.splitOn ',').map trim)).map .nets

def allows (allowlist : ClientAllowlist N) (ip : IpAddr) : Bool :=
  match allowlist with
  | .any => true
  | .nets networks => networks.any fun net =>
      match net, ip with
      | .inl net, .v4 addr => N.contains4 net addr
      | .inr net, .v6 addr => N.contains6 net addr
      | _, _ => false

end ClientAllowlist

/-- The bytes a bearer token may have before its padding. -/
def isTokenByte (byte : UInt8) : Bool :=
  (0x30 ≤ byte && byte ≤ 0x39) || (0x41 ≤ byte && byte ≤ 0x5A) || (0x61 ≤ byte && byte ≤ 0x7A)
    || byte == 0x2D || byte == 0x2E || byte == 0x5F || byte == 0x7E || byte == 0x2B
    || byte == 0x2F

/-- The rest of a token, after `bodyBytes` bytes and maybe some padding. -/
def validBearerBytes : List UInt8 → Nat → Bool → Bool
  | [], bodyBytes, _ => bodyBytes > 0
  | byte :: rest, bodyBytes, paddingStarted =>
      if byte = 0x3D then validBearerBytes rest bodyBytes true
      else if paddingStarted || !isTokenByte byte then false
      else validBearerBytes rest (bodyBytes + 1) paddingStarted

def validBearerToken (token : List Char) : Bool := validBearerBytes (asBytes token) 0 false

def hashToken (X : Crates) (token : List Char) : Vector UInt8 32 := X.sha256 (asBytes token)

/-- The configured tokens, by their digests; the order is of no account. -/
structure AccessTokens where
  digests : List (Vector UInt8 32)

namespace AccessTokens

def parseEnv (X : Crates) (input : Option String) : Except ServiceError AccessTokens :=
  match input with
  | none => .ok ⟨[]⟩
  | some input =>
      if (trim input.toList).isEmpty then .ok ⟨[]⟩
      else
        let entries := (input.toList.splitOn ',').map trim
        if entries.any fun entry => entry.isEmpty then
          .error (.validationError "TREETOP_ACCESS_TOKENS contains an empty entry")
        else if entries.any fun token => !validBearerToken token then
          .error (.validationError "TREETOP_ACCESS_TOKENS contains an invalid Bearer token")
        else .ok ⟨(entries.map (hashToken X)).dedup⟩

def isEmpty (tokens : AccessTokens) : Bool := tokens.digests.isEmpty

/-- Every digest is compared, also after one has matched. -/
def matches' (X : Crates) (tokens : AccessTokens) (token : List Char) : Bool :=
  let candidate := hashToken X token
  tokens.digests.foldl (fun matched configured => matched || configured == candidate) false

end AccessTokens

/-- The entries of a network list such as the trusted proxies. -/
def parseNetworkList (N : NetCrate) (input : Option String) (name : String) :
    Except ServiceError (List (IpNet N)) :=
  match input with
  | none => .ok []
  | some input =>
      if (trim input.toList).isEmpty then .ok []
      else ((input.toList.splitOn ',').map trim).mapM fun entry =>
        if entry.isEmpty then
          .error (.validationError (name ++ " contains an empty entry"))
        else if entry = "*".toList then
          .error (.validationError (name ++ " does not accept a wildcard"))
        else (ClientAllowlist.parseNet N entry).mapError fun _ =>
          .validationError (name ++ " contains an invalid address or network")

structure AdmissionConfig (N : NetCrate) where
  clientAllowlist : ClientAllowlist N
  trustedProxies : List (IpNet N)
  accessTokens : AccessTokens

namespace AdmissionConfig

def parse (X : Crates) (N : NetCrate)
    (clientAllowlist accessTokens trustedProxies : Option String) :
    Except ServiceError (AdmissionConfig N) := do
  let clientAllowlist ← ClientAllowlist.parseEnv N clientAllowlist
  let trustedProxies ← parseNetworkList N trustedProxies "TREETOP_TRUSTED_PROXIES"
  let accessTokens ← AccessTokens.parseEnv X accessTokens
  return { clientAllowlist, trustedProxies, accessTokens }

def hasAcl (config : AdmissionConfig N) : Bool :=
  match config.clientAllowlist with
  | .nets _ => true
  | .any => false

/-- Whether `main` installs the middleware at all. -/
def enabled (config : AdmissionConfig N) : Bool :=
  config.hasAcl || !config.accessTokens.isEmpty

end AdmissionConfig

/-! ## Requests -/

/-- A request as the middleware sees it; `path` is the path that is routed. -/
structure ServiceRequest where
  path : String
  headers : HeaderMap
  peerAddr : Option SocketAddr
  /-- The client address an admission check has left for the layers below. -/
  resolvedClientIp : Option IpAddr

def isProtectedPath (path : String) : Bool :=
  path == "/metrics" || path == "/api/v1" || "/api/v1/".toList.isPrefixOf path.toList

inductive BearerError where
  | missing
  | malformed
deriving DecidableEq, Repr

/-- The token of the one Authorization header. -/
def bearerToken (headers : HeaderMap) : Except BearerError (List Char) :=
  match headers.getAll "authorization" with
  | [] => .error .missing
  | _ :: _ :: _ => .error .malformed
  | [value] =>
      match value.toStr.bind fun raw => splitOnce ' ' raw.toList with
      | none => .error .malformed
      | some (scheme, token) =>
          if !eqIgnoreAsciiCase scheme "Bearer".toList || !validBearerToken token then
            .error .malformed
          else .ok token

inductive ClientIpError where
  | malformedForwardedFor
deriving DecidableEq, Repr

def ipInNets (ip : IpAddr) (nets : List (IpNet N)) : Bool :=
  nets.any fun net => IpNet.contains net ip

/-- The text without one character at its front. -/
def stripPrefix (c : Char) : List Char → Option (List Char)
  | x :: rest => if x = c then some rest else none
  | [] => none

def parseSocket (raw : List Char) : Option IpAddr :=
  match SocketAddr.fromStr raw with
  | some sa => some sa.ip
  | none => ((stripPrefix '[' raw).bind (stripSuffix ']')).bind IpAddr.fromStr

def parseIpToken (raw : List Char) : Option IpAddr :=
  let raw := trim raw
  if raw.isEmpty then none
  else (IpAddr.fromStr raw).orElse fun _ => parseSocket raw

/-- The first address of a forwarding chain and its last untrusted one, read
    on through the addresses of one header. -/
def forwardedTokens (trustedProxies : List (IpNet N)) :
    List (List Char) → Option IpAddr × Option IpAddr →
    Except ClientIpError (Option IpAddr × Option IpAddr)
  | [], found => .ok found
  | token :: tokens, (first, rightmostUntrusted) =>
      match parseIpToken token with
      | none => .error .malformedForwardedFor
      | some ip =>
          forwardedTokens trustedProxies tokens
            (first.or (some ip),
              if ipInNets ip trustedProxies then rightmostUntrusted else some ip)

/-- The same, through all the headers. -/
def forwardedValues (trustedProxies : List (IpNet N)) :
    List TreetopFetcher.HeaderValue → Option IpAddr × Option IpAddr →
    Except ClientIpError (Option IpAddr × Option IpAddr)
  | [], found => .ok found
  | value :: values, found =>
      match value.toStr with
      | none => .error .malformedForwardedFor
      | some value => do
          let found ← forwardedTokens trustedProxies (value.toList.splitOn ',') found
          forwardedValues trustedProxies values found

def forwardedClientIp (headers : HeaderMap) (trustedProxies : List (IpNet N)) :
    Except ClientIpError (Option IpAddr) := do
  let (first, rightmostUntrusted) ←
    forwardedValues trustedProxies (headers.getAll "x-forwarded-for") (none, none)
  return rightmostUntrusted.or first

def resolveClientIp (req : ServiceRequest) (trustedProxies : List (IpNet N)) :
    Except ClientIpError (Option IpAddr) :=
  match req.peerAddr.map SocketAddr.ip with
  | none => .ok none
  | some peer =>
      if !ipInNets peer trustedProxies then .ok (some peer)
      else forwardedClientIp req.headers trustedProxies

/-! ## The middleware -/

inductive AdmissionRejectionReason where
  | clientIpUnresolved
  | clientIpNotAllowed
  | accessTokenMissing
  | accessTokenMalformed
  | accessTokenInvalid
deriving DecidableEq, Repr

/-- A response of the middleware itself. -/
structure Rejection where
  status : Nat
  error : ServiceError
  wwwAuthenticate : Option String
  reason : AdmissionRejectionReason
  clientIp : Option IpAddr

def reject (error : ServiceError) (reason : AdmissionRejectionReason)
    (clientIp : Option IpAddr) : Rejection where
  status := error.statusCode
  error := error
  wwwAuthenticate := if error = .invalidAccessToken then some "Bearer" else none
  reason := reason
  clientIp := clientIp

/-- The check of the access token. -/
def checkToken (X : Crates) (config : AdmissionConfig N) (headers : HeaderMap) :
    Except Rejection Unit :=
  if config.accessTokens.isEmpty then .ok ()
  else match bearerToken headers with
    | .ok token =>
        if config.accessTokens.matches' X token then .ok ()
        else .error (reject .invalidAccessToken .accessTokenInvalid none)
    | .error .missing => .error (reject .invalidAccessToken .accessTokenMissing none)
    | .error .malformed => .error (reject .invalidAccessToken .accessTokenMalformed none)

/-- The check of the client address, which it leaves on the request. -/
def checkClient (config : AdmissionConfig N) (req : ServiceRequest) :
    Except Rejection ServiceRequest :=
  if config.hasAcl then
    match resolveClientIp req config.trustedProxies with
    | .ok (some clientIp) =>
        if config.clientAllowlist.allows clientIp then
          .ok { req with resolvedClientIp := some clientIp }
        else .error (reject .clientNotAllowed .clientIpNotAllowed (some clientIp))
    | .ok none | .error .malformedForwardedFor =>
        .error (reject .clientNotAllowed .clientIpUnresolved none)
  else .ok req

/-- `AccessControlMiddlewareService::call`: the answer of the inner service, or
    a rejection without it. -/
def call {ρ : Type} (X : Crates) (config : AdmissionConfig N) (service : ServiceRequest → ρ)
    (req : ServiceRequest) : ρ ⊕ Rejection :=
  if !isProtectedPath req.path then .inl (service req)
  else
    match checkClient config req with
    | .error rejection => .inr rejection
    | .ok req =>
        match checkToken X config req.headers with
        | .error rejection => .inr rejection
        | .ok () => .inl (service req)

/-! ## Routes -/

inductive Method where
  | get
  | post
deriving DecidableEq, Repr

structure Route where
  pattern : String
  method : Method
  handler : String
deriving DecidableEq, Repr

/-- The routes `init` configures. -/
def init : List Route := [
  ⟨"/livez", .get, "livez"⟩,
  ⟨"/readyz", .get, "readyz"⟩,
  ⟨"/openapi.json", .get, "openapi_json"⟩,
  ⟨"/api/v1/status", .get, "get_status"⟩,
  ⟨"/api/v1/version", .get, "version"⟩,
  ⟨"/api/v1/authorize", .post, "authorize"⟩,
  ⟨"/api/v1/policies", .get, "get_policies"⟩,
  ⟨"/api/v1/policies", .post, "upload_policies"⟩,
  ⟨"/api/v1/bundle", .post, "upload_bundle"⟩,
  ⟨"/api/v1/schema", .get, "get_schema"⟩,
  ⟨"/api/v1/schema", .post, "upload_schema"⟩,
  ⟨"/api/v1/policies/\x7buser\x7d", .get, "list_policies"⟩,
  ⟨"/metrics", .get, "metrics"⟩]

/-- The literal start of a route pattern, up to its first parameter. -/
def literalStart (pattern : String) : List Char := pattern.toList.takeWhile (· != '\x7b')

/-- Which paths a route pattern matches is for the framework to say: a literal
    pattern matches itself only, and one with a parameter only paths that start
    as it does. -/
structure RouteLaws (pathMatches : String → String → Bool) : Prop where
  starts : ∀ pattern path, pathMatches pattern path = true →
    literalStart pattern <+: path.toList
  literal : ∀ pattern path, pathMatches pattern path = true →
    literalStart pattern = pattern.toList → path = pattern

end TreetopAdmission
