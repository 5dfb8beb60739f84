import TreetopRest.Lib.TextProofs

/-! # Internet addresses and their texts

    Addresses and the parsers of the standard library for them: dotted IPv4
    without leading zeros, IPv6 with one `::` and an embedded IPv4 tail, and
    socket addresses.  A reader takes what it recognises off the front of a
    text, and nothing where it fails. -/

namespace TreetopAddress

structure Ipv4Addr where
  a : UInt8
  b : UInt8
  c : UInt8
  d : UInt8
deriving DecidableEq, Repr

structure Ipv6Addr where
  segments : Vector UInt16 8
deriving DecidableEq, Repr

inductive IpAddr where
  | v4 (addr : Ipv4Addr)
  | v6 (addr : Ipv6Addr)
deriving DecidableEq, Repr

inductive SocketAddr where
  | v4 (ip : Ipv4Addr) (port : UInt16)
  | v6 (ip : Ipv6Addr) (port : UInt16) (scopeId : UInt32)
deriving DecidableEq, Repr

def SocketAddr.ip : SocketAddr → IpAddr
  | .v4 ip _ => .v4 ip
  | .v6 ip _ _ => .v6 ip

/-! ## Readers -/

abbrev Reader (α : Type) := List Char → Option (α × List Char)

/-- The whole text, and nothing after it. -/
def parseWith {α : Type} (inner : Reader α) (s : List Char) : Option α :=
  match inner s with
  | some (a, []) => some a
  | _ => none

def readGivenChar (target : Char) : Reader Unit
  | [] => none
  | c :: rest => if c = target then some ((), rest) else none

/-- One item of a separated list, which starts without a separator. -/
def readSeparator {α : Type} (sep : Char) (index : Nat) (inner : Reader α) : Reader α := fun s =>
  if index > 0 then do
    let (_, s) ← readGivenChar sep s
    inner s
  else inner s

/-- `char::to_digit`, for the two radixes in use. -/
def toDigit (radix : Nat) (c : Char) : Option Nat :=
  let digit :=
    if '0' ≤ c && c ≤ '9' then some (c.toNat - '0'.toNat)
    else if 'a' ≤ c && c ≤ 'f' then some (c.toNat - 'a'.toNat + 10)
    else if 'A' ≤ c && c ≤ 'F' then some (c.toNat - 'A'.toNat + 10)
    else none
  digit.filter (· < radix)

/-- A number below `bound`, in all the digits that follow.  More digits than
    allowed fail, also where they would fit. -/
def readNumber (radix bound : Nat) (maxDigits : Option Nat) (allowZeroPrefix : Bool) :
    Reader Nat := fun s =>
  let digits := s.takeWhile fun c => (toDigit radix c).isSome
  let rest := s.dropWhile fun c => (toDigit radix c).isSome
  let n := digits.foldl (fun n c => n * radix + (toDigit radix c).getD 0) 0
  let hasLeadingZero := s.head? == some '0'
  if maxDigits.any (fun limit => digits.length > limit) then none
  else if digits.isEmpty then none
  else if !allowZeroPrefix && hasLeadingZero && digits.length > 1 then none
  else if n < bound then some (n, rest)
  else none

def readIpv4Addr : Reader Ipv4Addr := fun s => do
  -- octal notation is not an address
  let octet : Reader Nat := readNumber 10 256 (some 3) false
  let (a, s) ← readSeparator '.' 0 octet s
  let (b, s) ← readSeparator '.' 1 octet s
  let (c, s) ← readSeparator '.' 2 octet s
  let (d, s) ← readSeparator '.' 3 octet s
  return (⟨a.toUInt8, b.toUInt8, c.toUInt8, d.toUInt8⟩, s)

/-- Two octets as one group, the first the higher. -/
def groupOfOctets (hi lo : UInt8) : UInt16 := hi.toUInt16 * 256 + lo.toUInt16

/-- At most `remaining` groups from the one at `index` on, an IPv4 address
    taking two; whether there was one, and the rest. -/
def readGroups : Nat → Nat → List Char → List UInt16 × Bool × List Char
  | 0, _, s => ([], false, s)
  | remaining + 1, index, s =>
      match (if remaining > 0 then readSeparator ':' index readIpv4Addr s else none) with
      | some (v4, rest) => ([groupOfOctets v4.a v4.b, groupOfOctets v4.c v4.d], true, rest)
      | none =>
          match readSeparator ':' index (readNumber 16 65536 (some 4) true) s with
          | some (g, rest) =>
              let (groups, sawIpv4, rest) := readGroups remaining (index + 1) rest
              (g.toUInt16 :: groups, sawIpv4, rest)
          | none => ([], false, s)

def Ipv6Addr.ofGroups (groups : List UInt16) : Ipv6Addr :=
  ⟨Vector.ofFn fun i : Fin 8 => groups.getD i.val 0⟩

def readIpv6Addr : Reader Ipv6Addr := fun s =>
  let (head, headIpv4, s) := readGroups 8 0 s
  if head.length = 8 then some (.ofGroups head, s)
  -- an IPv4 part is not allowed before `::`
  else if headIpv4 then none
  else do
    let (_, s) ← readGivenChar ':' s
    let (_, s) ← readGivenChar ':' s
    -- the `::` stands for at least one group
    let (tail, _, s) := readGroups (8 - (head.length + 1)) 0 s
    let zeros := List.replicate (8 - head.length - tail.length) 0
    return (.ofGroups (head ++ zeros ++ tail), s)

def readIpAddr : Reader IpAddr := fun s =>
  match readIpv4Addr s with
  | some (ip, rest) => some (.v4 ip, rest)
  | none => (readIpv6Addr s).map fun (ip, rest) => (.v6 ip, rest)

def readPort : Reader Nat := fun s => do
  let (_, s) ← readGivenChar ':' s
  readNumber 10 65536 none true s

def readScopeId : Reader Nat := fun s => do
  let (_, s) ← readGivenChar '%' s
  readNumber 10 4294967296 none true s

def readSocketAddrV4 : Reader SocketAddr := fun s => do
  let (ip, s) ← readIpv4Addr s
  let (port, s) ← readPort s
  return (.v4 ip port.toUInt16, s)

def readSocketAddrV6 : Reader SocketAddr := fun s => do
  let (_, s) ← readGivenChar '[' s
  let (ip, s) ← readIpv6Addr s
  let (scopeId, s) := (readScopeId s).getD (0, s)
  let (_, s) ← readGivenChar ']' s
  let (port, s) ← readPort s
  return (.v6 ip port.toUInt16 scopeId.toUInt32, s)

/-- `IpAddr::from_str` -/
def IpAddr.fromStr (s : List Char) : Option IpAddr := parseWith readIpAddr s

/-- `SocketAddr::from_str` -/
def SocketAddr.fromStr (s : List Char) : Option SocketAddr :=
  parseWith (fun s => (readSocketAddrV4 s).orElse fun _ => readSocketAddrV6 s) s

/-! ## Printing -/

def Ipv4Addr.display (addr : Ipv4Addr) : List Char :=
  List.intercalate ['.'] ([addr.a, addr.b, addr.c, addr.d].map fun octet =>
    Nat.toDigits 10 octet.toNat)

/-- The IPv4 address that is mapped into `::ffff:0:0/96`. -/
def Ipv6Addr.toIpv4Mapped (addr : Ipv6Addr) : Option Ipv4Addr :=
  match addr.segments.toList with
  | [0, 0, 0, 0, 0, 0xffff, ab, cd] =>
      some ⟨(ab.toNat / 256).toUInt8, (ab.toNat % 256).toUInt8,
        (cd.toNat / 256).toUInt8, (cd.toNat % 256).toUInt8⟩
  | _ => none

structure Span where
  start : Nat
  len : Nat

/-- The longest run of zero segments, the first of several, after the ones
    before `i` with their current and their longest run. -/
def longestZeroes : List UInt16 → Nat → Span → Span → Span
  | [], _, _, longest => longest
  | segment :: segments, i, current, longest =>
      if segment = 0 then
        let current : Span := ⟨if current.len = 0 then i else current.start, current.len + 1⟩
        longestZeroes segments (i + 1) current
          (if current.len > longest.len then current else longest)
      else longestZeroes segments (i + 1) ⟨0, 0⟩ longest

/-- A colon-separated part of an address. -/
def fmtSubslice (chunk : List UInt16) : List Char :=
  List.intercalate [':'] (chunk.map fun segment => Nat.toDigits 16 segment.toNat)

def Ipv6Addr.display (addr : Ipv6Addr) : List Char :=
  match addr.toIpv4Mapped with
  | some ipv4 => "::ffff:".toList ++ ipv4.display
  | none =>
      let segments := addr.segments.toList
      let zeroes := longestZeroes segments 0 ⟨0, 0⟩ ⟨0, 0⟩
      if zeroes.len > 1 then
        fmtSubslice (segments.take zeroes.start) ++ "::".toList
          ++ fmtSubslice (segments.drop (zeroes.start + zeroes.len))
      else fmtSubslice segments

/-- `IpAddr::to_string` -/
def IpAddr.display : IpAddr → List Char
  | .v4 addr => addr.display
  | .v6 addr => addr.display

end TreetopAddress
