import TreetopRest.Lib.PercentProofs
import TreetopRest.Lib.QualifiedNameProofs

/-! # Action labels of the metrics

    The label of an action, from the text of its entity UID: a fast path for
    plain texts, and Cedar's own parser for the rest.  The parser is a
    parameter (`UidCrate`); what it is relied on for are the laws `UidLaws`. -/

namespace TreetopMetricLabels

open Text Percent QualifiedName

/-! ## Entity UIDs of Cedar -/

/-- The words Cedar reserves, which are no identifiers. -/
def reservedWords : List (List Char) :=
  ["true", "false", "if", "then", "else", "in", "is", "like", "has", "__cedar"].map String.toList

def isIdentStart (c : Char) : Bool := c == '_' || c.isAlpha

def isIdentPart (c : Char) : Bool := c == '_' || c.isAlphanum

theorem isIdentPart_of_isIdentStart {c : Char} (h : isIdentStart c = true) :
    isIdentPart c = true := by
  rw [isIdentStart, Bool.or_eq_true] at h
  rw [isIdentPart, Char.isAlphanum, Bool.or_eq_true, Bool.or_eq_true]
  exact h.imp id Or.inl

theorem identChar_nonAscii {c : Char} (h : ¬ c.toNat < 0x80) : isIdentPart c = false := by
  rw [Bool.eq_false_iff]
  intro hc
  rw [isIdentPart, Bool.or_eq_true, beq_iff_eq] at hc
  rcases hc with rfl | hc
  · exact h (by decide)
  · exact h (alphanum_ascii hc)

/-- What holds of the identifier characters in ASCII holds of all of them. -/
theorem of_isIdentPart {q : Char → Prop}
    (hascii : ∀ n : Fin 128, isIdentPart (Char.ofNat n) = true → q (Char.ofNat n)) {c : Char}
    (h : isIdentPart c = true) : q c := by
  by_cases hsmall : c.toNat < 0x80
  · exact of_ascii (q := fun c => isIdentPart c = true → q c) hascii hsmall h
  · rw [identChar_nonAscii hsmall] at h
    exact nomatch h

def isIdentifier (s : List Char) : Bool :=
  match s with
  | [] => false
  | c :: rest => isIdentStart c && rest.all isIdentPart && !reservedWords.contains s

/-- The name of an entity type: a path of identifiers. -/
structure EntityTypeName where
  components : List (List Char)
  nonempty : components ≠ []
  identifiers : ∀ component ∈ components, isIdentifier component = true

/-- A type name renders back as it was written. -/
def EntityTypeName.text (typeName : EntityTypeName) : List Char :=
  "::".toList.intercalate typeName.components

structure EntityUid where
  typeName : EntityTypeName
  id : List Char

/-- Reading entity UIDs, and the escaping of ids in their canonical text. -/
structure UidCrate where
  parse : List Char → Option EntityUid
  escape : List Char → List Char

/-- The canonical text of an entity UID. -/
def UidCrate.canonical (U : UidCrate) (uid : EntityUid) : List Char :=
  uid.typeName.text ++ "::\"".toList ++ U.escape uid.id ++ "\"".toList

/-- The canonical text is read back, and an id without quotes and backslashes
    stands for itself. -/
structure UidLaws (U : UidCrate) : Prop where
  canonical : ∀ uid, U.parse (U.canonical uid) = some uid
  plain : ∀ (typeName : EntityTypeName) (body : List Char), '\"' ∉ body → '\\' ∉ body →
    U.parse (typeName.text ++ "::\"".toList ++ body ++ "\"".toList) = some ⟨typeName, body⟩

/-! ## Labels -/

/-- The Unicode general category `Cc`. -/
def isControl (c : Char) : Bool := c.toNat < 0x20 || (0x7F ≤ c.toNat && c.toNat < 0xA0)

def encodeMetricLabelComponent (value : List Char) : List Char :=
  value.flatMap fun character =>
    match character with
    | '%' => "%25".toList
    | '"' => "%22".toList
    | '\\' => "%5C".toList
    | character =>
        if isControl character then (String.utf8EncodeChar character).flatMap percentByte
        else [character]

def metricLabelComponent (value : List Char) : List Char := encodeMetricLabelComponent value

def isAsciiAlphabetic (byte : UInt8) : Bool :=
  (0x41 ≤ byte && byte ≤ 0x5A) || (0x61 ≤ byte && byte ≤ 0x7A)

def isAsciiAlphanumeric (byte : UInt8) : Bool :=
  isAsciiAlphabetic byte || (0x30 ≤ byte && byte ≤ 0x39)

def validCedarTypeName (typeName : List Char) : Bool :=
  (splitDoubled ':' typeName).all fun component =>
    (match asBytes component with
      | [] => false
      | byte :: bytes =>
          (byte == 0x5F || isAsciiAlphabetic byte)
            && bytes.all fun byte => byte == 0x5F || isAsciiAlphanumeric byte)
      && !reservedWords.contains component

/-- Split a plain entity UID without the general parser. -/
def simpleEntityUidParts (actionId : List Char) : Option (List Char × List Char) := do
  let withoutClosingQuote ← stripSuffix '"' actionId
  let (typeName, entityId) ← rsplitOnce "::\"".toList withoutClosingQuote
  if !validCedarTypeName typeName
      || entityId.any fun character =>
        character == '\\' || character == '"' || isControl character then
    none
  else return (typeName, entityId)

/-- The label by way of Cedar's parser. -/
def parsedMetricActionId (U : UidCrate) (actionId : List Char) : List Char :=
  match U.parse actionId with
  | some action => action.typeName.text ++ "::".toList ++ metricLabelComponent action.id
  | none => metricLabelComponent actionId

def metricActionId (U : UidCrate) (actionId : List Char) : List Char :=
  match simpleEntityUidParts actionId with
  | some (typeName, entityId) =>
      typeName ++ "::".toList ++ encodeMetricLabelComponent entityId
  | none => parsedMetricActionId U actionId

end TreetopMetricLabels
