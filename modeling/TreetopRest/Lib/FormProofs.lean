import TreetopRest.Lib.PercentProofs

/-! # Form encoding

    A form is a list of pairs of texts.  It is written as `name=value` pairs
    with ampersands in between; in a name or value a space is a plus sign, and
    all but a few ASCII characters are percent encoded.  A reader splits at
    the ampersands and at each first equals sign before it decodes, so
    whatever is in a form comes back as it was (`parse_serialize`).  How a
    reader turns bytes that are no UTF-8 into text is left open. -/

namespace Form

open Text Percent

/-- A character that stands for itself. -/
def isPlain (c : Char) : Bool :=
  c.isAlphanum || c == '*' || c == '-' || c == '.' || c == '_'

/-- All others but the space are percent encoded. -/
def isReserved (c : Char) : Bool := !isPlain c && c != ' '

def spaceToPlus (c : Char) : Char := if c = ' ' then '+' else c

def plusToSpace (c : Char) : Char := if c = '+' then ' ' else c

/-! ## Writing -/

/-- A name or a value. -/
def encodeComponent (s : List Char) : List Char := (encode isReserved s).map spaceToPlus

def encodePair (p : String × String) : List Char :=
  encodeComponent p.1.toList ++ '=' :: encodeComponent p.2.toList

def serialize (pairs : List (String × String)) : List Char :=
  ['&'].intercalate (pairs.map encodePair)

/-! ## Reading -/

variable (fromUtf8 : List UInt8 → String)

def decodeComponent (s : List Char) : String :=
  fromUtf8 (percentDecode (s.map plusToSpace))

/-- A piece between ampersands; without an equals sign it has no value. -/
def decodePair (piece : List Char) : String × String :=
  match splitOnce '=' piece with
  | some (name, value) => (decodeComponent fromUtf8 name, decodeComponent fromUtf8 value)
  | none => (decodeComponent fromUtf8 piece, decodeComponent fromUtf8 [])

/-- The pairs of a form; nothing between two ampersands is no pair. -/
def parse (s : List Char) : List (String × String) :=
  ((s.splitOn '&').filter fun piece => !piece.isEmpty).map (decodePair fromUtf8)

/-! ## The round trip -/

/-- The characters of a component. -/
theorem mem_encodeComponent {c : Char} {s : List Char} (h : c ∈ encodeComponent s) :
    isPlain c = true ∨ c = '+' ∨ c = '%' ∨ isUpperHexDigit c = true := by
  obtain ⟨d, hd, rfl⟩ := List.mem_map.mp h
  by_cases hspace : d = ' '
  · rw [spaceToPlus, if_pos hspace]
    exact Or.inr (Or.inl rfl)
  · rw [spaceToPlus, if_neg hspace]
    rcases mem_encode hd with hplain | hpercent | hdigit
    · rw [isReserved, Bool.and_eq_false_iff] at hplain
      rcases hplain with hplain | hne
      · exact Or.inl (by simpa using hplain)
      · exact absurd (by simpa using hne) hspace
    · exact Or.inr (Or.inr (Or.inl hpercent))
    · exact Or.inr (Or.inr (Or.inr hdigit))

theorem amp_notMem (s : List Char) : '&' ∉ encodeComponent s := by
  intro h
  exact absurd (mem_encodeComponent h) (by decide)

theorem eq_notMem (s : List Char) : '=' ∉ encodeComponent s := by
  intro h
  exact absurd (mem_encodeComponent h) (by decide)

theorem amp_notMem_pair (p : String × String) : '&' ∉ encodePair p := by
  rw [encodePair, List.mem_append, List.mem_cons]
  rintro (h | h | h)
  · exact amp_notMem _ h
  · exact absurd h (by decide)
  · exact amp_notMem _ h

/-- A plus sign of the text is percent encoded, so those that are written all
    stand for spaces. -/
theorem map_plusToSpace (s : List Char) :
    (encodeComponent s).map plusToSpace = encode isReserved s := by
  rw [encodeComponent, List.map_map]
  refine (List.map_congr_left fun c hc => ?_).trans (List.map_id _)
  show plusToSpace (spaceToPlus c) = c
  by_cases hspace : c = ' '
  · rw [hspace]
    rfl
  · have hplus : c ≠ '+' := by
      rintro rfl
      exact absurd (mem_encode hc) (by decide)
    rw [spaceToPlus, if_neg hspace, plusToSpace, if_neg hplus]

section RoundTrip

variable {fromUtf8 : List UInt8 → String} (hutf8 : ∀ s : String, fromUtf8 (asBytes s.toList) = s)
include hutf8

theorem decodeComponent_encode (s : String) :
    decodeComponent fromUtf8 (encodeComponent s.toList) = s := by
  rw [decodeComponent, map_plusToSpace, percentDecode_encode (by decide), hutf8]

theorem decodePair_encode (p : String × String) :
    decodePair fromUtf8 (encodePair p) = p := by
  have hsplit : splitOnce '=' (encodePair p)
      = some (encodeComponent p.1.toList, encodeComponent p.2.toList) :=
    splitOnce_eq_some.mpr ⟨rfl, eq_notMem _⟩
  rw [decodePair, hsplit]
  dsimp only
  rw [decodeComponent_encode hutf8, decodeComponent_encode hutf8]

/-- **A form comes back as it was.** -/
theorem parse_serialize (pairs : List (String × String)) :
    parse fromUtf8 (serialize pairs) = pairs := by
  have hpieces : ((serialize pairs).splitOn '&').filter (fun piece => !piece.isEmpty)
      = pairs.map encodePair := by
    cases pairs with
    | nil => rfl
    | cons p pairs =>
        rw [serialize, List.splitOn_intercalate '&' ?_ ?_]
        · refine List.filter_eq_self.mpr fun piece hpiece => ?_
          obtain ⟨q, _, rfl⟩ := List.mem_map.mp hpiece
          rw [encodePair]
          simp
        · intro piece hpiece
          obtain ⟨q, _, rfl⟩ := List.mem_map.mp hpiece
          exact amp_notMem_pair q
        · exact List.cons_ne_nil _ _
  rw [parse, hpieces, List.map_map]
  refine (List.map_congr_left fun p _ => ?_).trans (List.map_id _)
  exact decodePair_encode hutf8 p

end RoundTrip

end Form
