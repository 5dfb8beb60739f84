import Mathlib.Data.List.DropRight
import Mathlib.Tactic.Common

/-! # String slices — trimming, splitting and bytes

    The string operations of a systems language over a list of Unicode
    scalars: whitespace is the Unicode `White_Space` property, case folding is
    ASCII only, bytes are UTF-8.  Splitting on a separator is `List.splitOn`.
    The one law that needs an argument is that trimming a text before it is
    split is invisible once the pieces are trimmed (`map_trim_splitOn_trim`);
    the encoding is injective (`asBytes_injective`). -/

namespace Text

/-- The Unicode `White_Space` property. -/
def isWhitespace (c : Char) : Bool :=
  let v := c.val.toNat
  (9 ≤ v && v ≤ 13) || v == 0x20 || v == 0x85 || v == 0xA0 || v == 0x1680
    || (0x2000 ≤ v && v ≤ 0x200A) || v == 0x2028 || v == 0x2029 || v == 0x202F
    || v == 0x205F || v == 0x3000

def trimStart (s : List Char) : List Char := s.dropWhile isWhitespace

def trimEnd (s : List Char) : List Char := s.rdropWhile isWhitespace

def trim (s : List Char) : List Char := trimEnd (trimStart s)

/-- Split at the first occurrence of `c`, which neither half keeps. -/
def splitOnce (c : Char) (s : List Char) : Option (List Char × List Char) :=
  match s.dropWhile (fun x => x != c) with
  | [] => none
  | _ :: rest => some (s.takeWhile (fun x => x != c), rest)

/-- The pieces of a text that end at a line feed, the feed kept. -/
def splitInclusiveLf : List Char → List (List Char)
  | [] => []
  | c :: cs =>
      if c = '\n' then [c] :: splitInclusiveLf cs
      else match splitInclusiveLf cs with
        | [] => [[c]]
        | p :: ps => (c :: p) :: ps

/-- Drop one suffix character, if the text ends with it. -/
def stripSuffix (c : Char) (s : List Char) : Option (List Char) :=
  if s.getLast? = some c then some s.dropLast else none

/-- Lines without their ending: a line feed, or a carriage return before one. -/
def lines (s : List Char) : List (List Char) :=
  (splitInclusiveLf s).map fun line =>
    match stripSuffix '\n' line with
    | none => line
    | some body => (stripSuffix '\r' body).getD body

def toAsciiLower (c : Char) : Char :=
  if 'A' ≤ c && c ≤ 'Z' then Char.ofNat (c.toNat + 32) else c

def eqIgnoreAsciiCase (s t : List Char) : Bool :=
  s.map toAsciiLower == t.map toAsciiLower

/-- The UTF-8 bytes of a text. -/
def asBytes (s : List Char) : List UInt8 := s.flatMap String.utf8EncodeChar

/-! ## Trimming -/

/-- A text of whitespace only. -/
def Blank (s : List Char) : Prop := ∀ c ∈ s, isWhitespace c = true

theorem trimStart_append_blank {w : List Char} (hw : Blank w) (s : List Char) :
    trimStart (w ++ s) = trimStart s := by
  induction w with
  | nil => rfl
  | cons c w ih =>
      have hc : isWhitespace c = true := hw c (List.mem_cons_self ..)
      have htail := ih (fun d hd => hw d (List.mem_cons_of_mem _ hd))
      show List.dropWhile isWhitespace (c :: (w ++ s)) = _
      rw [List.dropWhile_cons_of_pos hc]
      exact htail

theorem trimEnd_append_blank {w : List Char} (hw : Blank w) (s : List Char) :
    trimEnd (s ++ w) = trimEnd s := by
  induction w using List.reverseRecOn with
  | nil => rw [List.append_nil]
  | append_singleton w c ih =>
      have hc : isWhitespace c = true := hw c (by simp)
      rw [trimEnd, ← List.append_assoc, List.rdropWhile_concat_pos _ _ _ hc]
      exact ih (fun d hd => hw d (by simp [hd]))

/-- Trimming the front commutes with a trailing blank, up to trimming the end. -/
theorem trim_append_blank {w : List Char} (hw : Blank w) (s : List Char) :
    trim (s ++ w) = trim s := by
  unfold trim
  by_cases hs : Blank s
  · have h1 : trimStart (s ++ w) = [] := by
      rw [trimStart_append_blank hs, trimStart, List.dropWhile_eq_nil_iff]
      exact hw
    have h2 : trimStart s = [] := List.dropWhile_eq_nil_iff.mpr hs
    rw [h1, h2]
  · have hne : trimStart s ≠ [] := fun h => hs (List.dropWhile_eq_nil_iff.mp h)
    have h1 : trimStart (s ++ w) = trimStart s ++ w := by
      show List.dropWhile isWhitespace (s ++ w) = _
      rw [List.dropWhile_append]
      have hempty : (List.dropWhile isWhitespace s).isEmpty = false := by
        rw [List.isEmpty_eq_false_iff]; exact hne
      rw [hempty]
      rfl
    rw [h1, trimEnd_append_blank hw]

theorem trim_blank_append {w : List Char} (hw : Blank w) (s : List Char) :
    trim (w ++ s) = trim s := by
  unfold trim
  rw [trimStart_append_blank hw]

/-- A text is its trimmed form between two blanks. -/
theorem exists_trim_append (s : List Char) :
    ∃ w₁ w₂, Blank w₁ ∧ Blank w₂ ∧ s = w₁ ++ (trim s ++ w₂) := by
  refine ⟨s.takeWhile isWhitespace, (trimStart s).rtakeWhile isWhitespace, ?_, ?_, ?_⟩
  · intro c hc
    exact (List.all_eq_true.mp List.all_takeWhile) c hc
  · intro c hc
    exact List.mem_rtakeWhile_imp hc
  · have hend : trim s ++ (trimStart s).rtakeWhile isWhitespace = trimStart s :=
      List.rdropWhile_append_rtakeWhile
    rw [hend]
    exact List.takeWhile_append_dropWhile.symm

/-- Nothing is trimmed where nothing matches. -/
theorem trim_self {p : Char → Bool} {s : List Char} (h : ∀ c ∈ s, p c = false) :
    (s.dropWhile p).rdropWhile p = s := by
  have hdrop : s.dropWhile p = s :=
    List.dropWhile_eq_self_iff.mpr fun hl => by
      rw [h _ (List.getElem_mem hl)]
      exact Bool.false_ne_true
  rw [hdrop]
  refine List.rdropWhile_eq_self_iff.mpr fun hl => ?_
  rw [h _ (List.getLast_mem hl)]
  exact Bool.false_ne_true

/-! ## Splitting a trimmed text -/

variable {c : Char}

theorem notMem_of_blank {w : List Char} (hc : isWhitespace c = false) (hw : Blank w) :
    c ∉ w := by
  intro hmem
  rw [hw c hmem] at hc
  exact Bool.noConfusion hc

/-- The first occurrence of a separator, when there is one. -/
theorem exists_first_split {s : List Char} (h : c ∈ s) :
    ∃ a b, s = a ++ c :: b ∧ c ∉ a := by
  obtain ⟨a, b, hs, ha⟩ := List.eq_append_cons_of_mem h
  exact ⟨a, b, hs, ha⟩

/-- The last occurrence of a separator, when there is one. -/
theorem exists_last_split {s : List Char} (h : c ∈ s) :
    ∃ a b, s = a ++ c :: b ∧ c ∉ b := by
  obtain ⟨a, b, hs, ha⟩ := exists_first_split (List.mem_reverse.mpr h)
  refine ⟨b.reverse, a.reverse, ?_, ?_⟩
  · have h0 := congrArg List.reverse hs
    rw [List.reverse_reverse] at h0
    rw [h0]
    simp
  · simpa using ha

theorem map_trim_splitOn_blank_append {w : List Char} (hc : isWhitespace c = false)
    (hw : Blank w) (s : List Char) :
    ((w ++ s).splitOn c).map trim = (s.splitOn c).map trim := by
  have hcw : c ∉ w := notMem_of_blank hc hw
  by_cases hmem : c ∈ s
  · obtain ⟨a, b, hs, ha⟩ := exists_first_split hmem
    have hca : c ∉ w ++ a := by simp [hcw, ha]
    rw [hs, ← List.append_assoc, List.splitOn_append_cons_self,
      List.splitOn_append_cons_self, List.splitOn_eq_singleton hca,
      List.splitOn_eq_singleton ha]
    simp [trim_blank_append hw]
  · have hcs : c ∉ w ++ s := by simp [hcw, hmem]
    rw [List.splitOn_eq_singleton hcs, List.splitOn_eq_singleton hmem]
    simp [trim_blank_append hw]

theorem map_trim_splitOn_append_blank {w : List Char} (hc : isWhitespace c = false)
    (hw : Blank w) (s : List Char) :
    ((s ++ w).splitOn c).map trim = (s.splitOn c).map trim := by
  have hcw : c ∉ w := notMem_of_blank hc hw
  by_cases hmem : c ∈ s
  · obtain ⟨a, b, hs, hb⟩ := exists_last_split hmem
    have hcb : c ∉ b ++ w := by simp [hcw, hb]
    rw [hs, List.append_assoc, List.cons_append, List.splitOn_append_cons_self,
      List.splitOn_append_cons_self, List.splitOn_eq_singleton hcb,
      List.splitOn_eq_singleton hb]
    simp [trim_append_blank hw]
  · have hcs : c ∉ s ++ w := by simp [hcw, hmem]
    rw [List.splitOn_eq_singleton hcs, List.splitOn_eq_singleton hmem]
    simp [trim_append_blank hw]

/-- **Trimming before splitting is invisible** once the pieces are trimmed, for
    a separator that is not whitespace. -/
theorem map_trim_splitOn_trim (hc : isWhitespace c = false) (s : List Char) :
    ((trim s).splitOn c).map trim = (s.splitOn c).map trim := by
  obtain ⟨w₁, w₂, h1, h2, hs⟩ := exists_trim_append s
  have h : (s.splitOn c).map trim
      = ((w₁ ++ (trim s ++ w₂)).splitOn c).map trim := congrArg (fun t => (t.splitOn c).map trim) hs
  rw [h, map_trim_splitOn_blank_append hc h1, map_trim_splitOn_append_blank hc h2]

/-- A character of a joined text is one of the separator or of a piece. -/
theorem mem_intercalate {sep c : Char} {pieces : List (List Char)}
    (h : c ∈ [sep].intercalate pieces) : c = sep ∨ ∃ piece ∈ pieces, c ∈ piece := by
  induction pieces with
  | nil => exact nomatch h
  | cons piece pieces ih =>
      cases pieces with
      | nil => exact Or.inr ⟨piece, List.mem_cons_self, by simpa using h⟩
      | cons next pieces =>
          rw [List.intercalate_cons_cons, List.mem_append, List.mem_append] at h
          rcases h with (h | h) | h
          · exact Or.inr ⟨piece, List.mem_cons_self, h⟩
          · exact Or.inl (List.mem_singleton.mp h)
          · rcases ih h with hsep | ⟨found, hfound, hc⟩
            · exact Or.inl hsep
            · exact Or.inr ⟨found, List.mem_cons_of_mem _ hfound, hc⟩

/-! ## Splitting once -/

/-- A text splits as `a`, `c`, `b` with `c` nowhere in `a`, and only so. -/
theorem splitOnce_eq_some {s a b : List Char} :
    splitOnce c s = some (a, b) ↔ s = a ++ c :: b ∧ c ∉ a := by
  rw [splitOnce]
  constructor
  · intro h
    cases hd : s.dropWhile (fun x => x != c) with
    | nil => rw [hd] at h; exact absurd h (by simp)
    | cons x rest =>
        rw [hd] at h
        have hp := Option.some.inj h
        have ha : s.takeWhile (fun x => x != c) = a := congrArg Prod.fst hp
        have hb : rest = b := congrArg Prod.snd hp
        have hx : x = c := by
          have h0 := List.head?_dropWhile_not (fun x => x != c) s
          rw [hd] at h0
          simpa using h0
        refine ⟨?_, ?_⟩
        · have hsplit : s.takeWhile (fun x => x != c) ++ s.dropWhile (fun x => x != c) = s :=
            List.takeWhile_append_dropWhile
          rw [hd, hx, ha, hb] at hsplit
          exact hsplit.symm
        · rw [← ha]
          intro hmem
          have := (List.all_eq_true.mp List.all_takeWhile) c hmem
          simp at this
  · rintro ⟨hs, ha⟩
    have hall : ∀ x ∈ a, (x != c) = true := by
      intro x hx
      have : x ≠ c := fun h => ha (h ▸ hx)
      simpa using this
    have hd : s.dropWhile (fun x => x != c) = c :: b := by
      rw [hs, List.dropWhile_append_of_pos hall]
      exact List.dropWhile_cons_of_neg (by simp)
    have ht : s.takeWhile (fun x => x != c) = a := by
      rw [hs, List.takeWhile_append_of_pos hall, List.takeWhile_cons_of_neg (by simp),
        List.append_nil]
    rw [hd, ht]

/-! ## Bytes -/

/-- UTF-8 is injective. -/
theorem asBytes_injective {s t : List Char} (h : asBytes s = asBytes t) : s = t := by
  have henc : List.utf8Encode s = List.utf8Encode t := by
    show (asBytes s).toByteArray = (asBytes t).toByteArray
    rw [h]
  have hof : String.ofList s = String.ofList t := String.toByteArray_inj.mp henc
  have := congrArg String.toList hof
  simpa using this

/-- The bytes of a text read as the text. -/
theorem fromUTF8_asBytes (s : String) :
    String.fromUTF8? ⟨(asBytes s.toList).toArray⟩ = some s := by
  have hbytes : (⟨(asBytes s.toList).toArray⟩ : ByteArray) = s.toByteArray := by
    have hlist : List.utf8Encode s.toList = s.toByteArray := by simp
    rw [← hlist]
    exact (congrArg ByteArray.mk List.data_toByteArray).symm
  rw [hbytes, String.fromUTF8?, dif_pos s.isValidUTF8]
  rfl

/-- Letters and digits are ASCII. -/
theorem alphanum_ascii {c : Char} (h : c.isAlphanum = true) : c.toNat < 0x80 := by
  have hbound : ∀ last : Char, last.toNat < 0x80 → c.val ≤ last.val → c.toNat < 0x80 :=
    fun last hlast hle => Nat.lt_of_le_of_lt (UInt32.le_iff_toNat_le.mp hle) hlast
  rcases (Bool.or_eq_true _ _).mp h with halpha | hdigit
  · rcases (Bool.or_eq_true _ _).mp halpha with hupper | hlower
    · exact hbound 'Z' (by decide) (of_decide_eq_true hupper).2
    · exact hbound 'z' (by decide) (of_decide_eq_true ((Bool.and_eq_true _ _).mp hlower).2)
  · exact hbound '9' (by decide) (of_decide_eq_true ((Bool.and_eq_true _ _).mp hdigit).2)

/-- What holds of the ASCII characters one by one. -/
theorem of_ascii {q : Char → Prop} (hascii : ∀ n : Fin 128, q (Char.ofNat n)) {c : Char}
    (h : c.toNat < 0x80) : q c := by
  have hone := hascii ⟨c.toNat, h⟩
  rw [Char.ofNat_toNat] at hone
  exact hone

/-- An ASCII character is one byte. -/
theorem utf8EncodeChar_ascii {c : Char} (h : c.toNat < 0x80) :
    String.utf8EncodeChar c = [UInt8.ofNat c.toNat] := by
  rw [String.utf8EncodeChar]
  exact if_pos (Nat.le_of_lt_succ h)

/-- Any other character starts with a byte that is not ASCII. -/
theorem utf8EncodeChar_nonAscii {c : Char} (h : ¬ c.toNat < 0x80) :
    ∃ b bs, String.utf8EncodeChar c = b :: bs ∧ ¬ b.toNat < 0x80 := by
  have hlarge : ∀ m n : Nat, 0 < m → 0xC0 ≤ n → n + m ≤ 0x100 → ∀ v : Nat,
      ¬ (UInt8.ofNat (v % m + n)).toNat < 0x80 := by
    intro m n hm hn hsum v
    have hmod : v % m < m := Nat.mod_lt _ hm
    rw [UInt8.toNat_ofNat']
    omega
  fun_cases String.utf8EncodeChar c with
  | case1 v hv => exact absurd (Nat.lt_succ_of_le hv) h
  | case2 v _ _ => exact ⟨_, _, rfl, hlarge 0x20 0xC0 (by decide) (by decide) (by decide) _⟩
  | case3 v _ _ _ => exact ⟨_, _, rfl, hlarge 0x10 0xE0 (by decide) (by decide) (by decide) _⟩
  | case4 v _ _ _ => exact ⟨_, _, rfl, hlarge 0x08 0xF0 (by decide) (by decide) (by decide) _⟩

/-- A class of ASCII bytes, read off the bytes of a text or off its characters. -/
theorem all_asBytes {p : UInt8 → Bool} {q : Char → Bool}
    (hascii : ∀ n : Fin 128, p (UInt8.ofNat n) = q (Char.ofNat n))
    (hbyte : ∀ b : UInt8, ¬ b.toNat < 0x80 → p b = false)
    (hchar : ∀ c : Char, ¬ c.toNat < 0x80 → q c = false) (s : List Char) :
    (asBytes s).all p = s.all q := by
  induction s with
  | nil => rfl
  | cons c s ih =>
      rw [asBytes, List.flatMap_cons, ← asBytes, List.all_append, ih, List.all_cons]
      by_cases hc : c.toNat < 0x80
      · have hone := hascii ⟨c.toNat, hc⟩
        rw [Char.ofNat_toNat] at hone
        rw [utf8EncodeChar_ascii hc, List.all_cons, List.all_nil, Bool.and_true, hone]
      · obtain ⟨b, bs, hbytes, hb⟩ := utf8EncodeChar_nonAscii hc
        rw [hbytes, List.all_cons, hbyte b hb, hchar c hc]
        rfl

end Text
