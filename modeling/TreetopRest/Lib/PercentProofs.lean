import TreetopRest.Lib.TextProofs

/-! # Percent encoding

    A percent encoding writes some characters as the bytes of their UTF-8
    form, two uppercase digits each, and the others as they are; the percent
    sign is always among the first.  Decoding gives the UTF-8 bytes of the
    text back (`decode_encode`), so an encoding loses nothing
    (`encode_injective`), whichever characters it rewrites.  Every percent
    sign it writes has its two digits (`wellEscaped_encode`), so a decoder
    that checks them reads the same (`percentDecode_encode`). -/

namespace Percent

open Text

/-- An uppercase hexadecimal digit. -/
def hexDigit (n : Nat) : Char := Char.ofNat (if n < 10 then 0x30 + n else 0x41 + (n - 10))

/-- A byte as a percent sign and two digits. -/
def percentByte (b : UInt8) : List Char :=
  ['%', hexDigit (b.toNat / 16), hexDigit (b.toNat % 16)]

/-- A character, rewritten if it is reserved. -/
def encodeChar (reserved : Char → Bool) (c : Char) : List Char :=
  if reserved c then (String.utf8EncodeChar c).flatMap percentByte else [c]

def encode (reserved : Char → Bool) (s : List Char) : List Char :=
  s.flatMap (encodeChar reserved)

def hexValue (c : Char) : Nat := if c.toNat < 0x41 then c.toNat - 0x30 else c.toNat - 0x41 + 10

/-- The bytes an encoded text stands for. -/
def decode : List Char → List UInt8
  | [] => []
  | '%' :: hi :: lo :: rest => UInt8.ofNat (hexValue hi * 16 + hexValue lo) :: decode rest
  | c :: rest => String.utf8EncodeChar c ++ decode rest

theorem hexValue_hexDigit : ∀ n : Fin 16, hexValue (hexDigit n) = n := by
  decide

theorem decode_percentByte (b : UInt8) (rest : List Char) :
    decode (percentByte b ++ rest) = b :: decode rest := by
  have hb : b.toNat < 256 := b.toNat_lt
  have hhi := hexValue_hexDigit ⟨b.toNat / 16, by omega⟩
  have hlo := hexValue_hexDigit ⟨b.toNat % 16, by omega⟩
  show UInt8.ofNat (hexValue (hexDigit (b.toNat / 16)) * 16 + hexValue (hexDigit (b.toNat % 16)))
    :: decode rest = _
  rw [hhi, hlo]
  have hjoin : b.toNat / 16 * 16 + b.toNat % 16 = b.toNat := by
    omega
  rw [hjoin, UInt8.ofNat_toNat]

theorem decode_percentBytes (bytes : List UInt8) (rest : List Char) :
    decode (bytes.flatMap percentByte ++ rest) = bytes ++ decode rest := by
  induction bytes with
  | nil => rfl
  | cons b bytes ih =>
      rw [List.flatMap_cons, List.append_assoc, decode_percentByte, ih]
      rfl

theorem decode_cons {c : Char} (hc : c ≠ '%') (rest : List Char) :
    decode (c :: rest) = String.utf8EncodeChar c ++ decode rest := by
  rw [decode]
  intro hi lo tail hpercent
  exact absurd hpercent hc

variable {reserved : Char → Bool}

/-- **Decoding gives the bytes back**, if the percent sign is reserved. -/
theorem decode_encode (hpercent : reserved '%' = true) (s rest : List Char) :
    decode (encode reserved s ++ rest) = asBytes s ++ decode rest := by
  induction s with
  | nil => rfl
  | cons c s ih =>
      have hone : decode (encodeChar reserved c ++ (encode reserved s ++ rest))
          = String.utf8EncodeChar c ++ decode (encode reserved s ++ rest) := by
        rw [encodeChar]
        by_cases hc : reserved c = true
        · rw [if_pos hc, decode_percentBytes]
        · rw [if_neg hc]
          refine decode_cons ?_ _
          rintro rfl
          exact hc hpercent
      rw [encode, List.flatMap_cons, List.append_assoc, ← encode, hone, ih, asBytes, asBytes,
        List.flatMap_cons, List.append_assoc]

/-- **An encoding loses nothing.** -/
theorem encode_injective (hpercent : reserved '%' = true) {s t : List Char}
    (h : encode reserved s = encode reserved t) : s = t := by
  have hs := decode_encode hpercent s []
  have ht := decode_encode hpercent t []
  rw [List.append_nil, h] at hs
  rw [List.append_nil, hs, List.append_left_inj] at ht
  exact asBytes_injective ht

theorem encode_append (s t : List Char) :
    encode reserved (s ++ t) = encode reserved s ++ encode reserved t :=
  List.flatMap_append

/-- A text without reserved characters is its own encoding. -/
theorem encode_plain {s : List Char} (h : ∀ c ∈ s, reserved c = false) :
    encode reserved s = s := by
  induction s with
  | nil => rfl
  | cons c s ih =>
      obtain ⟨hc, hrest⟩ := List.forall_mem_cons.mp h
      have hone : encodeChar reserved c = [c] := by
        rw [encodeChar, if_neg (by rw [hc]; decide)]
      rw [encode, List.flatMap_cons, hone, ← encode, ih hrest]
      rfl

/-! ## Checked decoding -/

/-- The value of a hexadecimal digit, in either case. -/
def hexDigitValue (c : Char) : Option Nat :=
  if '0' ≤ c ∧ c ≤ '9' then some (c.toNat - 0x30)
  else if 'A' ≤ c ∧ c ≤ 'F' then some (c.toNat - 0x41 + 10)
  else if 'a' ≤ c ∧ c ≤ 'f' then some (c.toNat - 0x61 + 10)
  else none

/-- A percent sign and two digits are a byte, and all else stands for itself. -/
def percentDecode : List Char → List UInt8
  | [] => []
  | '%' :: hi :: lo :: rest =>
      match hexDigitValue hi, hexDigitValue lo with
      | some h, some l => UInt8.ofNat (h * 16 + l) :: percentDecode rest
      | _, _ => String.utf8EncodeChar '%' ++ percentDecode (hi :: lo :: rest)
  | c :: rest => String.utf8EncodeChar c ++ percentDecode rest

def isUpperHexDigit (c : Char) : Bool := ('0' ≤ c && c ≤ '9') || ('A' ≤ c && c ≤ 'F')

/-- Every percent sign has two uppercase digits after it. -/
def WellEscaped (s : List Char) : Prop :=
  ∀ front rest, s = front ++ '%' :: rest →
    ∃ hi lo tail, rest = hi :: lo :: tail
      ∧ isUpperHexDigit hi = true ∧ isUpperHexDigit lo = true

theorem hexDigit_upper : ∀ n : Fin 16, isUpperHexDigit (hexDigit n) = true := by
  decide

theorem exists_hexDigit {c : Char} (h : isUpperHexDigit c = true) :
    ∃ n : Fin 16, c = hexDigit n := by
  have hascii : ∀ n : Fin 128, isUpperHexDigit (Char.ofNat n) = true →
      ∃ m : Fin 16, Char.ofNat n = hexDigit m := by
    decide
  have hsmall : c.toNat < 128 := by
    rw [isUpperHexDigit, Bool.or_eq_true, Bool.and_eq_true, Bool.and_eq_true,
      decide_eq_true_eq, decide_eq_true_eq, decide_eq_true_eq, decide_eq_true_eq] at h
    rcases h with h | h
    · exact Nat.lt_of_le_of_lt h.2 (by decide)
    · exact Nat.lt_of_le_of_lt h.2 (by decide)
  exact of_ascii (q := fun c => isUpperHexDigit c = true → ∃ m : Fin 16, c = hexDigit m)
    hascii hsmall h

theorem hexDigitValue_upper {c : Char} (h : isUpperHexDigit c = true) :
    hexDigitValue c = some (hexValue c) := by
  rw [isUpperHexDigit, Bool.or_eq_true, Bool.and_eq_true, Bool.and_eq_true, decide_eq_true_eq,
    decide_eq_true_eq, decide_eq_true_eq, decide_eq_true_eq] at h
  rw [hexDigitValue, hexValue]
  rcases h with h | h
  · have hsmall : c.toNat < 0x41 := Nat.lt_of_le_of_lt h.2 (by decide)
    rw [if_pos h, if_pos hsmall]
  · have hlarge : ¬ c.toNat < 0x41 := Nat.not_lt.mpr h.1
    have hdigit : ¬ ('0' ≤ c ∧ c ≤ '9') := by
      rintro ⟨_, hnine⟩
      exact hlarge (Nat.lt_of_le_of_lt hnine (by decide))
    rw [if_neg hdigit, if_pos h, if_neg hlarge]

/-- The two digits of a byte. -/
theorem percentByte_digits (b : UInt8) :
    isUpperHexDigit (hexDigit (b.toNat / 16)) = true
      ∧ isUpperHexDigit (hexDigit (b.toNat % 16)) = true := by
  have hb : b.toNat < 256 := b.toNat_lt
  exact ⟨hexDigit_upper ⟨b.toNat / 16, by omega⟩, hexDigit_upper ⟨b.toNat % 16, by omega⟩⟩

theorem isUpperHexDigit_ne_percent {c : Char} (h : isUpperHexDigit c = true) : c ≠ '%' := by
  rintro rfl
  exact absurd h (by decide)

/-- A plain character in front changes nothing. -/
theorem wellEscaped_cons {c : Char} {s : List Char} (hc : c ≠ '%') (h : WellEscaped s) :
    WellEscaped (c :: s) := by
  intro front rest heq
  cases front with
  | nil => exact absurd (List.cons.inj heq).1 hc
  | cons d front => exact h front rest (List.cons.inj heq).2

theorem wellEscaped_percentByte (b : UInt8) {s : List Char} (h : WellEscaped s) :
    WellEscaped (percentByte b ++ s) := by
  obtain ⟨hhi, hlo⟩ := percentByte_digits b
  have htail : WellEscaped (hexDigit (b.toNat / 16) :: hexDigit (b.toNat % 16) :: s) :=
    wellEscaped_cons (isUpperHexDigit_ne_percent hhi)
      (wellEscaped_cons (isUpperHexDigit_ne_percent hlo) h)
  intro front rest heq
  cases front with
  | nil => exact ⟨_, _, s, (List.cons.inj heq).2.symm, hhi, hlo⟩
  | cons d front => exact htail front rest (List.cons.inj heq).2

theorem wellEscaped_percentBytes (bytes : List UInt8) {s : List Char} (h : WellEscaped s) :
    WellEscaped (bytes.flatMap percentByte ++ s) := by
  induction bytes with
  | nil => exact h
  | cons b bytes ih =>
      rw [List.flatMap_cons, List.append_assoc]
      exact wellEscaped_percentByte b ih

/-- **No stray percent sign** is in an encoded text. -/
theorem wellEscaped_encode (hpercent : reserved '%' = true) (s : List Char) :
    WellEscaped (encode reserved s) := by
  induction s with
  | nil =>
      intro front rest heq
      exact absurd heq.symm (List.append_ne_nil_of_right_ne_nil _ (List.cons_ne_nil _ _))
  | cons c s ih =>
      rw [encode, List.flatMap_cons, ← encode, encodeChar]
      by_cases hc : reserved c = true
      · rw [if_pos hc]
        exact wellEscaped_percentBytes _ ih
      · rw [if_neg hc]
        refine wellEscaped_cons ?_ ih
        rintro rfl
        exact hc hpercent

/-- The characters of an encoded text: plain ones of the text, percent signs
    and digits. -/
theorem mem_encode {c : Char} {s : List Char} (h : c ∈ encode reserved s) :
    reserved c = false ∨ c = '%' ∨ isUpperHexDigit c = true := by
  obtain ⟨d, _, hc⟩ := List.mem_flatMap.mp h
  rw [encodeChar] at hc
  by_cases hd : reserved d = true
  · rw [if_pos hd] at hc
    obtain ⟨b, _, hc⟩ := List.mem_flatMap.mp hc
    obtain ⟨hhi, hlo⟩ := percentByte_digits b
    rcases List.mem_cons.mp hc with rfl | hc
    · exact Or.inr (Or.inl rfl)
    · rcases List.mem_cons.mp hc with rfl | hc
      · exact Or.inr (Or.inr hhi)
      · rw [List.mem_singleton.mp hc]
        exact Or.inr (Or.inr hlo)
  · rw [if_neg hd] at hc
    rw [List.mem_singleton.mp hc]
    exact Or.inl (Bool.not_eq_true _ ▸ hd)

/-- Checking the digits makes no difference where they are there. -/
theorem percentDecode_eq_decode {s : List Char} (h : WellEscaped s) :
    percentDecode s = decode s := by
  fun_induction decode s with
  | case1 => rfl
  | case2 hi lo rest ih =>
      obtain ⟨hi', lo', tail, heq, hhi, hlo⟩ := h [] (hi :: lo :: rest) rfl
      obtain ⟨rfl, hrest⟩ := List.cons.inj heq
      obtain ⟨rfl, rfl⟩ := List.cons.inj hrest
      have htail : WellEscaped rest := by
        intro front tail heq
        exact h ('%' :: hi :: lo :: front) tail (by rw [heq]; rfl)
      rw [percentDecode, hexDigitValue_upper hhi, hexDigitValue_upper hlo]
      dsimp only
      rw [ih htail]
  | case3 c rest hshape ih =>
      have htail : WellEscaped rest := by
        intro front tail heq
        exact h (c :: front) tail (by rw [heq]; rfl)
      rw [percentDecode, ih htail]
      exact hshape

/-- **Reading an encoded text** gives the bytes of the text it encodes. -/
theorem percentDecode_encode (hpercent : reserved '%' = true) (s : List Char) :
    percentDecode (encode reserved s) = asBytes s := by
  have h := decode_encode hpercent s []
  rw [List.append_nil] at h
  rw [percentDecode_eq_decode (wellEscaped_encode hpercent s), h]
  exact List.append_nil _

end Percent
