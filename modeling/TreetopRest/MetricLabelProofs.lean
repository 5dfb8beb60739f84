import TreetopRest.MetricLabelModel

/-! # Which action labels coincide

    The fast path cuts a text at its last `::"` and checks both halves
    character by character; it takes exactly the plain UIDs, and labels them
    as the parser would (`fast_path_exact`).  So one formula covers every
    canonical text: the type path, `::`, and the encoded id.  The quotes that
    told the two apart are GONE, and an id may spell out more path: two labels
    coincide exactly where one type path continues the other and the id of
    the shorter one makes up for it (`labels_coincide_iff`). -/

namespace TreetopMetricLabels

open Text Percent QualifiedName

/-! ## Type names -/

theorem ident_not_colon {comp : List Char} (h : isIdentifier comp = true) : ':' ∉ comp := by
  cases comp with
  | nil => exact List.not_mem_nil
  | cons c rest =>
      rw [isIdentifier, Bool.and_eq_true, Bool.and_eq_true] at h
      obtain ⟨⟨hstart, hparts⟩, _⟩ := h
      intro hmem
      rcases List.mem_cons.mp hmem with rfl | hmem
      · exact absurd hstart (by decide)
      · exact absurd (List.all_eq_true.mp hparts ':' hmem) (by decide)

/-- The bytes of identifiers, on ASCII. -/
theorem identBytes_ascii (n : Fin 128) :
    (UInt8.ofNat n == 0x5F || isAsciiAlphabetic (UInt8.ofNat n)) = isIdentStart (Char.ofNat n)
      ∧ (UInt8.ofNat n == 0x5F || isAsciiAlphanumeric (UInt8.ofNat n))
        = isIdentPart (Char.ofNat n) := by
  revert n
  decide

theorem identByte_nonAscii {b : UInt8} (h : ¬ b.toNat < 0x80) :
    (b == 0x5F || isAsciiAlphanumeric b) = false := by
  rw [Bool.eq_false_iff]
  intro hb
  simp only [isAsciiAlphanumeric, isAsciiAlphabetic, Bool.or_eq_true, Bool.and_eq_true,
    decide_eq_true_eq, beq_iff_eq, UInt8.le_iff_toNat_le, ← UInt8.toNat_inj,
    UInt8.reduceToNat] at hb
  omega

/-- The bytes of a component are checked as its characters would be. -/
theorem component_check (comp : List Char) :
    ((match asBytes comp with
      | [] => false
      | byte :: bytes =>
          (byte == 0x5F || isAsciiAlphabetic byte)
            && bytes.all fun byte => byte == 0x5F || isAsciiAlphanumeric byte)
      && !reservedWords.contains comp) = isIdentifier comp := by
  cases comp with
  | nil => rfl
  | cons c rest =>
      have hrest := all_asBytes (fun n => (identBytes_ascii n).2)
        (fun _ hb => identByte_nonAscii hb) (fun _ hc => identChar_nonAscii hc) rest
      rw [isIdentifier, asBytes, List.flatMap_cons, ← asBytes]
      refine congrArg (· && !reservedWords.contains (c :: rest)) ?_
      by_cases hc : c.toNat < 0x80
      · have hstart := (identBytes_ascii ⟨c.toNat, hc⟩).1
        rw [Char.ofNat_toNat] at hstart
        rw [utf8EncodeChar_ascii hc, ← hrest, ← hstart]
        rfl
      · -- neither the first byte nor the character is one of an identifier
        obtain ⟨b, bs, hbytes, hb⟩ := utf8EncodeChar_nonAscii hc
        have hbyte := identByte_nonAscii hb
        have hchar := identChar_nonAscii hc
        rw [isAsciiAlphanumeric, ← Bool.or_assoc, Bool.or_eq_false_iff] at hbyte
        rw [isIdentPart, Char.isAlphanum, ← Bool.or_assoc, Bool.or_eq_false_iff] at hchar
        rw [hbytes, isIdentStart, hchar.1]
        show ((b == 0x5F || isAsciiAlphabetic b) && _) = _
        rw [hbyte.1, Bool.false_and, Bool.false_and]

/-- The components of a type name are found in its text. -/
theorem splitDoubled_text (typeName : EntityTypeName) :
    splitDoubled ':' typeName.text = typeName.components :=
  splitDoubled_join typeName.nonempty
    fun comp hcomp => ident_not_colon (typeName.identifiers comp hcomp)

/-- A text is a type name for the check exactly if Cedar has one of that text. -/
theorem validCedarTypeName_iff (s : List Char) :
    validCedarTypeName s = true ↔ ∃ typeName : EntityTypeName, typeName.text = s := by
  rw [validCedarTypeName, List.all_eq_true]
  constructor
  · intro h
    refine ⟨⟨splitDoubled ':' s, splitDoubled_ne_nil s, ?_⟩, join_splitDoubled s⟩
    intro comp hcomp
    exact (component_check comp).symm.trans (h comp hcomp)
  · rintro ⟨typeName, rfl⟩ comp hcomp
    rw [splitDoubled_text] at hcomp
    exact (component_check comp).trans (typeName.identifiers comp hcomp)

/-- A type name is determined by its text. -/
theorem EntityTypeName.text_injective {t t' : EntityTypeName} (h : t.text = t'.text) : t = t' := by
  have hcomponents : t.components = t'.components := by
    rw [← splitDoubled_text t, h, splitDoubled_text t']
  cases t
  cases t'
  cases hcomponents
  rfl

/-! ## The fast path -/

/-- A text that is a type name, `::"`, an id in plain characters, and a quote. -/
def PlainUid (s typeName entityId : List Char) : Prop :=
  s = typeName ++ "::\"".toList ++ entityId ++ "\"".toList
    ∧ (∃ t : EntityTypeName, t.text = typeName)
    ∧ ∀ c ∈ entityId, c ≠ '\"' ∧ c ≠ '\\' ∧ isControl c = false

theorem plainChars_iff (entityId : List Char) :
    (entityId.any fun character =>
        character == '\\' || character == '\"' || isControl character) = false
      ↔ ∀ c ∈ entityId, c ≠ '\"' ∧ c ≠ '\\' ∧ isControl c = false := by
  rw [List.any_eq_false]
  refine forall₂_congr fun c _ => ?_
  simp only [Bool.or_eq_true, beq_iff_eq, not_or, Bool.not_eq_true]
  exact ⟨fun h => ⟨h.1.2, h.1.1, h.2⟩, fun h => ⟨⟨h.2.1, h.1⟩, h.2.2⟩⟩

/-- **FAST PATH**: it takes the plain UIDs, and cuts them where they are made. -/
theorem simpleEntityUidParts_iff (s typeName entityId : List Char) :
    simpleEntityUidParts s = some (typeName, entityId) ↔ PlainUid s typeName entityId := by
  constructor
  · intro h
    rw [simpleEntityUidParts] at h
    obtain ⟨front, hstrip, h⟩ := Option.bind_eq_some_iff.mp h
    obtain ⟨⟨t, i⟩, hsplit, h⟩ := Option.bind_eq_some_iff.mp h
    dsimp only at h
    by_cases hbad : (!validCedarTypeName t || i.any fun character =>
        character == '\\' || character == '"' || isControl character) = true
    · rw [if_pos hbad] at h
      exact nomatch h
    · rw [if_neg hbad] at h
      obtain ⟨rfl, rfl⟩ := Prod.mk.inj (Option.some.inj h)
      rw [Bool.or_eq_true, not_or, Bool.not_eq_true', Bool.not_eq_false, Bool.not_eq_true] at hbad
      refine ⟨?_, (validCedarTypeName_iff t).mp hbad.1, (plainChars_iff i).mp hbad.2⟩
      rw [stripSuffix] at hstrip
      by_cases hlast : s.getLast? = some '"'
      · rw [if_pos hlast] at hstrip
        obtain ⟨whole, rfl⟩ := List.getLast?_eq_some_iff.mp hlast
        rw [List.dropLast_concat] at hstrip
        rw [Option.some.inj hstrip, rsplitOnce_spec hsplit, ← List.append_assoc t]
        rfl
      · rw [if_neg hlast] at hstrip
        exact nomatch hstrip
  · rintro ⟨rfl, htype, hplain⟩
    -- the rightmost `::"` is the one before the id, which has no quote
    have hquote : '"' ∉ entityId := fun hmem => (hplain _ hmem).1 rfl
    have hstrip : stripSuffix '"' (typeName ++ "::\"".toList ++ entityId ++ "\"".toList)
        = some (typeName ++ "::\"".toList ++ entityId) := by
      show stripSuffix '"' (_ ++ ['"']) = _
      rw [stripSuffix, List.getLast?_concat, if_pos rfl, List.dropLast_concat]
    have hsplit : rsplitOnce "::\"".toList (typeName ++ "::\"".toList ++ entityId)
        = some (typeName, entityId) := by
      rw [List.append_assoc]
      exact rsplitOnce_append (p := [':', ':']) hquote typeName
    have hgood : (!validCedarTypeName typeName || entityId.any fun character =>
        character == '\\' || character == '"' || isControl character) = false := by
      rw [(validCedarTypeName_iff typeName).mpr htype, (plainChars_iff entityId).mpr hplain]
      rfl
    rw [simpleEntityUidParts, hstrip]
    show (rsplitOnce "::\"".toList (typeName ++ "::\"".toList ++ entityId)).bind _ = _
    rw [hsplit]
    show (if _ then none else some (typeName, entityId)) = _
    rw [hgood]
    rfl

/-- A plain UID is cut in one way only. -/
theorem plainUid_unique {s t i t' i' : List Char} (h : PlainUid s t i) (h' : PlainUid s t' i') :
    t = t' ∧ i = i' := by
  rw [← simpleEntityUidParts_iff] at h h'
  rw [h] at h'
  exact Prod.mk.inj (Option.some.inj h')

variable {U : UidCrate}

/-- The parser reads a plain UID as its two halves. -/
theorem parse_plain (hU : UidLaws U) {s t i : List Char} (h : PlainUid s t i) :
    ∃ uid, U.parse s = some uid ∧ uid.typeName.text = t ∧ uid.id = i := by
  obtain ⟨rfl, ⟨typeName, rfl⟩, hplain⟩ := h
  refine ⟨⟨typeName, i⟩, hU.plain typeName i ?_ ?_, rfl, rfl⟩
  · exact fun hmem => (hplain _ hmem).1 rfl
  · exact fun hmem => (hplain _ hmem).2.1 rfl

/-- Every text is labelled as by way of the parser. -/
theorem metricActionId_eq_parsed (hU : UidLaws U) (s : List Char) :
    metricActionId U s = parsedMetricActionId U s := by
  rw [metricActionId]
  cases hfast : simpleEntityUidParts s with
  | none => rfl
  | some parts =>
      obtain ⟨t, i⟩ := parts
      obtain ⟨uid, hparse, rfl, rfl⟩ := parse_plain hU ((simpleEntityUidParts_iff s t i).mp hfast)
      rw [parsedMetricActionId, hparse]
      rfl

/-- **FAST AND SLOW**: the fast path takes exactly the plain UIDs, cuts each in
    the one possible place, and labels it as the parser's reading of it. -/
theorem fast_path_exact (hU : UidLaws U) (s : List Char) :
    (∀ t i, simpleEntityUidParts s = some (t, i) ↔ PlainUid s t i)
      ∧ (∀ t i t' i', PlainUid s t i → PlainUid s t' i' → t = t' ∧ i = i')
      ∧ ∀ t i, simpleEntityUidParts s = some (t, i) →
          (∃ uid, U.parse s = some uid ∧ uid.typeName.text = t ∧ uid.id = i)
            ∧ metricActionId U s = parsedMetricActionId U s := by
  refine ⟨fun t i => simpleEntityUidParts_iff s t i, ?_, ?_⟩
  · intro t i t' i' h h'
    exact plainUid_unique h h'
  · intro t i h
    exact ⟨parse_plain hU ((simpleEntityUidParts_iff s t i).mp h), metricActionId_eq_parsed hU s⟩

/-! ## Canonical labels -/

/-- The characters of an id that a label does not show as they are. -/
def isReserved (c : Char) : Bool := c == '%' || c == '"' || c == '\\' || isControl c

/-- The encoding of ids is a percent encoding. -/
theorem encodeMetricLabelComponent_eq (value : List Char) :
    encodeMetricLabelComponent value = encode isReserved value := by
  rw [encodeMetricLabelComponent, encode]
  refine congrArg (value.flatMap ·) (funext fun c => ?_)
  rw [encodeChar]
  split
  · rfl
  · rfl
  · rfl
  · next hpercent hquote hbackslash =>
      have hplain : (c == '%' || c == '"' || c == '\\') = false := by
        simp only [Bool.or_eq_false_iff, beq_eq_false_iff_ne]
        exact ⟨⟨hpercent, hquote⟩, hbackslash⟩
      rw [isReserved, hplain, Bool.false_or]

/-- No character of an escaped text is a quote, a backslash or a control
    character. -/
theorem plain_of_mem_component {value : List Char} {c : Char}
    (h : c ∈ metricLabelComponent value) : c ≠ '"' ∧ c ≠ '\\' ∧ isControl c = false := by
  rw [metricLabelComponent, encodeMetricLabelComponent_eq] at h
  rcases mem_encode h with hplain | rfl | hdigit
  · rw [isReserved, Bool.or_eq_false_iff, Bool.or_eq_false_iff, Bool.or_eq_false_iff] at hplain
    exact ⟨beq_eq_false_iff_ne.mp hplain.1.1.2, beq_eq_false_iff_ne.mp hplain.1.2, hplain.2⟩
  · decide
  · have hdigits : ∀ n : Fin 16, hexDigit n ≠ '"' ∧ hexDigit n ≠ '\\'
        ∧ isControl (hexDigit n) = false := by
      decide
    obtain ⟨n, rfl⟩ := exists_hexDigit hdigit
    exact hdigits n

/-- **ESCAPING**: the bytes of an escaped text read as the text it escapes, so
    the escaping loses nothing; and what it writes can stand between quotes. -/
theorem metricLabelComponent_reversible :
    (∀ value : String,
        String.fromUTF8? ⟨(percentDecode (metricLabelComponent value.toList)).toArray⟩
          = some value)
      ∧ (∀ value value', metricLabelComponent value = metricLabelComponent value' →
        value = value')
      ∧ ∀ value, WellEscaped (metricLabelComponent value)
        ∧ ∀ c ∈ metricLabelComponent value, c ≠ '"' ∧ c ≠ '\\' ∧ isControl c = false := by
  have henc : ∀ value, metricLabelComponent value = encode isReserved value :=
    encodeMetricLabelComponent_eq
  refine ⟨?_, ?_, ?_⟩
  · intro value
    rw [henc, percentDecode_encode rfl]
    exact fromUTF8_asBytes value
  · intro value value' h
    rw [henc, henc] at h
    exact encode_injective rfl h
  · intro value
    refine ⟨?_, fun c => plain_of_mem_component⟩
    rw [henc]
    exact wellEscaped_encode rfl value

theorem ident_part {comp : List Char} (h : isIdentifier comp = true) :
    ∀ c ∈ comp, isIdentPart c = true := by
  cases comp with
  | nil => exact fun _ hc => nomatch hc
  | cons first rest =>
      rw [isIdentifier, Bool.and_eq_true, Bool.and_eq_true] at h
      obtain ⟨⟨hstart, hparts⟩, _⟩ := h
      intro c hc
      rcases List.mem_cons.mp hc with rfl | hc
      · exact isIdentPart_of_isIdentStart hstart
      · exact List.all_eq_true.mp hparts c hc

/-- A path is shown as it is. -/
theorem encode_qualify {w : List (List Char)} (h : ∀ comp ∈ w, isIdentifier comp = true) :
    encode isReserved (qualify ':' w) = qualify ':' w := by
  refine encode_plain fun c hc => ?_
  obtain ⟨comp, hcomp, hc⟩ := List.mem_flatMap.mp hc
  rcases List.mem_append.mp hc with hc | hc
  · exact of_isIdentPart (q := fun c => isReserved c = false) (by decide)
      (ident_part (h comp hcomp) c hc)
  · have hcolon : c = ':' := by simpa using hc
    rw [hcolon]
    decide

/-- The label of a canonical text: the path, and the encoded id. -/
theorem label_canonical (hU : UidLaws U) (uid : EntityUid) :
    metricActionId U (U.canonical uid)
      = qualify ':' uid.typeName.components ++ encode isReserved uid.id := by
  rw [metricActionId_eq_parsed hU, parsedMetricActionId, hU.canonical]
  show uid.typeName.text ++ "::".toList ++ metricLabelComponent uid.id = _
  rw [metricLabelComponent, encodeMetricLabelComponent_eq, EntityTypeName.text]
  exact congrArg (· ++ encode isReserved uid.id) (join_append_sep uid.typeName.nonempty)

/-- The type path of one UID continues that of the other, whose id begins with
    the continuation and ends with the first one's id. -/
def SpellsPath (u v : EntityUid) : Prop :=
  ∃ w, w ≠ [] ∧ v.typeName.components = u.typeName.components ++ w
    ∧ u.id = qualify ':' w ++ v.id

/-- One direction of the coincidence, over the continuation of the path. -/
theorem continued_iff {u v : EntityUid} :
    (∃ w, v.typeName.components = u.typeName.components ++ w
        ∧ encode isReserved u.id = qualify ':' w ++ encode isReserved v.id)
      ↔ u = v ∨ SpellsPath u v := by
  have hstep : ∀ w, v.typeName.components = u.typeName.components ++ w →
      (encode isReserved u.id = qualify ':' w ++ encode isReserved v.id
        ↔ u.id = qualify ':' w ++ v.id) := by
    intro w hw
    have hidents : ∀ comp ∈ w, isIdentifier comp = true := by
      intro comp hcomp
      refine v.typeName.identifiers comp ?_
      rw [hw]
      exact List.mem_append_right _ hcomp
    rw [← encode_qualify hidents, ← encode_append, encode_qualify hidents]
    exact ⟨fun h => encode_injective rfl h, fun h => congrArg _ h⟩
  constructor
  · rintro ⟨w, hw, henc⟩
    have hid := (hstep w hw).mp henc
    by_cases hnil : w = []
    · subst hnil
      rw [List.append_nil] at hw
      obtain ⟨⟨components, _, _⟩, id⟩ := u
      obtain ⟨⟨components', _, _⟩, id'⟩ := v
      obtain rfl : components' = components := hw
      obtain rfl : id = id' := hid
      exact Or.inl rfl
    · exact Or.inr ⟨w, hnil, hw, hid⟩
  · rintro (rfl | ⟨w, _, hw, hid⟩)
    · exact ⟨[], (List.append_nil _).symm, rfl⟩
    · exact ⟨w, hw, (hstep w hw).mpr hid⟩

/-- **COINCIDENCE**: two UIDs are labelled alike exactly if they are equal or
    the id of one spells out the path of the other. -/
theorem labels_coincide_iff (hU : UidLaws U) (u v : EntityUid) :
    metricActionId U (U.canonical u) = metricActionId U (U.canonical v)
      ↔ u = v ∨ SpellsPath u v ∨ SpellsPath v u := by
  have hcolon : ∀ uid : EntityUid, ∀ comp ∈ uid.typeName.components, ':' ∉ comp :=
    fun uid comp hcomp => ident_not_colon (uid.typeName.identifiers comp hcomp)
  rw [label_canonical hU, label_canonical hU, qualify_append_inj (hcolon u) (hcolon v),
    continued_iff, continued_iff]
  constructor
  · rintro ((h | h) | (h | h))
    · exact Or.inl h
    · exact Or.inr (Or.inl h)
    · exact Or.inl h.symm
    · exact Or.inr (Or.inr h)
  · rintro (h | h | h)
    · exact Or.inl (Or.inl h)
    · exact Or.inl (Or.inr h)
    · exact Or.inr (Or.inr h)

/-- **COLLISIONS**: distinct UIDs have distinct labels exactly if neither's id
    spells out the path of the other. -/
theorem labels_differ_iff (hU : UidLaws U) {u v : EntityUid} (hne : u ≠ v) :
    metricActionId U (U.canonical u) ≠ metricActionId U (U.canonical v)
      ↔ ¬ SpellsPath u v ∧ ¬ SpellsPath v u := by
  rw [ne_eq, labels_coincide_iff hU, not_or, not_or]
  exact and_iff_right hne

/-! ## A small parser -/

/-- Quotes and backslashes with a backslash before them. -/
def escapeId (id : List Char) : List Char :=
  id.flatMap fun c => if c = '"' ∨ c = '\\' then ['\\', c] else [c]

def unescapeId : List Char → Option (List Char)
  | [] => some []
  | ['\\'] => none
  | '\\' :: c :: rest =>
      if c = '"' ∨ c = '\\' then (unescapeId rest).map fun id => c :: id else none
  | c :: rest => if c = '"' then none else (unescapeId rest).map fun id => c :: id

/-- Everything before the first quote is the type, all after it the id. -/
def readUid (s : List Char) : Option EntityUid := do
  let (front, rest) ← splitOnce '"' s
  let typeText ← (stripSuffix ':' front).bind (stripSuffix ':')
  let body ← stripSuffix '"' rest
  let id ← unescapeId body
  if h : ∀ comp ∈ splitDoubled ':' typeText, isIdentifier comp = true then
    some ⟨⟨splitDoubled ':' typeText, splitDoubled_ne_nil typeText, h⟩, id⟩
  else none

def smallUids : UidCrate := ⟨readUid, escapeId⟩

theorem unescapeId_cons {c : Char} (hquote : c ≠ '"') (hbackslash : c ≠ '\\') (s : List Char) :
    unescapeId (c :: s) = (unescapeId s).map fun id => c :: id := by
  rw [unescapeId, if_neg hquote]
  · rintro rfl
    exact absurd rfl hbackslash
  · intro d rest hc
    exact absurd hc hbackslash

theorem unescapeId_escapeId (id : List Char) : unescapeId (escapeId id) = some id := by
  induction id with
  | nil => rfl
  | cons c id ih =>
      rw [escapeId, List.flatMap_cons, ← escapeId]
      by_cases hc : c = '"' ∨ c = '\\'
      · rw [if_pos hc]
        show unescapeId ('\\' :: c :: escapeId id) = _
        rw [unescapeId, if_pos hc, ih]
        rfl
      · obtain ⟨hquote, hbackslash⟩ := not_or.mp hc
        rw [if_neg hc]
        show unescapeId (c :: escapeId id) = _
        rw [unescapeId_cons hquote hbackslash, ih]
        rfl

theorem unescapeId_plain {body : List Char} (hquote : '"' ∉ body) (hbackslash : '\\' ∉ body) :
    unescapeId body = some body := by
  induction body with
  | nil => rfl
  | cons c body ih =>
      obtain ⟨hq, hquote⟩ := List.ne_and_not_mem_of_not_mem_cons hquote
      obtain ⟨hb, hbackslash⟩ := List.ne_and_not_mem_of_not_mem_cons hbackslash
      rw [unescapeId_cons hq.symm hb.symm, ih hquote hbackslash]
      rfl

/-- Whatever stands between the quotes is read as the id. -/
theorem readUid_text (typeName : EntityTypeName) (body : List Char) :
    readUid (typeName.text ++ "::\"".toList ++ body ++ "\"".toList)
      = (unescapeId body).map fun id => ⟨typeName, id⟩ := by
  have hparts : ∀ comp ∈ typeName.components, '"' ∉ comp := by
    intro comp hcomp hmem
    exact absurd (ident_part (typeName.identifiers comp hcomp) '"' hmem) (by decide)
  have hquote : '"' ∉ qualify ':' typeName.components := by
    intro hmem
    obtain ⟨comp, hcomp, hmem⟩ := List.mem_flatMap.mp hmem
    rcases List.mem_append.mp hmem with hmem | hmem
    · exact hparts comp hcomp hmem
    · exact absurd hmem (by decide)
  have hfront : typeName.text ++ [':', ':'] = qualify ':' typeName.components :=
    join_append_sep typeName.nonempty
  have hshape : typeName.text ++ "::\"".toList ++ body ++ "\"".toList
      = qualify ':' typeName.components ++ '"' :: (body ++ ['"']) := by
    rw [← hfront]
    simp
  have htype : (stripSuffix ':' (qualify ':' typeName.components)).bind (stripSuffix ':')
      = some typeName.text := by
    have htwo : typeName.text ++ [':', ':'] = (typeName.text ++ [':']) ++ [':'] := by
      simp
    rw [← hfront, htwo, stripSuffix, List.getLast?_concat, if_pos rfl, List.dropLast_concat,
      Option.bind_some, stripSuffix, List.getLast?_concat, if_pos rfl, List.dropLast_concat]
  have hbody : stripSuffix '"' (body ++ ['"']) = some body := by
    rw [stripSuffix, List.getLast?_concat, if_pos rfl, List.dropLast_concat]
  have hidents : ∀ comp ∈ splitDoubled ':' typeName.text, isIdentifier comp = true := by
    rw [splitDoubled_text]
    exact typeName.identifiers
  rw [hshape, readUid, splitOnce_eq_some.mpr ⟨rfl, hquote⟩]
  show ((stripSuffix ':' _).bind (stripSuffix ':')).bind _ = _
  rw [htype]
  show (stripSuffix '"' (body ++ ['"'])).bind _ = _
  rw [hbody]
  show (unescapeId body).bind _ = _
  cases unescapeId body with
  | none => rfl
  | some id =>
      show (if h : _ then some _ else none) = _
      rw [dif_pos hidents]
      exact congrArg (fun t => some (EntityUid.mk t id))
        (EntityTypeName.text_injective (join_splitDoubled typeName.text))

theorem uidLaws_smallUids : UidLaws smallUids where
  canonical := by
    rintro ⟨typeName, id⟩
    show readUid (typeName.text ++ "::\"".toList ++ escapeId id ++ "\"".toList) = _
    rw [readUid_text, unescapeId_escapeId]
    rfl
  plain := by
    intro typeName body hquote hbackslash
    show readUid _ = _
    rw [readUid_text, unescapeId_plain hquote hbackslash]
    rfl

/-- An entity UID from its texts. -/
def uidOf (components : List String) (id : String)
    (h : components ≠ [] ∧ (components.map String.toList).all isIdentifier = true) : EntityUid :=
  ⟨⟨components.map String.toList, List.map_eq_nil_iff.not.mpr h.1, List.all_eq_true.mp h.2⟩,
    id.toList⟩

/-- The fast path on a plain UID of several components. -/
theorem fast_path_exact_small :
    (∀ t i, simpleEntityUidParts "Infra::Core::Action::\"view:album\"".toList = some (t, i)
        ↔ PlainUid "Infra::Core::Action::\"view:album\"".toList t i)
      ∧ (∀ t i t' i', PlainUid "Infra::Core::Action::\"view:album\"".toList t i →
          PlainUid "Infra::Core::Action::\"view:album\"".toList t' i' → t = t' ∧ i = i')
      ∧ ∀ t i, simpleEntityUidParts "Infra::Core::Action::\"view:album\"".toList = some (t, i) →
          (∃ uid, smallUids.parse "Infra::Core::Action::\"view:album\"".toList = some uid
              ∧ uid.typeName.text = t ∧ uid.id = i)
            ∧ metricActionId smallUids "Infra::Core::Action::\"view:album\"".toList
              = parsedMetricActionId smallUids "Infra::Core::Action::\"view:album\"".toList :=
  fast_path_exact uidLaws_smallUids _

/-- Two actions of one type. -/
theorem labels_differ_iff_small :
    metricActionId smallUids (smallUids.canonical (uidOf ["Action"] "view" (by decide)))
        ≠ metricActionId smallUids (smallUids.canonical (uidOf ["Action"] "50%" (by decide)))
      ↔ ¬ SpellsPath (uidOf ["Action"] "view" (by decide)) (uidOf ["Action"] "50%" (by decide))
        ∧ ¬ SpellsPath (uidOf ["Action"] "50%" (by decide)) (uidOf ["Action"] "view" (by decide)) :=
  labels_differ_iff uidLaws_smallUids fun h => absurd (congrArg EntityUid.id h) (by decide)

/-- `A::"B::c"` and `A::B::"c"` are both labelled `A::B::c`. -/
theorem labels_collide :
    uidOf ["A"] "B::c" (by decide) ≠ uidOf ["A", "B"] "c" (by decide)
      ∧ metricActionId smallUids (smallUids.canonical (uidOf ["A"] "B::c" (by decide)))
        = "A::B::c".toList
      ∧ metricActionId smallUids (smallUids.canonical (uidOf ["A", "B"] "c" (by decide)))
        = "A::B::c".toList := by
  refine ⟨fun h => absurd (congrArg EntityUid.id h) (by decide), ?_, ?_⟩
  · decide +kernel
  · decide +kernel

end TreetopMetricLabels
