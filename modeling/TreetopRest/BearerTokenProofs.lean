import TreetopRest.AdmissionProofs

/-! # Bearer tokens are the grammar's

    One scanner guards both sides, the configured tokens and the presented
    ones.  It reads bytes, with a count and a flag; the grammar is about
    characters.  The two coincide (`validBearerToken_iff`), so a token has no
    comma and no blank: a list of tokens is read back as it was written
    (`entriesOf_written`), and every one of them can be presented. -/

namespace TreetopBearerTokens

open Text
open TreetopErrors TreetopCrates
open TreetopRequest TreetopFetcher TreetopAdmission TreetopSample

/-! ## The grammar -/

/-- A letter, a digit or one of six signs, all in ASCII. -/
def isTokenChar (c : Char) : Bool := c.isAlphanum || "-._~+/".toList.contains c

/-- The grammar of `b64token`: token characters, then equals signs. -/
def B64Token (t : List Char) : Prop :=
  ∃ body pad, t = body ++ List.replicate pad '=' ∧ body ≠ []
    ∧ ∀ c ∈ body, isTokenChar c = true

/-- What completes a token after `n` characters of its body, and maybe some of
    the padding. -/
def Completes (n : Nat) (paddingStarted : Bool) (t : List Char) : Prop :=
  ∃ body pad, t = body ++ List.replicate pad '=' ∧ 0 < n + body.length
    ∧ (∀ c ∈ body, isTokenChar c = true) ∧ (paddingStarted = true → body = [])

/-- The bytes of token characters, on ASCII. -/
theorem tokenByte_ascii (n : Fin 128) :
    isTokenByte (UInt8.ofNat n) = isTokenChar (Char.ofNat n) := by
  revert n
  decide

/-- The equals sign, on ASCII. -/
theorem padByte_ascii (n : Fin 128) : UInt8.ofNat n = 0x3D ↔ Char.ofNat n = '=' := by
  revert n
  decide

theorem tokenByte_nonAscii {b : UInt8} (h : ¬ b.toNat < 0x80) : isTokenByte b = false := by
  rw [Bool.eq_false_iff]
  intro hb
  simp only [isTokenByte, Bool.or_eq_true, Bool.and_eq_true, decide_eq_true_eq, beq_iff_eq,
    UInt8.le_iff_toNat_le, ← UInt8.toNat_inj, UInt8.reduceToNat] at hb
  omega

theorem tokenChar_ascii {c : Char} (h : isTokenChar c = true) : c.toNat < 0x80 := by
  rw [isTokenChar, Bool.or_eq_true] at h
  rcases h with h | h
  · exact alphanum_ascii h
  · have hsigns : ∀ c ∈ "-._~+/".toList, c.toNat < 0x80 := by simp
    exact hsigns c (List.contains_iff_mem.mp h)

/-- What holds of the token characters and the equals sign in ASCII holds of
    every character of a token. -/
theorem of_b64Token {q : Char → Prop}
    (hascii : ∀ n : Fin 128, (isTokenChar (Char.ofNat n) || Char.ofNat n == '=') = true →
      q (Char.ofNat n)) {t : List Char} (h : B64Token t) : ∀ c ∈ t, q c := by
  obtain ⟨body, pad, rfl, _, hbody⟩ := h
  intro c hc
  have hclass : c.toNat < 0x80 ∧ (isTokenChar c || c == '=') = true := by
    rcases List.mem_append.mp hc with hc | hc
    · exact ⟨tokenChar_ascii (hbody c hc), by rw [hbody c hc, Bool.true_or]⟩
    · rw [(List.mem_replicate.mp hc).2]
      decide
  exact of_ascii (q := fun c => (isTokenChar c || c == '=') = true → q c) hascii hclass.1 hclass.2

/-! ## The scanner -/

theorem completes_nil {n : Nat} {paddingStarted : Bool} :
    Completes n paddingStarted [] ↔ 0 < n := by
  constructor
  · rintro ⟨body, pad, ht, hpos, _, _⟩
    rw [(List.append_eq_nil_iff.mp ht.symm).1] at hpos
    exact hpos
  · intro hn
    exact ⟨[], 0, rfl, hn, (fun _ hc => nomatch hc), fun _ => rfl⟩

/-- After an equals sign only more of them complete a token. -/
theorem completes_pad {n : Nat} {paddingStarted : Bool} {t : List Char} :
    Completes n paddingStarted ('=' :: t) ↔ Completes n true t := by
  constructor
  · rintro ⟨body, pad, ht, hpos, hbody, hstarted⟩
    cases body with
    | nil =>
        cases pad with
        | zero => exact nomatch ht
        | succ pad => exact ⟨[], pad, (List.cons.inj ht).2, hpos, hbody, fun _ => rfl⟩
    | cons c body =>
        have hc := hbody c (List.mem_cons_self ..)
        rw [← (List.cons.inj ht).1] at hc
        exact absurd hc (by decide)
  · rintro ⟨body, pad, rfl, hpos, hbody, hempty⟩
    cases hempty rfl
    exact ⟨[], pad + 1, rfl, hpos, hbody, fun _ => rfl⟩

/-- Any other character has to be one of the body, which the padding ends. -/
theorem completes_body {n : Nat} {paddingStarted : Bool} {c : Char} {t : List Char}
    (hc : c ≠ '=') :
    Completes n paddingStarted (c :: t)
      ↔ paddingStarted = false ∧ isTokenChar c = true ∧ Completes (n + 1) false t := by
  constructor
  · rintro ⟨body, pad, ht, hpos, hbody, hstarted⟩
    cases body with
    | nil =>
        cases pad with
        | zero => exact nomatch ht
        | succ pad => exact absurd (List.cons.inj ht).1 hc
    | cons d body =>
        obtain ⟨rfl, rfl⟩ := List.cons.inj ht
        obtain ⟨hd, hbody⟩ := List.forall_mem_cons.mp hbody
        refine ⟨?_, hd, body, pad, rfl, by omega, hbody, fun h => nomatch h⟩
        rw [← Bool.not_eq_true]
        intro h
        exact nomatch hstarted h
  · rintro ⟨rfl, hd, body, pad, rfl, hpos, hbody, _⟩
    refine ⟨c :: body, pad, rfl, ?_, List.forall_mem_cons.mpr ⟨hd, hbody⟩, fun h => nomatch h⟩
    rw [List.length_cons]
    omega

/-- The scanner, from any state it can be in. -/
theorem validBearerBytes_iff (t : List Char) :
    ∀ (n : Nat) (paddingStarted : Bool),
      validBearerBytes (asBytes t) n paddingStarted = true ↔ Completes n paddingStarted t := by
  induction t with
  | nil =>
      intro n paddingStarted
      rw [completes_nil]
      exact decide_eq_true_iff
  | cons c t ih =>
      intro n paddingStarted
      rw [asBytes, List.flatMap_cons, ← asBytes]
      by_cases hsmall : c.toNat < 0x80
      · -- one byte: the scanner takes the step the grammar takes
        have hpad := padByte_ascii ⟨c.toNat, hsmall⟩
        have htoken := tokenByte_ascii ⟨c.toNat, hsmall⟩
        rw [Char.ofNat_toNat] at hpad htoken
        dsimp only at hpad htoken
        rw [utf8EncodeChar_ascii hsmall, List.singleton_append, validBearerBytes]
        by_cases hc : c = '='
        · rw [if_pos (hpad.mpr hc), ih, hc, completes_pad]
        · rw [if_neg (fun h => hc (hpad.mp h)), htoken, completes_body hc]
          cases paddingStarted with
          | true => exact iff_of_false Bool.false_ne_true (fun h => Bool.false_ne_true h.1.symm)
          | false =>
              cases hd : isTokenChar c with
              | true =>
                  rw [if_neg (by decide), ih]
                  exact ⟨fun h => ⟨rfl, rfl, h⟩, fun h => h.2.2⟩
              | false =>
                  exact iff_of_false Bool.false_ne_true (fun h => Bool.false_ne_true h.2.1)
      · -- the first of several bytes ends the scan
        obtain ⟨b, bs, hbytes, hb⟩ := utf8EncodeChar_nonAscii hsmall
        have hpad : ¬ b = 0x3D := by
          rintro rfl
          exact hb (by decide)
        have hc : c ≠ '=' := by
          rintro rfl
          exact hsmall (by decide)
        rw [hbytes, List.cons_append, validBearerBytes, if_neg hpad, tokenByte_nonAscii hb,
          Bool.not_false, Bool.or_true, completes_body hc]
        exact iff_of_false Bool.false_ne_true (fun h => hsmall (tokenChar_ascii h.2.1))

/-- **GRAMMAR**: the scanner accepts exactly the tokens of the grammar. -/
theorem validBearerToken_iff (t : List Char) : validBearerToken t = true ↔ B64Token t := by
  rw [validBearerToken, validBearerBytes_iff]
  constructor
  · rintro ⟨body, pad, rfl, hpos, hbody, _⟩
    refine ⟨body, pad, rfl, ?_, hbody⟩
    rintro rfl
    exact absurd hpos (by decide)
  · rintro ⟨body, pad, rfl, hne, hbody⟩
    refine ⟨body, pad, rfl, ?_, hbody, fun h => nomatch h⟩
    have hpos := List.length_pos_iff.mpr hne
    omega

/-! ## Lists of tokens -/

/-- No character of a token separates entries or is trimmed off them. -/
theorem plain_of_validBearerToken {t : List Char} (h : validBearerToken t = true) :
    ∀ c ∈ t, c ≠ ',' ∧ isWhitespace c = false :=
  of_b64Token (by decide) ((validBearerToken_iff t).mp h)

/-- A token with blanks around it. -/
def Padded (tok piece : List Char) : Prop :=
  ∃ w₁ w₂, Blank w₁ ∧ Blank w₂ ∧ piece = w₁ ++ (tok ++ w₂)

/-- A text written from the tokens: a comma between any two, and maybe blanks
    around each. -/
def WrittenFrom (toks : List (List Char)) (text : List Char) : Prop :=
  ∃ pieces, text = ",".toList.intercalate pieces ∧ List.Forall₂ Padded toks pieces

/-- Trimming a token with blanks around it leaves the token. -/
theorem trim_padded {tok piece : List Char} (htok : validBearerToken tok = true)
    (h : Padded tok piece) : trim piece = tok := by
  obtain ⟨w₁, w₂, h₁, h₂, rfl⟩ := h
  have hplain := plain_of_validBearerToken htok
  rw [trim_blank_append h₁, trim_append_blank h₂, trim, trimStart, trimEnd]
  have hstart : tok.dropWhile isWhitespace = tok := by
    rw [List.dropWhile_eq_self_iff]
    intro hlen
    rw [(hplain _ (List.getElem_mem hlen)).2]
    decide
  rw [hstart, List.rdropWhile_eq_self_iff]
  intro hne
  rw [(hplain _ (List.getLast_mem hne)).2]
  decide

/-- A token with blanks around it is one piece. -/
theorem comma_not_mem_padded {tok piece : List Char} (htok : validBearerToken tok = true)
    (h : Padded tok piece) : ',' ∉ piece := by
  obtain ⟨w₁, w₂, h₁, h₂, rfl⟩ := h
  have hcomma : isWhitespace ',' = false := by decide
  intro hmem
  rcases List.mem_append.mp hmem with hmem | hmem
  · exact notMem_of_blank hcomma h₁ hmem
  · rcases List.mem_append.mp hmem with hmem | hmem
    · exact (plain_of_validBearerToken htok ',' hmem).1 rfl
    · exact notMem_of_blank hcomma h₂ hmem

/-- The pieces a text is written from, one by one. -/
theorem pieces_spec {toks pieces : List (List Char)} (h : List.Forall₂ Padded toks pieces)
    (htoks : ∀ tok ∈ toks, validBearerToken tok = true) :
    (∀ piece ∈ pieces, ',' ∉ piece) ∧ pieces.map trim = toks := by
  induction h with
  | nil => exact ⟨(fun _ hmem => nomatch hmem), rfl⟩
  | cons hpiece _ ih =>
      obtain ⟨htok, htoks⟩ := List.forall_mem_cons.mp htoks
      obtain ⟨hcomma, hmap⟩ := ih htoks
      refine ⟨List.forall_mem_cons.mpr ⟨comma_not_mem_padded htok hpiece, hcomma⟩, ?_⟩
      rw [List.map_cons, trim_padded htok hpiece, hmap]

/-- A list of tokens is read back from any text written from it. -/
theorem entriesOf_written {toks : List (List Char)} {text : String} (hne : toks ≠ [])
    (htoks : ∀ tok ∈ toks, validBearerToken tok = true) (h : WrittenFrom toks text.toList) :
    entriesOf text = toks := by
  obtain ⟨pieces, htext, hpieces⟩ := h
  obtain ⟨hcomma, hmap⟩ := pieces_spec hpieces htoks
  have hpne : pieces ≠ [] := by
    rintro rfl
    exact hne hmap.symm
  have hsplit : text.toList.splitOn ',' = pieces := by
    rw [htext]
    exact List.splitOn_intercalate ',' hcomma hpne
  rw [entriesOf, hsplit, hmap]

/-- Every text is written from its entries. -/
theorem writtenFrom_entriesOf (text : String) : WrittenFrom (entriesOf text) text.toList := by
  refine ⟨text.toList.splitOn ',', (List.intercalate_splitOn ',').symm, ?_⟩
  rw [entriesOf, List.forall₂_map_left_iff, List.forall₂_same]
  intro piece _
  exact exists_trim_append piece

/-- A text with an entry that is a token is not blank. -/
theorem not_blank_of_entries {text : String}
    (h : ∀ tok ∈ entriesOf text, validBearerToken tok = true) : trim text.toList ≠ [] := by
  intro hblank
  have hentries : entriesOf text = [[]] := by
    rw [entriesOf, ← map_trim_splitOn_trim (by decide), hblank]
    rfl
  rw [hentries] at h
  exact absurd (h [] (List.mem_singleton_self [])) (by decide)

/-- **CONFIGURATION**: a text whose entries are tokens is accepted, with just
    these tokens. -/
theorem parseEnv_entries (X : Crates) {text : String}
    (h : ∀ tok ∈ entriesOf text, validBearerToken tok = true) :
    AccessTokens.parseEnv X (some text)
      = .ok ⟨((entriesOf text).map (hashToken X)).dedup⟩ := by
  have hblank : ¬ (trim text.toList).isEmpty = true := by
    rw [List.isEmpty_iff]
    exact not_blank_of_entries h
  have hempty : ¬ (entriesOf text).any (fun entry => entry.isEmpty) = true := by
    rw [List.any_eq_true]
    rintro ⟨tok, htok, hnil⟩
    have hvalid := h tok htok
    rw [List.isEmpty_iff.mp hnil] at hvalid
    exact absurd hvalid (by decide)
  have hinvalid : ¬ (entriesOf text).any (fun token => !validBearerToken token) = true := by
    rw [List.any_eq_true]
    rintro ⟨tok, htok, hbad⟩
    rw [h tok htok] at hbad
    exact nomatch hbad
  show (if (trim text.toList).isEmpty then _ else
    if (entriesOf text).any (fun entry => entry.isEmpty) then _ else
    if (entriesOf text).any (fun token => !validBearerToken token) then _ else
      Except.ok (AccessTokens.mk ((entriesOf text).map (hashToken X)).dedup)) = _
  rw [if_neg hblank, if_neg hempty, if_neg hinvalid]

/-! ## Presenting a token -/

/-- A header value of visible ASCII text reads as that text. -/
theorem toStr_asBytes {s : List Char} (h : ∀ c ∈ s, 0x20 ≤ c.toNat ∧ c.toNat < 0x7F) :
    (HeaderValue.mk (asBytes s)).toStr = some (String.ofList s) := by
  have hone : ∀ c ∈ s, String.utf8EncodeChar c = [UInt8.ofNat c.toNat] := by
    intro c hc
    have hrange := h c hc
    exact utf8EncodeChar_ascii (by omega)
  have hbytes : asBytes s = s.map fun c => UInt8.ofNat c.toNat := by
    rw [asBytes, List.map_eq_flatMap]
    exact List.flatMap_congr hone
  have hnat : ∀ c ∈ s, (UInt8.ofNat c.toNat).toNat = c.toNat := by
    intro c hc
    have hrange := h c hc
    rw [UInt8.toNat_ofNat']
    omega
  have hvisible : (asBytes s).all isVisibleAscii = true := by
    rw [hbytes, List.all_map, List.all_eq_true]
    intro c hc
    have hrange := h c hc
    have hc' := hnat c hc
    show ((0x20 ≤ UInt8.ofNat c.toNat && UInt8.ofNat c.toNat < 0x7F) || _) = true
    rw [Bool.or_eq_true, Bool.and_eq_true, decide_eq_true_eq, decide_eq_true_eq,
      UInt8.le_iff_toNat_le, UInt8.lt_iff_toNat_lt, hc']
    exact Or.inl hrange
  have hchars : (asBytes s).map (fun b => Char.ofNat b.toNat) = s := by
    rw [hbytes, List.map_map]
    conv_rhs => rw [← List.map_id s]
    refine List.map_congr_left fun c hc => ?_
    show Char.ofNat (UInt8.ofNat c.toNat).toNat = c
    rw [hnat c hc, Char.ofNat_toNat]
  rw [HeaderValue.toStr, if_pos hvisible, hchars]

/-- The characters of a token are visible ASCII. -/
theorem visible_of_validBearerToken {t : List Char} (h : validBearerToken t = true) :
    ∀ c ∈ t, 0x20 ≤ c.toNat ∧ c.toNat < 0x7F :=
  of_b64Token (by decide) ((validBearerToken_iff t).mp h)

/-- The value of an Authorization header that presents a token. -/
def bearerValue (tok : List Char) : HeaderValue := ⟨asBytes ("Bearer ".toList ++ tok)⟩

/-- **PRESENTATION**: a token in its header is read off it. -/
theorem bearerToken_bearerValue {headers : HeaderMap} {tok : List Char}
    (htok : validBearerToken tok = true)
    (h : headers.getAll "authorization" = [bearerValue tok]) :
    bearerToken headers = .ok tok := by
  rw [bearerToken_eq_ok_iff]
  refine ⟨htok, bearerValue tok, String.ofList ("Bearer ".toList ++ tok), "Bearer".toList, h,
    toStr_asBytes ?_, ?_, by decide⟩
  · intro c hc
    rcases List.mem_append.mp hc with hc | hc
    · have hscheme : ∀ c ∈ "Bearer ".toList, 0x20 ≤ c.toNat ∧ c.toNat < 0x7F := by simp
      exact hscheme c hc
    · exact visible_of_validBearerToken htok c hc
  · rw [String.toList_ofList]
    rfl

/-- **BEARER TOKENS**: the scanner is the grammar; so a text written from tokens
    sets just these tokens, an accepted text sets the tokens it was written
    from, and each of them is accepted in a header. -/
theorem bearer_tokens_exact (X : Crates) :
    (∀ t, validBearerToken t = true ↔ B64Token t)
    ∧ (∀ t, validBearerToken t = true → ∀ c ∈ t, c ≠ ',' ∧ isWhitespace c = false)
    ∧ (∀ toks text, toks ≠ [] → (∀ tok ∈ toks, validBearerToken tok = true) →
        WrittenFrom toks text.toList →
        entriesOf text = toks
          ∧ AccessTokens.parseEnv X (some text) = .ok ⟨(toks.map (hashToken X)).dedup⟩)
    ∧ (∀ text tokens, AccessTokens.parseEnv X (some text) = .ok tokens →
        trim text.toList = [] ∧ tokens = ⟨[]⟩
        ∨ WrittenFrom (entriesOf text) text.toList
          ∧ tokens = ⟨((entriesOf text).map (hashToken X)).dedup⟩
          ∧ ∀ tok ∈ entriesOf text, B64Token tok
            ∧ ∀ headers, HeaderMap.getAll headers "authorization" = [bearerValue tok] →
              bearerToken headers = .ok tok ∧ tokens.matches' X tok = true) := by
  refine ⟨validBearerToken_iff, fun t => plain_of_validBearerToken, ?_, ?_⟩
  · intro toks text hne htoks hwritten
    have hentries := entriesOf_written hne htoks hwritten
    rw [← hentries] at htoks ⊢
    exact ⟨rfl, parseEnv_entries X htoks⟩
  · intro text tokens h
    rcases tokens_meaning h with ⟨hnone, _⟩ | ⟨_, _, t, ht, hvalid, hmatches⟩
    · have hblank := hnone text rfl
      refine Or.inl ⟨hblank, ?_⟩
      rw [AccessTokens.parseEnv] at h
      dsimp only at h
      rw [hblank] at h
      exact (Except.ok.inj h).symm
    · cases ht
      have hparsed := parseEnv_entries X hvalid
      refine Or.inr ⟨writtenFrom_entriesOf text, Except.ok.inj (h.symm.trans hparsed), ?_⟩
      intro tok htok
      refine ⟨(validBearerToken_iff tok).mp (hvalid tok htok), ?_⟩
      intro headers hheaders
      exact ⟨bearerToken_bearerValue (hvalid tok htok) hheaders,
        (hmatches tok).mpr ⟨tok, htok, rfl⟩⟩

end TreetopBearerTokens
