import TreetopRest.MetricLabelModel

/-! # The layout of a Cedar policy text

    What a policy text is to Cedar's parser, as far as its layout goes: a
    sequence of lexemes, among them whitespace and comments, that falls into
    statements.  A statement is any number of annotations, an effect keyword,
    a scope in parentheses and conditions up to a semicolon; the phases below
    follow it.  They read conditions only up to their end, so they accept more
    than Cedar does. -/

namespace TreetopCedar

open Text
open TreetopMetricLabels (isIdentStart isIdentPart isIdentPart_of_isIdentStart)

/-! ## Lexemes -/

/-- Operators of two characters are two lexemes here: `==`, `::`, `&&`. -/
inductive Lexeme where
  | space (run : List Char)
  | comment (body : List Char)
  | word (run : List Char)
  | number (run : List Char)
  | string (body : List Char)
  | punct (c : Char)
deriving DecidableEq, Repr

def Lexeme.text : Lexeme → List Char
  | .space run => run
  | .comment body => '/' :: '/' :: body
  | .word run => run
  | .number run => run
  | .string body => '"' :: (body ++ ['"'])
  | .punct c => [c]

def punctuation : List Char := "@.,;:()\x7b\x7d[]=!<>|&+-*/%?".toList

/-- Characters up to the end of a line, where a comment ends. -/
def inLine (c : Char) : Bool := c != '\n' && c != '\r'

/-- Read to the closing quote of a string literal, and no further.  The
    literal may go over several lines; an escape may not. -/
def readString : List Char → Option (List Char × List Char)
  | [] => none
  | c :: rest =>
      if c = '"' then some ([], rest)
      else if c = '\\' then
        match rest with
        | [] => none
        | escaped :: rest =>
            if escaped = '\n' then none
            else (readString rest).map fun p => (c :: escaped :: p.1, p.2)
      else (readString rest).map fun p => (c :: p.1, p.2)

def nextLexeme : List Char → Option (Lexeme × List Char)
  | [] => none
  | c :: rest =>
      if isWhitespace c then
        some (.space (c :: rest.takeWhile isWhitespace), rest.dropWhile isWhitespace)
      else if isIdentStart c then
        some (.word (c :: rest.takeWhile isIdentPart), rest.dropWhile isIdentPart)
      else if c.isDigit then
        some (.number (c :: rest.takeWhile Char.isDigit), rest.dropWhile Char.isDigit)
      else if c = '"' then (readString rest).map fun p => (.string p.1, p.2)
      else if c = '/' ∧ rest.head? = some '/' then
        some (.comment (rest.tail.takeWhile inLine), rest.tail.dropWhile inLine)
      else if punctuation.contains c then some (.punct c, rest)
      else none

def lexFuel : Nat → List Char → Option (List Lexeme)
  | 0, s => if s = [] then some [] else none
  | fuel + 1, s =>
      match nextLexeme s with
      | some p => (lexFuel fuel p.2).map (p.1 :: ·)
      | none => if s = [] then some [] else none

/-- The lexemes of a text; no lexeme is empty, so its length is fuel enough. -/
def lex (s : List Char) : Option (List Lexeme) := lexFuel s.length s

/-! ## Statements -/

/-- The keyword of a policy. -/
def isEffect (word : List Char) : Bool :=
  word == "permit".toList || word == "forbid".toList

/-- Where in a statement a text stands. -/
inductive Phase where
  /-- before an annotation or the effect -/
  | head
  /-- after the `@` of an annotation -/
  | sign
  /-- after the name of an annotation, whose value is optional -/
  | name
  /-- after the parenthesis that opens an annotation's value -/
  | value
  /-- after an annotation's value -/
  | close
  /-- after the effect -/
  | effect
  /-- in the scope or the conditions -/
  | body
  /-- there, after one of the effect keywords -/
  | keyword
  /-- in no statement of the grammar -/
  | reject
deriving DecidableEq, Repr

/-- A condition may name an attribute or an entity type after an effect, but
    calls no function of that name. -/
def Phase.next (phase : Phase) : Lexeme → Phase
  | .space _ | .comment _ => phase
  | .word run =>
      match phase with
      | .head | .name => if isEffect run then .effect else .reject
      | .sign => .name
      | .body | .keyword => if isEffect run then .keyword else .body
      | _ => .reject
  | .number _ =>
      match phase with
      | .body | .keyword => .body
      | _ => .reject
  | .string _ =>
      match phase with
      | .value => .close
      | .body | .keyword => .body
      | _ => .reject
  | .punct c =>
      match phase with
      | .head => if c = '@' then .sign else .reject
      | .name => if c = '@' then .sign else if c = '(' then .value else .reject
      | .close => if c = ')' then .head else .reject
      | .effect => if c = '(' then .body else .reject
      | .body => if c = ';' then .head else .body
      | .keyword => if c = ';' then .head else if c = '(' then .reject else .body
      | _ => .reject

/-- A text of statements starts and ends before one. -/
def accepted (ls : List Lexeme) : Bool := ls.foldl Phase.next .head = .head

/-- A policy starts at its effect, in front of its scope. -/
def Phase.starts (phase : Phase) : Lexeme → Bool
  | .word run => (phase = .head || phase = .name) && isEffect run
  | _ => false

/-- The policies of a text. -/
def policies : Phase → List Lexeme → Nat
  | _, [] => 0
  | phase, l :: ls => (phase.starts l).toNat + policies (phase.next l) ls

/-! ## The lexemes cover the text -/

theorem readString_eq {s body rest : List Char} (h : readString s = some (body, rest)) :
    s = body ++ '"' :: rest := by
  fun_induction readString s generalizing body with
  | case1 => exact absurd h (by simp)
  | case2 s =>
      have hp := Prod.mk.inj (Option.some.inj h)
      rw [← hp.1, ← hp.2]
      rfl
  | case3 => exact absurd h (by simp)
  | case4 => exact absurd h (by simp)
  | case5 escaped s _ _ ih =>
      obtain ⟨p, hp, heq⟩ := Option.map_eq_some_iff.mp h
      have hq := Prod.mk.inj heq
      rw [ih (hp.trans (by rw [← hq.2])), ← hq.1]
      rfl
  | case6 c s _ _ ih =>
      obtain ⟨p, hp, heq⟩ := Option.map_eq_some_iff.mp h
      have hq := Prod.mk.inj heq
      rw [ih (hp.trans (by rw [← hq.2])), ← hq.1]
      rfl

/-- What is known of a lexeme read in front of `rest`. -/
def Lexeme.Fits (rest : List Char) : Lexeme → Prop
  | .space run => run ≠ [] ∧ Blank run
  | .comment body => '\n' ∉ body
  | .word run => (∃ c w, run = c :: w ∧ isIdentStart c = true) ∧ run.all isIdentPart = true
      ∧ ∀ c, rest.head? = some c → isIdentPart c = false
  | .number run => ∃ c w, run = c :: w ∧ run.all Char.isDigit = true
  | .string _ => True
  | .punct c => c ∈ punctuation

/-- A run of one class, and what stops it. -/
theorem all_cons_takeWhile {p : Char → Bool} {c : Char} (hc : p c = true) (s : List Char) :
    (c :: s.takeWhile p).all p = true := by
  rw [List.all_cons, hc, Bool.true_and]
  exact List.all_takeWhile

theorem head?_dropWhile_eq {p : Char → Bool} {s : List Char} {c : Char}
    (h : (s.dropWhile p).head? = some c) : p c = false := by
  have hstop := List.head?_dropWhile_not p s
  rw [h] at hstop
  simpa using hstop

theorem cons_takeWhile_append (p : Char → Bool) (c : Char) (s : List Char) :
    c :: s = c :: s.takeWhile p ++ s.dropWhile p := by
  rw [List.cons_append, List.takeWhile_append_dropWhile]

/-- **A lexeme is read off the front of a text.** -/
theorem nextLexeme_spec {s rest : List Char} {l : Lexeme} (h : nextLexeme s = some (l, rest)) :
    s = l.text ++ rest ∧ l.Fits rest := by
  revert h
  fun_cases nextLexeme s with
  | case1 => exact fun h => nomatch h
  | case2 c s hc =>
      intro h
      obtain ⟨rfl, rfl⟩ := Prod.mk.inj (Option.some.inj h)
      exact ⟨cons_takeWhile_append _ c s, List.cons_ne_nil _ _,
        List.all_eq_true.mp (all_cons_takeWhile hc s)⟩
  | case3 c s _ hc =>
      intro h
      obtain ⟨rfl, rfl⟩ := Prod.mk.inj (Option.some.inj h)
      exact ⟨cons_takeWhile_append _ c s, ⟨c, _, rfl, hc⟩,
        all_cons_takeWhile (isIdentPart_of_isIdentStart hc) s, fun _ => head?_dropWhile_eq⟩
  | case4 c s _ _ hc =>
      intro h
      obtain ⟨rfl, rfl⟩ := Prod.mk.inj (Option.some.inj h)
      exact ⟨cons_takeWhile_append _ c s, c, _, rfl, all_cons_takeWhile hc s⟩
  | case5 s =>
      intro h
      obtain ⟨p, hp, heq⟩ := Option.map_eq_some_iff.mp h
      obtain ⟨rfl, rfl⟩ := Prod.mk.inj heq
      refine ⟨?_, trivial⟩
      rw [readString_eq hp]
      simp [Lexeme.text]
  | case6 c s _ _ _ _ hslash =>
      intro h
      obtain ⟨rfl, rfl⟩ := Prod.mk.inj (Option.some.inj h)
      refine ⟨?_, ?_⟩
      · cases s with
        | nil => exact absurd hslash.2 (by simp)
        | cons d s =>
            have hd : d = '/' := Option.some.inj hslash.2
            rw [hslash.1, hd]
            exact congrArg ('/' :: '/' :: ·) List.takeWhile_append_dropWhile.symm
      · intro hlf
        have := List.all_eq_true.mp List.all_takeWhile _ hlf
        exact absurd this (by decide)
  | case7 c s _ _ _ _ _ hc =>
      intro h
      obtain ⟨rfl, rfl⟩ := Prod.mk.inj (Option.some.inj h)
      exact ⟨rfl, List.contains_iff_mem.mp hc⟩
  | case8 => exact fun h => nomatch h

theorem Lexeme.Fits.text_ne_nil {l : Lexeme} {rest : List Char} (h : l.Fits rest) :
    l.text ≠ [] := by
  cases l with
  | space run => exact h.1
  | comment body => exact List.cons_ne_nil _ _
  | word run =>
      obtain ⟨⟨c, w, hrun, -⟩, -⟩ := h
      exact hrun ▸ List.cons_ne_nil _ _
  | number run =>
      obtain ⟨c, w, hrun, -⟩ := h
      exact hrun ▸ List.cons_ne_nil _ _
  | string body => exact List.cons_ne_nil _ _
  | punct c => exact List.cons_ne_nil _ _

theorem nextLexeme_length {s rest : List Char} {l : Lexeme}
    (h : nextLexeme s = some (l, rest)) : rest.length < s.length := by
  obtain ⟨hs, hfits⟩ := nextLexeme_spec h
  have hpos : 0 < l.text.length := List.length_pos_of_ne_nil hfits.text_ne_nil
  rw [hs, List.length_append]
  omega

theorem lexFuel_succ {fuel : Nat} {s : List Char} (h : s.length ≤ fuel) :
    lexFuel (fuel + 1) s = lexFuel fuel s := by
  induction fuel generalizing s with
  | zero =>
      have hs : s = [] := List.eq_nil_of_length_eq_zero (Nat.le_zero.mp h)
      rw [hs]
      rfl
  | succ fuel ih =>
      rw [lexFuel, lexFuel]
      cases hl : nextLexeme s with
      | none => rfl
      | some p =>
          have hlen : p.2.length < s.length := nextLexeme_length hl
          show (lexFuel (fuel + 1) p.2).map _ = (lexFuel fuel p.2).map _
          rw [ih (Nat.le_of_lt_succ (Nat.lt_of_lt_of_le hlen h))]

/-- Fuel beyond the length of the text changes nothing. -/
theorem lexFuel_eq_lex {fuel : Nat} {s : List Char} (h : s.length ≤ fuel) :
    lexFuel fuel s = lex s := by
  induction fuel, h using Nat.le_induction with
  | base => rfl
  | succ fuel h ih => exact (lexFuel_succ h).trans ih

/-- A text is read lexeme by lexeme. -/
theorem lex_eq (s : List Char) :
    lex s = match nextLexeme s with
      | some p => (lex p.2).map (p.1 :: ·)
      | none => if s = [] then some [] else none := by
  rw [← lexFuel_eq_lex (Nat.le_succ s.length), lexFuel]
  cases hl : nextLexeme s with
  | none => rfl
  | some p =>
      have hlen : p.2.length ≤ s.length := Nat.le_of_lt (nextLexeme_length hl)
      show (lexFuel s.length p.2).map _ = _
      rw [lexFuel_eq_lex hlen]

/-- Only the empty text has no lexemes. -/
theorem eq_nil_of_lex {s : List Char} (h : lex s = some []) : s = [] := by
  rw [lex_eq] at h
  cases hl : nextLexeme s with
  | none =>
      rw [hl] at h
      by_contra hs
      exact absurd h (by simp [hs])
  | some p =>
      rw [hl] at h
      obtain ⟨_, _, heq⟩ := Option.map_eq_some_iff.mp h
      exact absurd heq (List.cons_ne_nil _ _)

/-- **The lexemes of a text: the first, and those of the rest.** -/
theorem lex_cons {s : List Char} {l : Lexeme} {ls : List Lexeme} (h : lex s = some (l :: ls)) :
    ∃ rest, nextLexeme s = some (l, rest) ∧ lex rest = some ls := by
  rw [lex_eq] at h
  cases hl : nextLexeme s with
  | none =>
      rw [hl] at h
      by_cases hs : s = []
      · exact absurd h (by simp [hs])
      · exact absurd h (by simp [hs])
  | some p =>
      rw [hl] at h
      obtain ⟨ls', hls, heq⟩ := Option.map_eq_some_iff.mp h
      obtain ⟨rfl, rfl⟩ := List.cons.inj heq
      exact ⟨p.2, rfl, hls⟩

theorem lex_of_nextLexeme {s rest : List Char} {l : Lexeme} {ls : List Lexeme}
    (hl : nextLexeme s = some (l, rest)) (h : lex s = some ls) :
    ∃ ls', ls = l :: ls' ∧ lex rest = some ls' := by
  rw [lex_eq, hl] at h
  obtain ⟨ls', hls, heq⟩ := Option.map_eq_some_iff.mp h
  exact ⟨ls', heq.symm, hls⟩

end TreetopCedar
