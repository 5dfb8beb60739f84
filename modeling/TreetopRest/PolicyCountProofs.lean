import TreetopRest.CedarSyntaxModel
import TreetopRest.SampleCrates
import TreetopRest.Lib.LineScanProofs

/-! # The policy entry count

    `OfPolicies` counts the lines of a policy text that open with `permit (`
    or `forbid (`.  Cedar's parser counts statements, wherever their lines
    break.  The lines counted and the policies missed by the count are as many
    as the policies and the stray lines together (`scan_add_missed`), so the
    count is the number of policies exactly when the misses and the stray
    lines cancel (`policy_count_iff`). -/

namespace TreetopPolicyCount

open Text LineScan TreetopCrates TreetopMetadata TreetopCedar TreetopSample
open TreetopMetricLabels (isIdentStart isIdentPart isIdentPart_of_isIdentStart of_isIdentPart)

/-! ## The line scan as one pass -/

/-- `permit (` -/
def permitOpening : Opening := ⟨'p', "ermit (".toList, by decide, by decide⟩

/-- `forbid (` -/
def forbidOpening : Opening := ⟨'f', "orbid (".toList, by decide, by decide⟩

def policyOpenings : List Opening := [permitOpening, forbidOpening]

theorem opensPolicy_eq (line : List Char) :
    opensPolicy line = opensLine policyOpenings line := by
  rw [opensLine, opensAt, policyOpenings, List.any_cons, List.any_cons, List.any_nil,
    Bool.or_false]
  rfl

/-- `OfPolicies::count_entries` in one pass over the content. -/
theorem countEntries_ofPolicies (X : Crates) (content : String) :
    countEntries X .ofPolicies content
      = .ok (scan policyOpenings true content.toList) := by
  rw [countEntries, scan_true_eq_lines, openings, funext opensPolicy_eq]

/-- What stands between the keyword and the scope in an opening. -/
def gap : List Lexeme := [.space [' '], .punct '(']

theorem opensAt_word {run rest : List Char} (hrun : run.all isIdentPart = true)
    (hrest : ∀ c, rest.head? = some c → isIdentPart c = false) :
    opensAt policyOpenings (run ++ rest)
      = (isEffect run && " (".toList.isPrefixOf rest) := by
  have hkeyword : ∀ o : Opening, ∀ k : List Char, o.text = k ++ " (".toList →
      k.all isIdentPart = true →
      o.text.isPrefixOf (run ++ rest) = (run == k && " (".toList.isPrefixOf rest) := by
    intro o k ho hk
    have hgap : ∃ c t, " (".toList = c :: t ∧ isIdentPart c = false :=
      ⟨' ', ['('], rfl, by decide⟩
    rw [ho, isPrefixOf_run_append hk hgap hrun hrest, Bool.beq_comm]
  rw [opensAt, policyOpenings, List.any_cons, List.any_cons, List.any_nil, Bool.or_false,
    isEffect, Bool.and_or_distrib_right,
    hkeyword permitOpening "permit".toList rfl (by decide),
    hkeyword forbidOpening "forbid".toList rfl (by decide)]

/-- One space and a parenthesis in the text are these two lexemes. -/
theorem isPrefixOf_gap {rest : List Char} {ls : List Lexeme} (h : lex rest = some ls) :
    " (".toList.isPrefixOf rest = gap.isPrefixOf ls := by
  rw [Bool.eq_iff_iff, List.isPrefixOf_iff_prefix, List.isPrefixOf_iff_prefix]
  constructor
  · rintro ⟨tail, rfl⟩
    have hspace : nextLexeme (' ' :: '(' :: tail) = some (.space [' '], '(' :: tail) := rfl
    have hparen : nextLexeme ('(' :: tail) = some (.punct '(', tail) := rfl
    obtain ⟨ls₁, hls, hlex⟩ := lex_of_nextLexeme hspace h
    obtain ⟨ls₂, hls₁, -⟩ := lex_of_nextLexeme hparen hlex
    exact ⟨ls₂, by rw [hls, hls₁]; rfl⟩
  · rintro ⟨ls', rfl⟩
    obtain ⟨rest', hspace, hls⟩ := lex_cons h
    obtain ⟨tail, hparen, -⟩ := lex_cons hls
    rw [(nextLexeme_spec hspace).1, (nextLexeme_spec hparen).1]
    exact ⟨tail, rfl⟩

/-! ## What the scan misses, and what it counts besides -/

/-- Whether only whitespace stands on the line up to the end of a lexeme. -/
def freshLexeme (fresh : Bool) : Lexeme → Bool
  | .space run => run.foldl freshAfter fresh
  | _ => false

/-- A keyword first on its line, with one space and a parenthesis after it;
    `ls` is what follows it. -/
def laidOut (fresh : Bool) (ls : List Lexeme) : Bool := fresh && gap.isPrefixOf ls

/-- The policies whose effect is not laid out so. -/
def missed : Phase → Bool → List Lexeme → Nat
  | _, _, [] => 0
  | phase, fresh, l :: ls =>
      (phase.starts l && !laidOut fresh ls).toNat
        + missed (phase.next l) (freshLexeme fresh l) ls

/-- Lines that open as a policy does and are none: the name of an annotation
    whose `@` is on an earlier line, and the lines inside a string literal. -/
def strayAt (phase : Phase) (fresh : Bool) (ls : List Lexeme) : Lexeme → Nat
  | .word run => (phase = .sign && (isEffect run && laidOut fresh ls)).toNat
  | .string body => ((lines (Lexeme.string body).text).tail.filter opensPolicy).length
  | _ => 0

@[inherit_doc strayAt]
def stray : Phase → Bool → List Lexeme → Nat
  | _, _, [] => 0
  | phase, fresh, l :: ls =>
      strayAt phase fresh ls l + stray (phase.next l) (freshLexeme fresh l) ls

/-- What the scan counts on reading a lexeme. -/
def counted (fresh : Bool) (ls : List Lexeme) : Lexeme → Nat
  | .word run => (isEffect run && laidOut fresh ls).toNat
  | .string body => ((lines (Lexeme.string body).text).tail.filter opensPolicy).length
  | _ => 0

/-- A lexeme that starts as no keyword does is passed over. -/
theorem scan_other {c : Char} {text : List Char} (hc : isWhitespace c = false)
    (hp : c ≠ 'p') (hf : c ≠ 'f') (htext : '\n' ∉ text) (fresh : Bool) (rest : List Char) :
    scan policyOpenings fresh (c :: text ++ rest) = scan policyOpenings false rest := by
  have hclosed : opensAt policyOpenings (c :: text ++ rest) = false := by
    apply opensAt_cons_of_ne
    intro o ho
    rcases List.mem_pair.mp ho with rfl | rfl
    · exact hp
    · exact hf
  rw [scan_visible_append policyOpenings hc htext, hclosed, Bool.and_false, Bool.toNat_false,
    Nat.zero_add]

theorem scan_lexeme {l : Lexeme} {rest : List Char} {ls : List Lexeme} (hfits : l.Fits rest)
    (hls : lex rest = some ls) (fresh : Bool) :
    scan policyOpenings fresh (l.text ++ rest)
      = counted fresh ls l + scan policyOpenings (freshLexeme fresh l) rest := by
  cases l with
  | space run =>
      exact (scan_blank_append policyOpenings hfits.2 fresh rest).trans (Nat.zero_add _).symm
  | comment body =>
      have hbody : '\n' ∉ '/' :: body := List.not_mem_cons_of_ne_of_not_mem (by decide) hfits
      exact (scan_other (by decide) (by decide) (by decide) hbody fresh rest).trans
        (Nat.zero_add _).symm
  | word run =>
      obtain ⟨⟨c, w, rfl, hc⟩, hall, hrest⟩ := hfits
      have hvisible : isWhitespace c = false :=
        of_isIdentPart (q := fun c => isWhitespace c = false) (by decide)
          (isIdentPart_of_isIdentStart hc)
      have hw : '\n' ∉ w := fun hmem => by
        have hpart := List.all_eq_true.mp hall _ (List.mem_cons_of_mem c hmem)
        exact absurd hpart (by decide)
      -- an opening here is this whole run and what follows it
      show scan policyOpenings fresh (c :: w ++ rest)
        = (isEffect (c :: w) && (fresh && gap.isPrefixOf ls)).toNat
          + scan policyOpenings false rest
      rw [scan_visible_append policyOpenings hvisible hw, opensAt_word hall hrest,
        isPrefixOf_gap hls, Bool.and_left_comm]
  | number run =>
      obtain ⟨c, w, rfl, hdigits⟩ := hfits
      have hc : c.isDigit = true := List.all_eq_true.mp hdigits c (List.mem_cons_self ..)
      have hpart : isIdentPart c = true := by
        rw [isIdentPart, Char.isAlphanum, hc, Bool.or_true, Bool.or_true]
      have hvisible : isWhitespace c = false :=
        of_isIdentPart (q := fun c => isWhitespace c = false) (by decide) hpart
      have hp : c ≠ 'p' := fun h => absurd (h ▸ hc) (by decide)
      have hf : c ≠ 'f' := fun h => absurd (h ▸ hc) (by decide)
      have hw : '\n' ∉ w := fun hmem => by
        have hdigit := List.all_eq_true.mp hdigits _ (List.mem_cons_of_mem c hmem)
        exact absurd hdigit (by decide)
      exact (scan_other hvisible hp hf hw fresh rest).trans (Nat.zero_add _).symm
  | string body =>
      have hquote : ∀ o ∈ policyOpenings, '"' ∉ o.text := by decide
      -- the quote ends whatever stands at the start of the line
      have hwithin : ∀ fresh s, scan policyOpenings fresh ('"' :: s)
          = scan policyOpenings false s := fun fresh s =>
        scan_other (by decide) (by decide) (by decide) List.not_mem_nil fresh s
      have hlines : scan policyOpenings fresh ('"' :: (body ++ ['"']))
          = ((lines (Lexeme.string body).text).tail.filter opensPolicy).length := by
        rw [hwithin, ← hwithin false, scan_false_eq_lines, openings, funext opensPolicy_eq]
        rfl
      have hsplit : (Lexeme.string body).text ++ rest = '"' :: body ++ '"' :: rest := by
        simp [Lexeme.text]
      rw [hsplit, scan_delimited_append policyOpenings (by decide) hquote, List.cons_append,
        hlines]
      rfl
  | punct c =>
      have hother : isWhitespace c = false ∧ c ≠ 'p' ∧ c ≠ 'f' := by
        have hall : (punctuation.all fun c => !isWhitespace c && c != 'p' && c != 'f') = true := by
          decide +kernel
        simpa [and_assoc] using List.all_eq_true.mp hall c hfits
      obtain ⟨hvisible, hp, hf⟩ := hother
      exact (scan_other hvisible hp hf List.not_mem_nil fresh rest).trans (Nat.zero_add _).symm

/-! ## The balance -/

theorem foldl_reject (ls : List Lexeme) : ls.foldl Phase.next .reject = .reject := by
  induction ls with
  | nil => rfl
  | cons l ls ih =>
      have hl : Phase.next .reject l = .reject := by
        cases l <;> rfl
      rw [List.foldl_cons, hl, ih]

/-- No statement calls an effect keyword as a function. -/
theorem not_gap_of_keyword {ls : List Lexeme} (h : ls.foldl Phase.next .keyword ≠ .reject) :
    gap.isPrefixOf ls = false := by
  rw [Bool.eq_false_iff, ne_eq, List.isPrefixOf_iff_prefix]
  rintro ⟨ls', rfl⟩
  exact h (foldl_reject ls')

/-- Within a scope or a condition no effect keyword is laid out as a policy's. -/
theorem not_laidOut_of_body {run : List Char} {ls : List Lexeme}
    (h : ls.foldl Phase.next (if isEffect run then .keyword else .body) ≠ .reject)
    (fresh : Bool) : (isEffect run && laidOut fresh ls) = false := by
  cases he : isEffect run with
  | false => rfl
  | true =>
      rw [he, if_pos rfl] at h
      rw [laidOut, not_gap_of_keyword h, Bool.and_false, Bool.and_false]

/-- One lexeme of an accepted text keeps the balance. -/
theorem counted_add_missed {phase : Phase} {l : Lexeme} {ls : List Lexeme}
    (h : ls.foldl Phase.next (phase.next l) ≠ .reject) (fresh : Bool) :
    counted fresh ls l + (phase.starts l && !laidOut fresh ls).toNat
      = (phase.starts l).toNat + strayAt phase fresh ls l := by
  cases l with
  | space run => rfl
  | comment body => rfl
  | number run => rfl
  | punct c => rfl
  | string body => exact Nat.add_comm _ _
  | word run =>
      cases phase with
      | head | name =>
          show (isEffect run && laidOut fresh ls).toNat
              + (isEffect run && !laidOut fresh ls).toNat = (isEffect run).toNat + 0
          cases isEffect run <;> cases laidOut fresh ls <;> rfl
      | sign => exact Nat.add_comm _ _
      | body | keyword =>
          show (isEffect run && laidOut fresh ls).toNat + 0 = 0 + 0
          rw [not_laidOut_of_body h]
          rfl
      -- no word may stand here
      | value | close | effect | reject => exact absurd (foldl_reject ls) h

/-- **The balance.**  Over an accepted text, the lines counted and the
    policies missed are the policies and the stray lines. -/
theorem scan_add_missed {phase : Phase} {s : List Char} {ls : List Lexeme}
    (hls : lex s = some ls) (h : ls.foldl Phase.next phase = .head) (fresh : Bool) :
    scan policyOpenings fresh s + missed phase fresh ls
      = policies phase ls + stray phase fresh ls := by
  induction ls generalizing phase s fresh with
  | nil =>
      rw [eq_nil_of_lex hls]
      rfl
  | cons l ls ih =>
      obtain ⟨rest, hl, hrest⟩ := lex_cons hls
      obtain ⟨hs, hfits⟩ := nextLexeme_spec hl
      rw [List.foldl_cons] at h
      have hne : ls.foldl Phase.next (phase.next l) ≠ .reject := by
        rw [h]
        exact Phase.noConfusion
      have hstep := counted_add_missed hne fresh
      have hrun := ih hrest h (freshLexeme fresh l)
      rw [hs, scan_lexeme hfits hrest, missed, policies, stray]
      omega

/-! ## The count -/

/-- Cedar's policy grammar: an accepted text is laid out in statements, one
    for each of its policies and templates; a bundle names each of its own. -/
structure PolicyGrammar (X : Crates) (policyCount : X.CedarPolicySet → Nat) : Prop where
  statements : ∀ text ps, X.policySetParse text = .ok ps →
    ∃ ls, lex text.toList = some ls ∧ accepted ls = true ∧ policyCount ps = policies .head ls
  bundle : ∀ bundle ps, X.policySetParse (X.bundlePolicies bundle) = .ok ps →
    (X.policyIds bundle).length = policyCount ps

/-- As many policies are not laid out for the scan as stray lines are. -/
def MissesCancel (text : List Char) : Prop :=
  ∃ ls, lex text = some ls ∧ missed .head true ls = stray .head true ls

/-- What the count of an accepted text is off by. -/
theorem count_add_missed {ls : List Lexeme} {content : String}
    (hls : lex content.toList = some ls) (h : accepted ls = true) (X : Crates) :
    ∃ n, countEntries X .ofPolicies content = .ok n
      ∧ n + missed .head true ls = policies .head ls + stray .head true ls :=
  ⟨_, countEntries_ofPolicies X content, scan_add_missed hls (of_decide_eq_true h) true⟩

/-- **The entry count is the number of policies exactly when the misses
    cancel**, and so it is exactly then what a bundle of the text records. -/
theorem policy_count_iff {X : Crates} {policyCount : X.CedarPolicySet → Nat}
    (hX : PolicyGrammar X policyCount) {text : String} {ps : X.CedarPolicySet}
    (hps : X.policySetParse text = .ok ps) :
    (countEntries X .ofPolicies text = .ok (policyCount ps) ↔ MissesCancel text.toList)
      ∧ ∀ bundle, X.bundlePolicies bundle = text →
        (countEntries X .ofPolicies text = .ok (X.policyIds bundle).length
          ↔ MissesCancel text.toList) := by
  obtain ⟨ls, hls, haccepted, hcount⟩ := hX.statements text ps hps
  obtain ⟨n, hn, hbalance⟩ := count_add_missed hls haccepted X
  have hiff : countEntries X .ofPolicies text = .ok (policyCount ps)
      ↔ MissesCancel text.toList := by
    rw [hn, hcount]
    constructor
    · intro h
      have hsame : n = policies .head ls := Except.ok.inj h
      exact ⟨ls, hls, by omega⟩
    · rintro ⟨ls', hls', hcancel⟩
      obtain rfl : ls' = ls := Option.some.inj (hls'.symm.trans hls)
      exact congrArg Except.ok (by omega)
  refine ⟨hiff, fun bundle hbundle => ?_⟩
  rw [hX.bundle bundle ps (hbundle ▸ hps)]
  exact hiff

/-! ## An instance -/

def wellFormed (text : String) : Bool := (lex text.toList).any accepted

/-- The small crates, with the grammar itself for a parser. -/
def grammatical : Crates :=
  { small with
    policySetParse := fun text =>
      if wellFormed text then .ok text else .error "unexpected token" }

/-- The policies of an accepted text. -/
def policyCount (text : String) : Nat := policies .head ((lex text.toList).getD [])

theorem policySetParse_eq_ok {text ps : String} :
    grammatical.policySetParse text = .ok ps ↔ wellFormed text = true ∧ ps = text := by
  change (if wellFormed text then Except.ok text else .error "unexpected token")
    = Except.ok ps ↔ _
  split
  next h => exact ⟨fun hok => ⟨h, (Except.ok.inj hok).symm⟩, fun hps => by rw [hps.2]⟩
  next h => exact ⟨fun hok => (nomatch hok), fun hps => absurd hps.1 h⟩

theorem policyGrammar_grammatical : PolicyGrammar grammatical policyCount where
  statements := by
    intro text ps h
    obtain ⟨hwell, hps⟩ := policySetParse_eq_ok.mp h
    obtain ⟨ls, hls, haccepted⟩ := (Option.any_eq_true _ _).mp hwell
    refine ⟨ls, hls, haccepted, ?_⟩
    rw [hps]
    show policies .head ((lex text.toList).getD []) = _
    rw [hls]
    rfl
  bundle := by
    intro bundle ps h
    obtain ⟨-, rfl⟩ := policySetParse_eq_ok.mp h
    show 1 = policyCount permitAll
    decide +kernel

/-- The text of one policy, in the layout the scan looks for. -/
def spacedPolicy : String := "permit (principal, action, resource)\nunless \x7b true \x7d;\n"

theorem policy_count_spaced :
    grammatical.policySetParse spacedPolicy = .ok spacedPolicy
      ∧ (countEntries grammatical .ofPolicies spacedPolicy = .ok (policyCount spacedPolicy)
        ↔ MissesCancel spacedPolicy.toList) := by
  have hparse : grammatical.policySetParse spacedPolicy = .ok spacedPolicy :=
    policySetParse_eq_ok.mpr ⟨by decide +kernel, rfl⟩
  exact ⟨hparse, (policy_count_iff policyGrammar_grammatical hparse).1⟩

/-- Without the space the policy is not counted, though a bundle of the same
    text records it. -/
theorem unspaced_not_counted :
    PolicyGrammar grammatical policyCount
      ∧ grammatical.policySetParse permitAll = .ok permitAll
      ∧ countEntries grammatical .ofPolicies permitAll = .ok 0
      ∧ policyCount permitAll = 1
      ∧ ∀ bundle, grammatical.bundlePolicies bundle = permitAll
        ∧ (grammatical.policyIds bundle).length = 1 :=
  ⟨policyGrammar_grammatical, policySetParse_eq_ok.mpr ⟨by decide +kernel, rfl⟩, by
    rw [countEntries]
    exact congrArg Except.ok (by decide +kernel), by decide +kernel, fun _ => ⟨rfl, rfl⟩⟩

end TreetopPolicyCount
