import TreetopRest.Lib.TextProofs

/-! # Counting the lines that open with a given text

    Splitting a text into lines and counting those that, once trimmed, open
    with one of a few given texts is the same as one pass over the characters
    that remembers whether only whitespace was seen since the last line feed
    (`scan_true_eq_lines`).  The pass can then be followed through a text
    piece by piece: what a blank, a piece without line feeds, or a piece with
    a closing delimiter adds to the count. -/

namespace LineScan

open Text

/-- A text that lines may open with: visible from its first character on, and
    within one line. -/
structure Opening where
  head : Char
  tail : List Char
  visible : isWhitespace head = false
  oneLine : '\n' ∉ tail ∧ '\r' ∉ tail

def Opening.text (o : Opening) : List Char := o.head :: o.tail

variable (os : List Opening)

/-- Whether one of the openings stands at the front of a text. -/
def opensAt (s : List Char) : Bool := os.any fun o => o.text.isPrefixOf s

def opensLine (line : List Char) : Bool := opensAt os (trimStart line)

/-- Whether only whitespace stands between the start of the line and here. -/
def freshAfter (fresh : Bool) (c : Char) : Bool := c == '\n' || (fresh && isWhitespace c)

/-- The openings met in one pass over the text. -/
def scan : Bool → List Char → Nat
  | _, [] => 0
  | fresh, c :: s => (fresh && opensAt os (c :: s)).toNat + scan (freshAfter fresh c) s

/-! ## Prefixes -/

theorem Opening.notMem_text (o : Opening) {c : Char} (hc : c = '\n' ∨ c = '\r') :
    c ∉ o.text := by
  have hblank : isWhitespace c = true := by
    rcases hc with rfl | rfl <;> decide
  have hhead : c ≠ o.head := by
    intro h
    have hv := o.visible
    rw [← h, hblank] at hv
    exact Bool.noConfusion hv
  have htail : c ∉ o.tail := by
    rcases hc with rfl | rfl
    · exact o.oneLine.1
    · exact o.oneLine.2
  exact List.not_mem_cons_of_ne_of_not_mem hhead htail

/-- A prefix ends before a character it does not contain. -/
theorem isPrefixOf_append_stop {p : List Char} {q : Char} (hq : q ∉ p) (x y : List Char) :
    p.isPrefixOf (x ++ q :: y) = p.isPrefixOf x := by
  induction p generalizing x with
  | nil => rw [List.isPrefixOf_nil_left, List.isPrefixOf_nil_left]
  | cons d p ih =>
      have hne : q ≠ d := List.ne_of_not_mem_cons hq
      have hp : q ∉ p := List.not_mem_of_not_mem_cons hq
      cases x with
      | nil =>
          show (d == q && p.isPrefixOf y) = false
          rw [beq_false_of_ne hne.symm, Bool.false_and]
      | cons c x =>
          show (d == c && p.isPrefixOf (x ++ q :: y)) = (d == c && p.isPrefixOf x)
          rw [ih hp]

/-- Between runs of one class of characters, a prefix that is a run and more
    matches run by run. -/
theorem isPrefixOf_run_append {p : Char → Bool} {k t w rest : List Char}
    (hk : k.all p = true) (ht : ∃ c t', t = c :: t' ∧ p c = false)
    (hw : w.all p = true) (hrest : ∀ c, rest.head? = some c → p c = false) :
    (k ++ t).isPrefixOf (w ++ rest) = (k == w && t.isPrefixOf rest) := by
  induction k generalizing w with
  | nil =>
      cases w with
      | nil => rfl
      | cons c w =>
          obtain ⟨d, t', rfl, hd⟩ := ht
          have hc : p c = true := (List.all_eq_true.mp hw) c (List.mem_cons_self ..)
          have hne : d ≠ c := fun h => by
            rw [h, hc] at hd
            exact Bool.noConfusion hd
          show (d == c && t'.isPrefixOf (w ++ rest)) = false
          rw [beq_false_of_ne hne, Bool.false_and]
  | cons d k ih =>
      rw [List.all_cons, Bool.and_eq_true] at hk
      cases w with
      | nil =>
          cases rest with
          | nil => rfl
          | cons c rest =>
              have hne : d ≠ c := fun h => by
                have hc := hrest c rfl
                rw [← h, hk.1] at hc
                exact Bool.noConfusion hc
              show (d == c && (k ++ t).isPrefixOf rest) = false
              rw [beq_false_of_ne hne, Bool.false_and]
      | cons c w =>
          rw [List.all_cons, Bool.and_eq_true] at hw
          show (d == c && (k ++ t).isPrefixOf (w ++ rest))
            = ((d == c && k == w) && t.isPrefixOf rest)
          rw [ih hk.2 hw.2, Bool.and_assoc]

theorem opensAt_append_stop {q : Char} (hq : ∀ o ∈ os, q ∉ o.text) (x y : List Char) :
    opensAt os (x ++ q :: y) = opensAt os x := by
  rw [opensAt, opensAt, Bool.eq_iff_iff, List.any_eq_true, List.any_eq_true]
  constructor
  · rintro ⟨o, ho, hp⟩
    exact ⟨o, ho, (isPrefixOf_append_stop (hq o ho) x y).symm.trans hp⟩
  · rintro ⟨o, ho, hp⟩
    exact ⟨o, ho, (isPrefixOf_append_stop (hq o ho) x y).trans hp⟩

@[simp] theorem opensAt_nil : opensAt os [] = false :=
  List.any_eq_false.mpr fun o _ => by simp [Opening.text]

/-- Nothing opens at a character that is the head of no opening. -/
theorem opensAt_cons_of_ne {c : Char} (hc : ∀ o ∈ os, c ≠ o.head) (s : List Char) :
    opensAt os (c :: s) = false := by
  rw [opensAt, List.any_eq_false]
  intro o ho
  show ¬ (o.head == c && o.tail.isPrefixOf s) = true
  rw [beq_false_of_ne (hc o ho).symm, Bool.false_and]
  exact Bool.false_ne_true

theorem opensAt_cons_of_whitespace {c : Char} (hc : isWhitespace c = true) (s : List Char) :
    opensAt os (c :: s) = false := by
  apply opensAt_cons_of_ne
  intro o _ h
  have hv := o.visible
  rw [← h, hc] at hv
  exact Bool.noConfusion hv

/-! ## Lines -/

theorem opensLine_cons_of_whitespace {c : Char} (hc : isWhitespace c = true)
    (line : List Char) : opensLine os (c :: line) = opensLine os line := by
  rw [opensLine, opensLine, trimStart, trimStart, List.dropWhile_cons_of_pos hc]

theorem opensLine_cons_of_visible {c : Char} (hc : isWhitespace c = false)
    (line : List Char) : opensLine os (c :: line) = opensAt os (c :: line) := by
  rw [opensLine, trimStart, List.dropWhile_cons_of_neg (Bool.not_eq_true _ ▸ hc)]

/-- The ending of a line does not matter. -/
theorem opensLine_append_break {q : Char} (hq : q = '\n' ∨ q = '\r') (line : List Char) :
    opensLine os (line ++ [q]) = opensLine os line := by
  induction line with
  | nil =>
      have hblank : isWhitespace q = true := by
        rcases hq with rfl | rfl <;> decide
      exact opensLine_cons_of_whitespace os hblank []
  | cons c line ih =>
      rw [List.cons_append]
      cases hc : isWhitespace c with
      | true =>
          rw [opensLine_cons_of_whitespace os hc, opensLine_cons_of_whitespace os hc]
          exact ih
      | false =>
          rw [opensLine_cons_of_visible os hc, opensLine_cons_of_visible os hc]
          exact opensAt_append_stop os (fun o _ => o.notMem_text hq) (c :: line) []

theorem opensLine_of_stripSuffix {q : Char} (hq : q = '\n' ∨ q = '\r')
    {line body : List Char} (h : stripSuffix q line = some body) :
    opensLine os body = opensLine os line := by
  rw [stripSuffix] at h
  split at h
  next hlast =>
    have hbody : line = body ++ [q] := by
      rw [← Option.some.inj h]
      exact (List.dropLast_append_getLast? q hlast).symm
    rw [hbody, opensLine_append_break os hq]
  next => exact absurd h (by simp)

/-- The lines open as the pieces do, endings and all. -/
theorem lines_map_opensLine (s : List Char) :
    (lines s).map (opensLine os) = (splitInclusiveLf s).map (opensLine os) := by
  rw [lines, List.map_map]
  apply List.map_congr_left
  intro line _
  rw [Function.comp_apply]
  cases hlf : stripSuffix '\n' line with
  | none => rfl
  | some body =>
      rw [← opensLine_of_stripSuffix os (.inl rfl) hlf]
      show opensLine os ((stripSuffix '\r' body).getD body) = opensLine os body
      cases hcr : stripSuffix '\r' body with
      | none => rfl
      | some body' => exact opensLine_of_stripSuffix os (.inr rfl) hcr

/-! ## One pass -/

/-- The openings among the pieces of a text. -/
def openings (pieces : List (List Char)) : Nat := (pieces.filter (opensLine os)).length

theorem openings_cons (piece : List Char) (pieces : List (List Char)) :
    openings os (piece :: pieces) = (opensLine os piece).toNat + openings os pieces := by
  rw [openings, List.filter_cons]
  cases opensLine os piece with
  | true => exact Nat.add_comm _ _
  | false => exact (Nat.zero_add _).symm

theorem openings_eq_head (pieces : List (List Char)) :
    openings os pieces
      = (opensLine os (pieces.headD [])).toNat + openings os pieces.tail := by
  cases pieces with
  | nil => exact congrArg (fun b : Bool => b.toNat + 0) (opensAt_nil os).symm
  | cons piece pieces => exact openings_cons os piece pieces

/-- A character other than a line feed joins the first piece of the rest. -/
theorem splitInclusiveLf_cons {c : Char} (hc : c ≠ '\n') (s : List Char) :
    splitInclusiveLf (c :: s)
      = (c :: (splitInclusiveLf s).headD []) :: (splitInclusiveLf s).tail := by
  rw [splitInclusiveLf, if_neg hc]
  cases splitInclusiveLf s with
  | nil => rfl
  | cons piece pieces => rfl

/-- A prefix without a line feed is a prefix of the first piece. -/
theorem isPrefixOf_head_piece {p : List Char} (hp : '\n' ∉ p) (s : List Char) :
    p.isPrefixOf ((splitInclusiveLf s).headD []) = p.isPrefixOf s := by
  induction s generalizing p with
  | nil => rfl
  | cons c s ih =>
      by_cases hc : c = '\n'
      · rw [splitInclusiveLf, if_pos hc, hc]
        exact (isPrefixOf_append_stop hp [] []).trans (isPrefixOf_append_stop hp [] s).symm
      · rw [splitInclusiveLf_cons hc]
        cases p with
        | nil => rw [List.isPrefixOf_nil_left, List.isPrefixOf_nil_left]
        | cons d p =>
            show (d == c && p.isPrefixOf ((splitInclusiveLf s).headD []))
              = (d == c && p.isPrefixOf s)
            rw [ih (List.not_mem_of_not_mem_cons hp)]

theorem opensAt_cons_head_piece {c : Char} (hc : c ≠ '\n') (s : List Char) :
    opensAt os (c :: (splitInclusiveLf s).headD []) = opensAt os (c :: s) := by
  rw [opensAt, opensAt]
  congr 1
  funext o
  have h := isPrefixOf_head_piece (o.notMem_text (.inl rfl)) (c :: s)
  rw [splitInclusiveLf_cons hc] at h
  exact h

theorem freshAfter_of_visible {c : Char} (hc : isWhitespace c = false) (fresh : Bool) :
    freshAfter fresh c = false := by
  have hlf : (c == '\n') = false := by
    apply beq_false_of_ne
    rintro rfl
    exact absurd hc (by decide)
  rw [freshAfter, hlf, hc, Bool.and_false, Bool.or_false]

theorem scan_cons_of_visible {c : Char} (hc : isWhitespace c = false) (fresh : Bool)
    (s : List Char) :
    scan os fresh (c :: s) = (fresh && opensAt os (c :: s)).toNat + scan os false s := by
  rw [scan, freshAfter_of_visible hc]

theorem scan_cons_of_whitespace {c : Char} (hc : isWhitespace c = true) (fresh : Bool)
    (s : List Char) :
    scan os fresh (c :: s) = scan os (freshAfter fresh c) s := by
  rw [scan, opensAt_cons_of_whitespace os hc, Bool.and_false, Bool.toNat_false, Nat.zero_add]

/-- The pass over a text, from the start of a line or from within one: in the
    latter case the first piece is not a line of its own. -/
theorem scan_eq_openings (s : List Char) :
    scan os true s = openings os (splitInclusiveLf s)
      ∧ scan os false s = openings os (splitInclusiveLf s).tail := by
  induction s with
  | nil => exact ⟨rfl, rfl⟩
  | cons c s ih =>
      obtain ⟨htrue, hfalse⟩ := ih
      by_cases hlf : c = '\n'
      · have hblank : isWhitespace c = true := by rw [hlf]; decide
        have hfresh : ∀ fresh, freshAfter fresh c = true := fun fresh => by
          rw [freshAfter, hlf, beq_self_eq_true, Bool.true_or]
        have hline : opensLine os [c] = false :=
          (opensLine_cons_of_whitespace os hblank []).trans (opensAt_nil os)
        rw [scan_cons_of_whitespace os hblank, scan_cons_of_whitespace os hblank, hfresh,
          hfresh, splitInclusiveLf, if_pos hlf, openings_cons, hline, Bool.toNat_false,
          Nat.zero_add]
        exact ⟨htrue, htrue⟩
      · rw [splitInclusiveLf_cons hlf, List.tail_cons, openings_cons]
        cases hc : isWhitespace c with
        | true =>
            have hstay : ∀ fresh, freshAfter fresh c = fresh := fun fresh => by
              rw [freshAfter, beq_false_of_ne hlf, hc, Bool.and_true, Bool.false_or]
            rw [scan_cons_of_whitespace os hc, scan_cons_of_whitespace os hc, hstay, hstay,
              opensLine_cons_of_whitespace os hc, ← openings_eq_head]
            exact ⟨htrue, hfalse⟩
        | false =>
            rw [scan_cons_of_visible os hc, scan_cons_of_visible os hc, Bool.true_and,
              Bool.false_and, Bool.toNat_false, Nat.zero_add, hfalse,
              opensLine_cons_of_visible os hc, opensAt_cons_head_piece os hlf]
            exact ⟨rfl, rfl⟩

theorem openings_congr {pieces pieces' : List (List Char)}
    (h : pieces.map (opensLine os) = pieces'.map (opensLine os)) :
    openings os pieces = openings os pieces' := by
  have hcount : ∀ ps : List (List Char),
      openings os ps = (ps.map (opensLine os)).countP id := fun ps => by
    rw [openings, ← List.countP_eq_length_filter, List.countP_map, Function.id_comp]
  rw [hcount, hcount, h]

/-- **The lines of a text that open, in one pass.** -/
theorem scan_true_eq_lines (s : List Char) : scan os true s = openings os (lines s) :=
  (scan_eq_openings os s).1.trans (openings_congr os (lines_map_opensLine os s)).symm

/-- From within a line, the lines after it. -/
theorem scan_false_eq_lines (s : List Char) :
    scan os false s = openings os (lines s).tail := by
  refine (scan_eq_openings os s).2.trans (openings_congr os ?_).symm
  rw [List.map_tail, List.map_tail, lines_map_opensLine]

/-! ## The pass, piece by piece -/

theorem scan_blank_append {w : List Char} (hw : Blank w) (fresh : Bool) (rest : List Char) :
    scan os fresh (w ++ rest) = scan os (w.foldl freshAfter fresh) rest := by
  induction w generalizing fresh with
  | nil => rfl
  | cons c w ih =>
      have hc : isWhitespace c = true := hw c (List.mem_cons_self ..)
      rw [List.cons_append, scan_cons_of_whitespace os hc, List.foldl_cons]
      exact ih (fun d hd => hw d (List.mem_cons_of_mem _ hd)) _

/-- Within a line nothing opens until a line feed. -/
theorem scan_false_append {x : List Char} (hx : '\n' ∉ x) (rest : List Char) :
    scan os false (x ++ rest) = scan os false rest := by
  induction x with
  | nil => rfl
  | cons c x ih =>
      have hc : c ≠ '\n' := (List.ne_of_not_mem_cons hx).symm
      rw [List.cons_append, scan, Bool.false_and, Bool.toNat_false, Nat.zero_add, freshAfter,
        beq_false_of_ne hc, Bool.false_and, Bool.or_false]
      exact ih (List.not_mem_of_not_mem_cons hx)

/-- A visible piece of one line can only open with its first character. -/
theorem scan_visible_append {c : Char} {x : List Char} (hc : isWhitespace c = false)
    (hx : '\n' ∉ x) (fresh : Bool) (rest : List Char) :
    scan os fresh (c :: x ++ rest)
      = (fresh && opensAt os (c :: x ++ rest)).toNat + scan os false rest := by
  rw [List.cons_append, scan_cons_of_visible os hc, scan_false_append os hx]

/-- A piece that ends with a visible character of no opening is scanned on its own. -/
theorem scan_delimited_append {q : Char} (hq : isWhitespace q = false)
    (hos : ∀ o ∈ os, q ∉ o.text) (fresh : Bool) (x rest : List Char) :
    scan os fresh (x ++ q :: rest) = scan os fresh (x ++ [q]) + scan os false rest := by
  induction x generalizing fresh with
  | nil =>
      have hclosed : ∀ s, opensAt os (q :: s) = false := fun s =>
        (opensAt_append_stop os hos [] s).trans (opensAt_nil os)
      rw [List.nil_append, List.nil_append, scan_cons_of_visible os hq,
        scan_cons_of_visible os hq, hclosed, hclosed, Bool.and_false, scan]
      rfl
  | cons c x ih =>
      have hsame : opensAt os (c :: (x ++ q :: rest)) = opensAt os (c :: (x ++ [q])) :=
        (opensAt_append_stop os hos (c :: x) rest).trans
          (opensAt_append_stop os hos (c :: x) []).symm
      rw [List.cons_append, List.cons_append, scan, scan, hsame, ih, Nat.add_assoc]

end LineScan
