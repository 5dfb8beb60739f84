import TreetopRest.ListingProofs

/-! # Which encoding a scrape gets

    The `Accept` headers of a scrape are split at their commas, a media range at
    its semicolons and a parameter at its equals sign, and the last parameter
    of a name counts.  For ranges that are written without blanks and quotes
    that says WHICH RANGES ASK FOR PROTOBUF, and a scrape gets it exactly if
    one of its ranges does (`scrape_negotiated`). -/

namespace TreetopNegotiation

open Text
open TreetopErrors TreetopFetcher TreetopRequest TreetopRoutes

/-! ## Media ranges -/

/-- A type and its parameters, in order. -/
structure MediaRange where
  mediaType : List Char
  parameters : List (List Char × List Char)

/-- No separator, no quote and no blank. -/
def isTokenChar (c : Char) : Bool :=
  c != ',' && (c != ';' && (c != '=' && (c != '"' && !isWhitespace c)))

def IsToken (s : List Char) : Prop := s.all isTokenChar = true

instance (s : List Char) : Decidable (IsToken s) := inferInstanceAs (Decidable (_ = true))

theorem IsToken.mem {s : List Char} (h : IsToken s) {c : Char} (hc : c ∈ s) :
    c ≠ ',' ∧ c ≠ ';' ∧ c ≠ '=' ∧ c ≠ '"' ∧ isWhitespace c = false := by
  have hchar : isTokenChar c = true := List.all_eq_true.mp h c hc
  simpa [isTokenChar] using hchar

structure MediaRange.WellFormed (r : MediaRange) : Prop where
  mediaType : IsToken r.mediaType
  parameters : ∀ p ∈ r.parameters, IsToken p.1 ∧ IsToken p.2

def parameterText (p : List Char × List Char) : List Char := p.1 ++ '=' :: p.2

def MediaRange.text (r : MediaRange) : List Char :=
  [';'].intercalate (r.mediaType :: r.parameters.map parameterText)

/-- The name of a parameter, whatever its case. -/
def parameterName (p : List Char × List Char) : String := String.ofList (p.1.map toAsciiLower)

/-- What the last parameter of a name says. -/
def lastValue (name : String) (parameters : List (List Char × List Char)) :
    Option (List Char) :=
  ((parameters.filter fun p => parameterName p = name).map Prod.snd).getLast?

/-- The range asks for the protobuf encoding of the registry, and not with a
    quality of zero. -/
def MediaRange.asksForProtobuf (r : MediaRange) : Bool :=
  eqIgnoreAsciiCase r.mediaType "application/vnd.google.protobuf".toList
    && (lastValue "proto" r.parameters == some "io.prometheus.client.MetricFamily".toList)
    && (lastValue "encoding" r.parameters).any (eqIgnoreAsciiCase · "delimited".toList)
    && (lastValue "q" r.parameters).all fun value => isPositiveF32 value

/-! ## Reading -/

theorem IsToken.trim {s : List Char} (h : IsToken s) : Text.trim s = s :=
  trim_self fun _ hc => (h.mem hc).2.2.2.2

theorem IsToken.trimMatches {s : List Char} (h : IsToken s) : trimMatches '"' s = s :=
  trim_self fun _ hc => beq_false_of_ne (h.mem hc).2.2.2.1

/-- The characters of a parameter. -/
theorem mem_parameterText {p : List Char × List Char} (hname : IsToken p.1) (hvalue : IsToken p.2)
    {c : Char} (hc : c ∈ parameterText p) :
    c ≠ ',' ∧ c ≠ ';' ∧ isWhitespace c = false := by
  rcases List.mem_append.mp hc with hc | hc
  · exact ⟨(hname.mem hc).1, (hname.mem hc).2.1, (hname.mem hc).2.2.2.2⟩
  · rcases List.mem_cons.mp hc with rfl | hc
    · decide
    · exact ⟨(hvalue.mem hc).1, (hvalue.mem hc).2.1, (hvalue.mem hc).2.2.2.2⟩

/-- A parameter is read by its name. -/
theorem read_parameterText {p : List Char × List Char} (hname : IsToken p.1)
    (hvalue : IsToken p.2) (found : MediaParameters) :
    found.read (parameterText p)
      = ⟨if parameterName p = "proto" then p.2 == "io.prometheus.client.MetricFamily".toList
            else found.prometheusMetricFamily,
          if parameterName p = "encoding" then eqIgnoreAsciiCase p.2 "delimited".toList
            else found.delimited,
          if parameterName p = "q" then isPositiveF32 p.2
            else found.enabled⟩ := by
  have hsplit : splitOnce '=' (parameterText p) = some (p.1, p.2) :=
    splitOnce_eq_some.mpr ⟨rfl, fun hmem => (hname.mem hmem).2.2.1 rfl⟩
  rw [MediaParameters.read, hsplit]
  dsimp only
  rw [hname.trim, hvalue.trim, hvalue.trimMatches, ← parameterName]
  generalize parameterName p = name
  by_cases hproto : name = "proto"
  · subst hproto
    rfl
  · by_cases hencoding : name = "encoding"
    · subst hencoding
      rfl
    · by_cases hq : name = "q"
      · subst hq
        rfl
      · simp only [hproto, hencoding, hq, if_false]

/-- The last parameter is a later one, if there is one. -/
theorem lastValue_cons (name : String) (p : List Char × List Char)
    (parameters : List (List Char × List Char)) :
    lastValue name (p :: parameters)
      = (lastValue name parameters).or (if parameterName p = name then some p.2 else none) := by
  rw [lastValue, lastValue, List.filter_cons]
  by_cases hname : parameterName p = name
  · rw [if_pos hname, if_pos (decide_eq_true hname), List.map_cons, List.getLast?_cons]
    cases ((parameters.filter fun p => parameterName p = name).map Prod.snd).getLast? <;> rfl
  · rw [if_neg hname, if_neg (by simpa using hname), Option.or_none]

/-- What a parameter list leaves, by what was found before it. -/
def said {β : Type} (f : List Char → β) (before : β) : Option (List Char) → β
  | some value => f value
  | none => before

theorem said_or {β : Type} (f : List Char → β) (before : β) (later : Option (List Char))
    (c : Prop) [Decidable c] (value : List Char) :
    said f before (later.or (if c then some value else none))
      = said f (if c then f value else before) later := by
  cases later with
  | some later => rfl
  | none => by_cases hc : c <;> simp [said, hc]

theorem said_true (f : List Char → Bool) (found : Option (List Char)) :
    said f true found = found.all f := by
  cases found <;> rfl

theorem said_false (f : List Char → Bool) (found : Option (List Char)) :
    said f false found = found.any f := by
  cases found <;> rfl

theorem said_eq (value : List Char) (found : Option (List Char)) :
    said (· == value) false found = (found == some value) := by
  cases found <;> rfl

/-- **PARAMETERS** are read one by one, and the last of a name counts. -/
theorem foldl_read (parameters : List (List Char × List Char))
    (hp : ∀ p ∈ parameters, IsToken p.1 ∧ IsToken p.2) (found : MediaParameters) :
    (parameters.map parameterText).foldl MediaParameters.read found
      = ⟨said (· == "io.prometheus.client.MetricFamily".toList) found.prometheusMetricFamily
            (lastValue "proto" parameters),
          said (eqIgnoreAsciiCase · "delimited".toList) found.delimited
            (lastValue "encoding" parameters),
          said (fun value => isPositiveF32 value) found.enabled
            (lastValue "q" parameters)⟩ := by
  induction parameters generalizing found with
  | nil => rfl
  | cons p parameters ih =>
      have hhead := hp p List.mem_cons_self
      rw [List.map_cons, List.foldl_cons, read_parameterText hhead.1 hhead.2,
        ih fun q hq => hp q (List.mem_cons_of_mem _ hq), lastValue_cons, lastValue_cons,
        lastValue_cons, said_or, said_or, said_or]

/-- **RANGES**: what is accepted is what asks for protobuf. -/
theorem acceptsMediaRange_text {r : MediaRange} (h : r.WellFormed) :
    acceptsMediaRange r.text = r.asksForProtobuf := by
  have hpieces : (r.text.splitOn ';').map trim
      = r.mediaType :: r.parameters.map parameterText := by
    rw [MediaRange.text, List.splitOn_intercalate ';' ?_ (List.cons_ne_nil _ _)]
    · rw [List.map_cons, h.mediaType.trim, List.map_map]
      refine congrArg _ (List.map_congr_left fun p hp => ?_)
      have htokens := h.parameters p hp
      exact trim_self fun c hc => (mem_parameterText htokens.1 htokens.2 hc).2.2
    · intro piece hpiece hmem
      rcases List.mem_cons.mp hpiece with rfl | hpiece
      · exact (h.mediaType.mem hmem).2.1 rfl
      · obtain ⟨p, hp, rfl⟩ := List.mem_map.mp hpiece
        have htokens := h.parameters p hp
        exact (mem_parameterText htokens.1 htokens.2 hmem).2.1 rfl
  rw [acceptsMediaRange, hpieces]
  dsimp only
  rw [foldl_read r.parameters h.parameters, MediaRange.asksForProtobuf]
  cases eqIgnoreAsciiCase r.mediaType "application/vnd.google.protobuf".toList with
  | false => rfl
  | true =>
      show (said _ true _ && said _ false _ && said _ false _) = (true && _ && _ && _)
      rw [said_true, said_eq, said_false, Bool.true_and, Bool.and_assoc, Bool.and_comm]

/-! ## Scrapes -/

/-- The text of a header that lists ranges. -/
def acceptText (ranges : List MediaRange) : List Char :=
  [','].intercalate (ranges.map MediaRange.text)

theorem comma_notMem_text {r : MediaRange} (h : r.WellFormed) : ',' ∉ r.text := by
  intro hmem
  rcases mem_intercalate hmem with hsep | ⟨piece, hpiece, hc⟩
  · exact absurd hsep (by decide)
  · rcases List.mem_cons.mp hpiece with rfl | hpiece
    · exact (h.mediaType.mem hc).1 rfl
    · obtain ⟨p, hp, rfl⟩ := List.mem_map.mp hpiece
      exact (mem_parameterText (h.parameters p hp).1 (h.parameters p hp).2 hc).1 rfl

/-- A header that lists ranges is accepted if one of them is. -/
theorem any_acceptText {ranges : List MediaRange} (h : ∀ r ∈ ranges, r.WellFormed) :
    ((acceptText ranges).splitOn ',').any acceptsMediaRange
      = ranges.any MediaRange.asksForProtobuf := by
  cases hranges : ranges with
  | nil => rfl
  | cons r rest =>
      rw [← hranges, acceptText, List.splitOn_intercalate ',' ?_ (by rw [hranges]; exact nofun)]
      · rw [List.any_map, Bool.eq_iff_iff, List.any_eq_true, List.any_eq_true]
        refine exists_congr fun r => and_congr_right fun hr => ?_
        rw [Function.comp_apply, acceptsMediaRange_text (h r hr)]
      · intro piece hpiece
        obtain ⟨r, hr, rfl⟩ := List.mem_map.mp hpiece
        exact comma_notMem_text (h r hr)

/-- **NEGOTIATED**: a scrape whose `Accept` headers list these ranges gets the
    protobuf encoding exactly if one of the ranges asks for it, and the text
    encoding otherwise. -/
theorem scrape_negotiated {headers : HeaderMap} {values : List (List MediaRange)}
    (hheaders : (headers.getAll "accept").filterMap HeaderValue.toStr
      = values.map fun ranges => String.ofList (acceptText ranges))
    (hwell : ∀ ranges ∈ values, ∀ r ∈ ranges, r.WellFormed) (text protobuf : List UInt8) :
    metrics headers (.ok text) (.ok protobuf)
      = .ok (if values.any fun ranges => ranges.any MediaRange.asksForProtobuf then
          (prometheusProtobufContentType, protobuf)
        else (openmetricsContentType, text)) := by
  have haccepts : acceptsPrometheusProtobuf headers
      = values.any fun ranges => ranges.any MediaRange.asksForProtobuf := by
    rw [acceptsPrometheusProtobuf, hheaders, List.flatMap_map, List.any_flatMap,
      Bool.eq_iff_iff, List.any_eq_true, List.any_eq_true]
    refine exists_congr fun ranges => and_congr_right fun hranges => ?_
    rw [String.toList_ofList, any_acceptText (hwell ranges hranges)]
  rw [metrics, haccepts]
  by_cases hasks : (values.any fun ranges => ranges.any MediaRange.asksForProtobuf) = true
  · rw [if_pos hasks, if_pos hasks]
    rfl
  · rw [if_neg hasks, if_neg hasks]
    rfl

/-! ## A scraper -/

/-- The encoding a scraper prefers, and one it can also read. -/
def scraperRanges : List MediaRange :=
  [⟨"application/vnd.google.protobuf".toList,
      [("proto".toList, "io.prometheus.client.MetricFamily".toList),
        ("encoding".toList, "delimited".toList)]⟩,
    ⟨"text/plain".toList, [("q".toList, "0.5".toList)]⟩]

def scraperHeaders : HeaderMap :=
  [("accept", ⟨asBytes (acceptText scraperRanges)⟩)]

theorem wellFormed_scraper : ∀ ranges ∈ [scraperRanges], ∀ r ∈ ranges, r.WellFormed := by
  intro ranges hranges r hr
  rw [List.mem_singleton.mp hranges] at hr
  rcases List.mem_pair.mp hr with rfl | rfl
  · refine ⟨by decide +kernel, fun p hp => ?_⟩
    rcases List.mem_pair.mp hp with rfl | rfl
    · exact ⟨by decide +kernel, by decide +kernel⟩
    · exact ⟨by decide +kernel, by decide +kernel⟩
  · refine ⟨by decide +kernel, fun p hp => ?_⟩
    rw [List.mem_singleton.mp hp]
    exact ⟨by decide +kernel, by decide +kernel⟩

/-- It gets the one it prefers. -/
theorem scrape_negotiated_scraper :
    metrics scraperHeaders (.ok [35]) (.ok [10])
      = .ok (if [scraperRanges].any fun ranges =>
            ranges.any MediaRange.asksForProtobuf then
          (prometheusProtobufContentType, [10])
        else (openmetricsContentType, [35])) :=
  scrape_negotiated (by decide +kernel) wellFormed_scraper [35] [10]

end TreetopNegotiation
