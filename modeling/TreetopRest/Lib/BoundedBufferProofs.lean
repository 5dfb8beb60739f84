import Mathlib.Tactic.Common

/-! # Reading a stream into a bounded buffer

    A stream of chunks is copied into a growable array, under a limit that is
    checked twice: once on the length that was declared for it, which also
    reserves the array, and before every chunk on the sum of two machine
    words, which SATURATES.  An allocation that is refused stops the program.
    Unless one is, the outcome is a function of the declared length and the
    bytes alone (`receive_chunks`), however they are cut, and the array never
    holds more than the limit (`receiving_le`). -/

namespace BoundedBuffer

/-! ## Arrays of a machine -/

/-- Lengths are words, and a full array grows to some capacity that is enough,
    if that is granted.  `grants held wanted` answers an array of capacity
    `held` that asks for `wanted`: capacities only grow, so it can decide about
    every allocation of a run by itself. -/
structure Machine where
  maxWord : Nat
  grants : Nat → Nat → Bool
  grow : Nat → Nat → Nat
  grants_nothing : grants 0 0 = true
  grants_lt : ∀ held wanted, grants held wanted = true → wanted < maxWord
  enough : ∀ capacity required, required ≤ grow capacity required

/-- Addition of words that sticks at the largest. -/
def Machine.saturatingAdd (M : Machine) (a b : Nat) : Nat := min (a + b) M.maxWord

/-- A growable array: what it holds is allocated. -/
structure Buffer (M : Machine) (α : Type) where
  elems : List α
  capacity : Nat
  fits : elems.length ≤ capacity
  allocated : capacity < M.maxWord

variable {M : Machine} {α ε δ : Type}

/-- An empty array with room for `n` elements, or nothing if it is refused. -/
def Buffer.withCapacity (M : Machine) (α : Type) (n : Nat) : Option (Buffer M α) :=
  if h : M.grants 0 n = true then some ⟨[], n, Nat.zero_le n, M.grants_lt 0 n h⟩ else none

/-- The array with a slice at its end, or nothing if its growth is refused. -/
def Buffer.extendFromSlice (b : Buffer M α) (slice : List α) : Option (Buffer M α) :=
  if hroom : (b.elems ++ slice).length ≤ b.capacity then
    some ⟨b.elems ++ slice, b.capacity, hroom, b.allocated⟩
  else if hgrow : M.grants b.capacity (M.grow b.capacity (b.elems ++ slice).length) = true then
    some ⟨b.elems ++ slice, _, M.enough _ _, M.grants_lt _ _ hgrow⟩
  else none

theorem withCapacity_elems {n : Nat} {b : Buffer M α}
    (h : Buffer.withCapacity M α n = some b) : b.elems = [] := by
  rw [Buffer.withCapacity] at h
  split at h
  · cases h
    rfl
  · exact nomatch h

theorem withCapacity_capacity {n : Nat} {b : Buffer M α}
    (h : Buffer.withCapacity M α n = some b) : b.capacity = n := by
  rw [Buffer.withCapacity] at h
  split at h
  · cases h
    rfl
  · exact nomatch h

theorem extendFromSlice_elems {b b' : Buffer M α} {slice : List α}
    (h : b.extendFromSlice slice = some b') : b'.elems = b.elems ++ slice := by
  rw [Buffer.extendFromSlice] at h
  split at h
  · cases h
    rfl
  · split at h
    · cases h
      rfl
    · exact nomatch h

/-- Below the largest word saturation does not show. -/
theorem lt_saturatingAdd_iff {limit : Nat} (h : limit < M.maxWord) (a b : Nat) :
    limit < M.saturatingAdd a b ↔ limit < a + b := by
  rw [Machine.saturatingAdd]
  omega

/-! ## The receive loop -/

/-- What became of a stream; it is stopped by a refused allocation. -/
inductive Received (ε α : Type) where
  | handed (elems : List α)
  | failed (e : ε)
  | stopped

variable (M : Machine) (limit : Nat) (tooLarge : ε) (broken : δ → ε)

/-- The loop, from an array it has reached. -/
def receiveChunks : List (Except δ (List α)) → Buffer M α → Received ε α
  | [], b => .handed b.elems
  | .error e :: _, _ => .failed (broken e)
  | .ok chunk :: rest, b =>
      if limit < M.saturatingAdd b.elems.length chunk.length then .failed tooLarge
      else match b.extendFromSlice chunk with
        | none => .stopped
        | some b => receiveChunks rest b

/-- The arrays at the head of the loop, from one it has reached. -/
def receiving : List (Except δ (List α)) → Buffer M α → List (Buffer M α)
  | .ok chunk :: rest, b =>
      if limit < M.saturatingAdd b.elems.length chunk.length then [b]
      else match b.extendFromSlice chunk with
        | none => [b]
        | some b' => b :: receiving rest b'
  | _, b => [b]

/-- The declared length is checked, reserves the array, and the loop runs. -/
def receive (declared : Option Nat) (stream : List (Except δ (List α))) : Received ε α :=
  if declared.any (fun n => limit < n) then .failed tooLarge
  else match Buffer.withCapacity M α (declared.getD 0) with
    | none => .stopped
    | some b => receiveChunks M limit tooLarge broken stream b

/-- The arrays of a receive phase, the reserved one first. -/
def arrays (declared : Option Nat) (stream : List (Except δ (List α))) : List (Buffer M α) :=
  if declared.any (fun n => limit < n) then []
  else match Buffer.withCapacity M α (declared.getD 0) with
    | none => []
    | some b => receiving M limit stream b

variable {M limit tooLarge broken}

/-- A chunk that was admitted and copied has not passed the limit: the array is
    smaller than the largest word, so the sum was not cut off. -/
theorem admitted_le {b b' : Buffer M α} {chunk : List α}
    (hsum : ¬ limit < M.saturatingAdd b.elems.length chunk.length)
    (hext : b.extendFromSlice chunk = some b') : b'.elems.length ≤ limit := by
  have hlen : b'.elems.length = b.elems.length + chunk.length := by
    rw [extendFromSlice_elems hext, List.length_append]
  have halloc : b'.elems.length < M.maxWord := Nat.lt_of_le_of_lt b'.fits b'.allocated
  rw [Machine.saturatingAdd] at hsum
  omega

/-- A chunk that was refused passes the limit. -/
theorem refused_gt {b : Buffer M α} {chunk : List α}
    (hsum : limit < M.saturatingAdd b.elems.length chunk.length) :
    limit < (b.elems ++ chunk).length := by
  rw [Machine.saturatingAdd] at hsum
  rw [List.length_append]
  omega

/-- **LOOP**: on chunks without an error the loop is stopped, or hands over all of
    them if they fit, and fails if they do not. -/
theorem receiveChunks_chunks (chunks : List (List α)) :
    ∀ b : Buffer M α, b.elems.length ≤ limit →
      receiveChunks M limit tooLarge broken (chunks.map .ok) b = .stopped
      ∨ receiveChunks M limit tooLarge broken (chunks.map .ok) b
        = if (b.elems ++ chunks.flatten).length ≤ limit then .handed (b.elems ++ chunks.flatten)
          else .failed tooLarge := by
  induction chunks with
  | nil =>
      intro b hb
      refine Or.inr ?_
      rw [List.flatten_nil, List.append_nil, if_pos hb]
      rfl
  | cons chunk chunks ih =>
      intro b hb
      rw [List.map_cons, receiveChunks, List.flatten_cons, ← List.append_assoc]
      by_cases hsum : limit < M.saturatingAdd b.elems.length chunk.length
      · rw [if_pos hsum]
        have hover : ¬ (b.elems ++ chunk ++ chunks.flatten).length ≤ limit := by
          have hchunk := refused_gt hsum
          rw [List.length_append]
          omega
        rw [if_neg hover]
        exact Or.inr rfl
      · rw [if_neg hsum]
        cases hext : b.extendFromSlice chunk with
        | none => exact Or.inl rfl
        | some b' =>
            rw [← extendFromSlice_elems hext]
            exact ih b' (admitted_le hsum hext)

/-- **STREAM**: a receive phase is stopped, or hands over exactly the bytes of the
    chunks if the declared length and their number keep to the limit, and fails
    with the size error otherwise. -/
theorem receive_chunks (declared : Option Nat) (chunks : List (List α)) :
    receive M limit tooLarge broken declared (chunks.map .ok) = .stopped
    ∨ receive M limit tooLarge broken declared (chunks.map .ok)
      = if (∀ n ∈ declared, n ≤ limit) ∧ chunks.flatten.length ≤ limit then
          .handed chunks.flatten
        else .failed tooLarge := by
  have hdeclared : declared.any (fun n => limit < n) = true ↔ ¬ ∀ n ∈ declared, n ≤ limit := by
    cases declared with
    | none => simp
    | some n => simp
  rw [receive]
  by_cases hany : declared.any (fun n => limit < n) = true
  · rw [if_pos hany, if_neg (fun h => hdeclared.mp hany h.1)]
    exact Or.inr rfl
  · rw [if_neg hany]
    have hok : ∀ n ∈ declared, n ≤ limit := by
      by_contra h
      exact hany (hdeclared.mpr h)
    cases hcap : Buffer.withCapacity M α (declared.getD 0) with
    | none => exact Or.inl rfl
    | some b =>
        have hempty : b.elems = [] := withCapacity_elems hcap
        have hstart : b.elems.length ≤ limit := by
          rw [hempty]
          exact Nat.zero_le _
        have hloop : receiveChunks M limit tooLarge broken (chunks.map .ok) b = .stopped ∨ _ :=
          receiveChunks_chunks chunks b hstart
        rw [hempty, List.nil_append] at hloop
        rcases hloop with hstop | hloop
        · exact Or.inl hstop
        · refine Or.inr (hloop.trans ?_)
          by_cases hlen : chunks.flatten.length ≤ limit
          · rw [if_pos hlen, if_pos ⟨hok, hlen⟩]
          · rw [if_neg hlen, if_neg (fun h => hlen h.2)]

/-- **BOUND**: the array keeps to the limit at every step, whatever the stream. -/
theorem receiving_le (stream : List (Except δ (List α))) :
    ∀ b : Buffer M α, b.elems.length ≤ limit →
      ∀ b' ∈ receiving M limit stream b, b'.elems.length ≤ limit := by
  induction stream with
  | nil =>
      intro b hb b' hmem
      rw [List.mem_singleton.mp hmem]
      exact hb
  | cons item rest ih =>
      intro b hb b' hmem
      cases item with
      | error e =>
          rw [List.mem_singleton.mp hmem]
          exact hb
      | ok chunk =>
          rw [receiving] at hmem
          by_cases hsum : limit < M.saturatingAdd b.elems.length chunk.length
          · rw [if_pos hsum] at hmem
            rw [List.mem_singleton.mp hmem]
            exact hb
          · rw [if_neg hsum] at hmem
            cases hext : b.extendFromSlice chunk with
            | none =>
                rw [hext] at hmem
                rw [List.mem_singleton.mp hmem]
                exact hb
            | some next =>
                rw [hext] at hmem
                rcases List.mem_cons.mp hmem with rfl | hmem
                · exact hb
                · exact ih next (admitted_le hsum hext) b' hmem

theorem receiving_head (stream : List (Except δ (List α))) (b : Buffer M α) :
    (receiving M limit stream b).head? = some b := by
  rw [receiving.eq_def]
  split
  · split
    · rfl
    · split
      · rfl
      · rfl
  · rfl

/-- The reservation keeps to the limit, and so does every array after it. -/
theorem arrays_le (declared : Option Nat) (stream : List (Except δ (List α))) :
    (∀ b ∈ (arrays M limit declared stream).head?, b.capacity ≤ limit)
      ∧ ∀ b ∈ arrays M limit declared stream, b.elems.length ≤ limit := by
  rw [arrays]
  by_cases hany : declared.any (fun n => limit < n) = true
  · rw [if_pos hany]
    exact ⟨(fun _ hb => nomatch hb), fun _ hb => nomatch hb⟩
  · rw [if_neg hany]
    cases hcap : Buffer.withCapacity M α (declared.getD 0) with
    | none => exact ⟨(fun _ hb => nomatch hb), fun _ hb => nomatch hb⟩
    | some b =>
        dsimp only
        rw [receiving_head]
        constructor
        · rintro _ ⟨⟩
          rw [withCapacity_capacity hcap]
          cases declared with
          | none => exact Nat.zero_le _
          | some n => simpa using hany
        · refine receiving_le stream b ?_
          rw [withCapacity_elems hcap]
          exact Nat.zero_le _

/-! ## The loop over plain lists

    Without a machine lengths are numbers and nothing is refused.  A receive
    phase that is not stopped is this simpler loop. -/

variable (limit tooLarge broken) in
/-- Collect the chunks of a stream, as long as they fit. -/
def collect : List (Except δ (List α)) → List α → Except ε (List α)
  | [], elems => .ok elems
  | .error e :: _, _ => .error (broken e)
  | .ok chunk :: rest, elems =>
      if elems.length + chunk.length > limit then .error tooLarge
      else collect rest (elems ++ chunk)

/-- A stream of chunks comes to all of them, if they fit. -/
theorem collect_chunks (chunks : List (List α)) :
    ∀ elems, collect limit tooLarge broken (chunks.map .ok) elems = .error tooLarge
      ∨ collect limit tooLarge broken (chunks.map .ok) elems = .ok (elems ++ chunks.flatten) := by
  induction chunks with
  | nil =>
      intro elems
      refine Or.inr ?_
      rw [List.flatten_nil, List.append_nil]
      rfl
  | cons chunk rest ih =>
      intro elems
      rw [List.map_cons, collect]
      by_cases hfit : elems.length + chunk.length > limit
      · rw [if_pos hfit]
        exact Or.inl rfl
      · rw [if_neg hfit, List.flatten_cons, ← List.append_assoc]
        exact ih (elems ++ chunk)

/-- A stream that breaks comes to nothing. -/
theorem collect_broken (chunks : List (List α)) (d : δ) :
    ∀ elems, ∃ e, collect limit tooLarge broken (chunks.map .ok ++ [.error d]) elems
      = .error e := by
  induction chunks with
  | nil =>
      intro elems
      exact ⟨broken d, rfl⟩
  | cons chunk rest ih =>
      intro elems
      rw [List.map_cons, List.cons_append, collect]
      by_cases hfit : elems.length + chunk.length > limit
      · rw [if_pos hfit]
        exact ⟨tooLarge, rfl⟩
      · rw [if_neg hfit]
        exact ih (elems ++ chunk)

/-- What was collected was all of the stream, and fits. -/
theorem collect_eq_ok {stream : List (Except δ (List α))} :
    ∀ {elems out : List α}, elems.length ≤ limit →
      collect limit tooLarge broken stream elems = .ok out →
      out.length ≤ limit ∧ ∃ chunks : List (List α), stream = chunks.map .ok
        ∧ out = elems ++ chunks.flatten := by
  induction stream with
  | nil =>
      intro elems out hfits h
      cases h
      exact ⟨hfits, [], rfl, (List.append_nil elems).symm⟩
  | cons item rest ih =>
      intro elems out hfits h
      cases item with
      | error d =>
          rw [collect] at h
          cases h
      | ok chunk =>
          rw [collect] at h
          by_cases hover : elems.length + chunk.length > limit
          · rw [if_pos hover] at h
            cases h
          · rw [if_neg hover] at h
            have hnext : (elems ++ chunk).length ≤ limit := by
              rw [List.length_append]
              exact Nat.le_of_not_lt hover
            obtain ⟨hout, chunks, rfl, rfl⟩ := ih hnext h
            refine ⟨hout, chunk :: chunks, rfl, ?_⟩
            rw [List.flatten_cons, List.append_assoc]

/-- The outcome says the same as a result, unless there is no outcome. -/
def Received.Agrees (r : Received ε α) (x : Except ε (List α)) : Prop :=
  match r with
  | .handed elems => x = .ok elems
  | .failed e => x = .error e
  | .stopped => True

theorem receiveChunks_agrees (stream : List (Except δ (List α))) :
    ∀ b : Buffer M α, (receiveChunks M limit tooLarge broken stream b).Agrees
      (collect limit tooLarge broken stream b.elems) := by
  induction stream with
  | nil =>
      intro b
      exact rfl
  | cons item rest ih =>
      intro b
      cases item with
      | error e => exact rfl
      | ok chunk =>
          rw [receiveChunks, collect, ← List.length_append]
          by_cases hsum : limit < M.saturatingAdd b.elems.length chunk.length
          · rw [if_pos hsum, if_pos (refused_gt hsum)]
            exact rfl
          · rw [if_neg hsum]
            cases hext : b.extendFromSlice chunk with
            | none => exact trivial
            | some b' =>
                have hfits : ¬ (b.elems ++ chunk).length > limit := by
                  rw [← extendFromSlice_elems hext]
                  exact Nat.not_lt.mpr (admitted_le hsum hext)
                rw [if_neg hfits, ← extendFromSlice_elems hext]
                exact ih b'

theorem receive_agrees (declared : Option Nat) (stream : List (Except δ (List α))) :
    (receive M limit tooLarge broken declared stream).Agrees
      (if declared.any (fun n => limit < n) then .error tooLarge
        else collect limit tooLarge broken stream []) := by
  rw [receive]
  by_cases hany : declared.any (fun n => limit < n) = true
  · rw [if_pos hany, if_pos hany]
    exact rfl
  · rw [if_neg hany, if_neg hany]
    cases hcap : Buffer.withCapacity M α (declared.getD 0) with
    | none => exact trivial
    | some b =>
        rw [← withCapacity_elems hcap]
        exact receiveChunks_agrees stream b

/-! ## Limits without refusals -/

variable (M limit) in
/-- Whatever an array within the limit asks for is granted. -/
structure Roomy : Prop where
  reserve : ∀ n ≤ limit, M.grants 0 n = true
  grow : ∀ capacity required, capacity < required → required ≤ limit →
    M.grants capacity (M.grow capacity required) = true

theorem extendFromSlice_roomy (h : Roomy M limit) {b : Buffer M α} {chunk : List α}
    (hlen : (b.elems ++ chunk).length ≤ limit) : ∃ b', b.extendFromSlice chunk = some b' := by
  rw [Buffer.extendFromSlice]
  by_cases hroom : (b.elems ++ chunk).length ≤ b.capacity
  · rw [dif_pos hroom]
    exact ⟨_, rfl⟩
  · rw [dif_neg hroom, dif_pos (h.grow _ _ (Nat.lt_of_not_le hroom) hlen)]
    exact ⟨_, rfl⟩

/-- An admitted chunk keeps to a limit below the largest word. -/
theorem admitted_roomy (h : Roomy M limit) {b : Buffer M α} {chunk : List α}
    (hsum : ¬ limit < M.saturatingAdd b.elems.length chunk.length) :
    (b.elems ++ chunk).length ≤ limit := by
  have hword : limit < M.maxWord := M.grants_lt 0 limit (h.reserve limit (Nat.le_refl limit))
  rw [lt_saturatingAdd_iff hword] at hsum
  rw [List.length_append]
  omega

theorem receiveChunks_roomy (h : Roomy M limit) (stream : List (Except δ (List α))) :
    ∀ b : Buffer M α, receiveChunks M limit tooLarge broken stream b ≠ .stopped := by
  induction stream with
  | nil =>
      intro b hstop
      exact nomatch hstop
  | cons item rest ih =>
      intro b
      cases item with
      | error e =>
          intro hstop
          exact nomatch hstop
      | ok chunk =>
          rw [receiveChunks]
          by_cases hsum : limit < M.saturatingAdd b.elems.length chunk.length
          · rw [if_pos hsum]
            intro hstop
            exact nomatch hstop
          · rw [if_neg hsum]
            obtain ⟨b', hext⟩ := extendFromSlice_roomy h (admitted_roomy h hsum)
            rw [hext]
            exact ih b'

/-- With a roomy limit no receive phase is stopped. -/
theorem receive_roomy (h : Roomy M limit) (declared : Option Nat)
    (stream : List (Except δ (List α))) :
    receive M limit tooLarge broken declared stream ≠ .stopped := by
  rw [receive]
  by_cases hany : declared.any (fun n => limit < n) = true
  · rw [if_pos hany]
    intro hstop
    exact nomatch hstop
  · rw [if_neg hany]
    have hreserve : M.grants 0 (declared.getD 0) = true := by
      cases declared with
      | none => exact M.grants_nothing
      | some n => exact h.reserve n (by simpa using hany)
    rw [Buffer.withCapacity, dif_pos hreserve]
    exact receiveChunks_roomy h stream _

/-! ## The specification -/

/-- What a receive phase under a limit is to do, for chunks without an error:
    hand over exactly their bytes if the declared length and their number keep
    to the limit, else fail with the size error, however the bytes are cut and
    whatever the machine.  All this but for refused allocations, which a roomy
    limit excludes. -/
structure ExactlyBounded {H : Type} (machine : H → Machine) (limit : Nat)
    (declared : Option Nat) (tooLarge : ε) (outcome : H → List (List α) → Received ε α) :
    Prop where
  roomy : ∀ host, Roomy (machine host) limit → ∀ chunks, outcome host chunks ≠ .stopped
  handed : ∀ host chunks, outcome host chunks ≠ .stopped →
    (outcome host chunks = .handed chunks.flatten
      ↔ (∀ n ∈ declared, n ≤ limit) ∧ chunks.flatten.length ≤ limit)
  refused : ∀ host chunks, outcome host chunks ≠ .stopped →
    ¬ ((∀ n ∈ declared, n ≤ limit) ∧ chunks.flatten.length ≤ limit) →
    outcome host chunks = .failed tooLarge
  recut : ∀ host host' chunks chunks', outcome host chunks ≠ .stopped →
    outcome host' chunks' ≠ .stopped → chunks.flatten = chunks'.flatten →
    outcome host chunks = outcome host' chunks'

/-- **THE PHASE IS EXACT** for its limit. -/
theorem receive_exactlyBounded {H : Type} (machine : H → Machine) (declared : Option Nat) :
    ExactlyBounded machine limit declared tooLarge fun host (chunks : List (List α)) =>
      receive (machine host) limit tooLarge broken declared (chunks.map .ok) where
  roomy := fun _ h chunks => receive_roomy h declared (chunks.map .ok)
  handed := by
    intro host chunks hne
    rcases receive_chunks declared chunks with hstop | heq
    · exact absurd hstop hne
    · rw [heq]
      by_cases hfits : (∀ n ∈ declared, n ≤ limit) ∧ chunks.flatten.length ≤ limit
      · rw [if_pos hfits]
        exact iff_of_true rfl hfits
      · rw [if_neg hfits]
        exact iff_of_false (fun h => nomatch h) hfits
  refused := by
    intro host chunks hne hover
    rcases receive_chunks declared chunks with hstop | heq
    · exact absurd hstop hne
    · exact heq.trans (if_neg hover)
  recut := by
    intro host host' chunks chunks' hne hne' hflat
    rcases receive_chunks declared chunks with hstop | heq
    · exact absurd hstop hne
    · rcases receive_chunks declared chunks' with hstop' | heq'
      · exact absurd hstop' hne'
      · rw [hflat] at heq
        exact heq.trans heq'.symm

end BoundedBuffer
