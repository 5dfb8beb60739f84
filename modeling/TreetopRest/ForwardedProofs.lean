import TreetopRest.AdmissionModel

/-! # The forwarding chain, read from its end

    The chain of `X-Forwarded-For` is documented as a walk from the peer back
    to the client that stops at the first address no proxy is trusted for.
    The code makes ONE PASS the other way, over lines and tokens, with two
    running candidates: the first address, and the last untrusted one.  The
    loop lemmas say what the candidates are at every point, over whatever
    they were before, and the two readings meet in `rightToLeft_eq`. -/

namespace TreetopForwarded

open TreetopAddress TreetopAdmission TreetopRequest TreetopFetcher

/-! ## Walks -/

section Walk

variable {α β : Type} (passes : α → Bool)

/-- Walk a reversed list: pass over what passes, and stop at the first element
    that does not, or at the very last. -/
def walkBack : List α → Option α
  | [] => none
  | [a] => some a
  | a :: b :: rest => if passes a then walkBack (b :: rest) else some a

/-- Walk a list from its last element to its first. -/
def rightToLeft (xs : List α) : Option α := walkBack passes xs.reverse

theorem walkBack_eq (xs : List α) :
    walkBack passes xs = (xs.find? fun a => !passes a).or xs.getLast? := by
  induction xs with
  | nil => rfl
  | cons a rest ih =>
      cases rest with
      | nil =>
          rw [walkBack, List.find?_cons]
          cases passes a <;> rfl
      | cons b rest =>
          by_cases hpass : passes a = true
          · rw [walkBack, if_pos hpass, ih, List.getLast?_cons_cons]
            rw [List.find?_cons_of_neg (l := b :: rest) (by rw [hpass]; decide)]
          · rw [walkBack, if_neg hpass]
            rw [List.find?_cons_of_pos (l := b :: rest) (by simpa using hpass)]
            rfl

/-- The walk ends at the last element that does not pass, else at the first. -/
theorem rightToLeft_eq (xs : List α) :
    rightToLeft passes xs = (xs.reverse.find? fun a => !passes a).or xs.head? := by
  rw [rightToLeft, walkBack_eq, List.getLast?_reverse]

/-- What stands before an element that does not pass is never reached. -/
theorem rightToLeft_append {xs ys : List α} (h : ∃ y ∈ ys, passes y = false) :
    rightToLeft passes (xs ++ ys) = rightToLeft passes ys := by
  obtain ⟨y, hy, hstop⟩ := h
  have hfound : (ys.reverse.find? fun a => !passes a).isSome = true := by
    rw [List.find?_isSome]
    exact ⟨y, List.mem_reverse.mpr hy, by rw [hstop]; rfl⟩
  obtain ⟨z, hz⟩ := Option.isSome_iff_exists.mp hfound
  rw [rightToLeft_eq, rightToLeft_eq, List.reverse_append, List.find?_append, hz]
  rfl

theorem mapM_eq_none_iff {f : α → Option β} (xs : List α) :
    xs.mapM f = none ↔ ∃ x ∈ xs, f x = none := by
  induction xs with
  | nil => simp
  | cons x xs ih =>
      rw [List.mapM_cons]
      cases hx : f x with
      | none => simp [hx]
      | some y =>
          cases hxs : xs.mapM f with
          | none =>
              obtain ⟨z, hz, hnone⟩ := ih.mp hxs
              exact iff_of_true rfl ⟨z, List.mem_cons_of_mem _ hz, hnone⟩
          | some ys =>
              refine iff_of_false nofun ?_
              rintro ⟨z, hz, hnone⟩
              rcases List.mem_cons.mp hz with rfl | hz
              · rw [hx] at hnone
                exact nomatch hnone
              · rw [ih.mpr ⟨z, hz, hnone⟩] at hxs
                exact nomatch hxs

end Walk

/-! ## Tokens and lines -/

/-- The text is an address, an address with a port, or an address in brackets. -/
def IsAddressText (raw : List Char) : Prop :=
  (∃ ip, IpAddr.fromStr raw = some ip) ∨ (∃ sa, SocketAddr.fromStr raw = some sa)
    ∨ ∃ body ip, raw = '[' :: (body ++ [']']) ∧ IpAddr.fromStr body = some ip

/-- A header line that is no visible text, or has a token that is no address. -/
def Malformed (value : HeaderValue) : Prop :=
  value.toStr = none ∨ ∃ text, value.toStr = some text
    ∧ ∃ token ∈ text.toList.splitOn ',', ¬ IsAddressText (Text.trim token)

/-- The addresses of a header line. -/
def lineAddresses (value : HeaderValue) : Option (List IpAddr) :=
  value.toStr.bind fun text => (text.toList.splitOn ',').mapM parseIpToken

/-- The addresses of all the lines, in order. -/
def chain (values : List HeaderValue) : Option (List IpAddr) :=
  (values.mapM lineAddresses).map List.flatten

theorem stripBrackets_iff {raw body : List Char} :
    (stripPrefix '[' raw).bind (Text.stripSuffix ']') = some body
      ↔ raw = '[' :: (body ++ [']']) := by
  constructor
  · intro h
    obtain ⟨rest, hprefix, hsuffix⟩ := Option.bind_eq_some_iff.mp h
    cases raw with
    | nil => exact nomatch hprefix
    | cons x tail =>
        rw [stripPrefix] at hprefix
        by_cases hx : x = '['
        · rw [if_pos hx] at hprefix
          have htail : tail = rest := Option.some.inj hprefix
          rw [Text.stripSuffix] at hsuffix
          by_cases hlast : rest.getLast? = some ']'
          · rw [if_pos hlast] at hsuffix
            obtain ⟨front, hfront⟩ := List.getLast?_eq_some_iff.mp hlast
            rw [hfront, List.dropLast_concat] at hsuffix
            rw [hx, htail, hfront, Option.some.inj hsuffix]
          · rw [if_neg hlast] at hsuffix
            exact nomatch hsuffix
        · rw [if_neg hx] at hprefix
          exact nomatch hprefix
  · rintro rfl
    rw [stripPrefix, if_pos rfl, Option.bind_some, Text.stripSuffix, List.getLast?_concat,
      if_pos rfl, List.dropLast_concat]

/-- A token is read exactly if it is an address in one of the three forms. -/
theorem parseIpToken_eq_none_iff (token : List Char) :
    parseIpToken token = none ↔ ¬ IsAddressText (Text.trim token) := by
  generalize hraw : Text.trim token = raw
  have hsocket : parseSocket raw = none ↔ SocketAddr.fromStr raw = none
      ∧ ∀ body, raw = '[' :: (body ++ [']']) → IpAddr.fromStr body = none := by
    rw [parseSocket]
    cases SocketAddr.fromStr raw with
    | some sa => simp
    | none =>
        rw [Option.bind_eq_none_iff]
        constructor
        · intro h
          exact ⟨rfl, fun body hbody => h body (stripBrackets_iff.mpr hbody)⟩
        · rintro ⟨_, h⟩ body hbody
          exact h body (stripBrackets_iff.mp hbody)
  have hread : parseIpToken token = none
      ↔ IpAddr.fromStr raw = none ∧ parseSocket raw = none := by
    rw [parseIpToken, hraw]
    by_cases hempty : raw.isEmpty = true
    · -- the empty text is no address in any form
      rw [List.isEmpty_iff] at hempty
      subst hempty
      exact iff_of_true rfl ⟨by decide, by decide⟩
    · rw [if_neg hempty]
      cases IpAddr.fromStr raw with
      | some ip => simp
      | none => simp
  rw [hread, hsocket, IsAddressText, not_or, not_or]
  refine and_congr ?_ (and_congr ?_ ?_)
  · rw [Option.eq_none_iff_forall_ne_some]
    exact ⟨fun h ⟨ip, hip⟩ => h ip hip, fun h ip hip => h ⟨ip, hip⟩⟩
  · rw [Option.eq_none_iff_forall_ne_some]
    exact ⟨fun h ⟨ip, hip⟩ => h ip hip, fun h ip hip => h ⟨ip, hip⟩⟩
  · constructor
    · rintro h ⟨body, ip, hbody, hip⟩
      rw [h body hbody] at hip
      exact nomatch hip
    · intro h body hbody
      rw [Option.eq_none_iff_forall_ne_some]
      exact fun ip hip => h ⟨body, ip, hbody, hip⟩

/-- A line has addresses unless it is malformed. -/
theorem lineAddresses_eq_none_iff (value : HeaderValue) :
    lineAddresses value = none ↔ Malformed value := by
  rw [lineAddresses, Malformed]
  cases value.toStr with
  | none => exact iff_of_true rfl (Or.inl rfl)
  | some text =>
      rw [Option.bind_some, mapM_eq_none_iff]
      constructor
      · rintro ⟨token, hmem, hnone⟩
        exact Or.inr ⟨text, rfl, token, hmem, (parseIpToken_eq_none_iff token).mp hnone⟩
      · rintro (hno | ⟨_, ⟨⟩, token, hmem, hbad⟩)
        · exact nomatch hno
        · exact ⟨token, hmem, (parseIpToken_eq_none_iff token).mpr hbad⟩

theorem chain_eq_none_iff (values : List HeaderValue) :
    chain values = none ↔ ∃ value ∈ values, Malformed value := by
  rw [chain, Option.map_eq_none_iff, mapM_eq_none_iff]
  constructor
  · rintro ⟨value, hmem, hnone⟩
    exact ⟨value, hmem, (lineAddresses_eq_none_iff value).mp hnone⟩
  · rintro ⟨value, hmem, hbad⟩
    exact ⟨value, hmem, (lineAddresses_eq_none_iff value).mpr hbad⟩

theorem chain_cons (value : HeaderValue) (values : List HeaderValue) :
    chain (value :: values) = (lineAddresses value).bind fun ips =>
      (chain values).map fun rest => ips ++ rest := by
  rw [chain, chain, List.mapM_cons]
  cases lineAddresses value with
  | none => rfl
  | some ips =>
      cases values.mapM lineAddresses with
      | none => rfl
      | some rest => rfl

theorem chain_append (values values' : List HeaderValue) :
    chain (values ++ values') = (chain values).bind fun ips =>
      (chain values').map fun rest => ips ++ rest := by
  induction values with
  | nil =>
      show chain values' = (chain values').map fun rest => [] ++ rest
      simp
  | cons value values ih =>
      rw [List.cons_append, chain_cons, ih, chain_cons]
      cases lineAddresses value with
      | none => rfl
      | some ips =>
          cases chain values with
          | none => rfl
          | some middle =>
              cases chain values' with
              | none => rfl
              | some rest => exact congrArg some (List.append_assoc ips middle rest).symm

/-- Every line has an address at least. -/
theorem chain_eq_nil_iff {values : List HeaderValue} {ips : List IpAddr}
    (h : chain values = some ips) : ips = [] ↔ values = [] := by
  cases values with
  | nil =>
      cases h
      exact iff_of_true rfl rfl
  | cons value values =>
      refine iff_of_false ?_ nofun
      rintro rfl
      rw [chain_cons] at h
      obtain ⟨line, hline, h⟩ := Option.bind_eq_some_iff.mp h
      obtain ⟨rest, _, h⟩ := Option.map_eq_some_iff.mp h
      obtain ⟨rfl, rfl⟩ := List.append_eq_nil_iff.mp h
      rw [lineAddresses] at hline
      obtain ⟨text, _, htokens⟩ := Option.bind_eq_some_iff.mp hline
      cases hsplit : text.toList.splitOn ',' with
      | nil => exact absurd hsplit (List.splitOn_ne_nil _ _)
      | cons token tokens =>
          rw [hsplit, List.mapM_cons] at htokens
          obtain ⟨ip, _, htokens⟩ := Option.bind_eq_some_iff.mp htokens
          obtain ⟨more, _, htokens⟩ := Option.bind_eq_some_iff.mp htokens
          exact nomatch htokens

/-! ## The loops -/

variable {N : NetCrate} (trustedProxies : List (IpNet N))

/-- The two candidates after some addresses. -/
def candidates (ips : List IpAddr) (found : Option IpAddr × Option IpAddr) :
    Option IpAddr × Option IpAddr :=
  (found.1.or ips.head?,
    (ips.reverse.find? fun ip => !ipInNets ip trustedProxies).or found.2)

theorem candidates_cons (ip : IpAddr) (ips : List IpAddr)
    (found : Option IpAddr × Option IpAddr) :
    candidates trustedProxies (ip :: ips) found = candidates trustedProxies ips
      (found.1.or (some ip), if ipInNets ip trustedProxies then found.2 else some ip) := by
  obtain ⟨first, rightmostUntrusted⟩ := found
  refine Prod.ext ?_ ?_
  · cases first <;> rfl
  · show (((ip :: ips).reverse).find? _).or rightmostUntrusted = _
    rw [List.reverse_cons, List.find?_append, Option.or_assoc]
    refine congrArg _ ?_
    rw [List.find?_singleton]
    cases ipInNets ip trustedProxies <;> rfl

theorem candidates_append (ips rest : List IpAddr) (found : Option IpAddr × Option IpAddr) :
    candidates trustedProxies (ips ++ rest) found
      = candidates trustedProxies rest (candidates trustedProxies ips found) := by
  induction ips generalizing found with
  | nil =>
      refine congrArg _ (Prod.ext ?_ rfl)
      exact (Option.or_none).symm
  | cons ip ips ih => rw [List.cons_append, candidates_cons, ih, candidates_cons]

/-- The inner loop, over the tokens of a line. -/
theorem forwardedTokens_eq (tokens : List (List Char)) (found : Option IpAddr × Option IpAddr) :
    forwardedTokens trustedProxies tokens found
      = match tokens.mapM parseIpToken with
        | none => .error .malformedForwardedFor
        | some ips => .ok (candidates trustedProxies ips found) := by
  induction tokens generalizing found with
  | nil =>
      obtain ⟨first, rightmostUntrusted⟩ := found
      refine congrArg Except.ok (Prod.ext ?_ rfl)
      exact (Option.or_none).symm
  | cons token tokens ih =>
      obtain ⟨first, rightmostUntrusted⟩ := found
      rw [forwardedTokens, List.mapM_cons]
      cases parseIpToken token with
      | none => rfl
      | some ip =>
          dsimp only
          rw [ih]
          cases tokens.mapM parseIpToken with
          | none => rfl
          | some ips => exact congrArg Except.ok (candidates_cons trustedProxies ip ips (_, _)).symm

/-- The outer loop, over the lines. -/
theorem forwardedValues_eq (values : List HeaderValue)
    (found : Option IpAddr × Option IpAddr) :
    forwardedValues trustedProxies values found
      = match chain values with
        | none => .error .malformedForwardedFor
        | some ips => .ok (candidates trustedProxies ips found) := by
  induction values generalizing found with
  | nil =>
      refine congrArg Except.ok (Prod.ext ?_ rfl)
      exact (Option.or_none).symm
  | cons value values ih =>
      rw [forwardedValues, chain_cons, lineAddresses]
      cases value.toStr with
      | none => rfl
      | some text =>
          dsimp only
          rw [forwardedTokens_eq, Option.bind_some]
          cases (text.toList.splitOn ',').mapM parseIpToken with
          | none => rfl
          | some ips =>
              show forwardedValues trustedProxies values _ = _
              rw [ih]
              cases chain values with
              | none => rfl
              | some rest =>
                  exact congrArg Except.ok (candidates_append trustedProxies ips rest _).symm

/-- **PASS AND WALK**: the one pass finds what the walk from the end finds. -/
theorem forwardedClientIp_eq (headers : HeaderMap) :
    forwardedClientIp headers trustedProxies
      = match chain (headers.getAll "x-forwarded-for") with
        | none => .error .malformedForwardedFor
        | some ips => .ok (rightToLeft (fun ip => ipInNets ip trustedProxies) ips) := by
  rw [forwardedClientIp, forwardedValues_eq]
  cases chain (headers.getAll "x-forwarded-for") with
  | none => rfl
  | some ips =>
      refine congrArg Except.ok ?_
      show ((ips.reverse.find? _).or none).or (none.or ips.head?) = _
      rw [Option.or_none, rightToLeft_eq]
      rfl

/-- The headers count for a trusted peer only. -/
theorem resolveClientIp_eq {req : ServiceRequest} {peer : SocketAddr}
    (hpeer : req.peerAddr = some peer) :
    resolveClientIp req trustedProxies
      = if ipInNets peer.ip trustedProxies then forwardedClientIp req.headers trustedProxies
        else .ok (some peer.ip) := by
  rw [resolveClientIp, hpeer, Option.map_some]
  show (if !ipInNets peer.ip trustedProxies then _ else _) = _
  cases ipInNets peer.ip trustedProxies <;> rfl

/-! ## What a client can add -/

/-- The lines a client sees arrive when it puts lines of its own before the
    first, and tokens of its own into the first, all of them well formed. -/
def Prepended (values values' : List HeaderValue) : Prop :=
  ∃ lines value value' rest, values = value :: rest ∧ values' = lines ++ value' :: rest
    ∧ (∀ line ∈ lines, ¬ Malformed line)
    ∧ (value' = value ∨ ∃ front text, value.toStr = some text
      ∧ value'.toStr = some (front ++ "," ++ text)
      ∧ ∀ token ∈ front.toList.splitOn ',', IsAddressText (Text.trim token))

/-- Well-formed tokens before a line are addresses before those of the line. -/
theorem lineAddresses_prepended {value value' : HeaderValue} {front text : String}
    (hvalue : value.toStr = some text) (hvalue' : value'.toStr = some (front ++ "," ++ text))
    (hfront : ∀ token ∈ front.toList.splitOn ',', IsAddressText (Text.trim token)) :
    ∃ more, lineAddresses value' = (lineAddresses value).map fun ips => more ++ ips := by
  have hmore : (front.toList.splitOn ',').mapM parseIpToken ≠ none := by
    rw [ne_eq, mapM_eq_none_iff]
    rintro ⟨token, hmem, hnone⟩
    exact (parseIpToken_eq_none_iff token).mp hnone (hfront token hmem)
  obtain ⟨more, hmore⟩ := Option.ne_none_iff_exists'.mp hmore
  have htext : (front ++ "," ++ text).toList = front.toList ++ ',' :: text.toList := by
    simp
  refine ⟨more, ?_⟩
  rw [lineAddresses, lineAddresses, hvalue, hvalue', Option.bind_some, Option.bind_some, htext,
    List.splitOn_append_cons_self, List.mapM_append, hmore]
  cases (text.toList.splitOn ',').mapM parseIpToken <;> rfl

theorem chain_prepended {values values' : List HeaderValue} (h : Prepended values values') :
    ∃ more, chain values' = (chain values).map fun ips => more ++ ips := by
  obtain ⟨lines, value, value', rest, rfl, rfl, hlines, hvalue⟩ := h
  have hbefore : chain lines ≠ none := by
    rw [ne_eq, chain_eq_none_iff]
    rintro ⟨line, hmem, hbad⟩
    exact hlines line hmem hbad
  obtain ⟨before, hbefore⟩ := Option.ne_none_iff_exists'.mp hbefore
  obtain ⟨more, hmore⟩ : ∃ more, lineAddresses value'
      = (lineAddresses value).map fun ips => more ++ ips := by
    rcases hvalue with rfl | ⟨front, text, htext, htext', hfront⟩
    · refine ⟨[], ?_⟩
      cases lineAddresses value' <;> rfl
    · exact lineAddresses_prepended htext htext' hfront
  -- whole lines come first, then the tokens put before the first line kept
  refine ⟨before ++ more, ?_⟩
  rw [chain_append, hbefore, Option.bind_some, chain_cons, chain_cons, hmore]
  cases lineAddresses value with
  | none => rfl
  | some ips =>
      cases chain rest with
      | none => rfl
      | some last =>
          show some (before ++ ((more ++ ips) ++ last)) = some ((before ++ more) ++ (ips ++ last))
          rw [List.append_assoc, List.append_assoc]

/-- **FORWARDED CHAINS**: an error exactly for a malformed line, else the walk
    from the end; an untrusted peer is its own client, and nothing that is put
    before an untrusted address of a trusted peer's chain moves the result. -/
theorem forwarded_exact :
    (∀ headers : HeaderMap,
      (forwardedClientIp headers trustedProxies = .error .malformedForwardedFor
        ↔ ∃ value ∈ headers.getAll "x-forwarded-for", Malformed value)
      ∧ (∀ ips, chain (headers.getAll "x-forwarded-for") = some ips →
          forwardedClientIp headers trustedProxies
              = .ok (rightToLeft (fun ip => ipInNets ip trustedProxies) ips)
            ∧ (ips = [] ↔ headers.getAll "x-forwarded-for" = [])))
    ∧ ∀ (req : ServiceRequest) (peer : SocketAddr), req.peerAddr = some peer →
      (ipInNets peer.ip trustedProxies = false →
        resolveClientIp req trustedProxies = .ok (some peer.ip))
      ∧ (ipInNets peer.ip trustedProxies = true →
        ((∃ value ∈ req.headers.getAll "x-forwarded-for", Malformed value) →
          resolveClientIp req trustedProxies = .error .malformedForwardedFor)
        ∧ ∀ (headers : HeaderMap) (ips : List IpAddr),
          Prepended (req.headers.getAll "x-forwarded-for")
            (headers.getAll "x-forwarded-for") →
          chain (req.headers.getAll "x-forwarded-for") = some ips →
          (∃ ip ∈ ips, ipInNets ip trustedProxies = false) →
            resolveClientIp { req with headers } trustedProxies
              = resolveClientIp req trustedProxies) := by
  have herror : ∀ headers : HeaderMap,
      forwardedClientIp headers trustedProxies = .error .malformedForwardedFor
        ↔ ∃ value ∈ headers.getAll "x-forwarded-for", Malformed value := by
    intro headers
    rw [forwardedClientIp_eq, ← chain_eq_none_iff]
    cases chain (headers.getAll "x-forwarded-for") with
    | none => exact iff_of_true rfl rfl
    | some ips => exact iff_of_false nofun nofun
  refine ⟨?_, ?_⟩
  · intro headers
    refine ⟨herror headers, ?_⟩
    intro ips hchain
    rw [forwardedClientIp_eq, hchain]
    exact ⟨rfl, chain_eq_nil_iff hchain⟩
  · intro req peer hpeer
    refine ⟨?_, ?_⟩
    · intro huntrusted
      rw [resolveClientIp_eq trustedProxies hpeer, huntrusted]
      rfl
    · intro htrusted
      have hresolve : ∀ headers, resolveClientIp { req with headers } trustedProxies
          = forwardedClientIp headers trustedProxies := by
        intro headers
        have hpeer' : { req with headers }.peerAddr = some peer := hpeer
        rw [resolveClientIp_eq trustedProxies hpeer', if_pos htrusted]
      refine ⟨?_, ?_⟩
      · intro hbad
        exact (hresolve req.headers).trans ((herror req.headers).mpr hbad)
      · intro headers ips hpre hchain hstop
        obtain ⟨more, hmore⟩ := chain_prepended hpre
        refine (hresolve headers).trans (Eq.trans ?_ (hresolve req.headers).symm)
        rw [forwardedClientIp_eq, forwardedClientIp_eq, hmore, hchain]
        exact congrArg Except.ok (rightToLeft_append _ hstop)

end TreetopForwarded
