import TreetopRest.AdmissionModel
import TreetopRest.SampleCrates

/-! # Admission is what its settings say

    The settings are texts, and what they MEAN is said here without the
    parsers: open access, the addresses of an entry (`InEntry`), the token of
    a request.  The parsers are inverted once, each to the meaning of what it
    accepts (`allowlist_meaning`, `tokens_meaning`), and the middleware decides
    by the two meanings, the client's first. -/

namespace TreetopAdmission

open Text FallibleState
open TreetopErrors TreetopCrates TreetopMetadata
open TreetopAddress TreetopRequest TreetopFetcher TreetopSample

variable {X : Crates} {N : NetCrate}

/-! ## What the settings mean -/

/-- The comma-separated trimmed entries of a text. -/
def entriesOf (text : String) : List (List Char) := (text.toList.splitOn ',').map trim

/-- The allowlist is absent, blank or a wildcard. -/
def OpenAccess (text : Option String) : Prop :=
  ∀ t, text = some t → trim t.toList = [] ∨ trim t.toList = "*".toList

/-- The token list is absent or blank. -/
def NoTokens (text : Option String) : Prop := ∀ t, text = some t → trim t.toList = []

variable (N) in
/-- The addresses of an entry: a bare address is just itself, and anything
    else is the notation of a network. -/
def InEntry (entry : List Char) (ip : IpAddr) : Prop :=
  match IpAddr.fromStr entry with
  | some addr => ip = addr
  | none => ∃ net, N.ipNetFromStr entry = some net ∧ IpNet.contains net ip = true

/-- The client's address is known and in one of the entries, if there are any. -/
def ClientAdmitted (allowlist : Option String) (trustedProxies : List (IpNet N))
    (req : ServiceRequest) : Prop :=
  OpenAccess allowlist ∨ ∃ ip, resolveClientIp req trustedProxies = .ok (some ip)
    ∧ ∃ t, allowlist = some t ∧ ∃ entry ∈ entriesOf t, InEntry N entry ip

/-- The request has exactly one Authorization header, of the bearer scheme and
    one of the configured tokens, if there are any. -/
def TokenAdmitted (tokens : Option String) (headers : HeaderMap) : Prop :=
  NoTokens tokens ∨ ∃ value raw scheme tok, headers.getAll "authorization" = [value]
    ∧ value.toStr = some raw ∧ raw.toList = scheme ++ ' ' :: tok
    ∧ eqIgnoreAsciiCase scheme "bearer".toList = true
    ∧ ∃ t, tokens = some t ∧ tok ∈ entriesOf t

/-! ## Networks -/

/-- A parsed entry contains what the entry means. -/
theorem contains_iff (hN : NetLaws N) {entry : List Char} {net : IpNet N}
    (h : ClientAllowlist.parseNet N entry = .ok net) (ip : IpAddr) :
    IpNet.contains net ip = true ↔ InEntry N entry ip := by
  rw [ClientAllowlist.parseNet] at h
  rw [InEntry]
  cases haddr : IpAddr.fromStr entry with
  | none =>
      -- the entry is network notation, or it would not have been parsed
      have hhost : ClientAllowlist.ipToHostNet N entry = none := by
        rw [ClientAllowlist.ipToHostNet, haddr]
      rw [hhost, Option.or_none] at h
      cases hnet : N.ipNetFromStr entry with
      | none =>
          rw [hnet] at h
          exact nomatch h
      | some net' =>
          rw [hnet] at h
          cases h
          constructor
          · intro hc
            exact ⟨net, rfl, hc⟩
          · rintro ⟨net', hnet', hc⟩
            cases hnet'
            exact hc
  | some addr =>
      -- a bare address is no network notation, and becomes the network of one host
      rw [hN.bare entry addr haddr, Option.none_or, ClientAllowlist.ipToHostNet, haddr] at h
      cases addr with
      | v4 a =>
          obtain ⟨host, hnew, hhost⟩ := hN.host4 a
          simp only [hnew, Option.map_some] at h
          cases h
          cases ip with
          | v4 b =>
              show N.contains4 host b = true ↔ IpAddr.v4 b = IpAddr.v4 a
              rw [hhost, IpAddr.v4.injEq]
          | v6 b => exact ⟨(fun h => nomatch h), (fun h => nomatch h)⟩
      | v6 a =>
          obtain ⟨host, hnew, hhost⟩ := hN.host6 a
          simp only [hnew, Option.map_some] at h
          cases h
          cases ip with
          | v4 b => exact ⟨(fun h => nomatch h), (fun h => nomatch h)⟩
          | v6 b =>
              show N.contains6 host b = true ↔ IpAddr.v6 b = IpAddr.v6 a
              rw [hhost, IpAddr.v6.injEq]

/-- Every entry of an accepted list was parsed. -/
theorem parseEntries_ok {entries : List (List Char)} :
    ∀ {nets : List (IpNet N)}, ClientAllowlist.parseEntries N entries = .ok nets →
      List.Forall₂ (fun entry net => ClientAllowlist.parseNet N entry = .ok net) entries nets := by
  induction entries with
  | nil =>
      intro nets h
      cases h
      exact .nil
  | cons entry entries ih =>
      intro nets h
      rw [ClientAllowlist.parseEntries] at h
      by_cases hempty : entry.isEmpty = true
      · rw [if_pos hempty] at h
        exact nomatch h
      · by_cases hany : entry = "*".toList
        · rw [if_neg hempty, if_pos hany] at h
          exact nomatch h
        · rw [if_neg hempty, if_neg hany] at h
          obtain ⟨net, hnet, h⟩ := bind_eq_ok.mp h
          obtain ⟨nets, hnets, h⟩ := bind_eq_ok.mp h
          cases h
          exact .cons hnet (ih hnets)

/-- A list of networks contains an address exactly if one of its entries does. -/
theorem any_contains_iff (hN : NetLaws N) {entries : List (List Char)} {nets : List (IpNet N)}
    (h : List.Forall₂ (fun entry net => ClientAllowlist.parseNet N entry = .ok net) entries nets)
    (ip : IpAddr) :
    (nets.any fun net => IpNet.contains net ip) = true ↔ ∃ entry ∈ entries, InEntry N entry ip := by
  induction h with
  | nil => simp
  | cons hparse hrest ih =>
      rw [List.any_cons, Bool.or_eq_true, ih, contains_iff hN hparse]
      simp

/-- **ALLOWLIST**: an accepted text opens access, or allows exactly the
    addresses of its entries. -/
theorem allowlist_meaning (hN : NetLaws N) {text : Option String}
    {allowlist : ClientAllowlist N} (h : ClientAllowlist.parseEnv N text = .ok allowlist) :
    (OpenAccess text ∧ allowlist = .any)
      ∨ (¬ OpenAccess text ∧ (∃ nets, allowlist = .nets nets)
        ∧ ∀ ip, allowlist.allows ip = true
          ↔ ∃ t, text = some t ∧ ∃ entry ∈ entriesOf t, InEntry N entry ip) := by
  cases text with
  | none =>
      cases h
      exact Or.inl ⟨(fun _ h0 => nomatch h0), rfl⟩
  | some t =>
      have hopen : OpenAccess (some t) ↔ trim t.toList = [] ∨ trim t.toList = "*".toList := by
        constructor
        · intro h0
          exact h0 t rfl
        · rintro h0 _ ⟨⟩
          exact h0
      rw [hopen]
      dsimp only [ClientAllowlist.parseEnv] at h
      by_cases hany : ((trim t.toList).isEmpty || trim t.toList = "*".toList) = true
      · rw [if_pos hany] at h
        cases h
        refine Or.inl ⟨?_, rfl⟩
        simpa using hany
      · rw [if_neg hany] at h
        have hclosed : ¬ (trim t.toList = [] ∨ trim t.toList = "*".toList) := by
          simpa using hany
        cases hparse : ClientAllowlist.parseEntries N (((trim t.toList).splitOn ',').map trim) with
        | error e =>
            rw [hparse] at h
            exact nomatch h
        | ok nets =>
            rw [hparse] at h
            cases h
            refine Or.inr ⟨hclosed, ⟨nets, rfl⟩, ?_⟩
            intro ip
            -- the code splits the trimmed text, `entriesOf` the text itself
            have hentries : ((trim t.toList).splitOn ',').map trim = entriesOf t :=
              map_trim_splitOn_trim (by decide) t.toList
            rw [hentries] at hparse
            show (nets.any fun net => IpNet.contains net ip) = true ↔ _
            rw [any_contains_iff hN (parseEntries_ok hparse)]
            constructor
            · intro hin
              exact ⟨t, rfl, hin⟩
            · rintro ⟨_, ⟨⟩, hin⟩
              exact hin

/-! ## Tokens -/

/-- The digest of one of the entries matches, and no other. -/
theorem matches_iff {entries : List (List Char)} {tok : List Char} :
    AccessTokens.matches' X ⟨(entries.map (hashToken X)).dedup⟩ tok = true
      ↔ ∃ entry ∈ entries, hashToken X entry = hashToken X tok := by
  have hfold : ∀ (digests : List (Vector UInt8 32)) (matched : Bool),
      digests.foldl (fun matched configured => matched || configured == hashToken X tok) matched
        = (matched || digests.any (· == hashToken X tok)) := by
    intro digests
    induction digests with
    | nil => intro matched; simp
    | cons d digests ih =>
        intro matched
        rw [List.foldl_cons, ih, List.any_cons, Bool.or_assoc]
  rw [AccessTokens.matches', hfold, Bool.false_or, List.any_eq_true]
  constructor
  · rintro ⟨digest, hmem, heq⟩
    rw [List.mem_dedup, List.mem_map] at hmem
    obtain ⟨entry, hentry, rfl⟩ := hmem
    exact ⟨entry, hentry, beq_iff_eq.mp heq⟩
  · rintro ⟨entry, hentry, heq⟩
    refine ⟨hashToken X entry, ?_, beq_iff_eq.mpr heq⟩
    rw [List.mem_dedup]
    exact List.mem_map_of_mem hentry

/-- **TOKENS**: an accepted text sets no token, or exactly its entries, each of
    which can be sent as a bearer token. -/
theorem tokens_meaning {text : Option String} {tokens : AccessTokens}
    (h : AccessTokens.parseEnv X text = .ok tokens) :
    (NoTokens text ∧ tokens.isEmpty = true)
      ∨ (¬ NoTokens text ∧ tokens.isEmpty = false
        ∧ ∃ t, text = some t ∧ (∀ entry ∈ entriesOf t, validBearerToken entry = true)
          ∧ ∀ tok, tokens.matches' X tok = true
            ↔ ∃ entry ∈ entriesOf t, hashToken X entry = hashToken X tok) := by
  cases text with
  | none =>
      cases h
      exact Or.inl ⟨(fun _ h0 => nomatch h0), rfl⟩
  | some t =>
      have hnone : NoTokens (some t) ↔ trim t.toList = [] := by
        constructor
        · intro h0
          exact h0 t rfl
        · rintro h0 _ ⟨⟩
          exact h0
      rw [hnone]
      dsimp only [AccessTokens.parseEnv] at h
      by_cases hblank : (trim t.toList).isEmpty = true
      · rw [if_pos hblank] at h
        cases h
        exact Or.inl ⟨List.isEmpty_iff.mp hblank, rfl⟩
      · rw [if_neg hblank] at h
        by_cases hempty : (entriesOf t).any (fun entry => entry.isEmpty) = true
        · rw [show ((t.toList.splitOn ',').map trim) = entriesOf t from rfl, if_pos hempty] at h
          exact nomatch h
        · rw [show ((t.toList.splitOn ',').map trim) = entriesOf t from rfl, if_neg hempty] at h
          by_cases hinvalid : (entriesOf t).any (fun token => !validBearerToken token) = true
          · rw [if_pos hinvalid] at h
            exact nomatch h
          · rw [if_neg hinvalid] at h
            cases h
            refine Or.inr ⟨(fun h0 => hblank (List.isEmpty_iff.mpr h0)), ?_, t, rfl, ?_,
              fun tok => matches_iff⟩
            · -- splitting gives one entry at least
              have hne : entriesOf t ≠ [] := by
                intro h0
                exact List.splitOn_ne_nil ',' t.toList (List.map_eq_nil_iff.mp h0)
              show ((entriesOf t).map (hashToken X)).dedup.isEmpty = false
              rw [← Bool.not_eq_true, List.isEmpty_iff, List.dedup_eq_nil, List.map_eq_nil_iff]
              exact hne
            · intro entry hentry
              rw [Bool.not_eq_true, List.any_eq_false] at hinvalid
              simpa using hinvalid entry hentry

/-- No letter of the scheme is a space. -/
theorem scheme_noSpace {scheme : List Char}
    (h : eqIgnoreAsciiCase scheme "bearer".toList = true) : ' ' ∉ scheme := by
  intro hmem
  rw [eqIgnoreAsciiCase, beq_iff_eq] at h
  have hlower : toAsciiLower ' ' ∈ scheme.map toAsciiLower := List.mem_map_of_mem hmem
  rw [h] at hlower
  exact absurd hlower (by decide)

/-- **BEARER TOKEN**: what the middleware reads off the headers. -/
theorem bearerToken_eq_ok_iff {headers : HeaderMap} {tok : List Char} :
    bearerToken headers = .ok tok
      ↔ validBearerToken tok = true ∧ ∃ value raw scheme,
        headers.getAll "authorization" = [value] ∧ value.toStr = some raw
        ∧ raw.toList = scheme ++ ' ' :: tok
        ∧ eqIgnoreAsciiCase scheme "bearer".toList = true := by
  have hscheme : ∀ scheme, eqIgnoreAsciiCase scheme "Bearer".toList
      = eqIgnoreAsciiCase scheme "bearer".toList := by
    intro scheme
    have hlower : "Bearer".toList.map toAsciiLower = "bearer".toList.map toAsciiLower := by decide
    rw [eqIgnoreAsciiCase, eqIgnoreAsciiCase, hlower]
  rw [bearerToken]
  constructor
  · intro h
    cases hvalues : headers.getAll "authorization" with
    | nil =>
        rw [hvalues] at h
        exact nomatch h
    | cons value more =>
        cases more with
        | cons _ _ =>
            rw [hvalues] at h
            exact nomatch h
        | nil =>
            rw [hvalues] at h
            dsimp only at h
            cases hstr : value.toStr with
            | none =>
                rw [hstr] at h
                exact nomatch h
            | some raw =>
                rw [hstr, Option.bind_some] at h
                cases hsplit : splitOnce ' ' raw.toList with
                | none =>
                    rw [hsplit] at h
                    exact nomatch h
                | some p =>
                    obtain ⟨scheme, token⟩ := p
                    rw [hsplit] at h
                    dsimp only at h
                    by_cases hbad : (!eqIgnoreAsciiCase scheme "Bearer".toList
                        || !validBearerToken token) = true
                    · rw [if_pos hbad] at h
                      exact nomatch h
                    · rw [if_neg hbad] at h
                      cases h
                      have hgood : eqIgnoreAsciiCase scheme "Bearer".toList = true
                          ∧ validBearerToken tok = true := by
                        simpa using hbad
                      exact ⟨hgood.2, value, raw, scheme, rfl, hstr,
                        (splitOnce_eq_some.mp hsplit).1, (hscheme scheme).symm.trans hgood.1⟩
  · rintro ⟨hvalid, value, raw, scheme, hvalues, hstr, hraw, hbearer⟩
    -- the first space is the one after the scheme, whatever the token holds
    have hsplit : splitOnce ' ' raw.toList = some (scheme, tok) :=
      splitOnce_eq_some.mpr ⟨hraw, scheme_noSpace hbearer⟩
    rw [hvalues]
    dsimp only
    rw [hstr, Option.bind_some, hsplit]
    dsimp only
    rw [hscheme, hbearer, hvalid, if_neg (by decide)]

/-! ## The two checks -/

/-- The check of the client's address asks for what the allowlist says. -/
theorem checkClient_spec (hN : NetLaws N) {allowlist : Option String} {config : AdmissionConfig N}
    (hparse : ClientAllowlist.parseEnv N allowlist = .ok config.clientAllowlist)
    (req : ServiceRequest) :
    (ClientAdmitted allowlist config.trustedProxies req
        ∧ ∃ ip, checkClient config req = .ok { req with resolvedClientIp := ip })
      ∨ (¬ ClientAdmitted allowlist config.trustedProxies req
        ∧ ∃ rejection, checkClient config req = .error rejection ∧ rejection.status = 403) := by
  rcases allowlist_meaning hN hparse with ⟨hopen, hany⟩ | ⟨hclosed, ⟨nets, hnets⟩, hallows⟩
  · have hacl : config.hasAcl = false := by
      rw [AdmissionConfig.hasAcl, hany]
    refine Or.inl ⟨Or.inl hopen, req.resolvedClientIp, ?_⟩
    rw [checkClient, hacl]
    rfl
  · have hacl : config.hasAcl = true := by
      rw [AdmissionConfig.hasAcl, hnets]
    have hadmitted : ClientAdmitted allowlist config.trustedProxies req
        ↔ ∃ ip, resolveClientIp req config.trustedProxies = .ok (some ip)
          ∧ config.clientAllowlist.allows ip = true := by
      constructor
      · rintro (hopen | ⟨ip, hip, hentry⟩)
        · exact absurd hopen hclosed
        · exact ⟨ip, hip, (hallows ip).mpr hentry⟩
      · rintro ⟨ip, hip, hin⟩
        exact Or.inr ⟨ip, hip, (hallows ip).mp hin⟩
    rw [hadmitted, checkClient, if_pos hacl]
    cases hresolve : resolveClientIp req config.trustedProxies with
    | error e =>
        cases e
        refine Or.inr ⟨?_, _, rfl, rfl⟩
        rintro ⟨_, ⟨⟩, _⟩
    | ok found =>
        cases found with
        | none =>
            refine Or.inr ⟨?_, _, rfl, rfl⟩
            rintro ⟨_, ⟨⟩, _⟩
        | some ip =>
            dsimp only
            by_cases hin : config.clientAllowlist.allows ip = true
            · rw [if_pos hin]
              exact Or.inl ⟨⟨ip, rfl, hin⟩, _, rfl⟩
            · rw [if_neg hin]
              refine Or.inr ⟨?_, _, rfl, rfl⟩
              rintro ⟨_, ⟨⟩, hin'⟩
              exact hin hin'

/-- The token a request presents, and the configured ones: what must not
    collide for the digests to tell them apart. -/
def tokensInPlay (tokens : Option String) (headers : HeaderMap) : List (List Char) :=
  (bearerToken headers).toOption.toList ++ (tokens.map entriesOf).getD []

/-- The check of the access token asks for what the token list says. -/
theorem checkToken_spec {tokens : Option String} {config : AdmissionConfig N} {headers : HeaderMap}
    (hparse : AccessTokens.parseEnv X tokens = .ok config.accessTokens)
    (hfree : CollisionFree X fun tok : {tok // tok ∈ tokensInPlay tokens headers} =>
      asBytes tok.1) :
    (TokenAdmitted tokens headers ∧ checkToken X config headers = .ok ())
      ∨ (¬ TokenAdmitted tokens headers
        ∧ ∃ rejection, checkToken X config headers = .error rejection
          ∧ rejection.status = 401) := by
  rcases tokens_meaning hparse with ⟨hnone, hempty⟩ | ⟨hsome, hset, t, rfl, hvalid, hmatches⟩
  · refine Or.inl ⟨Or.inl hnone, ?_⟩
    rw [checkToken, if_pos hempty]
  · -- a token the text configures is always one the reader of the header accepts
    have hbearer : TokenAdmitted (some t) headers
        ↔ ∃ tok, bearerToken headers = .ok tok ∧ tok ∈ entriesOf t := by
      constructor
      · rintro (hnone | ⟨value, raw, scheme, tok, hvalues, hstr, hraw, hscheme, _, ⟨⟩, hmem⟩)
        · exact absurd hnone hsome
        · exact ⟨tok, bearerToken_eq_ok_iff.mpr
            ⟨hvalid tok hmem, value, raw, scheme, hvalues, hstr, hraw, hscheme⟩, hmem⟩
      · rintro ⟨tok, htok, hmem⟩
        obtain ⟨_, value, raw, scheme, hvalues, hstr, hraw, hscheme⟩ :=
          bearerToken_eq_ok_iff.mp htok
        exact Or.inr ⟨value, raw, scheme, tok, hvalues, hstr, hraw, hscheme, t, rfl, hmem⟩
    rw [hbearer, checkToken, hset]
    cases htok : bearerToken headers with
    | error e =>
        refine Or.inr ⟨?_, ?_⟩
        · rintro ⟨tok, hok, _⟩
          exact nomatch hok
        · cases e <;> exact ⟨_, rfl, rfl⟩
    | ok tok =>
        have hin : config.accessTokens.matches' X tok = true ↔ tok ∈ entriesOf t := by
          rw [hmatches]
          constructor
          · rintro ⟨entry, hentry, hhash⟩
            have hplay : tokensInPlay (some t) headers = tok :: entriesOf t := by
              rw [tokensInPlay, htok]
              rfl
            -- equal digests are of equal tokens, by the hypothesis on those in play
            have hbytes : asBytes entry = asBytes tok :=
              hfree ⟨entry, by rw [hplay]; exact List.mem_cons_of_mem tok hentry⟩
                ⟨tok, by rw [hplay]; exact List.mem_cons_self⟩ hhash
            rwa [asBytes_injective hbytes] at hentry
          · intro hmem
            exact ⟨tok, hmem, rfl⟩
        dsimp only
        by_cases hmatch : config.accessTokens.matches' X tok = true
        · rw [if_pos hmatch]
          exact Or.inl ⟨⟨tok, rfl, hin.mp hmatch⟩, rfl⟩
        · rw [if_neg hmatch]
          refine Or.inr ⟨?_, _, rfl, rfl⟩
          rintro ⟨_, ⟨⟩, hmem⟩
          exact hmatch (hin.mpr hmem)

/-- An accepted configuration holds what its texts were parsed to. -/
theorem parse_ok {allowlist tokens proxies : Option String} {config : AdmissionConfig N}
    (h : AdmissionConfig.parse X N allowlist tokens proxies = .ok config) :
    ClientAllowlist.parseEnv N allowlist = .ok config.clientAllowlist
      ∧ parseNetworkList N proxies "TREETOP_TRUSTED_PROXIES" = .ok config.trustedProxies
      ∧ AccessTokens.parseEnv X tokens = .ok config.accessTokens := by
  obtain ⟨clientAllowlist, hallow, hrest⟩ := bind_eq_ok.mp h
  obtain ⟨trustedProxies, hproxies, hrest⟩ := bind_eq_ok.mp hrest
  obtain ⟨accessTokens, htokens, hrest⟩ := bind_eq_ok.mp hrest
  cases hrest
  exact ⟨hallow, hproxies, htokens⟩

/-- **CONDITION**: where the middleware is not installed it would pass every
    request on as it is. -/
theorem call_of_not_enabled {ρ : Type} {config : AdmissionConfig N}
    (h : config.enabled = false) (service : ServiceRequest → ρ) (req : ServiceRequest) :
    call X config service req = .inl (service req) := by
  rw [AdmissionConfig.enabled, Bool.or_eq_false_iff, Bool.not_eq_false'] at h
  obtain ⟨hacl, hempty⟩ := h
  have hclient : checkClient config req = .ok req := by
    rw [checkClient, hacl]
    rfl
  rw [call, hclient]
  by_cases hpath : (!isProtectedPath req.path) = true
  · rw [if_pos hpath]
  · rw [if_neg hpath]
    dsimp only
    rw [checkToken, if_pos hempty]

/-! ## Routes -/

/-- The route is part of the API, or the metrics. -/
def ApiRoute (route : Route) : Prop :=
  route.pattern = "/metrics" ∨ "/api".toList <+: route.pattern.toList

instance (route : Route) : Decidable (ApiRoute route) :=
  inferInstanceAs (Decidable (_ ∨ _))

/-- A pattern of the API fixes the protected prefix before its first parameter. -/
theorem literalStart_of_apiRoute : ∀ route ∈ init, ApiRoute route →
    route.pattern = "/metrics" ∨ "/api/v1/".toList <+: literalStart route.pattern := by
  decide +kernel

/-- Any other pattern is a literal, and not protected. -/
theorem literal_of_not_apiRoute : ∀ route ∈ init, ¬ ApiRoute route →
    literalStart route.pattern = route.pattern.toList
      ∧ isProtectedPath route.pattern = false := by
  decide +kernel

/-- **ROUTES**: the protected ones of the registered routes are those of the
    API and the metrics, on every path they match. -/
theorem isProtectedPath_of_route {pathMatches : String → String → Bool}
    (hroutes : RouteLaws pathMatches) {route : Route} (hroute : route ∈ init) {path : String}
    (hmatch : pathMatches route.pattern path = true) :
    isProtectedPath path = true ↔ ApiRoute route := by
  by_cases happ : ApiRoute route
  · refine iff_of_true ?_ happ
    rw [isProtectedPath, Bool.or_eq_true, Bool.or_eq_true]
    rcases literalStart_of_apiRoute route hroute happ with hmetrics | hstart
    · have hliteral : literalStart route.pattern = route.pattern.toList := by
        rw [hmetrics]
        decide
      have hpath := hroutes.literal _ _ hmatch hliteral
      rw [hmetrics] at hpath
      exact Or.inl (Or.inl (beq_iff_eq.mpr hpath))
    · exact Or.inr (List.isPrefixOf_iff_prefix.mpr (hstart.trans (hroutes.starts _ _ hmatch)))
  · obtain ⟨hliteral, hopen⟩ := literal_of_not_apiRoute route hroute happ
    rw [hroutes.literal _ _ hmatch hliteral, hopen]
    exact iff_of_false (by decide) happ

/-! ## A small instance -/

/-- The first `bits` bits agree, in parts of `width` bits each. -/
def sameBits (width : Nat) : Nat → List Nat → List Nat → Bool
  | bits, x :: xs, y :: ys =>
      x / 2 ^ (width - bits) == y / 2 ^ (width - bits) && sameBits width (bits - width) xs ys
  | _, [], [] => true
  | _, _, _ => false

/-- With all bits fixed there is one address. -/
theorem sameBits_iff {width : Nat} {xs : List Nat} :
    ∀ (bits : Nat) (ys : List Nat), width * xs.length ≤ bits →
      (sameBits width bits xs ys = true ↔ ys = xs) := by
  induction xs with
  | nil =>
      intro bits ys _
      cases ys with
      | nil => simp [sameBits]
      | cons y ys => simp [sameBits]
  | cons x xs ih =>
      intro bits ys hbits
      rw [List.length_cons, Nat.mul_succ] at hbits
      cases ys with
      | nil => simp [sameBits]
      | cons y ys =>
          have hfull : width - bits = 0 := by omega
          have hrest := ih (bits - width) ys (by omega)
          rw [sameBits, hfull, Nat.pow_zero, Nat.div_one, Nat.div_one, Bool.and_eq_true, hrest,
            beq_iff_eq, List.cons.injEq, eq_comm]

def octets (addr : Ipv4Addr) : List Nat :=
  [addr.a.toNat, addr.b.toNat, addr.c.toNat, addr.d.toNat]

theorem octets_inj {a b : Ipv4Addr} : octets a = octets b ↔ a = b := by
  cases a
  cases b
  simp [octets, UInt8.toNat_inj]

def hextets (addr : Ipv6Addr) : List Nat := addr.segments.toList.map UInt16.toNat

theorem hextets_inj {a b : Ipv6Addr} : hextets a = hextets b ↔ a = b := by
  cases a
  cases b
  rw [hextets, hextets, (List.map_injective_iff.mpr fun _ _ => UInt16.toNat_inj.mp).eq_iff,
    Vector.toList_inj, Ipv6Addr.mk.injEq]

/-- An address and a prefix length around a slash. -/
def smallNetFromStr (s : List Char) : Option (Ipv4Addr × Nat ⊕ Ipv6Addr × Nat) :=
  if (IpAddr.fromStr s).isSome then none
  else do
    let (addr, len) ← splitOnce '/' s
    let addr ← IpAddr.fromStr addr
    let len ← parseUsize len
    match addr with
    | .v4 addr => if len ≤ 32 then some (.inl (addr, len)) else none
    | .v6 addr => if len ≤ 128 then some (.inr (addr, len)) else none

/-- Networks as addresses with a prefix length. -/
def smallNets : NetCrate where
  Ipv4Net := Ipv4Addr × Nat
  Ipv6Net := Ipv6Addr × Nat
  ipNetFromStr := smallNetFromStr
  ipv4NetNew addr len := if len ≤ 32 then some (addr, len) else none
  ipv6NetNew addr len := if len ≤ 128 then some (addr, len) else none
  contains4 net addr := sameBits 8 net.2 (octets net.1) (octets addr)
  contains6 net addr := sameBits 16 net.2 (hextets net.1) (hextets addr)

theorem netLaws_smallNets : NetLaws smallNets where
  bare := by
    intro s ip h
    show smallNetFromStr s = none
    rw [smallNetFromStr, h]
    rfl
  host4 := by
    intro addr
    refine ⟨(addr, 32), rfl, ?_⟩
    intro b
    exact (sameBits_iff 32 (octets b) (le_refl 32)).trans octets_inj
  host6 := by
    intro addr
    refine ⟨(addr, 128), rfl, ?_⟩
    intro b
    have hlen : 16 * (hextets addr).length ≤ 128 := by
      rw [hextets, List.length_map, Vector.length_toList]
    exact (sameBits_iff 128 (hextets b) hlen).trans hextets_inj

/-- A pattern's parameter stands for one segment of the path. -/
def segmentMatches (pattern path : String) : Bool :=
  if literalStart pattern = pattern.toList then path == pattern
  else (literalStart pattern).isPrefixOf path.toList
    && !(path.toList.drop (literalStart pattern).length).contains '/'

theorem routeLaws_segmentMatches : RouteLaws segmentMatches where
  starts := by
    intro pattern path h
    rw [segmentMatches] at h
    by_cases hliteral : literalStart pattern = pattern.toList
    · rw [if_pos hliteral, beq_iff_eq] at h
      refine ⟨[], ?_⟩
      rw [hliteral, h, List.append_nil]
    · rw [if_neg hliteral, Bool.and_eq_true] at h
      exact List.isPrefixOf_iff_prefix.mp h.1
  literal := by
    intro pattern path h hliteral
    rw [segmentMatches, if_pos hliteral, beq_iff_eq] at h
    exact h

/-! ## The decision -/

/-- **ADMISSION**: on an accepted configuration an unprotected request goes
    through as it is, and a protected one exactly if its client and its token
    are admitted; otherwise the answer is 403 for the client and 401 for the
    token alone. -/
theorem admission_exact (hN : NetLaws N) {allowlist tokens proxies : Option String}
    {config : AdmissionConfig N}
    (hparse : AdmissionConfig.parse X N allowlist tokens proxies = .ok config)
    {ρ : Type} (service : ServiceRequest → ρ) (req : ServiceRequest)
    (hfree : CollisionFree X fun tok : {tok // tok ∈ tokensInPlay tokens req.headers} =>
      asBytes tok.1)
    {pathMatches : String → String → Bool} (hroutes : RouteLaws pathMatches) :
    (isProtectedPath req.path = false → call X config service req = .inl (service req))
    ∧ (isProtectedPath req.path = true →
        ((∃ ip, call X config service req = .inl (service { req with resolvedClientIp := ip }))
          ↔ ClientAdmitted allowlist config.trustedProxies req ∧ TokenAdmitted tokens req.headers)
        ∧ (¬ ClientAdmitted allowlist config.trustedProxies req →
          ∃ rejection, call X config service req = .inr rejection ∧ rejection.status = 403)
        ∧ (ClientAdmitted allowlist config.trustedProxies req →
          ¬ TokenAdmitted tokens req.headers →
          ∃ rejection, call X config service req = .inr rejection ∧ rejection.status = 401))
    ∧ (∀ route ∈ init, ∀ path, pathMatches route.pattern path = true →
        (isProtectedPath path = true ↔ ApiRoute route)) := by
  refine ⟨?_, ?_, fun route hroute path hmatch => isProtectedPath_of_route hroutes hroute hmatch⟩
  · intro hopen
    rw [call, hopen]
    rfl
  · intro hprotected
    obtain ⟨hallow, _, htokens⟩ := parse_ok hparse
    have hpath : (!isProtectedPath req.path) = false := by
      rw [hprotected]
      rfl
    rw [call, hpath]
    -- the client decides first, and the token only where the client passed
    rcases checkClient_spec hN hallow req with
      ⟨hclient, ip, hok⟩ | ⟨hclient, rejection, herr, hstatus⟩
    · rw [hok]
      dsimp only
      rcases checkToken_spec htokens hfree with
        ⟨htoken, htok⟩ | ⟨htoken, rejection, herr, hstatus⟩
      · rw [htok]
        refine ⟨iff_of_true ⟨ip, rfl⟩ ⟨hclient, htoken⟩, ?_, ?_⟩
        · intro hno
          exact absurd hclient hno
        · intro _ hno
          exact absurd htoken hno
      · rw [herr]
        refine ⟨iff_of_false ?_ (fun h => htoken h.2), ?_, fun _ _ => ⟨rejection, rfl, hstatus⟩⟩
        · rintro ⟨_, ⟨⟩⟩
        · intro hno
          exact absurd hclient hno
    · rw [herr]
      refine ⟨iff_of_false ?_ (fun h => hclient h.1), fun _ => ⟨rejection, rfl, hstatus⟩, ?_⟩
      · rintro ⟨_, ⟨⟩⟩
      · intro hyes
        exact absurd hyes hclient

/-- An upload by a writer. -/
def writerRequest : ServiceRequest where
  path := "/api/v1/policies"
  headers := [("authorization", ⟨asBytes "bearer photo-writer".toList⟩)]
  peerAddr := some (.v4 ⟨10, 1, 2, 3⟩ 40312)
  resolvedClientIp := none

/-- A writer from inside one of the networks is served. -/
theorem admission_exact_small :
    ∃ config, AdmissionConfig.parse small smallNets (some "192.0.2.7, 10.0.0.0/8")
        (some "photo-reader,photo-writer") none = .ok config
      ∧ ∃ ip, call small config ServiceRequest.peerAddr writerRequest
        = .inl (ServiceRequest.peerAddr { writerRequest with resolvedClientIp := ip }) := by
  have haccepted : (AdmissionConfig.parse small smallNets (some "192.0.2.7, 10.0.0.0/8")
      (some "photo-reader,photo-writer") none).isOk = true := by
    decide +kernel
  cases hparse : AdmissionConfig.parse small smallNets (some "192.0.2.7, 10.0.0.0/8")
      (some "photo-reader,photo-writer") none with
  | error e =>
      rw [hparse] at haccepted
      exact nomatch haccepted
  | ok config =>
      have hproxies : [] = config.trustedProxies := Except.ok.inj (parse_ok hparse).2.1
      have hclient : ClientAdmitted (some "192.0.2.7, 10.0.0.0/8") config.trustedProxies
          writerRequest := by
        refine Or.inr ⟨.v4 ⟨10, 1, 2, 3⟩, ?_, _, rfl, "10.0.0.0/8".toList, ?_, ?_⟩
        · rw [← hproxies]
          rfl
        · decide +kernel
        · have hbare : IpAddr.fromStr "10.0.0.0/8".toList = none := by
            decide +kernel
          rw [InEntry, hbare]
          refine ⟨.inl (⟨10, 0, 0, 0⟩, 8), ?_, ?_⟩
          · show smallNetFromStr "10.0.0.0/8".toList = some (.inl (⟨10, 0, 0, 0⟩, 8))
            decide +kernel
          · decide +kernel
      have htoken : TokenAdmitted (some "photo-reader,photo-writer") writerRequest.headers := by
        refine Or.inr ⟨⟨asBytes "bearer photo-writer".toList⟩, "bearer photo-writer",
          "bearer".toList, "photo-writer".toList, ?_, ?_, ?_, ?_, _, rfl, ?_⟩
        all_goals decide +kernel
      have hfree : CollisionFree small fun tok : {tok // tok ∈ tokensInPlay
          (some "photo-reader,photo-writer") writerRequest.headers} => asBytes tok.1 := by
        have hdistinct : ∀ tok ∈ tokensInPlay (some "photo-reader,photo-writer")
            writerRequest.headers, ∀ other ∈ tokensInPlay (some "photo-reader,photo-writer")
            writerRequest.headers, small.sha256 (asBytes tok) = small.sha256 (asBytes other) →
              asBytes tok = asBytes other := by
          decide +kernel
        rintro ⟨tok, htok⟩ ⟨other, hother⟩ heq
        exact hdistinct tok htok other hother heq
      have hexact := admission_exact netLaws_smallNets hparse ServiceRequest.peerAddr
        writerRequest hfree routeLaws_segmentMatches
      exact ⟨config, rfl, (hexact.2.1 (by decide +kernel)).1.mpr ⟨hclient, htoken⟩⟩

end TreetopAdmission
