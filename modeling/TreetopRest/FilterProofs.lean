import TreetopRest.ListCacheProofs
import Mathlib.Data.String.Basic

/-! # Listing filters in normal form

    A listing sorts its groups and its namespaces and drops repetitions, to
    make a cache key, and then asks the engine with THE KEY.  Groups are a set
    to the engine, and a set is what is left of them.  The namespaces are the
    path of the user's type, and a path is not: it is answered as supplied
    exactly if sorting and deduplicating leave it alone, that is, if it is
    strictly ascending. -/

namespace TreetopFilters

open FallibleState LruCache UpdateRun
open TreetopErrors TreetopCrates TreetopMetadata TreetopWire TreetopStore
open TreetopListCache TreetopSample

variable {X : Crates}

/-! ## Sorted and deduplicated -/

section Normal

variable {α : Type} [LinearOrder α] (l : List α)

theorem normal_eq_dedup : (l.insertionSort (· ≤ ·)).destutter (· ≠ ·)
    = (l.insertionSort (· ≤ ·)).dedup :=
  (List.pairwise_insertionSort (· ≤ ·) l).destutter_eq_dedup

/-- The normal form has the same elements. -/
theorem mem_normal (a : α) : a ∈ (l.insertionSort (· ≤ ·)).destutter (· ≠ ·) ↔ a ∈ l := by
  rw [normal_eq_dedup, List.mem_dedup, List.mem_insertionSort]

/-- A list is in normal form exactly if it is strictly ascending. -/
theorem normal_eq_self_iff : (l.insertionSort (· ≤ ·)).destutter (· ≠ ·) = l
    ↔ l.Pairwise (· < ·) := by
  constructor
  · intro h
    have hnodup : l.Nodup := by
      rw [← h, normal_eq_dedup]
      exact List.nodup_dedup _
    have hsorted : l.Pairwise (· ≤ ·) := by
      rw [← h]
      exact (List.pairwise_insertionSort (· ≤ ·) l).sublist (List.destutter_sublist _ _)
    exact hsorted.imp₂ (fun _ _ hle hne => lt_of_le_of_ne hle hne) hnodup
  · intro h
    have hsorted : l.Pairwise (· ≤ ·) := h.imp le_of_lt
    have hnodup : l.Nodup := h.imp ne_of_lt
    rw [normal_eq_dedup, hsorted.insertionSort_eq, hnodup.dedup]

end Normal

/-! ## Answers after earlier listings -/

def isListing : Call X → Bool
  | .listPoliciesRaw _ _ _ => true
  | .listPoliciesJson _ _ _ => true
  | _ => false

/-- Listings from empty caches keep the caches usable and right, and the engine. -/
theorem listings_keep (s : PolicyStore X) (earlier : List (Call X))
    (h : ∀ c ∈ earlier, isListing c = true) :
    CachesUsable (run earlier s.cleared) ∧ CachesFresh (run earlier s.cleared)
      ∧ (run earlier s.cleared).engine = s.engine := by
  have hinit : CachesUsable s.cleared ∧ CachesFresh s.cleared
      ∧ s.cleared.engine = s.engine :=
    ⟨cleared_usable s, cachesFresh_of_empty rfl rfl, rfl⟩
  refine final_induct (fun t => CachesUsable t ∧ CachesFresh t ∧ t.engine = s.engine)
    (fun c => isListing c = true) ?_ earlier s.cleared h hinit
  rintro t c ⟨hu, hfresh, hengine⟩ hc
  -- a listing reloads no engine, so there is nothing for the caches to miss
  have hkeep : KeepsListings t c ∧ (c.step t).2.engine = t.engine := by
    cases c with
    | listPoliciesRaw user groups namespaces =>
        refine ⟨trivial, ?_⟩
        rcases step_cases hu (.listPoliciesRaw user groups namespaces) with
          ⟨e, hrun⟩ | ⟨r, t', hrun, hok⟩
        · rw [hrun]
        · rw [hrun, show t' = _ from hok]
    | listPoliciesJson user groups namespaces =>
        refine ⟨trivial, ?_⟩
        rcases step_cases hu (.listPoliciesJson user groups namespaces) with
          ⟨e, hrun⟩ | ⟨r, t', hrun, hok⟩
        · rw [hrun]
        · rw [hrun, show t' = _ from hok]
    | setDsl now dsl source rf => exact nomatch hc
    | setSchema now schema source rf => exact nomatch hc
    | setLabels now labels source rf => exact nomatch hc
    | applyPreparedBundle p hp => exact nomatch hc
    | setSchemaValidationMode mode => exact nomatch hc
    | configureRemoteSource kind source rf => exact nomatch hc
    | markRemoteSourceLoaded kind => exact nomatch hc
  exact ⟨step_usable hu c, (cachesFresh_step_iff hu hfresh c).mpr hkeep.1,
    hkeep.2.trans hengine⟩

/-- What was listed before does not matter to an answer: it is the engine's,
    for the filters in normal form. -/
theorem answer_after_listings (s : PolicyStore X) (earlier : List (Call X))
    (h : ∀ c ∈ earlier, isListing c = true) (user : String) (groups namespaces : List String) :
    (exec (listPoliciesRaw user groups namespaces) (run earlier s.cleared)).1
        = renderRaw s.engine (listPoliciesKey user groups namespaces)
      ∧ (exec (listPoliciesJson user groups namespaces) (run earlier s.cleared)).1
        = renderJson s.engine (listPoliciesKey user groups namespaces) := by
  obtain ⟨hu, hfresh, hengine⟩ := listings_keep s earlier h
  constructor
  · rw [exec_listPoliciesRaw hu, ← hengine]
    exact readThrough_fst hfresh.raw _
  · rw [exec_listPoliciesJson hu, ← hengine]
    exact readThrough_fst hfresh.json _

/-! ## When the filters are answered as supplied -/

/-- Groups are a set to the core; nothing is said about namespaces. -/
def GroupsAreSet (X : Crates) : Prop :=
  ∀ engine user groups groups' namespaces, (∀ g : String, g ∈ groups ↔ g ∈ groups') →
    X.listPoliciesForUser engine user groups namespaces
      = X.listPoliciesForUser engine user groups' namespaces

/-- Whatever the engine and whatever was listed before, a listing with these
    namespaces is the engine's for the filters as supplied. -/
def Transparent (namespaces : List String) : Prop :=
  ∀ X : Crates, GroupsAreSet X → ∀ (s : PolicyStore X) (earlier : List (Call X)),
    (∀ c ∈ earlier, isListing c = true) → ∀ (user : String) (groups : List String),
      (exec (listPoliciesRaw user groups namespaces) (run earlier s.cleared)).1
          = renderRaw s.engine ⟨user, groups, namespaces⟩
        ∧ (exec (listPoliciesJson user groups namespaces) (run earlier s.cleared)).1
          = renderJson s.engine ⟨user, groups, namespaces⟩

/-- Two queries with these namespaces share a cache entry only if every engine
    answers them alike. -/
def SharedOnlyAlike (namespaces namespaces' : List String) : Prop :=
  ∀ X : Crates, GroupsAreSet X → ∀ (engine : X.PreparedEngine) (user user' : String)
    (groups groups' : List String),
      listPoliciesKey user groups namespaces = listPoliciesKey user' groups' namespaces' →
        X.listPoliciesForUser engine user groups namespaces
          = X.listPoliciesForUser engine user' groups' namespaces'

/-- For an ascending path the key asks the engine what the caller did. -/
theorem listing_of_ascending (hX : GroupsAreSet X) {namespaces : List String}
    (h : namespaces.Pairwise (· < ·)) (engine : X.PreparedEngine) (user : String)
    (groups : List String) :
    listPoliciesForKey engine (listPoliciesKey user groups namespaces)
      = listPoliciesForKey engine ⟨user, groups, namespaces⟩ := by
  have hpath : (listPoliciesKey user groups namespaces).namespaces = namespaces :=
    (normal_eq_self_iff namespaces).mpr h
  rw [listPoliciesForKey, listPoliciesForKey, hpath]
  exact congrArg _ (hX engine user _ groups namespaces (mem_normal groups))

theorem transparent_of_ascending {namespaces : List String}
    (h : namespaces.Pairwise (· < ·)) : Transparent namespaces := by
  intro X hX s earlier hearlier user groups
  obtain ⟨hraw, hjson⟩ := answer_after_listings s earlier hearlier user groups namespaces
  constructor
  · rw [hraw, renderRaw, listing_of_ascending hX h, renderRaw]
  · rw [hjson, renderJson, listing_of_ascending hX h, renderJson]

theorem sharedOnlyAlike_of_ascending {namespaces namespaces' : List String}
    (h : namespaces.Pairwise (· < ·)) (h' : namespaces'.Pairwise (· < ·)) :
    SharedOnlyAlike namespaces namespaces' := by
  intro X hX engine user user' groups groups' hkey
  obtain ⟨huser, hgroups, hpaths⟩ := ListPoliciesCacheKey.mk.inj hkey
  rw [(normal_eq_self_iff namespaces).mpr h, (normal_eq_self_iff namespaces').mpr h'] at hpaths
  subst huser hpaths
  refine hX engine user groups groups' namespaces ?_
  intro g
  rw [← mem_normal groups g, hgroups, mem_normal groups' g]

/-! ## An engine that tells paths apart -/

/-- Crates whose policies are about the users of one namespace. -/
def usersOf (path : List String) : Crates :=
  { small with
    listPoliciesForUser := fun (e : Engine) user _ namespaces =>
      .ok ⟨user, if namespaces = path then [e.dsl] else [], []⟩ }

theorem groupsAreSet_usersOf (path : List String) : GroupsAreSet (usersOf path) :=
  fun _ _ _ _ _ _ => rfl

/-- A store over them with one policy. -/
def storeOf (path : List String) : PolicyStore (usersOf path) :=
  { (PolicyStore.new (usersOf path) 0).toOption.get rfl with
    engine := (⟨permitAll, false, none⟩ : Engine) }

/-- It lists the policy for that path and no other. -/
theorem renderRaw_storeOf (path : List String) (key : ListPoliciesCacheKey) :
    renderRaw (storeOf path).engine key
      = .ok (if key.namespaces = path then permitAll else "") := by
  show Except.ok (formatPoliciesRaw (usersOf path)
    ⟨key.user, if key.namespaces = path then [permitAll] else [], []⟩) = _
  by_cases hpath : key.namespaces = path
  · rw [if_pos hpath, if_pos hpath]
    rfl
  · rw [if_neg hpath, if_neg hpath]
    rfl

theorem ascending_of_transparent {namespaces : List String} (h : Transparent namespaces) :
    namespaces.Pairwise (· < ·) := by
  have hnone : ∀ c ∈ ([] : List (Call (usersOf namespaces))), isListing c = true :=
    fun _ hc => nomatch hc
  have hraw := (h (usersOf namespaces) (groupsAreSet_usersOf namespaces) (storeOf namespaces) []
    hnone "alice" []).1
  rw [(answer_after_listings (storeOf namespaces) [] hnone "alice" [] namespaces).1,
    renderRaw_storeOf, renderRaw_storeOf, if_pos rfl] at hraw
  rw [← normal_eq_self_iff]
  by_contra hne
  have hkey : (listPoliciesKey "alice" [] namespaces).namespaces ≠ namespaces := hne
  rw [if_neg hkey] at hraw
  exact absurd hraw (by decide)

/-- **FILTERS**: listings with two namespace paths are answered as supplied,
    and share a cache entry only when answered alike, exactly if both paths
    are strictly ascending. -/
theorem filters_transparent_iff (namespaces namespaces' : List String) :
    (Transparent namespaces ∧ Transparent namespaces' ∧ SharedOnlyAlike namespaces namespaces')
      ↔ namespaces.Pairwise (· < ·) ∧ namespaces'.Pairwise (· < ·) := by
  constructor
  · rintro ⟨h, h', _⟩
    exact ⟨ascending_of_transparent h, ascending_of_transparent h'⟩
  · rintro ⟨h, h'⟩
    exact ⟨transparent_of_ascending h, transparent_of_ascending h',
      sharedOnlyAlike_of_ascending h h'⟩

/-- The path `Org::Dept::Team` lists nothing: the engine is asked for
    `Dept::Org::Team`. -/
theorem nestedPath_lists_nothing :
    (exec (listPoliciesRaw "alice" [] ["Org", "Dept", "Team"])
        (storeOf ["Org", "Dept", "Team"]).cleared).1 = .ok ""
      ∧ renderRaw (storeOf ["Org", "Dept", "Team"]).engine
          ⟨"alice", [], ["Org", "Dept", "Team"]⟩ = .ok permitAll
      ∧ ¬ Transparent ["Org", "Dept", "Team"] := by
  have hlisted : (exec (listPoliciesRaw "alice" [] ["Org", "Dept", "Team"])
      (storeOf ["Org", "Dept", "Team"]).cleared).1 = .ok "" := by
    decide +kernel
  have hengine : renderRaw (storeOf ["Org", "Dept", "Team"]).engine
      ⟨"alice", [], ["Org", "Dept", "Team"]⟩ = .ok permitAll := by
    decide +kernel
  refine ⟨hlisted, hengine, ?_⟩
  intro h
  have hsame := (h (usersOf _) (groupsAreSet_usersOf _) (storeOf ["Org", "Dept", "Team"]) []
    (fun _ hc => nomatch hc) "alice" []).1
  rw [hengine] at hsame
  exact absurd (hlisted.symm.trans hsame) (by decide)

end TreetopFilters
