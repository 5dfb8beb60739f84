import TreetopRest.RouteModel
import TreetopRest.FilterProofs
import TreetopRest.BundleModeProofs

/-! # Listings as clients ask for them

    A client writes the groups and namespaces it asks for, and the format, as
    a form, in any order and among parameters of its own.  The handler reads
    exactly these back (`parseQueryParams_eq`), and makes them a key in which
    only the sets are left (`listPoliciesKey_congr`).  In bundle mode the
    answer is therefore that of the engine in force to THE SETS the client
    asked for, whatever the caches hold (`listing_answered`). -/

namespace TreetopListings

open FallibleState LruCache
open TreetopErrors TreetopCrates TreetopMetadata TreetopWire TreetopStore
open TreetopFetcher TreetopRequest TreetopUpload TreetopAdmission TreetopConfig
open TreetopServer TreetopServerRuns TreetopOrigins TreetopLaunch
open TreetopListCache TreetopFilters TreetopBundleMode TreetopRoutes

variable {X : Crates} {N : NetCrate} {W : WebCrate}

/-! ## What a form asks for -/

/-- The values a form has under some names. -/
def valuesUnder (names : List String) (pairs : List (String × String)) : List String :=
  (pairs.filter fun pair => names.contains pair.1).map (·.2)

def groupsOf : List (String × String) → List String := valuesUnder ["groups", "groups[]"]

def namespacesOf : List (String × String) → List String :=
  valuesUnder ["namespaces", "namespaces[]"]

/-- The last format a form names. -/
def formatOf (pairs : List (String × String)) : Option String :=
  (valuesUnder ["format"] pairs).getLast?

/-- A pair in front is one more value, or none. -/
theorem valuesUnder_cons (names : List String) (pair : String × String)
    (pairs : List (String × String)) :
    valuesUnder names (pair :: pairs)
      = if names.contains pair.1 then pair.2 :: valuesUnder names pairs
        else valuesUnder names pairs := by
  rw [valuesUnder, List.filter_cons]
  by_cases h : names.contains pair.1 = true
  · rw [if_pos h, if_pos h]
    rfl
  · rw [if_neg h, if_neg h]
    rfl

theorem mem_valuesUnder {names : List String} {pairs : List (String × String)} {value : String} :
    value ∈ valuesUnder names pairs ↔ ∃ name ∈ names, (name, value) ∈ pairs := by
  rw [valuesUnder, List.mem_map]
  constructor
  · rintro ⟨⟨name, v⟩, hpair, rfl⟩
    obtain ⟨hmem, hname⟩ := List.mem_filter.mp hpair
    exact ⟨name, List.contains_iff_mem.mp hname, hmem⟩
  · rintro ⟨name, hname, hmem⟩
    exact ⟨(name, value), List.mem_filter.mpr ⟨hmem, List.contains_iff_mem.mpr hname⟩, rfl⟩

/-- The values under either of two names. -/
theorem mem_valuesUnder_pair {name name' : String} {pairs : List (String × String)}
    {value : String} :
    value ∈ valuesUnder [name, name'] pairs
      ↔ ((name, value) ∈ pairs ∨ (name', value) ∈ pairs) := by
  rw [mem_valuesUnder]
  simp

/-- The values under the three sorts of names, with what was found before. -/
theorem foldl_queryParam (pairs : List (String × String)) (groups namespaces : List String)
    (format : Option String) :
    pairs.foldl queryParam (groups, namespaces, format)
      = (groups ++ groupsOf pairs, namespaces ++ namespacesOf pairs,
          (formatOf pairs).or format) := by
  induction pairs generalizing groups namespaces format with
  | nil =>
      show (groups, namespaces, format) = (groups ++ [], namespaces ++ [], format)
      rw [List.append_nil, List.append_nil]
  | cons pair pairs ih =>
      rw [List.foldl_cons, queryParam, groupsOf, namespacesOf, formatOf, valuesUnder_cons,
        valuesUnder_cons, valuesUnder_cons, ← groupsOf, ← namespacesOf]
      by_cases hg : pair.1 = "groups" ∨ pair.1 = "groups[]"
      · rw [if_pos hg, ih]
        rcases hg with hg | hg
        · rw [hg]
          simp [formatOf]
        · rw [hg]
          simp [formatOf]
      · rw [if_neg hg]
        by_cases hn : pair.1 = "namespaces" ∨ pair.1 = "namespaces[]"
        · rw [if_pos hn, ih]
          rcases hn with hn | hn
          · rw [hn]
            simp [formatOf]
          · rw [hn]
            simp [formatOf]
        · rw [if_neg hn]
          rw [not_or] at hg hn
          by_cases hf : pair.1 = "format"
          · rw [if_pos hf, ih, hf]
            simp [formatOf, List.getLast?_cons]
          · rw [if_neg hf, ih]
            simp [formatOf, hg, hn, hf]

/-- **What is read of a query** is what the form it encodes asks for. -/
theorem parseQueryParams_eq (hform : FormLaw W) (pairs : List (String × String)) :
    parseQueryParams W (String.ofList (Form.serialize pairs))
      = (groupsOf pairs, namespacesOf pairs, formatOf pairs) := by
  obtain ⟨fromUtf8, hutf8, hparse⟩ := hform
  rw [parseQueryParams, hparse, String.toList_ofList, Form.parse_serialize hutf8,
    foldl_queryParam, Option.or_none, List.nil_append, List.nil_append]

/-! ## Sets of filters -/

/-- Lists with the same elements have one normal form. -/
theorem normal_congr {α : Type} [LinearOrder α] {l l' : List α} (h : ∀ a, a ∈ l ↔ a ∈ l') :
    (l.insertionSort (· ≤ ·)).destutter (· ≠ ·)
      = (l'.insertionSort (· ≤ ·)).destutter (· ≠ ·) := by
  have hsorted : ∀ k : List α, ((k.insertionSort (· ≤ ·)).destutter (· ≠ ·)).Pairwise (· ≤ ·) :=
    fun k => (List.pairwise_insertionSort (· ≤ ·) k).sublist (List.destutter_sublist _ _)
  have hnodup : ∀ k : List α, ((k.insertionSort (· ≤ ·)).destutter (· ≠ ·)).Nodup := by
    intro k
    rw [normal_eq_dedup]
    exact List.nodup_dedup _
  have hperm : ((l.insertionSort (· ≤ ·)).destutter (· ≠ ·)).Perm
      ((l'.insertionSort (· ≤ ·)).destutter (· ≠ ·)) := by
    refine (List.perm_ext_iff_of_nodup (hnodup l) (hnodup l')).mpr fun a => ?_
    rw [mem_normal, mem_normal, h]
  exact hperm.eq_of_pairwise' (hsorted l) (hsorted l')

/-- A key depends on the sets of groups and namespaces alone. -/
theorem listPoliciesKey_congr (user : String) {groups groups' namespaces namespaces' : List String}
    (hg : ∀ g, g ∈ groups ↔ g ∈ groups') (hn : ∀ n, n ∈ namespaces ↔ n ∈ namespaces') :
    listPoliciesKey user groups namespaces = listPoliciesKey user groups' namespaces' := by
  rw [listPoliciesKey, listPoliciesKey, normalizeListFilters, normalizeListFilters,
    normal_congr hg, normal_congr hn]

/-! ## Answers -/

/-- What an engine has to say to a listing. -/
def listing (engine : X.PreparedEngine) (user : String) (groups namespaces : List String)
    (format : Option String) : Except ServiceError (Document (UserPolicies X.Json)) :=
  if shouldReturnRawFormat format then
    (renderRaw engine (listPoliciesKey user groups namespaces)).map .raw
  else (renderJson engine (listPoliciesKey user groups namespaces)).map .json

/-- With fresh caches the handler answers what the engine in force says. -/
theorem listPolicies_fresh {shared : SharedStore X} (hlock : shared.poisoned = false)
    (hu : CachesUsable shared.value) (hfresh : CachesFresh shared.value) (user query : String) :
    (listPolicies W user query shared).1
      = listing shared.value.engine user (parseQueryParams W query).1
          (parseQueryParams W query).2.1 (parseQueryParams W query).2.2 := by
  have hread : readStore shared = .ok shared.value := by
    rw [readStore, if_neg (by rw [hlock]; exact Bool.false_ne_true)]
  rw [listPolicies, hread, listing]
  dsimp only
  by_cases hraw : shouldReturnRawFormat (parseQueryParams W query).2.2 = true
  · rw [if_pos hraw, if_pos hraw, exec_listPoliciesRaw hu, readThrough_fst hfresh.raw]
  · rw [if_neg hraw, if_neg hraw, exec_listPoliciesJson hu, readThrough_fst hfresh.json]

section Runs

variable {ι : Type} [DecidableEq ι] {K : KeyCrate X} {host : Host} {now : Timestamp}
  {token : String} {config : Config} {l : Launched X N} {uploads : ι → Upload}

/-- **LISTINGS**: with a bundle source, at every moment of every run, a client
    gets what the engine in force lists for the user, the sets of groups and
    namespaces and the format its form asks for, however the form is written
    and whatever was listed before.  The engine is asked with the groups and
    the namespaces sorted and without repetitions (`listing`): the segments of
    a nested namespace do not keep their order. -/
theorem listing_answered (h : launch X N K host now token config = .ok (some l))
    (htoken : token ≠ "") (hmode : config.bundleUrl.isSome = true) (hform : FormLaw W)
    (events : List (Event X ι)) (hlock : (running uploads l events).shared.poisoned = false)
    (user : String) (pairs : List (String × String)) (groups namespaces : List String)
    (hg : ∀ g, g ∈ groups ↔ (("groups", g) ∈ pairs ∨ ("groups[]", g) ∈ pairs))
    (hn : ∀ n, n ∈ namespaces ↔ (("namespaces", n) ∈ pairs ∨ ("namespaces[]", n) ∈ pairs)) :
    (listPolicies W user (String.ofList (Form.serialize pairs))
        (running uploads l events).shared).1
      = listing (running uploads l events).store.engine user groups namespaces
          (formatOf pairs) := by
  have hu : Underway config l uploads events (running uploads l events) :=
    run_underway (launch_spec h) htoken events
  have hfresh : CachesFresh (running uploads l events).store :=
    (run_bundleMode (launch_spec h) htoken hmode events).2
  rw [listPolicies_fresh hlock hu.inOrder.usable hfresh, parseQueryParams_eq hform]
  have hkey : listPoliciesKey user (groupsOf pairs) (namespacesOf pairs)
      = listPoliciesKey user groups namespaces :=
    listPoliciesKey_congr user (fun g => mem_valuesUnder_pair.trans (hg g).symm)
      (fun n => mem_valuesUnder_pair.trans (hn n).symm)
  rw [listing, listing, hkey]
  rfl

end Runs

open TreetopUploadSafety (archiveUpload)

/-- A reader that keeps no text out of bytes that are no UTF-8. -/
def smallWeb : WebCrate where
  formUrlencodedParse query :=
    Form.parse (fun bytes => (String.fromUTF8? ⟨bytes.toArray⟩).getD "\uFFFD") query.toList

theorem formLaw_small : FormLaw smallWeb := by
  refine ⟨fun bytes => (String.fromUTF8? ⟨bytes.toArray⟩).getD "\uFFFD", fun s => ?_,
    fun _ => rfl⟩
  dsimp only
  rw [Text.fromUTF8_asBytes]
  rfl

/-- A form with a parameter the handler does not know. -/
def listingForm : List (String × String) :=
  [("groups[]", "ops & dev"), ("page", "2"), ("groups", "admins"), ("format", "RAW")]

example : String.ofList (Form.serialize listingForm)
    = "groups%5B%5D=ops+%26+dev&page=2&groups=admins&format=RAW" := by decide +kernel

theorem listing_answered_form :
    (listPolicies smallWeb "alice" (String.ofList (Form.serialize listingForm))
        (running archiveUpload bundleServer (bundleRun.take 4)).shared).1
      = listing (running archiveUpload bundleServer (bundleRun.take 4)).store.engine "alice"
          ["admins", "ops & dev"] [] (some "RAW") := by
  have hlock : (running archiveUpload bundleServer (bundleRun.take 4)).shared.poisoned = false :=
    rfl
  exact listing_answered launch_bundleServer (by decide) rfl formLaw_small (bundleRun.take 4)
    hlock "alice" listingForm ["admins", "ops & dev"] []
    (by intro g; simp [listingForm, or_comm]) (by intro n; simp [listingForm])

end TreetopListings
