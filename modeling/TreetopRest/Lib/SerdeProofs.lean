import Mathlib.Tactic.Common

/-! # Derived codecs over a tree of JSON values

    What a derived deserialiser does with a value, by the shape of its type:
    the fields of a structure (unknown ones skipped, a missing or repeated one
    an error, an absent optional one `none`), an enumeration of plain names,
    an enumeration told apart by a tag field, a structure flattened into its
    parent, and untagged alternatives, of which the first that fits is taken.

    A field is found by name wherever it stands, so a written structure is
    read back field by field (`requiredField_cons_self`, `requiredField_cons_ne`).
    Untagged alternatives are the one shape that can confuse two values. -/

namespace Serde

/-- A JSON number: a natural, a negative integer, or the bits of a double. -/
inductive Number where
  | posInt (n : Nat)
  | negInt (n : Int)
  | float (bits : UInt64)
deriving DecidableEq, Repr

/-- A JSON value; an object keeps its entries in order, repetitions included. -/
inductive Json where
  | null
  | bool (b : Bool)
  | num (n : Number)
  | str (s : String)
  | arr (values : List Json)
  | obj (entries : List (String × Json))

variable {α β : Type}

/-! ## Reading -/

def usize : Json → Option Nat
  | .num (.posInt n) => some n
  | _ => none

def string : Json → Option String
  | .str s => some s
  | _ => none

/-- A list, each element read alike. -/
def vec (read : Json → Option α) : Json → Option (List α)
  | .arr values => values.mapM read
  | _ => none

/-- The name of a variant without data. -/
def unitVariant : Json → Option String
  | .str name => some name
  | .obj [(name, .null)] => some name
  | _ => none

/-- The entries of a structure; a sequence has them in declaration order. -/
def structFields (names : List String) : Json → Option (List (String × Json))
  | .obj entries => some entries
  | .arr values => if values.length = names.length then some (names.zip values) else none
  | _ => none

/-- The entries of a structure that must be a map. -/
def mapFields : Json → Option (List (String × Json))
  | .obj entries => some entries
  | _ => none

/-- A field that must be there, once. -/
def requiredField (entries : List (String × Json)) (name : String) (read : Json → Option α) :
    Option α :=
  match entries.filter (fun e => e.1 = name) with
  | [(_, value)] => read value
  | _ => none

/-- A field that may be absent or null. -/
def optionalField (entries : List (String × Json)) (name : String) (read : Json → Option α) :
    Option (Option α) :=
  match entries.filter (fun e => e.1 = name) with
  | [] => some none
  | [(_, .null)] => some none
  | [(_, value)] => (read value).map some
  | _ => none

/-- The entries that a flattened field is read from: those of no other field. -/
def flattened (names : List String) (entries : List (String × Json)) :
    List (String × Json) :=
  entries.filter fun e => !names.contains e.1

/-- The variant that a tag field names, and the entries beside the tag. -/
def tagged (tag : String) (variants : List String) (entries : List (String × Json)) :
    Option (String × List (String × Json)) :=
  match entries.filter (fun e => e.1 = tag) with
  | [(_, .str name)] =>
      if variants.contains name then some (name, flattened [tag] entries) else none
  | [(_, .num (.posInt n))] =>
      -- a tag may also be the position of the variant
      (variants[n]?).map fun name => (name, flattened [tag] entries)
  | _ => none

/-- Untagged alternatives, tried in the order they are declared. -/
def untagged (alternatives : List (Json → Option α)) (value : Json) : Option α :=
  alternatives.findSome? fun read => read value

/-- Insert into a map, over what is there under the key. -/
def upsert (entries : List (String × α)) (entry : String × α) : List (String × α) :=
  entries.filter (fun e => e.1 ≠ entry.1) ++ [entry]

/-- A map from texts: of a repeated key the last value stays, and the entries
    come out in the order of the map. -/
def hashMap (order : List (String × α) → List (String × α)) (read : Json → Option α) :
    Json → Option (List (String × α))
  | .obj entries =>
      (entries.mapM fun e => (read e.2).map fun value => (e.1, value)).map fun found =>
        order (found.foldl upsert [])
  | _ => none

/-! ## Values that can be written and read back -/

/-- A type whose values survive being written and read. -/
structure Codec (α : Type) where
  write : α → Json
  read : Json → Option α
  read_write : ∀ a, read (write a) = some a

/-- Texts are JSON strings. -/
def Codec.string : Codec String := ⟨.str, Serde.string, fun _ => rfl⟩

/-! ## Laws -/

/-- No entry has the name of a field that is nowhere. -/
theorem filter_absent {entries : List (String × Json)} {name : String}
    (h : ∀ e ∈ entries, e.1 ≠ name) : entries.filter (fun e => e.1 = name) = [] := by
  rw [List.filter_eq_nil_iff]
  intro e he
  rw [decide_eq_true_iff]
  exact h e he

@[simp] theorem requiredField_cons_self {entries : List (String × Json)} {name : String}
    {value : Json} {read : Json → Option α} (h : ∀ e ∈ entries, e.1 ≠ name) :
    requiredField ((name, value) :: entries) name read = read value := by
  have hrest : entries.filter (fun e => e.1 = name) = [] := by
    rw [List.filter_eq_nil_iff]
    intro e he
    rw [decide_eq_true_iff]
    exact h e he
  rw [requiredField, List.filter_cons_of_pos (by simp), hrest]

@[simp] theorem requiredField_cons_ne {entries : List (String × Json)} {name other : String}
    {value : Json} {read : Json → Option α} (h : other ≠ name) :
    requiredField ((other, value) :: entries) name read = requiredField entries name read := by
  rw [requiredField, List.filter_cons_of_neg (by simpa using h), requiredField]

@[simp] theorem requiredField_nil {name : String} {read : Json → Option α} :
    requiredField [] name read = none := rfl

/-- A field that is nowhere is absent. -/
theorem optionalField_absent {entries : List (String × Json)} {name : String}
    {read : Json → Option α} (h : ∀ e ∈ entries, e.1 ≠ name) :
    optionalField entries name read = some none := by
  rw [optionalField, filter_absent h]

theorem optionalField_cons_null {entries : List (String × Json)} {name : String}
    {read : Json → Option α} (h : ∀ e ∈ entries, e.1 ≠ name) :
    optionalField ((name, .null) :: entries) name read = some none := by
  rw [optionalField, List.filter_cons_of_pos (by simp), filter_absent h]

theorem optionalField_cons_self {entries : List (String × Json)} {name : String}
    {value : Json} {read : Json → Option α} (h : ∀ e ∈ entries, e.1 ≠ name)
    (hvalue : value ≠ .null) :
    optionalField ((name, value) :: entries) name read = (read value).map some := by
  rw [optionalField, List.filter_cons_of_pos (by simp), filter_absent h]
  cases value with
  | null => exact absurd rfl hvalue
  | bool b => rfl
  | num n => rfl
  | str s => rfl
  | arr values => rfl
  | obj entries => rfl

theorem optionalField_cons_ne {entries : List (String × Json)} {name other : String}
    {value : Json} {read : Json → Option α} (h : other ≠ name) :
    optionalField ((other, value) :: entries) name read = optionalField entries name read := by
  rw [optionalField, List.filter_cons_of_neg (by simpa using h), optionalField]

/-- A field of its own is not flattened. -/
theorem flattened_cons {names : List String} {name : String} (h : name ∈ names) (value : Json)
    (entries : List (String × Json)) :
    flattened names ((name, value) :: entries) = flattened names entries := by
  rw [flattened, List.filter_cons_of_neg (by simpa using h), flattened]

theorem flattened_self {names : List String} {entries : List (String × Json)}
    (h : ∀ e ∈ entries, e.1 ∉ names) : flattened names entries = entries := by
  rw [flattened]
  refine List.filter_eq_self.mpr fun e he => ?_
  simpa using h e he

/-- Elements that survive one by one survive as a list. -/
theorem mapM_write {write : α → Json} {read : Json → Option β} (convert : α → β)
    (xs : List α) (h : ∀ x ∈ xs, read (write x) = some (convert x)) :
    (xs.map write).mapM read = some (xs.map convert) := by
  induction xs with
  | nil => rfl
  | cons x xs ih =>
      obtain ⟨hhead, htail⟩ := List.forall_mem_cons.mp h
      rw [List.map_cons, List.mapM_cons, hhead, ih htail]
      rfl

/-- One element that cannot be read spoils the list. -/
theorem mapM_write_none {write : α → Json} {read : Json → Option β} (xs : List α)
    (h : ∃ x ∈ xs, read (write x) = none) : (xs.map write).mapM read = none := by
  induction xs with
  | nil => exact absurd h (by simp)
  | cons x xs ih =>
      rw [List.map_cons, List.mapM_cons]
      cases hx : read (write x) with
      | none => rfl
      | some b =>
          obtain ⟨y, hy, hnone⟩ := h
          rcases List.mem_cons.mp hy with rfl | hy
          · rw [hx] at hnone
            exact nomatch hnone
          · rw [ih ⟨y, hy, hnone⟩]
            rfl

/-- Distinct keys are all inserted. -/
theorem foldl_upsert {entries found : List (String × α)}
    (h : ((found ++ entries).map Prod.fst).Nodup) :
    entries.foldl upsert found = found ++ entries := by
  induction entries generalizing found with
  | nil => rw [List.foldl_nil, List.append_nil]
  | cons entry entries ih =>
      have hfresh : found.filter (fun e => e.1 ≠ entry.1) = found := by
        refine List.filter_eq_self.mpr fun e he => ?_
        rw [List.map_append, List.nodup_append] at h
        have hne := h.2.2 e.1 (List.mem_map_of_mem he) entry.1
          (List.mem_map_of_mem (List.mem_cons_self ..))
        simpa using hne
      rw [List.foldl_cons, upsert, hfresh, ih, List.append_assoc, List.singleton_append]
      rw [List.append_assoc, List.singleton_append]
      exact h

/-- A written map is read back in the order of the reader. -/
theorem hashMap_write {write : α → Json} {read : Json → Option α}
    (h : ∀ a, read (write a) = some a) (order : List (String × α) → List (String × α))
    {entries : List (String × α)} (hnodup : (entries.map Prod.fst).Nodup) :
    hashMap order read (.obj (entries.map fun e => (e.1, write e.2))) = some (order entries) := by
  have hread : (entries.map fun e => (e.1, write e.2)).mapM
      (fun e => (read e.2).map fun value => (e.1, value)) = some entries := by
    clear hnodup
    induction entries with
    | nil => rfl
    | cons e entries ih =>
        rw [List.map_cons, List.mapM_cons, ih, h]
        rfl
  rw [hashMap, hread, Option.map_some, foldl_upsert (by rw [List.nil_append]; exact hnodup),
    List.nil_append]

/-- The first alternative that fits is taken. -/
theorem untagged_first {read : Json → Option α} {alternatives : List (Json → Option α)}
    {value : Json} {a : α} (h : read value = some a) :
    untagged (read :: alternatives) value = some a := by
  rw [untagged, List.findSome?_cons, h]

/-- An alternative that does not fit is passed over. -/
theorem untagged_skip {read : Json → Option α} {alternatives : List (Json → Option α)}
    {value : Json} (h : read value = none) :
    untagged (read :: alternatives) value = untagged alternatives value := by
  rw [untagged, List.findSome?_cons, h, untagged]

end Serde
