import TreetopRest.CrateModel
import TreetopRest.Lib.FallibleStateProofs
import TreetopRest.Lib.TextProofs

/-! # Component metadata

    Policies, labels and schema are each kept as one metadata record: the
    content, its digest and size, its entry count, and where it came from.
    `Metadata.new` validates and counts the content it is given;
    `Metadata.fromValidatedContent` trusts the caller.  Clock readings are
    arguments (`now`). -/

namespace TreetopMetadata

open FallibleState Text TreetopErrors TreetopCrates

/-- A reading of the clock (`DateTime<Utc>`). -/
abbrev Timestamp := Nat

/-- Network endpoint of a remote source. -/
structure Endpoint where
  url : String
deriving DecidableEq, Repr

/-- Which component a metadata record describes. -/
inductive ContentKind where
  | ofPolicies
  | ofLabels
  | ofSchema
deriving DecidableEq, Repr

/-- Metadata of one component. -/
structure Metadata (T : ContentKind) where
  timestamp : Timestamp
  sha256 : String
  size : Nat
  source : Option Endpoint
  refreshFrequency : Option UInt32
  entries : Nat
  content : String
deriving DecidableEq, Repr

/-- The digits of a byte under `{b:02x}`. -/
def hexByte (b : UInt8) : List Char :=
  [Nat.digitChar (b.toNat / 16), Nat.digitChar (b.toNat % 16)]

/-- A digest in lowercase hexadecimal. -/
def hexDigest (d : Vector UInt8 32) : String :=
  String.ofList (d.toList.flatMap hexByte)

variable (X : Crates)

/-- A sha256 hash of the content. -/
def makeHash (content : String) : String :=
  hexDigest (X.sha256 (asBytes content.toList))

/-- Parse labels from JSON and return them as labelers. -/
def parseLabels (content : String) : Except ServiceError (List X.Labeler) :=
  match X.labelSetFromJsonStr content with
  | .ok ls => .ok (X.toLabelers ls)
  | .error e => .error (.fromBundleError e)

/-- A line that opens a policy, by the prefix scan of `OfPolicies`. -/
def opensPolicy (line : List Char) : Bool :=
  let line := trimStart line
  "permit (".toList.isPrefixOf line || "forbid (".toList.isPrefixOf line

/-- Count the entries of the content. -/
def countEntries (T : ContentKind) (content : String) : Except ServiceError Nat :=
  match T with
  | .ofPolicies => .ok ((lines content.toList).filter opensPolicy).length
  | .ofLabels =>
      match X.labelSetFromJsonStr content with
      | .ok ls => .ok (X.labelSetRules ls)
      | .error e => .error (.fromBundleError e)
  | .ofSchema =>
      match X.jsonFromStr content with
      | .ok v => .ok ((X.jsonObjectLen v).getD 1)
      | .error e => .error (.invalidJsonPayload e)

/-- Validate the content; only a schema has something to check. -/
def validateContent (T : ContentKind) (content : String) : Except ServiceError Unit :=
  match T with
  | .ofPolicies | .ofLabels => .ok ()
  | .ofSchema =>
      match X.schemaFromJsonStr content with
      | .ok _ => .ok ()
      | .error e => .error (.schemaValidationError e)

/-- Process the content after counting; labels must parse. -/
def processContent (T : ContentKind) (content : String) : Except ServiceError Unit :=
  match T with
  | .ofPolicies | .ofSchema => .ok ()
  | .ofLabels =>
      match parseLabels X content with
      | .ok _ => .ok ()
      | .error e => .error e

/-- Metadata of content that still has to be validated.  Empty content from
    nowhere is the metadata of a component that was never loaded. -/
def Metadata.new (T : ContentKind) (now : Timestamp) (content : String)
    (source : Option Endpoint) (refreshFrequency : Option UInt32) :
    Except ServiceError (Metadata T) :=
  if content.isEmpty && source.isNone && refreshFrequency.isNone then
    .ok { timestamp := now, sha256 := "", size := 0, source, refreshFrequency,
          entries := 0, content := "" }
  else do
    validateContent X T content
    let sha256 := makeHash X content
    let size := content.utf8ByteSize
    let entries ← countEntries X T content
    processContent X T content
    return { timestamp := now, sha256, size, source, refreshFrequency, entries, content }

/-- Metadata of content already validated by the caller. -/
def Metadata.fromValidatedContent (T : ContentKind) (now : Timestamp)
    (content : String) (source : Option Endpoint)
    (refreshFrequency : Option UInt32) (entries : Nat) : Metadata T :=
  { timestamp := now, sha256 := makeHash X content, size := content.utf8ByteSize,
    source, refreshFrequency, entries, content }

/-! ## Digests -/

theorem digitChar_injOn (a b : Fin 16) (h : Nat.digitChar a = Nat.digitChar b) : a = b := by
  revert a b
  decide

/-- Both digits of a byte determine it. -/
theorem hexByte_injective {a b : UInt8} (h : hexByte a = hexByte b) : a = b := by
  obtain ⟨hhi, hlo⟩ := List.cons.inj h
  have ha : a.toNat < 256 := a.toNat_lt
  have hb : b.toNat < 256 := b.toNat_lt
  have h1 := digitChar_injOn ⟨a.toNat / 16, by omega⟩ ⟨b.toNat / 16, by omega⟩ hhi
  have h2 := digitChar_injOn ⟨a.toNat % 16, by omega⟩ ⟨b.toNat % 16, by omega⟩
    (List.cons.inj hlo).1
  have h1' : a.toNat / 16 = b.toNat / 16 := congrArg Fin.val h1
  have h2' : a.toNat % 16 = b.toNat % 16 := congrArg Fin.val h2
  exact UInt8.toNat_inj.mp (by omega)

theorem flatMap_hexByte_injective :
    ∀ {xs ys : List UInt8}, xs.flatMap hexByte = ys.flatMap hexByte → xs = ys := by
  intro xs
  induction xs with
  | nil =>
      intro ys h
      cases ys with
      | nil => rfl
      | cons y ys => exact nomatch h
  | cons x xs ih =>
      intro ys h
      cases ys with
      | nil => exact nomatch h
      | cons y ys =>
          have h' : hexByte x ++ xs.flatMap hexByte = hexByte y ++ ys.flatMap hexByte := by
            rw [← List.flatMap_cons, ← List.flatMap_cons]
            exact h
          obtain ⟨hhd, htl⟩ := List.append_inj h' rfl
          rw [hexByte_injective hhd, ih htl]

/-- Distinct digests are printed differently. -/
theorem hexDigest_injective {d e : Vector UInt8 32} (h : hexDigest d = hexDigest e) :
    d = e := by
  have hchars : d.toList.flatMap hexByte = e.toList.flatMap hexByte := by
    have h0 := congrArg String.toList h
    simpa [hexDigest] using h0
  exact Vector.toList_inj.mp (flatMap_hexByte_injective hchars)

/-- SHA-256 has no collision among these byte strings. -/
def CollisionFree {ω : Type} (bytes : ω → List UInt8) : Prop :=
  ∀ v w, X.sha256 (bytes v) = X.sha256 (bytes w) → bytes v = bytes w

/-- Without collisions the hash of a text identifies it. -/
theorem makeHash_inj {ω : Type} {text : ω → String}
    (h : CollisionFree X fun v => asBytes (text v).toList) {v w : ω}
    (heq : makeHash X (text v) = makeHash X (text w)) : text v = text w := by
  have hbytes := h v w (hexDigest_injective heq)
  exact String.toList_inj.mp (asBytes_injective hbytes)

/-! ## What the constructors record -/

variable {X}

/-- A policy text is never refused by its metadata: the count is total. -/
theorem Metadata.new_ofPolicies (now : Timestamp) (content : String)
    (source : Option Endpoint) (refreshFrequency : Option UInt32) :
    ∃ md, Metadata.new X .ofPolicies now content source refreshFrequency = .ok md := by
  rw [Metadata.new]
  split
  · exact ⟨_, rfl⟩
  · exact ⟨_, rfl⟩

/-- Content that is there, or has an origin, is validated and recorded with
    its digest. -/
theorem Metadata.new_loaded {T : ContentKind} {now : Timestamp} {content : String}
    {source : Option Endpoint} {refreshFrequency : Option UInt32} {md : Metadata T}
    (hguard : ¬ (content.isEmpty && source.isNone && refreshFrequency.isNone) = true)
    (h : Metadata.new X T now content source refreshFrequency = .ok md) :
    ∃ entries, countEntries X T content = .ok entries
      ∧ md = ⟨now, makeHash X content, content.utf8ByteSize, source, refreshFrequency, entries,
          content⟩ := by
  rw [Metadata.new, if_neg hguard] at h
  obtain ⟨_, _, h⟩ := bind_eq_ok.mp h
  obtain ⟨entries, hentries, h⟩ := bind_eq_ok.mp h
  obtain ⟨_, _, h⟩ := bind_eq_ok.mp h
  cases h
  exact ⟨entries, hentries, rfl⟩

/-- New metadata is of the content and the origin it was asked for. -/
theorem Metadata.new_records {T : ContentKind} {now : Timestamp} {content : String}
    {source : Option Endpoint} {refreshFrequency : Option UInt32} {md : Metadata T}
    (h : Metadata.new X T now content source refreshFrequency = .ok md) :
    md.content = content ∧ md.source = source
      ∧ md.refreshFrequency = refreshFrequency ∧ md.timestamp = now := by
  by_cases hguard : (content.isEmpty && source.isNone && refreshFrequency.isNone) = true
  · rw [Metadata.new, if_pos hguard] at h
    rw [Bool.and_eq_true, Bool.and_eq_true, String.isEmpty_iff] at hguard
    cases h
    exact ⟨hguard.1.1.symm, rfl, rfl, rfl⟩
  · obtain ⟨_, _, rfl⟩ := new_loaded hguard h
    exact ⟨rfl, rfl, rfl, rfl⟩

/-- Content that is there is recorded with its digest. -/
theorem Metadata.new_sha256 {T : ContentKind} {now : Timestamp} {content : String}
    {source : Option Endpoint} {refreshFrequency : Option UInt32} {md : Metadata T}
    (h : Metadata.new X T now content source refreshFrequency = .ok md)
    (hne : content ≠ "") : md.sha256 = makeHash X content := by
  have hguard : ¬ (content.isEmpty && source.isNone && refreshFrequency.isNone) = true := by
    rw [Bool.and_eq_true, Bool.and_eq_true, String.isEmpty_iff]
    exact fun h0 => hne h0.1.1
  obtain ⟨_, _, rfl⟩ := new_loaded hguard h
  rfl

/-- Never-loaded metadata: what every component starts from. -/
def Metadata.neverLoaded (T : ContentKind) (now : Timestamp) : Metadata T :=
  { timestamp := now, sha256 := "", size := 0, source := none, refreshFrequency := none,
    entries := 0, content := "" }

theorem Metadata.new_empty (T : ContentKind) (now : Timestamp) :
    Metadata.new X T now "" none none = .ok (.neverLoaded T now) := by
  rw [Metadata.new]
  rfl

end TreetopMetadata
