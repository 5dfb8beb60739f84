import TreetopRest.Lib.SharedLogProofs

/-! # Cached addresses of shared logs

    Instead of asking the family of logs for every record, tasks keep the
    addresses in cells, which are filled on their first use, of entries, which
    are made on the first use of an id and put into a map.  That is two races,
    for the entry of an id and for a cell, and the loser of the first has made
    an entry for nothing.  Still the cached machine is at every moment the
    direct machine with the SAME family (`cached_simulates`). -/

namespace HandleCache

open Interleaving SharedLog

/-- Entries with one cell per slot: what an id is labelled with is computed
    once, when its entry is made, and never changes. -/
structure Layout (Id Slot K : Type) [DecidableEq Slot] where
  Entry : Type
  make : Id → Entry
  key : Entry → Slot → K
  cell : Entry → Slot → Option Nat
  setCell : Entry → Slot → Nat → Entry
  cell_make : ∀ id slot, cell (make id) slot = none
  key_setCell : ∀ entry slot a, key (setCell entry slot a) = key entry
  cell_setCell : ∀ entry slot a slot',
    cell (setCell entry slot a) slot' = if slot' = slot then some a else cell entry slot'

variable {Id Slot K R : Type} [DecidableEq Slot] (L : Layout Id Slot K)

def Layout.keyOf (id : Id) : Slot → K := L.key (L.make id)

/-- The family, the map from ids to shared entries, and the entries. -/
structure Shared (R : Type) where
  family : Family K R
  cached : Id → Option Nat
  arcs : List L.Entry

/-- Where a task is: it looks its id up, makes an entry if there is none,
    inserts it if there still is none, and then gets the address of a log from
    a cell and records at it, in turns. -/
inductive Task (Id Slot R : Type) where
  | lookup (id : Id) (todo : Todo Slot R)
  | construct (id : Id) (todo : Todo Slot R)
  | insert (id : Id) (own : Nat) (todo : Todo Slot R)
  | touch (id : Id) (arc : Nat) (todo : Todo Slot R)
  | record (id : Id) (arc : Nat) (slot : Slot) (handle : Nat) (r : R) (todo : Todo Slot R)

/-- A task that has made all its records. -/
def Task.Done (t : Task Id Slot R) : Prop := ∃ id arc, t = .touch id arc []

/-! ## What holds on the way -/

variable {L}

/-- A reference to an entry with the keys of an id. -/
def EntryOf (S : Shared L R) (arc : Nat) (id : Id) : Prop :=
  ∃ entry, S.arcs[arc]? = some entry ∧ L.key entry = L.keyOf id

/-- The map is to entries of the right keys, and a filled cell has the address
    the family has for its key. -/
structure Coherent (S : Shared L R) : Prop where
  cached : ∀ id arc, S.cached id = some arc → EntryOf S arc id
  cells : ∀ (arc : Nat) entry, S.arcs[arc]? = some entry → ∀ slot a,
    L.cell entry slot = some a → S.family.index (L.key entry slot) = some a

def Task.Valid (S : Shared L R) : Task Id Slot R → Prop
  | .lookup .. | .construct .. => True
  | .insert id arc _ | .touch id arc _ => EntryOf S arc id
  | .record id arc slot handle _ _ =>
      EntryOf S arc id ∧ S.family.index (L.keyOf id slot) = some handle

/-- Addresses stay with their keys, and entries keep theirs. -/
structure Extends (S S' : Shared L R) : Prop where
  index : ∀ k a, S.family.index k = some a → S'.family.index k = some a
  arcs : ∀ (arc : Nat) entry, S.arcs[arc]? = some entry →
    ∃ entry', S'.arcs[arc]? = some entry' ∧ L.key entry' = L.key entry

theorem Extends.entryOf {S S' : Shared L R} (h : Extends S S') {arc : Nat} {id : Id}
    (hentry : EntryOf S arc id) : EntryOf S' arc id := by
  obtain ⟨entry, harc, hkey⟩ := hentry
  obtain ⟨entry', harc', hkey'⟩ := h.arcs arc entry harc
  exact ⟨entry', harc', hkey'.trans hkey⟩

/-- What one task needs, no other takes away. -/
theorem Extends.valid {S S' : Shared L R} (h : Extends S S') {t : Task Id Slot R}
    (ht : Task.Valid S t) : Task.Valid S' t := by
  cases t with
  | lookup id todo => trivial
  | construct id todo => trivial
  | insert id own todo => exact h.entryOf ht
  | touch id arc todo => exact h.entryOf ht
  | record id arc slot handle r todo => exact ⟨h.entryOf ht.1, h.index _ _ ht.2⟩

theorem extends_refl (S : Shared L R) : Extends S S :=
  ⟨fun _ _ h => h, fun _ entry h => ⟨entry, h, rfl⟩⟩

/-- The entry that is made. -/
theorem entryOf_push (S : Shared L R) (id : Id) :
    EntryOf { S with arcs := S.arcs ++ [L.make id] } S.arcs.length id := by
  refine ⟨L.make id, ?_, rfl⟩
  show (S.arcs ++ [L.make id])[S.arcs.length]? = some (L.make id)
  rw [List.getElem?_append_right (Nat.le_refl _), Nat.sub_self]
  rfl

theorem extends_push (S : Shared L R) (entry : L.Entry) :
    Extends S { S with arcs := S.arcs ++ [entry] } := by
  refine ⟨fun _ _ h => h, fun arc old h => ⟨old, ?_, rfl⟩⟩
  obtain ⟨hlt, _⟩ := List.getElem?_eq_some_iff.mp h
  show (S.arcs ++ [entry])[arc]? = some old
  rw [List.getElem?_append_left hlt]
  exact h

/-! ## Steps -/

variable [DecidableEq K] [DecidableEq Id]

/-- `get_or_init` of a cell: its address, or that of the family for the key of
    the entry, which the cell keeps. -/
def getOrInit (S : Shared L R) (arc : Nat) (entry : L.Entry) (slot : Slot) : Nat × Shared L R :=
  match L.cell entry slot with
  | some a => (a, S)
  | none => ((S.family.getOrCreate (L.key entry slot)).1, { S with
      family := (S.family.getOrCreate (L.key entry slot)).2
      arcs := S.arcs.set arc (L.setCell entry slot (S.family.getOrCreate (L.key entry slot)).1) })

/-- The entry of an id, made and inserted if there is none. -/
def getOrInsert (S : Shared L R) (id : Id) : Nat × Shared L R :=
  match S.cached id with
  | some arc => (arc, S)
  | none => (S.arcs.length, { S with
      cached := Function.update S.cached id (some S.arcs.length)
      arcs := S.arcs ++ [L.make id] })

/-- All records of a list, each through its cell of an entry. -/
def recordAll (S : Shared L R) (arc : Nat) : Todo Slot R → Shared L R
  | [] => S
  | (slot, r) :: todo =>
      match S.arcs[arc]? with
      -- a reference is never dangling
      | none => S
      | some entry =>
          recordAll { (getOrInit S arc entry slot).2 with
            family := (getOrInit S arc entry slot).2.family.record
              (getOrInit S arc entry slot).1 r } arc todo

def Task.step (t : Task Id Slot R) (S : Shared L R) : Task Id Slot R × Shared L R :=
  match t with
  | .lookup id todo =>
      match S.cached id with
      | some arc => (.touch id arc todo, S)
      | none => (.construct id todo, S)
  | .construct id todo =>
      (.insert id S.arcs.length todo, { S with arcs := S.arcs ++ [L.make id] })
  | .insert id own todo =>
      match S.cached id with
      | some arc => (.touch id arc todo, S)
      | none => (.touch id own todo, { S with cached := Function.update S.cached id (some own) })
  | .touch id arc [] => (.touch id arc [], S)
  | .touch id arc ((slot, r) :: todo) =>
      match S.arcs[arc]? with
      | none => (.touch id arc ((slot, r) :: todo), S)
      | some entry =>
          (.record id arc slot (getOrInit S arc entry slot).1 r todo,
            (getOrInit S arc entry slot).2)
  | .record id arc _ handle r todo =>
      (.touch id arc todo, { S with family := S.family.record handle r })

omit [DecidableEq Id] in
/-- What `get_or_init` comes to: the answer and the family as if the family had
    been asked, and all that was there before. -/
theorem getOrInit_spec {S : Shared L R} (h : Coherent S) {arc : Nat} {entry : L.Entry}
    (harc : S.arcs[arc]? = some entry) (slot : Slot) :
    ((getOrInit S arc entry slot).1, (getOrInit S arc entry slot).2.family)
        = S.family.getOrCreate (L.key entry slot)
      ∧ Extends S (getOrInit S arc entry slot).2 ∧ Coherent (getOrInit S arc entry slot).2 := by
  rw [getOrInit]
  cases hcell : L.cell entry slot with
  | some a =>
      refine ⟨?_, extends_refl S, h⟩
      rw [Family.getOrCreate_of_some (h.cells arc entry harc slot a hcell)]
  | none =>
      have hlt : arc < S.arcs.length := (List.getElem?_eq_some_iff.mp harc).1
      have hext : Extends S { S with
          family := (S.family.getOrCreate (L.key entry slot)).2
          arcs := S.arcs.set arc
            (L.setCell entry slot (S.family.getOrCreate (L.key entry slot)).1) } := by
        refine ⟨fun _ _ hindex => Family.index_getOrCreate_mono hindex, fun arc' old hold => ?_⟩
        by_cases hsame : arc = arc'
        · -- the one entry that changes keeps its keys
          rw [← hsame] at hold ⊢
          obtain rfl : entry = old := Option.some.inj (harc.symm.trans hold)
          refine ⟨_, List.getElem?_set_self hlt, ?_⟩
          exact L.key_setCell ..
        · refine ⟨old, ?_, rfl⟩
          show (S.arcs.set arc _)[arc']? = some old
          rw [List.getElem?_set_ne hsame]
          exact hold
      refine ⟨rfl, hext, fun id arc' hcached => hext.entryOf (h.cached id arc' hcached), ?_⟩
      intro arc' entry' harc' slot' a ha
      by_cases hsame : arc = arc'
      · rw [← hsame] at harc'
        have hset : L.setCell entry slot (S.family.getOrCreate (L.key entry slot)).1 = entry' :=
          Option.some.inj ((List.getElem?_set_self hlt).symm.trans harc')
        rw [← hset, L.cell_setCell] at ha
        rw [← hset, L.key_setCell]
        by_cases hslot : slot' = slot
        · rw [if_pos hslot] at ha
          rw [hslot, ← ha]
          exact Family.index_getOrCreate ..
        · rw [if_neg hslot] at ha
          exact Family.index_getOrCreate_mono (h.cells arc entry harc slot' a ha)
      · have hold : S.arcs[arc']? = some entry' := by
          rw [← harc']
          exact (List.getElem?_set_ne hsame).symm
        exact Family.index_getOrCreate_mono (h.cells arc' entry' hold slot' a ha)

omit [DecidableEq K] [DecidableEq Id] in
/-- An entry that is made has empty cells. -/
theorem coherent_push {S : Shared L R} (h : Coherent S) (id : Id) :
    Coherent { S with arcs := S.arcs ++ [L.make id] } := by
  refine ⟨fun id' arc hcached => (extends_push S (L.make id)).entryOf (h.cached id' arc hcached),
    ?_⟩
  intro arc entry harc slot a ha
  have hget : (S.arcs ++ [L.make id])[arc]? = some entry := harc
  by_cases hlt : arc < S.arcs.length
  · rw [List.getElem?_append_left hlt] at hget
    exact h.cells arc entry hget slot a ha
  · rw [List.getElem?_append_right (Nat.le_of_not_lt hlt)] at hget
    obtain rfl : L.make id = entry := by
      have hmem := List.mem_of_getElem? hget
      exact (List.mem_singleton.mp hmem).symm
    rw [L.cell_make] at ha
    exact nomatch ha

omit [DecidableEq K] in
/-- An id may be sent to any entry of its keys. -/
theorem coherent_insert {S : Shared L R} (h : Coherent S) {id : Id} {own : Nat}
    (hown : EntryOf S own id) :
    Coherent { S with cached := Function.update S.cached id (some own) } := by
  refine ⟨fun id' arc hcached => ?_, h.cells⟩
  have hupdate : Function.update S.cached id (some own) id' = some arc := hcached
  by_cases hid : id' = id
  · rw [hid, Function.update_self] at hupdate
    cases hupdate
    rw [hid]
    exact hown
  · rw [Function.update_of_ne hid] at hupdate
    exact h.cached id' arc hupdate

/-- **ONE STEP** keeps the cells and the map coherent, leaves its task valid,
    and takes nothing from the others. -/
theorem Task.step_keeps {S : Shared L R} (h : Coherent S) {t : Task Id Slot R}
    (ht : Task.Valid S t) :
    Coherent (t.step S).2 ∧ Task.Valid (t.step S).2 (t.step S).1 ∧ Extends S (t.step S).2 := by
  cases t with
  | lookup id todo =>
      rw [Task.step]
      cases hcached : S.cached id with
      | some arc => exact ⟨h, h.cached id arc hcached, extends_refl S⟩
      | none => exact ⟨h, trivial, extends_refl S⟩
  | construct id todo =>
      exact ⟨coherent_push h id, entryOf_push S id, extends_push S (L.make id)⟩
  | insert id own todo =>
      rw [Task.step]
      cases hcached : S.cached id with
      | some arc => exact ⟨h, h.cached id arc hcached, extends_refl S⟩
      | none => exact ⟨coherent_insert h ht, ht, ⟨fun _ _ hi => hi, fun _ e he => ⟨e, he, rfl⟩⟩⟩
  | touch id arc todo =>
      cases todo with
      | nil => exact ⟨h, ht, extends_refl S⟩
      | cons sr todo =>
          obtain ⟨slot, r⟩ := sr
          obtain ⟨entry, harc, hkey⟩ := ht
          obtain ⟨hasked, hext, hcoherent⟩ := getOrInit_spec h harc slot
          obtain ⟨hhandle, hfamily⟩ := Prod.mk.inj hasked
          rw [Task.step, harc]
          refine ⟨hcoherent, ⟨hext.entryOf ⟨entry, harc, hkey⟩, ?_⟩, hext⟩
          show (getOrInit S arc entry slot).2.family.index (L.keyOf id slot)
            = some (getOrInit S arc entry slot).1
          rw [hfamily, hhandle, ← hkey]
          exact Family.index_getOrCreate ..
  | record id arc slot handle r todo =>
      exact ⟨⟨h.cached, h.cells⟩, ht.1, ⟨fun _ _ hi => hi, fun _ e he => ⟨e, he, rfl⟩⟩⟩

theorem Task.undisturbed :
    Undisturbed (Task.step (L := L) (R := R)) Coherent Task.Valid := by
  intro S t h ht
  obtain ⟨hcoherent, hvalid, hext⟩ := Task.step_keeps h ht
  exact ⟨hcoherent, hvalid, fun other hother => hext.valid hother⟩

/-! ## A task alone -/

/-- Steps of a task that no other interrupts. -/
def Task.alone : Nat → Task Id Slot R → Shared L R → Task Id Slot R × Shared L R
  | 0, t, S => (t, S)
  | n + 1, t, S => Task.alone n (t.step S).1 (t.step S).2

theorem alone_touch (id : Id) (arc : Nat) (todo : Todo Slot R) {S : Shared L R}
    (h : Coherent S) (hentry : EntryOf S arc id) :
    Task.alone (2 * todo.length) (.touch id arc todo) S
      = (.touch id arc [], recordAll S arc todo) := by
  induction todo generalizing S with
  | nil => rfl
  | cons sr todo ih =>
      obtain ⟨slot, r⟩ := sr
      obtain ⟨entry, harc, hkey⟩ := hentry
      obtain ⟨_, hext, hcoherent⟩ := getOrInit_spec h harc slot
      have htouch : (Task.touch id arc ((slot, r) :: todo)).step S
          = (.record id arc slot (getOrInit S arc entry slot).1 r todo,
            (getOrInit S arc entry slot).2) := by
        rw [Task.step, harc]
      show Task.alone (2 * todo.length + 2) _ S = _
      rw [Task.alone, htouch, Task.alone, recordAll, harc]
      exact ih ⟨hcoherent.cached, hcoherent.cells⟩ (hext.entryOf ⟨entry, harc, hkey⟩)

/-- Uninterrupted a task gets the entry of its id and makes all its records. -/
theorem alone_lookup (id : Id) (todo : Todo Slot R) {S : Shared L R} (h : Coherent S) :
    ∃ n ≤ 3 + 2 * todo.length, Task.alone n (.lookup id todo) S
      = (.touch id (getOrInsert S id).1 [],
          recordAll (getOrInsert S id).2 (getOrInsert S id).1 todo) := by
  cases hcached : S.cached id with
  | some arc =>
      have hlookup : (Task.lookup id todo).step S = (.touch id arc todo, S) := by
        rw [Task.step, hcached]
      refine ⟨2 * todo.length + 1, by omega, ?_⟩
      rw [Task.alone, hlookup, getOrInsert, hcached]
      exact alone_touch id arc todo h (h.cached id arc hcached)
  | none =>
      have hlookup : (Task.lookup id todo).step S = (.construct id todo, S) := by
        rw [Task.step, hcached]
      have hown := entryOf_push S id
      have hinsert : (Task.insert id S.arcs.length todo).step
            { S with arcs := S.arcs ++ [L.make id] }
          = (.touch id (getOrInsert S id).1 todo, (getOrInsert S id).2) := by
        rw [Task.step, getOrInsert, hcached]
      refine ⟨2 * todo.length + 3, by omega, ?_⟩
      rw [Task.alone, hlookup, Task.alone]
      show Task.alone (2 * todo.length + 1) (.insert id S.arcs.length todo)
        { S with arcs := S.arcs ++ [L.make id] } = _
      rw [Task.alone, hinsert, getOrInsert, hcached]
      exact alone_touch id S.arcs.length todo (coherent_insert (coherent_push h id) hown) hown

/-! ## Progress -/

/-- The steps a task has still to take, at most. -/
def Task.remaining : Task Id Slot R → Nat
  | .lookup _ todo => 3 + 2 * todo.length
  | .construct _ todo => 2 + 2 * todo.length
  | .insert _ _ todo => 1 + 2 * todo.length
  | .touch _ _ todo => 2 * todo.length
  | .record _ _ _ _ _ todo => 1 + 2 * todo.length

theorem Task.remaining_step (S : Shared L R) (t : Task Id Slot R) (_ : Coherent S)
    (ht : Task.Valid S t) : (t.step S).1.remaining ≤ t.remaining - 1 := by
  cases t with
  | lookup id todo =>
      rw [Task.step]
      cases S.cached id with
      | some arc =>
          show 2 * todo.length ≤ 3 + 2 * todo.length - 1
          omega
      | none =>
          show 2 + 2 * todo.length ≤ 3 + 2 * todo.length - 1
          omega
  | construct id todo =>
      show 1 + 2 * todo.length ≤ 2 + 2 * todo.length - 1
      omega
  | insert id own todo =>
      have hone : 2 * todo.length ≤ 1 + 2 * todo.length - 1 := by omega
      rw [Task.step]
      cases S.cached id with
      | some arc => exact hone
      | none => exact hone
  | touch id arc todo =>
      cases todo with
      | nil => exact Nat.zero_le _
      | cons sr todo =>
          obtain ⟨entry, harc, _⟩ := ht
          rw [Task.step, harc]
          show 1 + 2 * todo.length ≤ 2 * (todo.length + 1) - 1
          omega
  | record id arc slot handle r todo =>
      show 2 * todo.length ≤ 1 + 2 * todo.length - 1
      omega

omit [DecidableEq Slot] [DecidableEq K] [DecidableEq Id] in
theorem Task.done_of_remaining {t : Task Id Slot R} (h : t.remaining = 0) : t.Done := by
  cases t with
  | touch id arc todo =>
      have hempty : 2 * todo.length = 0 := h
      obtain rfl : todo = [] := List.eq_nil_of_length_eq_zero (by omega)
      exact ⟨id, arc, rfl⟩
  | lookup id todo => simp [Task.remaining] at h
  | construct id todo => simp [Task.remaining] at h
  | insert id own todo => simp [Task.remaining] at h
  | record id arc slot handle r todo => simp [Task.remaining] at h

/-! ## The direct machine in it -/

variable (L) in
/-- A task without its way to the entry: it asks the family for the keys of its
    id. -/
def Task.seen : Task Id Slot R → Direct Id Slot K R
  | .lookup id todo | .construct id todo | .insert id _ todo | .touch id _ todo => .touch id todo
  | .record id _ slot handle r todo => .record id (L.keyOf id slot) handle r todo

/-- A step is one of the direct machine, or is not seen. -/
theorem Task.step_seen (S : Shared L R) (t : Task Id Slot R) (h : Coherent S)
    (ht : Task.Valid S t) :
    (Task.seen L (t.step S).1, (t.step S).2.family) = (Task.seen L t, S.family)
      ∨ (Task.seen L (t.step S).1, (t.step S).2.family)
        = Direct.step L.keyOf (Task.seen L t) S.family := by
  cases t with
  | lookup id todo =>
      rw [Task.step]
      cases S.cached id with
      | some arc => exact Or.inl rfl
      | none => exact Or.inl rfl
  | construct id todo => exact Or.inl rfl
  | insert id own todo =>
      rw [Task.step]
      cases S.cached id with
      | some arc => exact Or.inl rfl
      | none => exact Or.inl rfl
  | touch id arc todo =>
      cases todo with
      | nil => exact Or.inl rfl
      | cons sr todo =>
          obtain ⟨slot, r⟩ := sr
          obtain ⟨entry, harc, hkey⟩ := ht
          obtain ⟨hhandle, hfamily⟩ := Prod.mk.inj (getOrInit_spec h harc slot).1
          refine Or.inr ?_
          rw [Task.step, harc]
          show (Direct.record id (L.keyOf id slot) (getOrInit S arc entry slot).1 r todo,
            (getOrInit S arc entry slot).2.family) = _
          rw [hhandle, hfamily, hkey]
          rfl
  | record id arc slot handle r todo => exact Or.inr rfl

/-- The tasks of a cached machine, with empty caches. -/
def Task.start (L : Layout Id Slot K) (tasks : List (Id × Todo Slot R)) :
    List (Task Id Slot R) × Shared L R :=
  (tasks.map fun t => .lookup t.1 t.2, ⟨.empty, fun _ => none, []⟩)

omit [DecidableEq K] [DecidableEq Id] in
theorem Task.start_holds (tasks : List (Id × Todo Slot R)) :
    Holds Coherent Task.Valid (Task.start L tasks) := by
  refine ⟨⟨?_, ?_⟩, fun t ht => ?_⟩
  · intro id arc hcached
    exact nomatch hcached
  · intro arc entry harc
    exact nomatch harc
  · obtain ⟨task, _, rfl⟩ := List.mem_map.mp ht
    trivial

/-- **PROGRESS**: a schedule that lets every task take its steps finishes all. -/
theorem cached_finishes {tasks : List (Id × Todo Slot R)} {schedule : List Nat}
    (hturns : ∀ i task, tasks[i]? = some task → 3 + 2 * task.2.length ≤ schedule.count i) :
    ∀ t ∈ (run Task.step schedule (Task.start L tasks)).1, t.Done := by
  intro t ht
  refine Task.done_of_remaining (run_finishes Task.undisturbed Task.remaining_step schedule _
    (Task.start_holds tasks) (fun i t' hi => ?_) t ht)
  rw [Task.start, List.getElem?_map, Option.map_eq_some_iff] at hi
  obtain ⟨task, htask, rfl⟩ := hi
  exact hturns i task htask

/-- **SIMULATION**: after every schedule the family is that of the direct
    machine after the steps of it that are seen, and the tasks are where its
    tasks are. -/
theorem cached_simulates (tasks : List (Id × Todo Slot R)) (schedule : List Nat) :
    ∃ seen, seen.Sublist schedule
      ∧ ((run Task.step schedule (Task.start L tasks)).1.map (Task.seen L),
          (run Task.step schedule (Task.start L tasks)).2.family)
        = run (Direct.step L.keyOf) seen (Direct.start tasks) := by
  obtain ⟨seen, hsub, hrun⟩ := run_simulates Task.undisturbed
    (fun S t h ht => Task.step_seen S t h ht) schedule _ (Task.start_holds (L := L) tasks)
  refine ⟨seen, hsub, hrun.trans (congrArg (run _ seen) ?_)⟩
  rw [see, Task.start, Direct.start, List.map_map]
  rfl

omit [DecidableEq K] [DecidableEq Id] in
theorem Task.seen_done {tasks : List (Task Id Slot R)} (hdone : ∀ t ∈ tasks, t.Done) :
    ∀ t ∈ tasks.map (Task.seen L), t.Done := by
  intro t ht
  obtain ⟨task, htask, rfl⟩ := List.mem_map.mp ht
  obtain ⟨id, arc, rfl⟩ := hdone task htask
  exact ⟨id, rfl⟩

/-- **DONE**: where all tasks are done the log of a key is what they meant for
    it, and there is one exactly if that is anything. -/
theorem cached_done {tasks : List (Id × Todo Slot R)} {schedule : List Nat}
    (hdone : ∀ t ∈ (run Task.step schedule (Task.start L tasks)).1, t.Done) (k : K) :
    ((run Task.step schedule (Task.start L tasks)).2.family.log k : Multiset R)
        = planned L.keyOf tasks k
      ∧ ((run Task.step schedule (Task.start L tasks)).2.family.index k = none
        ↔ planned L.keyOf tasks k = 0) := by
  obtain ⟨seen, _, hrun⟩ := cached_simulates (L := L) tasks schedule
  have htasks := congrArg Prod.fst hrun
  have hfamily := congrArg Prod.snd hrun
  dsimp only at htasks hfamily
  have hdirect := Task.seen_done (L := L) hdone
  rw [htasks] at hdirect
  rw [hfamily]
  exact direct_done L.keyOf hdirect k

end HandleCache
