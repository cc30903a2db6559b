import Mathlib.Data.List.Infix
import Shakedown.Proofs.Toml.Keys

/-!
# Tables only grow

No change that a statement makes to a table under construction takes anything away. A key stays in
its table, and the value that was assigned to it stays its value. `Entries.Has` says what the table
at a path holds; where there is a list of tables on the way, the path leads to its latest element,
or to some element of it.

What a change does at the end of a path is lifted to the table from which the path starts, once for
what it leaves there (`Leaves.reach`) and once for what it keeps elsewhere (`keepsHas_reach`).
-/

set_option autoImplicit false

namespace Shakedown.Toml

namespace Entries

/-! ## Tables that grow -/

/-- Whether a table keeps all keys, and all values that were assigned to them. -/
structure Grew (before after : Entries) : Prop where
  keys : ∀ key, (before.lookup key).isSome = true → (after.lookup key).isSome = true
  values : ∀ key v, before.lookup key = some (.value v) → after.lookup key = some (.value v)

/-- Whether a property of tables lasts while they grow. -/
def Lasting (P : Entries → Prop) : Prop :=
  ∀ before after, Grew before after → P before → P after

/-- Whether a key is in a table. -/
def HasKey (key : String) (entries : Entries) : Prop :=
  (entries.lookup key).isSome = true

/-- Whether a table has a value for a key. -/
def HasValue (key : String) (v : Value) (entries : Entries) : Prop :=
  entries.lookup key = some (.value v)

/-- A key stays in a table that grows. -/
theorem lasting_hasKey (key : String) : Lasting (HasKey key) :=
  fun _ _ hgrew => hgrew.keys key

/-- A value stays in a table that grows. -/
theorem lasting_hasValue (key : String) (v : Value) : Lasting (HasValue key v) :=
  fun _ _ hgrew => hgrew.values key v

/-- Two properties that last do so together. -/
theorem Lasting.and {P Q : Entries → Prop} (hP : Lasting P) (hQ : Lasting Q) :
    Lasting fun entries => P entries ∧ Q entries :=
  fun before after hgrew h => ⟨hP before after hgrew h.1, hQ before after hgrew h.2⟩

/-- Whether a table is the latest of a list of tables, or just one of them. -/
def Stands (latest : Bool) (elements : List Entries) (element : Entries) : Prop :=
  if latest then elements.getLast? = some element else element ∈ elements

/-- Whether the table at a path has a property. In a list of tables the path leads to the latest, or
to any. -/
def Has (latest : Bool) (P : Entries → Prop) : List String → Entries → Prop
  | [], entries => P entries
  | key :: path, entries =>
    match entries.lookup key with
    | some (.table _ inner) => Has latest P path inner
    | some (.tables elements) =>
      ∃ element, Stands latest elements element ∧ Has latest P path element
    | _ => False

variable {latest : Bool} {P Q : Entries → Prop} {entries entries' : Entries} {key : String}
  {node : Node} {path header : List String} {change : Change} {dotted : Bool} {origin : Origin}

/-- A path goes on into the table under its first key. -/
theorem has_cons_of_table {inner : Entries} (h : entries.lookup key = some (.table origin inner)) :
    Has latest P (key :: path) entries ↔ Has latest P path inner := by
  simp only [Has, h]

/-- A path goes on into the latest table of a list under its first key, or into any of them. -/
theorem has_cons_of_tables {elements : List Entries}
    (h : entries.lookup key = some (.tables elements)) :
    Has latest P (key :: path) entries ↔
      ∃ element, Stands latest elements element ∧ Has latest P path element := by
  simp only [Has, h]

/-- A path whose first key is missing leads to no table. -/
theorem not_has_cons_of_none (h : entries.lookup key = none) :
    ¬Has latest P (key :: path) entries := by
  simp [Has, h]

/-- Where a path leads depends on the node of its first key only. -/
theorem has_cons_congr (h : entries'.lookup key = entries.lookup key) :
    Has latest P (key :: path) entries' ↔ Has latest P (key :: path) entries := by
  simp only [Has, h]

/-- What the latest tables have some tables have. -/
theorem Has.some (h : Has true P path entries) : Has false P path entries := by
  induction path generalizing entries with
  | nil => exact h
  | cons key path ih =>
    cases hlookup : entries.lookup key with
    | none => exact absurd h (not_has_cons_of_none hlookup)
    | some node =>
      cases node with
      | value v => simp [Has, hlookup] at h
      | table origin inner =>
        rw [has_cons_of_table hlookup] at h ⊢
        exact ih h
      | tables elements =>
        rw [has_cons_of_tables hlookup] at h ⊢
        obtain ⟨element, hlast, helement⟩ := h
        exact ⟨element, List.mem_of_getLast? hlast, ih helement⟩

/-- A path through the latest tables leads to one table, which has both properties. -/
theorem Has.and (hP : Has true P path entries) (hQ : Has true Q path entries) :
    Has true (fun entries => P entries ∧ Q entries) path entries := by
  induction path generalizing entries with
  | nil => exact ⟨hP, hQ⟩
  | cons key path ih =>
    cases hlookup : entries.lookup key with
    | none => exact absurd hP (not_has_cons_of_none hlookup)
    | some node =>
      cases node with
      | value v => simp [Has, hlookup] at hP
      | table origin inner =>
        rw [has_cons_of_table hlookup] at hP hQ ⊢
        exact ih hP hQ
      | tables elements =>
        rw [has_cons_of_tables hlookup] at hP hQ ⊢
        obtain ⟨element, hlast, helement⟩ := hP
        obtain ⟨element', hlast', helement'⟩ := hQ
        obtain rfl : element = element' := Option.some.inj (hlast.symm.trans hlast')
        exact ⟨element, hlast, ih helement helement'⟩

/-! ## One entry is set -/

/-- A node that is replaced leaves the other keys as they were. -/
theorem lookup_replace_of_ne {other : String} (h : other ≠ key) :
    (entries.replace key node).lookup other = entries.lookup other := by
  have hne : (other == key) = false := by simpa using h
  unfold replace
  induction entries with
  | nil => rfl
  | cons e more ih =>
    obtain ⟨first, n⟩ := e
    by_cases hfirst : first = key
    · simp [hfirst, List.lookup_cons, hne, ih]
    · simp [hfirst, List.lookup_cons, ih]

/-- A node that is replaced is the one that its key leads to. -/
theorem lookup_replace_self (hkey : (entries.lookup key).isSome = true) :
    (entries.replace key node).lookup key = some node := by
  unfold replace
  induction entries with
  | nil => cases hkey
  | cons e more ih =>
    obtain ⟨first, n⟩ := e
    by_cases hfirst : first = key
    · simp [hfirst]
    · have hne : (key == first) = false := by simpa using Ne.symm hfirst
      rw [List.lookup_cons, hne] at hkey
      simp [hfirst, List.lookup_cons, hne, ih hkey]

/-- A key that is taken out leaves the other keys as they were. -/
theorem lookup_without_of_ne {other : String} (h : other ≠ key) :
    (entries.without key).lookup other = entries.lookup other := by
  have hne : (other == key) = false := by simpa using h
  unfold without
  induction entries with
  | nil => rfl
  | cons e more ih =>
    obtain ⟨first, n⟩ := e
    by_cases hfirst : first = key
    · subst hfirst
      rw [List.filter_cons_of_neg (by simp), ih, List.lookup_cons, hne]
    · rw [List.filter_cons_of_pos (by simpa using hfirst), List.lookup_cons, ih, List.lookup_cons]

/-- Whether a table differs from another at most in the node of one key. -/
structure Sets (key : String) (node : Node) (entries entries' : Entries) : Prop where
  self : entries'.lookup key = some node
  other : ∀ other, other ≠ key → entries'.lookup other = entries.lookup other

namespace Sets

/-- A node of a new key at the end sets this key. -/
theorem append (hnew : entries.lookup key = none) :
    Sets key node entries (entries ++ [(key, node)]) := by
  constructor
  · simp [List.lookup_append, hnew]
  · intro other h
    have hbeq : (other == key) = false := by simpa using h
    simp [List.lookup_append, List.lookup_cons, hbeq]

/-- A node that is replaced sets its key. -/
theorem replace (hkey : (entries.lookup key).isSome = true) :
    Sets key node entries (entries.replace key node) := by
  constructor
  · exact lookup_replace_self hkey
  · intro other h
    exact lookup_replace_of_ne h

/-- A node that is taken out and added at the end sets its key. -/
theorem without_append : Sets key node entries (entries.without key ++ [(key, node)]) := by
  have happend : Sets key node (entries.without key) (entries.without key ++ [(key, node)]) :=
    append (lookup_without entries key)
  constructor
  · exact happend.self
  · intro other h
    rw [happend.other other h, lookup_without_of_ne h]

/-- A table in which a key is set has grown, unless the key had a value. -/
theorem grew (h : Sets key node entries entries')
    (hvalue : ∀ v, entries.lookup key ≠ some (.value v)) : Grew entries entries' := by
  constructor
  · intro other hother
    by_cases heq : other = key
    · simp [heq, h.self]
    · rwa [h.other other heq]
  · intro other v hother
    have heq : other ≠ key := by
      rintro rfl
      exact hvalue v hother
    rwa [h.other other heq]

/-- What holds of the tables at a path still holds if it holds behind the node that is set. -/
theorem has (h : Sets key node entries entries') (hP : Lasting P)
    (hvalue : ∀ v, entries.lookup key ≠ some (.value v))
    (hbehind : ∀ more, path = key :: more → Has latest P path entries → Has latest P path entries')
    (hhas : Has latest P path entries) : Has latest P path entries' := by
  cases path with
  | nil => exact hP entries entries' (h.grew hvalue) hhas
  | cons first more =>
    by_cases hfirst : first = key
    · subst hfirst
      exact hbehind more rfl hhas
    · exact (has_cons_congr (h.other first hfirst)).2 hhas

/-- A new key leaves what the tables at a path have, if the property lasts. -/
theorem has_of_new (h : Sets key node entries entries') (hP : Lasting P)
    (hnew : entries.lookup key = none) (hhas : Has latest P path entries) :
    Has latest P path entries' := by
  refine h.has hP (by simp [hnew]) ?_ hhas
  rintro more rfl hmore
  exact absurd hmore (not_has_cons_of_none hnew)

end Sets

/-! ## Changes at the end of a path -/

/-- A change at the end of a path sets the node of the first key. Behind it the rest of the path is
changed: in a new table, in the table that was there, or in the latest of a list of tables. -/
theorem reach_cons_eq_some (h : reach dotted change (key :: path) origin entries = some entries') :
    ∃ node, Sets key node entries entries' ∧
      ((entries.lookup key = none ∧ ∃ inner',
          reach dotted change path (newOrigin dotted) [] = some inner' ∧
          node = .table (newOrigin dotted) inner') ∨
        (∃ origin' inner inner', entries.lookup key = some (.table origin' inner) ∧
          reach dotted change path origin' inner = some inner' ∧ node = .table origin' inner') ∨
        ∃ elements last last', entries.lookup key = some (.tables elements) ∧
          elements.getLast? = some last ∧ reach dotted change path .header last = some last' ∧
          node = .tables (elements.dropLast ++ [last'])) := by
  rw [reach] at h
  split at h
  · next hnew =>
    split at h
    · cases h
    · next inner' hinner =>
      cases h
      exact ⟨_, .append hnew, .inl ⟨hnew, inner', hinner, rfl⟩⟩
  · cases h
  · next origin' inner hlookup =>
    split at h
    · cases h
    · split at h
      · cases h
      · next inner' hinner =>
        cases h
        exact ⟨_, .replace (by simp [hlookup]),
          .inr (.inl ⟨origin', inner, inner', hlookup, hinner, rfl⟩)⟩
  · next elements hlookup =>
    split at h
    · cases h
    · next last hlast =>
      split at h
      · cases h
      · next last' hinner =>
        cases h
        exact ⟨_, .replace (by simp [hlookup]),
          .inr (.inr ⟨elements, last, last', hlookup, hlast, hinner, rfl⟩)⟩

/-- The end of a path in two parts is reached by the first part, and from there by the second. -/
theorem reach_append (front back : List String) :
    reach dotted change (front ++ back) = reach dotted (reach dotted change back) front := by
  induction front with
  | nil =>
    funext origin entries
    rw [List.nil_append, reach]
  | cons key front ih =>
    funext origin entries
    rw [List.cons_append, reach, reach, ih]

/-- Whether a change leaves a table of a property at a path. -/
def Leaves (P : Entries → Prop) (path : List String) (change : Change) : Prop :=
  ∀ origin entries entries', change origin entries = some entries' → Has true P path entries'

/-- Whether a change keeps what the tables at a path have. -/
def KeepsHas (latest : Bool) (P : Entries → Prop) (path : List String) (change : Change) : Prop :=
  ∀ origin entries entries', change origin entries = some entries' →
    Has latest P path entries → Has latest P path entries'

/-- What a change leaves in its table is at the end of the path to that table. -/
theorem Leaves.reach (h : Leaves P path change) (dotted : Bool) (front : List String) :
    Leaves P (front ++ path) (reach dotted change front) := by
  induction front with
  | nil =>
    intro origin entries entries' hreach
    rw [Entries.reach] at hreach
    exact h origin entries entries' hreach
  | cons key front ih =>
    intro origin entries entries' hreach
    obtain ⟨node, hsets, ⟨-, inner, hinner, rfl⟩ | ⟨origin', _, inner, -, hinner, rfl⟩ |
      ⟨elements, _, last, -, -, hlast, rfl⟩⟩ := reach_cons_eq_some hreach
    · exact (has_cons_of_table hsets.self).2 (ih _ _ _ hinner)
    · exact (has_cons_of_table hsets.self).2 (ih _ _ _ hinner)
    · exact (has_cons_of_tables hsets.self).2 ⟨last, by simp [Stands], ih _ _ _ hlast⟩

/-- A change that sets a key leaves the key in its table. -/
theorem leaves_hasKey_of_sets (h : ∀ origin before after, change origin before = some after →
    ∃ node, Sets key node before after) : Leaves (HasKey key) [] change := by
  intro origin before after hchange
  obtain ⟨node, hsets⟩ := h origin before after hchange
  show (after.lookup key).isSome = true
  rw [hsets.self]
  rfl

/-- Every key on the way to a change is in its table then. -/
theorem leaves_reach_of_prefix (h : path ++ [key] <+: header) :
    Leaves (HasKey key) path (reach dotted change header) := by
  obtain ⟨rest, rfl⟩ := h
  have hkey : Leaves (HasKey key) [] (reach dotted change (key :: rest)) := by
    apply leaves_hasKey_of_sets
    intro origin before after hreach
    obtain ⟨node, hsets, -⟩ := reach_cons_eq_some hreach
    exact ⟨node, hsets⟩
  have hleaves := hkey.reach dotted path
  rw [List.append_nil] at hleaves
  rwa [List.append_assoc, List.singleton_append, reach_append]

/-- If the change at the end of a path keeps what the tables at the rest of another path have, all
of them keep it. -/
theorem keepsHas_reach (hP : Lasting P) (front : List String)
    (h : ∀ rest, path = front ++ rest → KeepsHas latest P rest change) :
    KeepsHas latest P path (reach dotted change front) := by
  induction front generalizing path with
  | nil =>
    intro origin entries entries' hreach
    rw [reach] at hreach
    exact h path rfl origin entries entries' hreach
  | cons key front ih =>
    intro origin entries entries' hreach hhas
    have hkeeps (more : List String) (heq : path = key :: more) :
        KeepsHas latest P more (reach dotted change front) := by
      apply ih
      intro rest hrest
      exact h rest (by rw [heq, hrest, List.cons_append])
    obtain ⟨node, hsets, ⟨hnew, -⟩ | ⟨origin', inner, inner', hlookup, hinner, rfl⟩ |
      ⟨elements, last, last', hlookup, hlast, hinner, rfl⟩⟩ := reach_cons_eq_some hreach
    · exact hsets.has_of_new hP hnew hhas
    · refine hsets.has hP (by simp [hlookup]) ?_ hhas
      rintro more rfl hmore
      rw [has_cons_of_table hlookup] at hmore
      rw [has_cons_of_table hsets.self]
      exact hkeeps more rfl _ _ _ hinner hmore
    · refine hsets.has hP (by simp [hlookup]) ?_ hhas
      rintro more rfl hmore
      rw [has_cons_of_tables hlookup] at hmore
      rw [has_cons_of_tables hsets.self]
      obtain ⟨element, hstands, helement⟩ := hmore
      have hlatest : Stands latest (elements.dropLast ++ [last']) last' := by
        cases latest <;> simp [Stands]
      -- The table that stands there is the one that was changed, or it is among the others.
      by_cases hself : element = last
      · subst hself
        exact ⟨last', hlatest, hkeeps more rfl _ _ _ hinner helement⟩
      · cases latest with
        | true => exact absurd (Option.some.inj (hstands.symm.trans hlast)) hself
        | false =>
          obtain ⟨others, rfl⟩ := List.getLast?_eq_some_iff.1 hlast
          have hothers : element ∈ others := by simpa [Stands, hself] using hstands
          rw [List.dropLast_concat]
          exact ⟨element, List.mem_append_left _ hothers, helement⟩

/-! ## The changes that statements make -/

/-- A path that is cut before its last key is what comes before and that key. -/
theorem eq_append_of_cutLast {front : List String} {last : String}
    (h : cutLast header = some (front, last)) : header = front ++ [last] := by
  induction header generalizing front with
  | nil => cases h
  | cons key more ih =>
    cases more with
    | nil =>
      cases h
      rfl
    | cons next more =>
      rw [cutLast] at h
      split at h
      · cases h
      · next front' last' hcut =>
        cases h
        rw [ih hcut, List.cons_append]
      · simp

/-- A change at the end of a path leaves every key on the path in the table before it. -/
theorem Leaves.reach_prefix {front : List String} {last : String}
    (h : Leaves (HasKey last) [] change) (hkey : path ++ [key] <+: front ++ [last]) :
    Leaves (HasKey key) path (Entries.reach dotted change front) := by
  rcases List.prefix_concat_iff.1 hkey with heq | hfront
  · obtain ⟨rfl, hlast⟩ := List.append_inj' heq rfl
    obtain rfl : key = last := by simpa using hlast
    have hleaves := h.reach dotted path
    rwa [List.append_nil] at hleaves
  · exact leaves_reach_of_prefix hfront

/-- A value is put under a new key, and nothing else is changed. -/
theorem sets_of_put {v : Value} (h : put dotted key v origin entries = some entries') :
    entries.lookup key = none ∧ Sets key (.value v) entries entries' := by
  unfold put at h
  split at h
  · cases h
  · split at h
    · cases h
    · next hnew =>
      cases h
      have hnone := Option.not_isSome_iff_eq_none.1 hnew
      exact ⟨hnone, .append hnone⟩

section Insert

variable {v : Value} {full : List String}

/-- A value is inserted at the end of its path, under the last key. -/
theorem insert_eq_reach (h : insert full v origin entries = some entries') :
    ∃ front last, full = front ++ [last] ∧
      reach true (put (!front.isEmpty) last v) front origin entries = some entries' := by
  unfold insert at h
  cases hcut : cutLast full with
  | none => simp [hcut] at h
  | some cut =>
    obtain ⟨front, last⟩ := cut
    rw [hcut] at h
    exact ⟨front, last, eq_append_of_cutLast hcut, h⟩

/-- An insertion leaves every key of its path in the table before it. -/
theorem leaves_insert (h : path ++ [key] <+: full) : Leaves (HasKey key) path (insert full v) := by
  intro origin entries entries' hinsert
  obtain ⟨front, last, rfl, hreach⟩ := insert_eq_reach hinsert
  have hlast : Leaves (HasKey last) [] (put (!front.isEmpty) last v) := by
    apply leaves_hasKey_of_sets
    intro origin before after hput
    exact ⟨_, (sets_of_put hput).2⟩
  exact hlast.reach_prefix h _ _ _ hreach

/-- An insertion leaves its value at the end of its path. -/
theorem leaves_insert_value (h : full = path ++ [key]) :
    Leaves (HasValue key v) path (insert full v) := by
  intro origin entries entries' hinsert
  obtain ⟨front, last, rfl, hreach⟩ := insert_eq_reach hinsert
  obtain ⟨rfl, hlast⟩ := List.append_inj' h rfl
  obtain rfl : last = key := by simpa using hlast
  have hvalue : Leaves (HasValue last v) [] (put (!front.isEmpty) last v) := by
    intro origin entries entries' hput
    exact (sets_of_put hput).2.self
  have hleaves := hvalue.reach true front
  rw [List.append_nil] at hleaves
  exact hleaves _ _ _ hreach

/-- An insertion keeps what the tables at any path have, if the property lasts. -/
theorem keepsHas_insert (hP : Lasting P) : KeepsHas latest P path (insert full v) := by
  intro origin entries entries' hinsert
  obtain ⟨front, last, -, hreach⟩ := insert_eq_reach hinsert
  refine keepsHas_reach hP front ?_ _ _ _ hreach
  intro rest _ origin entries entries' hput hhas
  obtain ⟨hnew, hsets⟩ := sets_of_put hput
  exact hsets.has_of_new hP hnew hhas

end Insert

/-- A header sets the node of its last key: to a new table, or to one that was implied. -/
theorem openTable_eq_reach (h : openTable header origin entries = some entries') :
    ∃ front last change, header = front ++ [last] ∧
      reach false change front origin entries = some entries' ∧
      ∀ origin before after, change origin before = some after →
        ∃ inner, Sets last (.table .header inner) before after ∧
          (before.lookup last = none ∨ before.lookup last = some (.table .implied inner)) := by
  unfold openTable at h
  cases hcut : cutLast header with
  | none => simp [hcut] at h
  | some cut =>
    obtain ⟨front, last⟩ := cut
    rw [hcut] at h
    refine ⟨front, last, _, eq_append_of_cutLast hcut, h, ?_⟩
    intro origin before after hopen
    split at hopen
    · next hnew =>
      cases hopen
      exact ⟨[], .append hnew, .inl hnew⟩
    · next inner hlookup =>
      cases hopen
      exact ⟨inner, .without_append, .inr hlookup⟩
    · cases hopen

/-- A double header sets the node of its last key: to the tables that were there and a new one. -/
theorem openElement_eq_reach (h : openElement header origin entries = some entries') :
    ∃ front last change, header = front ++ [last] ∧
      reach false change front origin entries = some entries' ∧
      ∀ origin before after, change origin before = some after →
        ∃ elements, Sets last (.tables (elements ++ [[]])) before after ∧
          (before.lookup last = none ∨ before.lookup last = some (.tables elements)) := by
  unfold openElement at h
  cases hcut : cutLast header with
  | none => simp [hcut] at h
  | some cut =>
    obtain ⟨front, last⟩ := cut
    rw [hcut] at h
    refine ⟨front, last, _, eq_append_of_cutLast hcut, h, ?_⟩
    intro origin before after hopen
    split at hopen
    · next hnew =>
      cases hopen
      exact ⟨[], .append hnew, .inl hnew⟩
    · next elements hlookup =>
      cases hopen
      exact ⟨elements, .replace (by simp [hlookup]), .inr hlookup⟩
    · cases hopen

/-- A header of a table leaves every key of it in the table before the key. -/
theorem leaves_openTable (h : path ++ [key] <+: header) :
    Leaves (HasKey key) path (openTable header) := by
  intro origin entries entries' hopen
  obtain ⟨front, last, change, rfl, hreach, hchange⟩ := openTable_eq_reach hopen
  have hlast : Leaves (HasKey last) [] change := by
    apply leaves_hasKey_of_sets
    intro origin before after hset
    obtain ⟨inner, hsets, -⟩ := hchange _ _ _ hset
    exact ⟨_, hsets⟩
  exact hlast.reach_prefix h _ _ _ hreach

/-- A header of a list element leaves every key of it in the table before the key. -/
theorem leaves_openElement (h : path ++ [key] <+: header) :
    Leaves (HasKey key) path (openElement header) := by
  intro origin entries entries' hopen
  obtain ⟨front, last, change, rfl, hreach, hchange⟩ := openElement_eq_reach hopen
  have hlast : Leaves (HasKey last) [] change := by
    apply leaves_hasKey_of_sets
    intro origin before after hset
    obtain ⟨elements, hsets, -⟩ := hchange _ _ _ hset
    exact ⟨_, hsets⟩
  exact hlast.reach_prefix h _ _ _ hreach

/-- A header of a table keeps what the tables at any path have, if the property lasts. -/
theorem keepsHas_openTable (hP : Lasting P) : KeepsHas latest P path (openTable header) := by
  intro origin entries entries' hopen
  obtain ⟨front, last, change, -, hreach, hchange⟩ := openTable_eq_reach hopen
  refine keepsHas_reach hP front ?_ _ _ _ hreach
  intro rest _ origin before after hset hhas
  obtain ⟨inner, hsets, hnew | hlookup⟩ := hchange _ _ _ hset
  · exact hsets.has_of_new hP hnew hhas
  · refine hsets.has hP (by simp [hlookup]) ?_ hhas
    rintro more rfl hmore
    rw [has_cons_of_table hlookup] at hmore
    rwa [has_cons_of_table hsets.self]

/-- A double header may only add a latest table where no path leads through it. -/
theorem keepsHas_openElement (hP : Lasting P) (h : latest = true → ¬header <+: path) :
    KeepsHas latest P path (openElement header) := by
  intro origin entries entries' hopen
  obtain ⟨front, last, change, rfl, hreach, hchange⟩ := openElement_eq_reach hopen
  refine keepsHas_reach hP front ?_ _ _ _ hreach
  intro rest hrest origin before after hset hhas
  obtain ⟨elements, hsets, hnew | hlookup⟩ := hchange _ _ _ hset
  · exact hsets.has_of_new hP hnew hhas
  · refine hsets.has hP (by simp [hlookup]) ?_ hhas
    rintro more rfl hmore
    have hlatest : latest = false := by
      by_contra hne
      refine h (by simpa using hne) ⟨more, ?_⟩
      rw [hrest, List.append_assoc, List.singleton_append]
    subst hlatest
    rw [has_cons_of_tables hlookup] at hmore
    rw [has_cons_of_tables hsets.self]
    obtain ⟨element, hstands, helement⟩ := hmore
    exact ⟨element, List.mem_append_left _ hstands, helement⟩

end Entries

end Shakedown.Toml
