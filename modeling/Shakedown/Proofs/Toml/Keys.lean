import Mathlib.Data.List.Nodup
import Shakedown.Toml.Document

/-!
# No key comes twice

A value is `Keyed` if no table within it has a key twice, and so is a table under construction.
Every change that a statement makes to a document keeps it keyed, since a key is only added where a
look-up finds none: `keyed_reach` lifts this from the end of a path to the root, and `keyed_value`
provides it for the tables that stand on one line.

Main statement: `keyed_of_parse`, every document that is read is keyed. So the order of its keys
says nothing, and a look-up finds all that the document says about a key.
-/

set_option autoImplicit false

namespace Shakedown.Toml

/-- Whether no table within a value has a key twice. -/
inductive Value.Keyed : Value → Prop
  | text (s : String) : Keyed (.text s)
  | integer (n : Int) : Keyed (.integer n)
  | real (x : Real) : Keyed (.real x)
  | boolean (b : Bool) : Keyed (.boolean b)
  | moment : Keyed .moment
  | list {items : List Value} (h : ∀ v ∈ items, Keyed v) : Keyed (.list items)
  | table {fields : List (String × Value)} (hkeys : (fields.map Prod.fst).Nodup)
      (h : ∀ f ∈ fields, Keyed f.2) : Keyed (.table fields)

/-- Whether no table within a node has a key twice. -/
inductive Node.Keyed : Node → Prop
  | value {v : Value} (h : v.Keyed) : Keyed (.value v)
  | table {origin : Origin} {entries : Entries} (hkeys : (entries.map Prod.fst).Nodup)
      (h : ∀ e ∈ entries, Keyed e.2) : Keyed (.table origin entries)
  | tables {elements : List Entries} (hkeys : ∀ entries ∈ elements, (entries.map Prod.fst).Nodup)
      (h : ∀ entries ∈ elements, ∀ e ∈ entries, Keyed e.2) : Keyed (.tables elements)

/-- Whether a table under construction has no key twice, nor any table within it. -/
def Entries.Keyed (entries : Entries) : Prop :=
  (entries.map Prod.fst).Nodup ∧ ∀ e ∈ entries, e.2.Keyed

/-- A table has no key twice if its entries have none. -/
theorem Node.keyed_table {origin : Origin} {entries : Entries} :
    (Node.table origin entries).Keyed ↔ entries.Keyed := by
  constructor
  · intro h
    cases h with
    | table hkeys h => exact ⟨hkeys, h⟩
  · intro h
    exact .table h.1 h.2

/-- A list of tables has no key twice if none of its tables has. -/
theorem Node.keyed_tables {elements : List Entries} :
    (Node.tables elements).Keyed ↔ ∀ entries ∈ elements, Entries.Keyed entries := by
  constructor
  · intro h entries hentries
    cases h with
    | tables hkeys h => exact ⟨hkeys entries hentries, h entries hentries⟩
  · intro h
    exact .tables (fun entries he => (h entries he).1) fun entries he => (h entries he).2

/-! ## Finished tables -/

/-- Entries are finished one by one. -/
theorem finishEntries_eq_map (entries : Entries) :
    finishEntries entries = entries.map fun e => (e.1, e.2.finish) := by
  induction entries with
  | nil => rfl
  | cons e entries ih => rw [finishEntries, ih, List.map_cons]

/-- Finished entries have the same keys. -/
theorem map_fst_finishEntries (entries : Entries) :
    (finishEntries entries).map Prod.fst = entries.map Prod.fst := by
  rw [finishEntries_eq_map, List.map_map]
  rfl

/-- The tables of a list are finished one by one. -/
theorem finishElements_eq_map (elements : List Entries) :
    finishElements elements = elements.map fun entries => .table (finishEntries entries) := by
  induction elements with
  | nil => rfl
  | cons entries more ih => rw [finishElements, ih, List.map_cons]

/-- A node without a key twice is finished as a value without one. -/
theorem Node.Keyed.finish {node : Node} (h : node.Keyed) : node.finish.Keyed := by
  -- The finished fields of a table are keyed if the finished nodes in it are.
  have htable {entries : Entries} (hkeys : (entries.map Prod.fst).Nodup)
      (hall : ∀ e ∈ entries, e.2.finish.Keyed) : (Value.table (finishEntries entries)).Keyed := by
    refine .table (by rwa [map_fst_finishEntries]) fun f hf => ?_
    rw [finishEntries_eq_map] at hf
    obtain ⟨e, he, rfl⟩ := List.mem_map.1 hf
    exact hall e he
  induction h with
  | value h => exact h
  | table hkeys _ ih => exact htable hkeys ih
  | tables hkeys _ ih =>
    refine .list fun v hv => ?_
    rw [finishElements_eq_map] at hv
    obtain ⟨entries, hentries, rfl⟩ := List.mem_map.1 hv
    exact htable (hkeys entries hentries) (ih entries hentries)

/-! ## Changes -/

namespace Entries

variable {entries entries' : Entries} {key : String} {node : Node}

/-- The empty table has no key twice. -/
theorem keyed_nil : Keyed [] :=
  ⟨List.nodup_nil, by simp⟩

/-- No node of a table without a key twice has one within it. -/
theorem Keyed.lookup (h : entries.Keyed) (hnode : entries.lookup key = some node) :
    node.Keyed := by
  obtain ⟨before, after, rfl, -⟩ := List.lookup_eq_some_iff.1 hnode
  exact h.2 (key, node) (by simp)

/-- A table stays keyed with a new key at its end. -/
theorem Keyed.append (h : entries.Keyed) (hnew : entries.lookup key = none) (hnode : node.Keyed) :
    Keyed (entries ++ [(key, node)]) := by
  have hkey : key ∉ entries.map Prod.fst := by
    intro hm
    obtain ⟨e, he, hfst⟩ := List.mem_map.1 hm
    have hne := List.lookup_eq_none_iff.1 hnew e he
    simp [hfst] at hne
  constructor
  · rw [List.map_append, List.nodup_append]
    refine ⟨h.1, List.nodup_singleton key, ?_⟩
    intro a ha b hb heq
    obtain rfl : b = key := by simpa using hb
    exact hkey (heq ▸ ha)
  · intro e he
    rcases List.mem_append.1 he with he | he
    · exact h.2 e he
    · obtain rfl : e = (key, node) := by simpa using he
      exact hnode

/-- A table stays keyed with a node replaced. -/
theorem Keyed.replace (h : entries.Keyed) (hnode : node.Keyed) :
    Keyed (entries.replace key node) := by
  constructor
  · have hfst : (entries.replace key node).map Prod.fst = entries.map Prod.fst := by
      rw [Entries.replace, List.map_map]
      refine List.map_congr_left fun e _ => ?_
      by_cases he : e.1 = key <;> simp [he]
    rw [hfst]
    exact h.1
  · intro e he
    obtain ⟨e', he', rfl⟩ := List.mem_map.1 he
    split
    · exact hnode
    · exact h.2 e' he'

/-- A table stays keyed with a key taken out. -/
theorem Keyed.without (h : entries.Keyed) : Keyed (entries.without key) := by
  constructor
  · exact h.1.sublist (List.filter_sublist.map Prod.fst)
  · intro e he
    exact h.2 e (List.mem_filter.1 he).1

/-- A key that is taken out is no longer there. -/
theorem lookup_without (entries : Entries) (key : String) :
    (entries.without key).lookup key = none := by
  refine List.lookup_eq_none_iff.2 fun e he => ?_
  have hne : e.1 ≠ key := by simpa using (List.mem_filter.1 he).2
  simpa using fun h => hne h.symm

/-- Whether a change keeps tables keyed. -/
def Keeps (change : Change) : Prop :=
  ∀ origin entries entries', entries.Keyed → change origin entries = some entries' →
    entries'.Keyed

/-- A change at the end of a path keeps the table keyed from which the path starts. -/
theorem keyed_reach {dotted : Bool} {change : Change} (hchange : Keeps change)
    (path : List String) : Keeps (reach dotted change path) := by
  induction path with
  | nil =>
    intro origin entries entries' h hreach
    rw [reach] at hreach
    exact hchange origin entries entries' h hreach
  | cons key path ih =>
    intro origin entries entries' h hreach
    rw [reach] at hreach
    split at hreach
    · next hnew =>
      split at hreach
      · cases hreach
      · next inner hinner =>
        cases hreach
        exact h.append hnew (Node.keyed_table.2 (ih _ _ _ keyed_nil hinner))
    · cases hreach
    · next origin' inner hlookup =>
      split at hreach
      · cases hreach
      · split at hreach
        · cases hreach
        · next inner' hinner =>
          cases hreach
          have hkeyed := Node.keyed_table.1 (h.lookup hlookup)
          exact h.replace (Node.keyed_table.2 (ih _ _ _ hkeyed hinner))
    · next elements hlookup =>
      have hkeyed := Node.keyed_tables.1 (h.lookup hlookup)
      split at hreach
      · cases hreach
      · next last hlast =>
        split at hreach
        · cases hreach
        · next last' hinner =>
          cases hreach
          have hlast' : Keyed last' :=
            ih _ _ _ (hkeyed last (List.mem_of_getLast? hlast)) hinner
          refine h.replace (Node.keyed_tables.2 fun element helement => ?_)
          rcases List.mem_append.1 helement with hm | hm
          · exact hkeyed element (List.dropLast_subset _ hm)
          · obtain rfl : element = last' := by simpa using hm
            exact hlast'

/-- A change that is never made keeps tables keyed. -/
theorem keeps_none : Keeps fun _ _ => none := by
  intro origin entries entries' _ h
  cases h

/-- To put a value under a key keeps tables keyed. -/
theorem keeps_put (dotted : Bool) (key : String) {v : Value} (hv : v.Keyed) :
    Keeps (put dotted key v) := by
  intro origin entries entries' h hput
  unfold put at hput
  split at hput
  · cases hput
  · split at hput
    · cases hput
    · next hnew =>
      cases hput
      exact h.append (Option.not_isSome_iff_eq_none.1 hnew) (.value hv)

/-- To insert a value at a path keeps tables keyed. -/
theorem keeps_insert (path : List String) {v : Value} (hv : v.Keyed) : Keeps (insert path v) := by
  unfold insert
  split
  · exact keeps_none
  · exact keyed_reach (keeps_put _ _ hv) _

/-- The header of a table keeps tables keyed. -/
theorem keeps_openTable (header : List String) : Keeps (openTable header) := by
  unfold openTable
  split
  · exact keeps_none
  · next front last _ =>
    refine keyed_reach ?_ front
    intro origin entries entries' h hopen
    dsimp only at hopen
    split at hopen
    · next hnew =>
      cases hopen
      exact h.append hnew (Node.keyed_table.2 keyed_nil)
    · next inner hlookup =>
      cases hopen
      have hinner := Node.keyed_table.1 (h.lookup hlookup)
      exact h.without.append (lookup_without entries last) (Node.keyed_table.2 hinner)
    · cases hopen

/-- The header of a list element keeps tables keyed. -/
theorem keeps_openElement (header : List String) : Keeps (openElement header) := by
  unfold openElement
  split
  · exact keeps_none
  · next front last _ =>
    refine keyed_reach ?_ front
    intro origin entries entries' h hopen
    dsimp only at hopen
    split at hopen
    · next hnew =>
      cases hopen
      refine h.append hnew (Node.keyed_tables.2 fun element helement => ?_)
      obtain rfl : element = [] := by simpa using helement
      exact keyed_nil
    · next elements hlookup =>
      cases hopen
      have hkeyed := Node.keyed_tables.1 (h.lookup hlookup)
      refine h.replace (Node.keyed_tables.2 fun element helement => ?_)
      rcases List.mem_append.1 helement with hm | hm
      · exact hkeyed element hm
      · obtain rfl : element = [] := by simpa using hm
        exact keyed_nil
    · cases hopen

end Entries

/-! ## Values on one line -/

/-- Whether every value that a scanner reads is keyed. -/
def ScansKeyed (scan : Scanner Value) : Prop :=
  ∀ s v rest, scan s = some (v, rest) → v.Keyed

/-- An integer has no key twice. -/
theorem keyed_boundedInteger {n : Int} {v : Value} (h : boundedInteger n = some v) : v.Keyed := by
  unfold boundedInteger at h
  split at h
  · cases h
    exact .integer n
  · cases h

/-- A number from its digits has no key twice. -/
theorem keyed_realOf {negative : Bool} {digits : List Char} {power : Int} {v : Value}
    (h : realOf negative digits power = some v) : v.Keyed := by
  unfold realOf at h
  split at h
  · cases h
    exact .real _
  · split at h
    · cases h
      exact .real _
    · cases h

/-- A number that is read has no key twice. -/
theorem keyed_number? {word : List Char} {v : Value} (h : number? word = some v) : v.Keyed := by
  have hbased {base : Nat} {isDigit : Char → Bool} {digits : List Char}
      (h : basedInteger base isDigit digits = some v) : v.Keyed := by
    unfold basedInteger at h
    split at h
    · cases h
    · exact keyed_boundedInteger h
  have hdecimal {negative : Bool} {digits : List Char}
      (h : decimalInteger negative digits = some v) : v.Keyed := by
    unfold decimalInteger at h
    split at h
    · cases h
    · exact keyed_boundedInteger h
  have hreal {negative : Bool} {digits : List Char}
      (h : realDigits negative digits = some v) : v.Keyed := by
    unfold realDigits at h
    dsimp only at h
    split at h
    · exact keyed_realOf h
    · exact keyed_realOf h
    · exact keyed_realOf h
    · cases h
  unfold number? at h
  split at h
  · exact hbased h
  · exact hbased h
  · exact hbased h
  · dsimp only at h
    split at h
    · cases h
      exact .real _
    · split at h
      · cases h
        exact .real _
      · split at h
        · exact hreal h
        · exact hdecimal h

/-- A value of one word has no key twice. -/
theorem keyed_scalar? {word : List Char} {v : Value} (h : scalar? word = some v) : v.Keyed := by
  unfold scalar? at h
  split at h
  · cases h
    exact .boolean true
  · split at h
    · cases h
      exact .boolean false
    · split at h
      · cases h
        exact .moment
      · exact keyed_number? h

/-- A value without parts is read without a key twice. -/
theorem keyed_flatValue : ScansKeyed flatValue := by
  intro s v rest h
  unfold flatValue at h
  split at h
  · obtain ⟨⟨t, rest'⟩, -, hv⟩ := Option.map_eq_some_iff.1 h
    cases hv
    exact .text _
  · obtain ⟨v', hscalar, hv⟩ := Option.map_eq_some_iff.1 h
    cases hv
    exact keyed_scalar? hscalar

section

variable {scan : Scanner Value} (hscan : ScansKeyed scan)
include hscan

/-- The items of a list are read without a key twice. -/
theorem keyed_listItems (most : Nat) {s : List Char} {vs : List Value} {rest : List Char}
    (h : listItems scan most s = some (vs, rest)) : ∀ v ∈ vs, v.Keyed := by
  induction most generalizing s vs with
  | zero => cases h
  | succ most ih =>
    rw [listItems] at h
    split at h
    · cases h
      simp
    · split at h
      · cases h
      · next first rest' hfirst =>
        have hkeyed := hscan _ _ _ hfirst
        split at h
        · cases h
          simpa using hkeyed
        · split at h
          · cases h
          · next more _ hmore =>
            cases h
            exact List.forall_mem_cons.2 ⟨hkeyed, ih hmore⟩
        · cases h

/-- The value of an inline field is read without a key twice. -/
theorem keyed_pair {s : List Char} {key : List String} {v : Value} {rest : List Char}
    (h : pair scan s = some ((key, v), rest)) : v.Keyed := by
  unfold pair at h
  split at h
  · split at h
    · cases h
    · next hv =>
      cases h
      exact hscan _ _ _ hv
  · cases h

/-- The values of inline fields are read without a key twice. -/
theorem keyed_tablePairs (most : Nat) {s : List Char} {ps : List (List String × Value)}
    {rest : List Char} (h : tablePairs scan most s = some (ps, rest)) : ∀ p ∈ ps, p.2.Keyed := by
  induction most generalizing s ps with
  | zero => cases h
  | succ most ih =>
    rw [tablePairs] at h
    split at h
    · cases h
    · next first rest' hfirst =>
      have hkeyed := keyed_pair hscan hfirst
      split at h
      · cases h
        simpa using hkeyed
      · split at h
        · cases h
        · next more _ hmore =>
          cases h
          exact List.forall_mem_cons.2 ⟨hkeyed, ih hmore⟩
      · cases h

omit hscan in
/-- An inline table is put together without a key twice. -/
theorem keyed_tableOfPairs {ps : List (List String × Value)} (hps : ∀ p ∈ ps, p.2.Keyed)
    {entries : Entries} (hentries : entries.Keyed) {fields : List (String × Value)}
    (h : tableOfPairs entries ps = some fields) : (Value.table fields).Keyed := by
  induction ps generalizing entries with
  | nil =>
    rw [tableOfPairs] at h
    cases h
    have hroot : (Node.table .header entries).Keyed := Node.keyed_table.2 hentries
    exact hroot.finish
  | cons p ps ih =>
    obtain ⟨hp, hmore⟩ := List.forall_mem_cons.1 hps
    rw [tableOfPairs] at h
    split at h
    · cases h
    · next entries' hinsert =>
      exact ih hmore (Entries.keeps_insert p.1 hp _ _ _ hentries hinsert) h

/-- An inline table is read without a key twice. -/
theorem keyed_inlineTable : ScansKeyed (inlineTable scan) := by
  intro s v rest h
  unfold inlineTable at h
  split at h
  · cases h
    exact .table List.nodup_nil (by simp)
  · split at h
    · cases h
    · next ps rest' hps =>
      obtain ⟨fields, hfields, hv⟩ := Option.map_eq_some_iff.1 h
      cases hv
      exact keyed_tableOfPairs (keyed_tablePairs hscan _ hps) Entries.keyed_nil hfields

end

/-- A value of any depth is read without a key twice. -/
theorem keyed_value (depth : Nat) : ScansKeyed (value depth) := by
  induction depth with
  | zero =>
    intro s v rest h
    exact keyed_flatValue s v rest h
  | succ depth ih =>
    intro s v rest h
    unfold value at h
    split at h
    · obtain ⟨⟨vs, rest'⟩, hitems, hv⟩ := Option.map_eq_some_iff.1 h
      cases hv
      exact .list (keyed_listItems ih _ hitems)
    · exact keyed_inlineTable ih _ _ _ h
    · exact keyed_flatValue _ _ _ h

/-! ## Documents -/

/-- Whether what a statement assigns is keyed. -/
def Statement.Keyed : Statement → Prop
  | .assign _ v => v.Keyed
  | _ => True

/-- A statement is read without a key twice in its value. -/
theorem keyed_statement {s : List Char} {line : Statement} {rest : List Char}
    (h : statement s = some (line, rest)) : line.Keyed := by
  unfold statement at h
  split at h
  · split at h
    · cases h
      trivial
    · cases h
  · split at h
    · cases h
      trivial
    · cases h
  · obtain ⟨⟨⟨key, v⟩, rest'⟩, hpair, hline⟩ := Option.map_eq_some_iff.1 h
    cases hline
    exact keyed_pair (keyed_value nestingLimit) hpair

/-- All statements are read without a key twice in their values. -/
theorem keyed_statements (most : Nat) {s : List Char} {lines : List Statement}
    (h : statements most s = some lines) : ∀ line ∈ lines, line.Keyed := by
  induction most generalizing s lines with
  | zero => cases h
  | succ most ih =>
    rw [statements] at h
    split at h
    · cases h
      simp
    · split at h
      · split at h
        · cases h
        · exact ih h
      · split at h
        · cases h
        · next first rest hfirst =>
          split at h
          · cases h
          · split at h
            · cases h
            · next more hmore =>
              cases h
              exact List.forall_mem_cons.2 ⟨keyed_statement hfirst, ih hmore⟩

/-- A statement keeps a document keyed. -/
theorem keyed_add {d d' : Draft} {line : Statement} (hline : line.Keyed) (hd : d.entries.Keyed)
    (h : d.add line = some d') : d'.entries.Keyed := by
  have hopened {key : List String} {change : Entries.Change} (hchange : Entries.Keeps change)
      (h : d.opened key change = some d') : d'.entries.Keyed := by
    unfold Draft.opened at h
    split at h
    · cases h
    · next entries hentries =>
      cases h
      exact hchange _ _ _ hd hentries
  cases line with
  | assign key v =>
    simp only [Draft.add] at h
    split at h
    · cases h
    · next entries hentries =>
      cases h
      exact Entries.keyed_reach (Entries.keeps_insert key hline) _ _ _ _ hd hentries
  | header key => exact hopened (Entries.keeps_openTable key) h
  | element key => exact hopened (Entries.keeps_openElement key) h

/-- Statements make no table with a key twice. -/
theorem keyed_addAll {lines : List Statement} (hlines : ∀ line ∈ lines, line.Keyed) {d d' : Draft}
    (hd : d.entries.Keyed) (h : d.addAll lines = some d') : d'.entries.Keyed := by
  induction lines generalizing d with
  | nil =>
    rw [Draft.addAll] at h
    cases h
    exact hd
  | cons line more ih =>
    obtain ⟨hline, hmore⟩ := List.forall_mem_cons.1 hlines
    rw [Draft.addAll] at h
    split at h
    · cases h
    · next d₁ hadd => exact ih hmore (keyed_add hline hd hadd) h

/-- Nowhere in a document does a key come twice in one table. -/
theorem keyed_of_parse {text : String} {fields : List (String × Value)}
    (h : parse text = some fields) : (Value.table fields).Keyed := by
  unfold parse at h
  dsimp only at h
  split at h
  · cases h
  · next lines hlines =>
    split at h
    · cases h
    · next d hd =>
      cases h
      have hkeyed : d.entries.Keyed :=
        keyed_addAll (keyed_statements _ hlines) Entries.keyed_nil hd
      have hroot : (Node.table .header d.entries).Keyed := Node.keyed_table.2 hkeyed
      exact hroot.finish

end Shakedown.Toml
