import Shakedown.Proofs.Toml.Growth

/-!
# What is named stays

The statements of a document build one table, and a key that one of them names is in its table in
the end, whatever stands in front of it, behind it and in between. The invariant of the statements
is that the tables at a path keep what they hold, as long as no double header adds another table on
the path (`has_add`).

Main statements: `has_value_of_assigned`, a value that is assigned is there in the end, and
`has_keys_of_named`, two keys that are named in one table, in whatever notation and however far
apart, are both in that table in the end.
-/

set_option autoImplicit false

namespace Shakedown.Toml

/-! ## Statements -/

namespace Statement

/-- The header that stands above what follows a statement. -/
def headerAfter (header : List String) : Statement → List String
  | .assign _ _ => header
  | .header key => key
  | .element key => key

/-- The full key that a statement names under a header. -/
def named (header : List String) : Statement → List String
  | .assign key _ => header ++ key
  | .header key => key
  | .element key => key

/-- Whether a statement adds another table to a list of tables on a path. -/
def AddsTable (path : List String) (s : Statement) : Prop :=
  ∃ key, s = .element key ∧ key <+: path

end Statement

/-- The header that statements in order leave. -/
def lastHeader (lines : List Statement) : List String :=
  lines.foldl Statement.headerAfter []

open Entries (Has HasKey HasValue Lasting)

variable {latest : Bool} {P : Entries → Prop} {path : List String} {key : String} {s : Statement}
  {d d' : Draft}

/-- The change that a statement under a header makes to the table of the document. -/
def Statement.change (header : List String) : Statement → Entries.Change
  | .assign key v => Entries.reach false (Entries.insert key v) header
  | .header key => Entries.openTable key
  | .element key => Entries.openElement key

/-- A statement makes its change to the table of the document, and leaves its header. -/
theorem add_eq_some (h : d.add s = some d') :
    s.change d.header .header d.entries = some d'.entries ∧ d'.header = s.headerAfter d.header := by
  have hopened {key : List String} {change : Entries.Change} (h : d.opened key change = some d') :
      change .header d.entries = some d'.entries ∧ d'.header = key := by
    unfold Draft.opened at h
    split at h
    · cases h
    · next entries hentries =>
      cases h
      exact ⟨hentries, rfl⟩
  cases s with
  | assign key v =>
    simp only [Draft.add] at h
    split at h
    · cases h
    · next entries hentries =>
      cases h
      exact ⟨hentries, rfl⟩
  | header key => exact hopened h
  | element key => exact hopened h

/-- Where a key is named below a path, it is in the table there: above a header, or below it. -/
theorem has_key_of_add (h : d.add s = some d') (hnamed : path ++ [key] <+: s.named d.header) :
    Has true (HasKey key) path d'.entries := by
  obtain ⟨hchange, -⟩ := add_eq_some h
  cases s with
  | assign full v =>
    have habove : d.header <+: d.header ++ full := List.prefix_append _ _
    have hleaves : Entries.Leaves (HasKey key) path
        (Entries.reach false (Entries.insert full v) d.header) := by
      rcases List.prefix_or_prefix_of_prefix hnamed habove with hheader | hheader
      · exact Entries.leaves_reach_of_prefix hheader
      · rcases List.prefix_concat_iff.1 hheader with heq | hfront
        · exact Entries.leaves_reach_of_prefix (heq ▸ List.prefix_rfl)
        · obtain ⟨rest, rfl⟩ := hfront
          have hrest : rest ++ [key] <+: full := by
            rw [Statement.named, List.append_assoc] at hnamed
            exact (List.prefix_append_right_inj _).1 hnamed
          exact (Entries.leaves_insert hrest).reach false d.header
    exact hleaves _ _ _ hchange
  | header full => exact Entries.leaves_openTable hnamed _ _ _ hchange
  | element full => exact Entries.leaves_openElement hnamed _ _ _ hchange

/-- An assignment leaves its value at the end of its full key. -/
theorem has_value_of_add {rest : List String} {v : Value}
    (h : d.add (.assign (rest ++ [key]) v) = some d') :
    Has true (HasValue key v) (d.header ++ rest) d'.entries := by
  obtain ⟨hchange, -⟩ := add_eq_some h
  have hleaves : Entries.Leaves (HasValue key v) rest (Entries.insert (rest ++ [key]) v) :=
    Entries.leaves_insert_value rfl
  exact hleaves.reach false d.header _ _ _ hchange

/-- A statement keeps what the tables at a path have, unless it adds another table on that path. -/
theorem has_add (hP : Lasting P) (hadds : latest = true → ¬s.AddsTable path)
    (h : d.add s = some d') (hhas : Has latest P path d.entries) :
    Has latest P path d'.entries := by
  obtain ⟨hchange, -⟩ := add_eq_some h
  cases s with
  | assign key v =>
    have hinsert (rest : List String) : Entries.KeepsHas latest P rest (Entries.insert key v) :=
      Entries.keepsHas_insert hP
    exact Entries.keepsHas_reach hP d.header (fun rest _ => hinsert rest) _ _ _ hchange hhas
  | header key => exact Entries.keepsHas_openTable hP _ _ _ hchange hhas
  | element key =>
    have hkey : latest = true → ¬key <+: path := fun hlatest hkey => hadds hlatest ⟨key, rfl, hkey⟩
    exact Entries.keepsHas_openElement hP hkey _ _ _ hchange hhas

/-! ## Documents -/

/-- The first statement is added before the others. -/
theorem addAll_cons_eq_some {more : List Statement} (h : d.addAll (s :: more) = some d') :
    ∃ d₁, d.add s = some d₁ ∧ d₁.addAll more = some d' := by
  rw [Draft.addAll] at h
  split at h
  · cases h
  · next d₁ hadd => exact ⟨d₁, hadd, h⟩

/-- Statements may be added in two parts. -/
theorem addAll_append_eq_some {before after : List Statement}
    (h : d.addAll (before ++ after) = some d') :
    ∃ d₁, d.addAll before = some d₁ ∧ d₁.addAll after = some d' := by
  induction before generalizing d with
  | nil => exact ⟨d, rfl, h⟩
  | cons s more ih =>
    obtain ⟨d₁, hadd, hmore⟩ := addAll_cons_eq_some h
    obtain ⟨d₂, hbefore, hafter⟩ := ih hmore
    refine ⟨d₂, ?_, hafter⟩
    rw [Draft.addAll, hadd]
    exact hbefore

/-- Statements leave the header of the last one that has one. -/
theorem header_of_addAll {lines : List Statement} (h : d.addAll lines = some d') :
    d'.header = lines.foldl Statement.headerAfter d.header := by
  induction lines generalizing d with
  | nil =>
    cases h
    rfl
  | cons s more ih =>
    obtain ⟨d₁, hadd, hmore⟩ := addAll_cons_eq_some h
    rw [ih hmore, (add_eq_some hadd).2, List.foldl_cons]

/-- What a table has it keeps while statements are added, if the property lasts and no other table
takes its place. -/
theorem has_addAll {lines : List Statement} (hP : Lasting P)
    (hadds : latest = true → ∀ s ∈ lines, ¬s.AddsTable path) (h : d.addAll lines = some d')
    (hhas : Has latest P path d.entries) : Has latest P path d'.entries := by
  induction lines generalizing d with
  | nil =>
    cases h
    exact hhas
  | cons s more ih =>
    obtain ⟨d₁, hadd, hmore⟩ := addAll_cons_eq_some h
    refine ih (fun hlatest t ht => hadds hlatest t (List.mem_cons_of_mem _ ht)) hmore ?_
    exact has_add hP (fun hlatest => hadds hlatest s List.mem_cons_self) hadd hhas

/-- A key that a statement names is in the end in the table where it is named. -/
theorem has_key_of_named {before after : List Statement}
    (h : Draft.addAll {} (before ++ s :: after) = some d)
    (hnamed : path ++ [key] <+: s.named (lastHeader before)) :
    Has false (HasKey key) path d.entries := by
  obtain ⟨d₁, hbefore, hrest⟩ := addAll_append_eq_some h
  obtain ⟨d₂, hadd, hafter⟩ := addAll_cons_eq_some hrest
  have hheader : d₁.header = lastHeader before := header_of_addAll hbefore
  rw [← hheader] at hnamed
  have hkey := has_key_of_add hadd hnamed
  exact has_addAll (Entries.lasting_hasKey key) (by simp) hafter hkey.some

/-- An assigned value is in some table at the path of its key. -/
theorem has_value_of_assigned {before after : List Statement} {rest : List String} {v : Value}
    (h : Draft.addAll {} (before ++ .assign (rest ++ [key]) v :: after) = some d) :
    Has false (HasValue key v) (lastHeader before ++ rest) d.entries := by
  obtain ⟨d₁, hbefore, hrest⟩ := addAll_append_eq_some h
  obtain ⟨d₂, hadd, hafter⟩ := addAll_cons_eq_some hrest
  have hheader : d₁.header = lastHeader before := header_of_addAll hbefore
  rw [← hheader]
  have hvalue := has_value_of_add hadd
  exact has_addAll (Entries.lasting_hasValue key v) (by simp) hafter hvalue.some

/-- Two keys that statements name in one table are in the end both in it. Between the two, no table
is added on the path, so the path leads to the same table. -/
theorem has_keys_of_named {before mid after : List Statement} {s' : Statement} {key' : String}
    (h : Draft.addAll {} (before ++ s :: (mid ++ s' :: after)) = some d)
    (hnamed : path ++ [key] <+: s.named (lastHeader before))
    (hnamed' : path ++ [key'] <+: s'.named (lastHeader (before ++ s :: mid)))
    (hadds : ∀ t ∈ mid, ¬t.AddsTable path) :
    Has false (fun entries => HasKey key entries ∧ HasKey key' entries) path d.entries := by
  obtain ⟨d₁, hbefore, hrest⟩ := addAll_append_eq_some h
  obtain ⟨d₂, hadd, hrest⟩ := addAll_cons_eq_some hrest
  obtain ⟨d₃, hmid, hrest⟩ := addAll_append_eq_some hrest
  obtain ⟨d₄, hadd', hafter⟩ := addAll_cons_eq_some hrest
  have hheader : d₁.header = lastHeader before := header_of_addAll hbefore
  have hheader' : d₃.header = lastHeader (before ++ s :: mid) := by
    rw [header_of_addAll hmid, (add_eq_some hadd).2, hheader]
    simp [lastHeader]
  rw [← hheader] at hnamed
  rw [← hheader'] at hnamed'
  have hlasting := Entries.lasting_hasKey key
  have hadds' : ¬s'.AddsTable path := by
    rintro ⟨full, rfl, hfull⟩
    have hlength := (hnamed'.trans hfull).length_le
    rw [List.length_append, List.length_singleton] at hlength
    omega
  have hkey := has_addAll hlasting (fun _ => hadds) hmid (has_key_of_add hadd hnamed)
  have hboth := (has_add hlasting (fun _ => hadds') hadd' hkey).and (has_key_of_add hadd' hnamed')
  exact has_addAll (hlasting.and (Entries.lasting_hasKey key')) (by simp) hafter hboth.some

/-! ## What is read -/

/-- The statements of a text, if all its lines are well-formed. -/
def lines? (text : String) : Option (List Statement) :=
  statements ((dropMark text.toList).length + 1) (dropMark text.toList)

/-- A text that is parsed has well-formed lines, and their document is finished. -/
theorem parse_eq_some {text : String} {fields : List (String × Value)}
    (h : parse text = some fields) :
    ∃ lines d, lines? text = some lines ∧ Draft.addAll {} lines = some d ∧
      fields = finishEntries d.entries := by
  unfold parse at h
  dsimp only at h
  split at h
  · cases h
  · next lines hlines =>
    split at h
    · cases h
    · next d hd =>
      cases h
      exact ⟨lines, d, hlines, hd, rfl⟩

/-- A node of a document is finished under its key. -/
theorem mem_finishEntries {entries : Entries} {key : String} {node : Node}
    (h : entries.lookup key = some node) : (key, node.finish) ∈ finishEntries entries := by
  obtain ⟨before, after, rfl, -⟩ := List.lookup_eq_some_iff.1 h
  rw [finishEntries_eq_map]
  simp

/-- A key of a document is one of the finished document. -/
theorem mem_map_fst_of_hasKey {entries : Entries} (h : HasKey key entries) :
    key ∈ (finishEntries entries).map Prod.fst := by
  obtain ⟨node, hnode⟩ := Option.isSome_iff_exists.1 h
  exact List.mem_map_of_mem (mem_finishEntries hnode)

/-- The keys that the pairs of a table begin with are all in the table, and so is what was in it. -/
theorem mem_map_fst_of_tableOfPairs {entries : Entries} {ps : List (List String × Value)}
    {fields : List (String × Value)} (h : tableOfPairs entries ps = some fields)
    (hkey : HasKey key entries ∨ ∃ p ∈ ps, [key] <+: p.1) : key ∈ fields.map Prod.fst := by
  induction ps generalizing entries with
  | nil =>
    cases h
    rcases hkey with hkey | ⟨p, hp, -⟩
    · exact mem_map_fst_of_hasKey hkey
    · cases hp
  | cons p more ih =>
    rw [tableOfPairs] at h
    split at h
    · cases h
    · next entries' hinsert =>
      refine ih h ?_
      rcases hkey with hkey | ⟨q, hq, hbegins⟩
      · have hkeeps : Entries.KeepsHas true (HasKey key) [] (Entries.insert p.1 p.2) :=
          Entries.keepsHas_insert (Entries.lasting_hasKey key)
        exact .inl (hkeeps _ _ _ hinsert hkey)
      · rcases List.mem_cons.1 hq with rfl | hq
        · have hleaves : Entries.Leaves (HasKey key) [] (Entries.insert q.1 q.2) :=
            Entries.leaves_insert hbegins
          exact .inl (hleaves _ _ _ hinsert)
        · exact .inr ⟨q, hq, hbegins⟩

end Shakedown.Toml
