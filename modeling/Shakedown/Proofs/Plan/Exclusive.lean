import Shakedown.Json.Decode
import Shakedown.Plan.File
import Shakedown.Proofs.Json.Reader
import Shakedown.Proofs.Plan.Described
import Shakedown.Proofs.Toml.Named

/-!
# Options exclude each other

The flags of a module choose one option. A table or an object chooses none if it has not just one
entry, or if that entry names no option, and then nothing that holds it is read: neither the module,
enabled or not, nor the plan. For a plan file this is also said of its lines, since there the
entries of one table may be written in many ways and far apart.

Main statements: `not_undecidedDoc_of_read` for JSON documents, `not_undecided_of_ofTomlFields` for
what a plan file says as a whole, and `not_undecidedLines_of_readToml` for its lines.
-/

set_option autoImplicit false

namespace Shakedown

/-! ## Choosing an option -/

namespace CompileFlags

/-- Whether the keys of a table or an object fail to choose an option: there is not just one of
them, or it names no option. -/
def NoChoice (keys : List (Option String)) : Prop :=
  keys.length ≠ 1 ∨ ∀ key ∈ keys, ∀ name ∈ names, key ≠ some name

/-- A single key that names an option chooses it. -/
theorem not_noChoice_singleton {name : String} (h : name ∈ names) : ¬NoChoice [some name] := by
  rintro (hlength | hnone)
  · exact hlength rfl
  · exact hnone (some name) List.mem_cons_self name h rfl

/-- Whether a value is a table that chooses no option. -/
def Undecided (v : Toml.Value) : Prop :=
  ∃ fields, v = .table fields ∧ NoChoice (fields.map fun f => some f.1)

/-- A table that was read has one entry, and that names an option. -/
theorem eq_singleton_of_ofToml {fields : List (String × Toml.Value)} {flags : CompileFlags}
    (h : ofToml (.table fields) = .ok flags) : ∃ name ∈ names, ∃ v, fields = [(name, v)] := by
  have hnames : "optimize" ∈ names ∧ "dump_ir" ∈ names ∧ "plain" ∈ names := by decide
  cases ofToml_eq_ok.1 h with
  | optimize level => exact ⟨"optimize", hnames.1, _, rfl⟩
  | dumpIr directory => exact ⟨"dump_ir", hnames.2.1, _, rfl⟩
  | plainTable => exact ⟨"plain", hnames.2.2, _, rfl⟩
  | plainList => exact ⟨"plain", hnames.2.2, _, rfl⟩

/-- Flags that were read from a value are no table without a choice. -/
theorem not_undecided_of_ofToml {v : Toml.Value} {flags : CompileFlags}
    (h : ofToml v = .ok flags) : ¬Undecided v := by
  rintro ⟨fields, rfl, hnone⟩
  obtain ⟨name, hname, u, rfl⟩ := eq_singleton_of_ofToml h
  exact not_noChoice_singleton hname hnone

/-- A table with two keys, or with one that names no option, chooses none. -/
theorem undecided_of_mem {fields : List (String × Toml.Value)} {key key' : String}
    (hkey : key ∈ fields.map Prod.fst) (hkey' : key' ∈ fields.map Prod.fst)
    (hne : key ≠ key' ∨ key ∉ names) : Undecided (.table fields) := by
  refine ⟨fields, rfl, ?_⟩
  by_cases hlength : fields.length = 1
  · obtain ⟨f, rfl⟩ := List.length_eq_one_iff.1 hlength
    obtain rfl : key = f.1 := by simpa using hkey
    obtain rfl : key' = f.1 := by simpa using hkey'
    have hforeign : f.1 ∉ names := hne.resolve_left (by simp)
    refine .inr fun other hother name hname heq => ?_
    obtain rfl : name = f.1 := by simpa [heq] using hother
    exact hforeign hname
  · exact .inl (by simpa using hlength)

/-- Whether a document is an object that chooses no option. -/
def UndecidedDoc (d : Json.Doc) : Prop :=
  ∃ entries closed, d = .object entries closed ∧ NoChoice (entries.map Prod.fst)

/-- Flags that were read from a document are no object without a choice. -/
theorem not_undecidedDoc_of_read {d : Json.Doc} {flags : CompileFlags} (h : read d = .ok flags) :
    ¬UndecidedDoc d := by
  rintro ⟨entries, closed, rfl, hnone⟩
  obtain ⟨name, hname, payload, rfl⟩ := Json.readAlternative_object h
  exact not_noChoice_singleton hname hnone

end CompileFlags

/-! ## JSON documents -/

/-- Whether a text shows a document with a property. What a text spells is shown by it, and so is
what is read of a malformed text up to its first problem. -/
def Json.Shows (P : Json.Doc → Prop) (text : String) : Prop :=
  ∃ d, (d.SpelledBy text ∨ d = (Json.parse text).1) ∧ P d

/-- A text that was read shows the document that was read. -/
theorem Json.read_of_shows {α : Type} {read : Json.Reader α} {P : Json.Doc → Prop} {text : String}
    {a : α} (h : Json.readWhole read text = .ok a) (hshows : Json.Shows P text) :
    ∃ d, read d = .ok a ∧ P d := by
  have hread := (Json.readWhole_eq_ok.1 h).2
  obtain ⟨d, hspelled | rfl, hd⟩ := hshows
  · rw [Json.parse_eq_iff.2 hspelled] at hread
    exact ⟨d, hread, hd⟩
  · exact ⟨_, hread, hd⟩

namespace ModuleEntry

/-- In a module that was read from a document the flags were read. -/
theorem exists_flags_of_read {d : Json.Doc} {m : ModuleEntry} (h : read d = .ok m) {v : Json.Doc}
    (hv : d.Gives tomlKeys "flags" v) : ∃ flags, CompileFlags.read v = .ok flags := by
  cases hv with
  | entry hmem =>
    obtain ⟨known, hentries, -⟩ := Json.bind_eq_ok.1 h
    obtain ⟨before, after, hupdate⟩ := Json.exists_of_readEntries hentries hmem rfl
    exact Json.exists_of_once hupdate
  | item hitem =>
    -- The flags stand third, so they head what the two readers before them leave.
    obtain ⟨⟨source, rest⟩, hsource, h⟩ := Json.bind_eq_ok.1 h
    obtain ⟨⟨enabled, rest'⟩, henabled, h⟩ := Json.bind_eq_ok.1 h
    obtain ⟨⟨flags, rest''⟩, hflags, -⟩ := Json.bind_eq_ok.1 h
    have hrest := (Json.requiredItem_eq_ok hsource).1
    have hrest' := (Json.defaultedItem_eq_ok henabled).1
    have hread := (Json.defaultedItem_eq_ok hflags).2
    have hthird : rest'.1.head? = some v := by
      rw [hrest', hrest, List.head?_tail, List.getElem?_tail]
      exact hitem
    exact ⟨flags, hread v hthird⟩

/-- Whether a document gives a module flags that choose no option. -/
def UndecidedDoc (d : Json.Doc) : Prop :=
  ∃ v, d.Gives tomlKeys "flags" v ∧ CompileFlags.UndecidedDoc v

/-- A module that was read from a document has a choice in its flags. -/
theorem not_undecidedDoc_of_read {d : Json.Doc} {m : ModuleEntry} (h : read d = .ok m) :
    ¬UndecidedDoc d := by
  rintro ⟨v, hv, hundecided⟩
  obtain ⟨flags, hflags⟩ := exists_flags_of_read h hv
  exact CompileFlags.not_undecidedDoc_of_read hflags hundecided

end ModuleEntry

namespace Plan

/-- In a plan that was read from a document the modules were read. -/
theorem exists_modules_of_read {d : Json.Doc} {p : Plan} (h : read d = .ok p) {v : Json.Doc}
    (hv : d.Gives tomlKeys "modules" v) : ∃ ms, Json.readList ModuleEntry.read v = .ok ms := by
  cases hv with
  | entry hmem =>
    obtain ⟨known, hentries, -⟩ := Json.bind_eq_ok.1 h
    obtain ⟨before, after, hupdate⟩ := Json.exists_of_readEntries hentries hmem rfl
    exact Json.exists_of_once hupdate
  | item hitem =>
    obtain ⟨⟨directory, rest⟩, hdirectory, h⟩ := Json.bind_eq_ok.1 h
    obtain ⟨⟨tool, rest'⟩, htool, h⟩ := Json.bind_eq_ok.1 h
    obtain ⟨⟨reference, rest''⟩, hreference, h⟩ := Json.bind_eq_ok.1 h
    obtain ⟨⟨ms, left⟩, hmodules, -⟩ := Json.bind_eq_ok.1 h
    have hrest := (Json.defaultedItem_eq_ok hdirectory).1
    have hrest' := (Json.defaultedItem_eq_ok htool).1
    have hrest'' := (Json.defaultedItem_eq_ok hreference).1
    have hread := (Json.defaultedItem_eq_ok hmodules).2
    have hfourth : rest''.1.head? = some v := by
      rw [hrest'', hrest', hrest, List.head?_tail, List.getElem?_tail, List.getElem?_tail]
      exact hitem
    exact ⟨ms, hread v hfourth⟩

/-- Whether a document gives a plan a module whose flags choose no option. -/
def UndecidedDoc (d : Json.Doc) : Prop :=
  ∃ items closed, d.Gives tomlKeys "modules" (.list items closed) ∧
    ∃ item ∈ items, ModuleEntry.UndecidedDoc item

/-- In a plan that was read from a document every module has a choice in its flags. -/
theorem not_undecidedDoc_of_read {d : Json.Doc} {p : Plan} (h : read d = .ok p) :
    ¬UndecidedDoc d := by
  rintro ⟨items, closed, hitems, item, hitem, hundecided⟩
  obtain ⟨ms, hread⟩ := exists_modules_of_read h hitems
  obtain ⟨m, hm⟩ := Json.exists_of_readItems hread hitem
  exact ModuleEntry.not_undecidedDoc_of_read hm hundecided

end Plan

/-! ## Plan files -/

namespace Toml

/-- Whether a value of a structure with these keys gives a value for one of them: by a field, or by
the item that stands in its place. -/
inductive Value.Gives (keys : List String) (key : String) : Value → Value → Prop
  | field {fields : List (String × Value)} {v : Value} (h : (key, v) ∈ fields) :
      Gives keys key (.table fields) v
  | item {items : List Value} {v : Value} (h : items[keys.idxOf key]? = some v) :
      Gives keys key (.list items) v

/-- In a table that was read every field was read. -/
theorem exists_of_readFields {γ : Type} {field : String → γ → Value → Except ReadError γ}
    {known known' : γ} {fields : List (String × Value)}
    (h : readFields field known fields = .ok known') {key : String} {v : Value}
    (hv : (key, v) ∈ fields) : ∃ before after, field key before v = .ok after := by
  induction fields generalizing known with
  | nil => cases hv
  | cons f more ih =>
    obtain ⟨first, u⟩ := f
    rw [readFields] at h
    cases hfirst : field first known u with
    | error e => simp [hfirst] at h
    | ok known₁ =>
      rw [hfirst] at h
      rcases List.mem_cons.1 hv with heq | hv
      · cases heq
        exact ⟨known, known₁, hfirst⟩
      · exact ih h hv

/-- In a list that was read every item was read. -/
theorem exists_of_readItems {α : Type} {read : Reader α} {items : List Value} {as : List α}
    (h : readItems read items = .ok as) {v : Value} (hv : v ∈ items) : ∃ a, read v = .ok a := by
  induction items generalizing as with
  | nil => cases hv
  | cons first more ih =>
    rw [readItems] at h
    cases hfirst : read first with
    | error e => simp [hfirst] at h
    | ok a =>
      rcases List.mem_cons.1 hv with rfl | hv
      · exact ⟨a, hfirst⟩
      · cases hmore : readItems read more with
        | error e => simp [hfirst, hmore] at h
        | ok rest => exact ih hmore hv

end Toml

namespace ModuleEntry

/-- In a module that was read from fields the flags were read. -/
theorem exists_flags_of_ofTomlFields {fields : List (String × Toml.Value)} {m : ModuleEntry}
    (h : ofTomlFields fields = .ok m) {f : Toml.Value} (hf : ("flags", f) ∈ fields) :
    ∃ flags, CompileFlags.ofToml f = .ok flags := by
  unfold ofTomlFields at h
  split at h
  · cases h
  · next known hread =>
    obtain ⟨before, after, hfield⟩ := Toml.exists_of_readFields hread hf
    obtain ⟨flags, hflags, -⟩ := Toml.map_eq_ok.1 hfield
    exact ⟨flags, hflags⟩

/-- In a module that was read from a value the flags were read. -/
theorem exists_flags_of_ofToml {v : Toml.Value} {m : ModuleEntry} (h : ofToml v = .ok m)
    {f : Toml.Value} (hf : v.Gives tomlKeys "flags" f) :
    ∃ flags, CompileFlags.ofToml f = .ok flags := by
  cases hf with
  | field hmem => exact exists_flags_of_ofTomlFields h hmem
  | @item items _ hitem =>
    match items with
    | [] => cases hitem
    | first :: more =>
      have hthird : (tomlKeys.zip (first :: more))[2]? = some ("flags", f) := by
        rw [List.getElem?_zip_eq_some]
        exact ⟨rfl, hitem⟩
      exact exists_flags_of_ofTomlFields h (List.mem_of_getElem? hthird)

/-- Whether a value gives a module flags that choose no option. -/
def Undecided (v : Toml.Value) : Prop :=
  ∃ f, v.Gives tomlKeys "flags" f ∧ CompileFlags.Undecided f

/-- A module that was read from a value has a choice in its flags. -/
theorem not_undecided_of_ofToml {v : Toml.Value} {m : ModuleEntry} (h : ofToml v = .ok m) :
    ¬Undecided v := by
  rintro ⟨f, hf, hundecided⟩
  obtain ⟨flags, hflags⟩ := exists_flags_of_ofToml h hf
  exact CompileFlags.not_undecided_of_ofToml hflags hundecided

end ModuleEntry

namespace Plan

/-- The modules among the fields of a plan are a list, and each of them was read. -/
theorem exists_modules_of_ofTomlFields {fields : List (String × Toml.Value)} {p : Plan}
    (h : ofTomlFields fields = .ok p) {v : Toml.Value} (hv : ("modules", v) ∈ fields) :
    ∃ items, v = .list items ∧ ∀ item ∈ items, ∃ m, ModuleEntry.ofToml item = .ok m := by
  obtain ⟨known, hread, -⟩ := Toml.map_eq_ok.1 h
  obtain ⟨before, after, hfield⟩ := Toml.exists_of_readFields hread hv
  obtain ⟨ms, hms, -⟩ := Toml.map_eq_ok.1 hfield
  cases v with
  | list items => exact ⟨items, rfl, fun item hitem => Toml.exists_of_readItems hms hitem⟩
  | text s => cases hms
  | integer n => cases hms
  | real x => cases hms
  | boolean b => cases hms
  | moment => cases hms
  | table fields => cases hms

/-- Whether the fields of a plan have a module whose flags choose no option. -/
def Undecided (fields : List (String × Toml.Value)) : Prop :=
  ∃ items, ("modules", .list items) ∈ fields ∧ ∃ item ∈ items, ModuleEntry.Undecided item

/-- In a plan that was read from fields every module has a choice in its flags. -/
theorem not_undecided_of_ofTomlFields {fields : List (String × Toml.Value)} {p : Plan}
    (h : ofTomlFields fields = .ok p) : ¬Undecided fields := by
  rintro ⟨items, hmodules, item, hitem, hundecided⟩
  obtain ⟨items', heq, hread⟩ := exists_modules_of_ofTomlFields h hmodules
  cases heq
  obtain ⟨m, hm⟩ := hread item hitem
  exact ModuleEntry.not_undecided_of_ofToml hm hundecided

end Plan

/-! ## The lines of a plan file -/

open Toml (Statement Entries finishEntries lastHeader)

/-- A table on one line chooses no option if its pairs begin with two keys, or with a foreign
one. -/
theorem CompileFlags.undecided_of_tableOfPairs {ps : List (List String × Toml.Value)}
    {fields : List (String × Toml.Value)} (h : Toml.tableOfPairs [] ps = some fields)
    {q q' : List String × Toml.Value} (hq : q ∈ ps) (hq' : q' ∈ ps) {key key' : String}
    (hkey : [key] <+: q.1) (hkey' : [key'] <+: q'.1) (hne : key ≠ key' ∨ key ∉ names) :
    Undecided (.table fields) :=
  undecided_of_mem (Toml.mem_map_fst_of_tableOfPairs h (.inr ⟨q, hq, hkey⟩))
    (Toml.mem_map_fst_of_tableOfPairs h (.inr ⟨q', hq', hkey'⟩)) hne

namespace Plan

/-- The ways in which the lines of a plan file leave the flags of a module undecided. -/
inductive UndecidedLines : List Statement → Prop
  /-- A key in the flags is no option. -/
  | foreign {before after : List Statement} {s : Statement} {key : String}
      (hkey : key ∉ CompileFlags.names)
      (hnamed : ["modules", "flags"] ++ [key] <+: s.named (lastHeader before)) :
      UndecidedLines (before ++ s :: after)
  /-- There are two keys in the flags of one module. -/
  | two {before mid after : List Statement} {s s' : Statement} {key key' : String}
      (hne : key ≠ key') (hnamed : ["modules", "flags"] ++ [key] <+: s.named (lastHeader before))
      (hnamed' : ["modules", "flags"] ++ [key'] <+: s'.named (lastHeader (before ++ s :: mid)))
      (hmid : ∀ t ∈ mid, ¬t.AddsTable ["modules", "flags"]) :
      UndecidedLines (before ++ s :: (mid ++ s' :: after))
  /-- The flags are assigned. -/
  | flags {before after : List Statement} {path : List String} {v : Toml.Value}
      (hpath : lastHeader before ++ path = ["modules"]) (hv : CompileFlags.Undecided v) :
      UndecidedLines (before ++ .assign (path ++ ["flags"]) v :: after)
  /-- The modules are assigned. -/
  | modules {before after : List Statement} {path : List String} {items : List Toml.Value}
      {item : Toml.Value} (hpath : lastHeader before ++ path = []) (hitem : item ∈ items)
      (hv : ModuleEntry.Undecided item) :
      UndecidedLines (before ++ .assign (path ++ ["modules"]) (.list items) :: after)

/-- Dotted keys are two keys of one table, with other lines between them. -/
example : UndecidedLines
    [.element ["modules"], .assign ["flags", "optimize"] (.text "2"),
      .assign ["enabled"] (.boolean false), .assign ["flags", "dump_ir"] (.text ".")] := by
  have hmid : ∀ t ∈ [Statement.assign ["enabled"] (.boolean false)],
      ¬t.AddsTable ["modules", "flags"] := by
    rintro t ht ⟨key, rfl, -⟩
    simp at ht
  exact @UndecidedLines.two [.element ["modules"]] [.assign ["enabled"] (.boolean false)] []
    _ _ "optimize" "dump_ir" (by decide) (by decide) (by decide) hmid

variable {entries : Entries} {p : Plan} {P : Entries → Prop} {path : List String}

/-- If a plan was read, a table behind its modules belongs to a module that was read. -/
theorem exists_module_of_has (h : ofTomlFields (finishEntries entries) = .ok p)
    (hhas : Entries.Has false P ("modules" :: path) entries) :
    ∃ element m, ModuleEntry.ofToml (.table (finishEntries element)) = .ok m ∧
      Entries.Has false P path element := by
  cases hlookup : entries.lookup "modules" with
  | none => exact absurd hhas (Entries.not_has_cons_of_none hlookup)
  | some node =>
    obtain ⟨items, hitems, hread⟩ :=
      exists_modules_of_ofTomlFields h (Toml.mem_finishEntries hlookup)
    cases node with
    | value v => simp [Entries.Has, hlookup] at hhas
    | table origin inner => simp [Toml.Node.finish] at hitems
    | tables elements =>
      rw [Entries.has_cons_of_tables hlookup] at hhas
      obtain ⟨element, hstands, helement⟩ := hhas
      have hmem : Toml.Value.table (finishEntries element) ∈ items := by
        simp only [Toml.Node.finish, Toml.Value.list.injEq, Toml.finishElements_eq_map] at hitems
        rw [← hitems]
        exact List.mem_map_of_mem hstands
      obtain ⟨m, hm⟩ := hread _ hmem
      exact ⟨element, m, hm, helement⟩

/-- If a plan was read, a table behind the flags of its modules chooses an option. -/
theorem exists_flags_of_has (h : ofTomlFields (finishEntries entries) = .ok p)
    (hhas : Entries.Has false P ["modules", "flags"] entries) :
    ∃ inner, P inner ∧ ¬CompileFlags.Undecided (.table (finishEntries inner)) := by
  obtain ⟨element, m, hm, helement⟩ := exists_module_of_has h hhas
  cases hlookup : element.lookup "flags" with
  | none => exact absurd helement (Entries.not_has_cons_of_none hlookup)
  | some node =>
    obtain ⟨flags, hflags⟩ :=
      ModuleEntry.exists_flags_of_ofToml hm (.field (Toml.mem_finishEntries hlookup))
    cases node with
    | value v => simp [Entries.Has, hlookup] at helement
    | table origin inner =>
      rw [Entries.has_cons_of_table hlookup] at helement
      exact ⟨inner, helement, CompileFlags.not_undecided_of_ofToml hflags⟩
    | tables elements => cases hflags

/-- No lines of a plan that was read leave the flags of a module undecided. -/
theorem not_undecidedLines_of_readToml {text : String} (h : readToml text = .ok p)
    {lines : List Statement}
    (hlines : Toml.lines? text = some lines) : ¬UndecidedLines lines := by
  unfold readToml at h
  cases hparse : Toml.parse text with
  | none => simp [hparse] at h
  | some fields =>
    rw [hparse] at h
    obtain ⟨lines', d, hlines', hd, rfl⟩ := Toml.parse_eq_some hparse
    obtain rfl : lines' = lines := Option.some.inj (hlines'.symm.trans hlines)
    intro hundecided
    cases hundecided with
    | foreign hkey hnamed =>
      obtain ⟨inner, hinner, hdecided⟩ := exists_flags_of_has h (Toml.has_key_of_named hd hnamed)
      have hmem := Toml.mem_map_fst_of_hasKey hinner
      exact hdecided (CompileFlags.undecided_of_mem hmem hmem (.inr hkey))
    | two hne hnamed hnamed' hmid =>
      obtain ⟨inner, ⟨hinner, hinner'⟩, hdecided⟩ :=
        exists_flags_of_has h (Toml.has_keys_of_named hd hnamed hnamed' hmid)
      exact hdecided (CompileFlags.undecided_of_mem (Toml.mem_map_fst_of_hasKey hinner)
        (Toml.mem_map_fst_of_hasKey hinner') (.inl hne))
    | flags hpath hv =>
      have hhas := Toml.has_value_of_assigned hd
      rw [hpath] at hhas
      obtain ⟨element, m, hm, helement⟩ := exists_module_of_has h hhas
      exact ModuleEntry.not_undecided_of_ofToml hm ⟨_, .field (Toml.mem_finishEntries helement), hv⟩
    | modules hpath hitem hv =>
      have hhas := Toml.has_value_of_assigned hd
      rw [hpath] at hhas
      exact not_undecided_of_ofTomlFields h ⟨_, Toml.mem_finishEntries hhas, _, hitem, hv⟩

end Plan

end Shakedown
