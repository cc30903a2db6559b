import Shakedown.Plan.File
import Shakedown.Proofs.Text.Encoding
import Shakedown.Proofs.Toml.Keys
import Shakedown.Proofs.Toml.Statement

/-!
# A plan survives its TOML text

The text of a plan holds three keys and then one section for each module. The statements of these
sections extend a list of tables one table at a time, whatever the list holds already: that is what
the induction over the modules carries. Reading the finished table gives back the plan, and the
check of its modules decides whether it is accepted.
-/

set_option autoImplicit false

namespace Shakedown

open Toml (Statement Entries Draft IsBare Spells)

/-! ## Statements -/

/-- The statements of an option. -/
def CompileFlags.tomlLines : CompileFlags → List Statement
  | .optimize level => [.header ["modules", "flags"], .assign ["optimize"] (.text level)]
  | .dumpIr directory => [.header ["modules", "flags"], .assign ["dump_ir"] (.text directory)]
  | .plain => [.assign ["flags"] (.text "plain")]

/-- The statements of a module. -/
def ModuleEntry.tomlLines (m : ModuleEntry) : List Statement :=
  .element ["modules"] :: .assign ["source"] (.text m.source) ::
    .assign ["enabled"] (.boolean m.enabled) :: m.flags.tomlLines

/-- The statements of a module list. -/
def ModuleEntry.listTomlLines (modules : List ModuleEntry) : List Statement :=
  if modules.isEmpty then [.assign ["modules"] (.list [])]
  else modules.flatMap ModuleEntry.tomlLines

section

variable {rest : List Char} {lines : List Statement}

/-- What is written for an option is read as its statements. -/
theorem CompileFlags.spells_toToml (flags : CompileFlags) (h : Spells rest lines) :
    Spells (flags.toToml ++ rest) (flags.tomlLines ++ lines) := by
  cases flags with
  | optimize level =>
    rw [toToml, List.append_assoc]
    exact (h.assign (by decide) (Toml.writesValue_text level)).header
  | dumpIr directory =>
    rw [toToml, List.append_assoc]
    exact (h.assign (by decide) (Toml.writesValue_text directory)).header
  | plain => exact h.assign (by decide) (Toml.writesValue_text "plain")

/-- What is written for a module is read as its statements. -/
theorem ModuleEntry.spells_toToml (m : ModuleEntry) (h : Spells rest lines) :
    Spells (m.toToml ++ rest) (m.tomlLines ++ lines) := by
  have hflags := m.flags.spells_toToml h
  have henabled := hflags.assign (show IsBare "enabled" by decide) (Toml.writesValue_bool m.enabled)
  have hsource := henabled.assign (show IsBare "source" by decide) (Toml.writesValue_text m.source)
  rw [toToml, List.append_assoc, List.append_assoc, List.append_assoc]
  exact hsource.element

/-- What is written for modules is read as their statements. -/
theorem ModuleEntry.spells_sections (modules : List ModuleEntry) :
    Spells (modules.flatMap toToml) (modules.flatMap tomlLines) := by
  induction modules with
  | nil => exact .nil
  | cons m more ih =>
    rw [List.flatMap_cons, List.flatMap_cons]
    exact m.spells_toToml ih

/-- What is written for a module list is read as its statements. -/
theorem ModuleEntry.spells_listToToml (modules : List ModuleEntry) :
    Spells (listToToml modules) (listTomlLines modules) := by
  unfold listToToml listTomlLines
  split
  · have h := Spells.nil.assign (show IsBare "modules" by decide) Toml.writesValue_empty
    rwa [List.append_nil] at h
  · exact spells_sections modules

end

/-! ## Tables under construction -/

namespace Toml.Entries

variable {entries : Entries} {key : String}

/-- A new key at the end leads to its node. -/
theorem lookup_append_self (h : entries.lookup key = none) (node : Node) :
    (entries ++ [(key, node)]).lookup key = some node := by
  rw [List.lookup_append, h]
  simp

/-- The node of a new key at the end is replaced there. -/
theorem replace_append_self (h : entries.lookup key = none) (node node' : Node) :
    replace (entries ++ [(key, node)]) key node' = entries ++ [(key, node')] := by
  have hother : ∀ entry ∈ entries, (if entry.1 = key then (key, node') else entry) = entry := by
    intro entry hentry
    have hne := List.lookup_eq_none_iff.1 h entry hentry
    rw [if_neg fun heq => by simp [heq] at hne]
  rw [replace, List.map_append, List.map_congr_left hother, List.map_id']
  simp

/-- A change at the end of the empty path is made at once. -/
theorem reach_nil (dotted : Bool) (change : Change) (origin : Origin) :
    reach dotted change [] origin entries = change origin entries := by
  rw [reach]

/-- A new key comes last. -/
theorem insert_new (h : entries.lookup key = none) (v : Value) :
    insert [key] v .header entries = some (entries ++ [(key, .value v)]) := by
  simp [insert, cutLast, reach, put, h]

/-- A list of tables stands for its last table. -/
theorem reach_last (h : entries.lookup key = none) (done : List Entries) (last : Entries)
    (change : Change) (path : List String) :
    reach false change (key :: path) .header (entries ++ [(key, .tables (done ++ [last]))]) =
      (reach false change path .header last).map fun last =>
        entries ++ [(key, .tables (done ++ [last]))] := by
  rw [reach, lookup_append_self h]
  simp only [List.getLast?_concat, List.dropLast_concat]
  cases reach false change path .header last with
  | none => rfl
  | some last => simp only [replace_append_self h, Option.map_some]

/-- A table that a header names is changed inside. -/
theorem reach_table (h : entries.lookup key = none) (inner : Entries) (change : Change) :
    reach false change [key] .header (entries ++ [(key, .table .header inner)]) =
      (change .header inner).map fun inner => entries ++ [(key, .table .header inner)] := by
  rw [reach, lookup_append_self h]
  simp only [Bool.false_eq_true, false_and, if_false, reach]
  cases change .header inner with
  | none => rfl
  | some inner => simp only [replace_append_self h, Option.map_some]

end Toml.Entries

namespace Toml

/-- Entries behind others are finished behind them. -/
theorem finishEntries_append (entries more : Entries) :
    finishEntries (entries ++ more) = finishEntries entries ++ finishEntries more := by
  simp only [finishEntries_eq_map, List.map_append]

end Toml

/-- The table of an option under construction. -/
def CompileFlags.tomlNode : CompileFlags → Toml.Node
  | .optimize level => .table .header [("optimize", .value (.text level))]
  | .dumpIr directory => .table .header [("dump_ir", .value (.text directory))]
  | .plain => .value (.text "plain")

/-- The entries of a module under construction. -/
def ModuleEntry.tomlEntries (m : ModuleEntry) : Entries :=
  [("source", .value (.text m.source)), ("enabled", .value (.boolean m.enabled)),
    ("flags", m.flags.tomlNode)]

/-- Entries with the sections of modules, if there are any. -/
def ModuleEntry.listed (entries : Entries) (done : List Entries) : Entries :=
  if done.isEmpty then entries else entries ++ [("modules", .tables done)]

namespace Toml.Draft

/-- Statements are added to what the first of them leads to. -/
theorem addAll_cons {d d' : Draft} {s : Statement} (h : d.add s = some d') (more : List Statement) :
    d.addAll (s :: more) = d'.addAll more := by
  rw [addAll, h]

/-- A new key in front of all headers is added to the document. -/
theorem add_root {entries : Entries} {key : String} (h : entries.lookup key = none) (v : Value) :
    add ⟨entries, []⟩ (.assign [key] v) = some ⟨entries ++ [(key, .value v)], []⟩ := by
  simp only [add, Entries.reach_nil, Entries.insert_new h]

section

variable {entries : Entries} (hnew : entries.lookup "modules" = none) (done : List Entries)
include hnew

/-- A header for a module starts a new table at the end of the module list. -/
theorem add_element (header : List String) :
    add ⟨ModuleEntry.listed entries done, header⟩ (.element ["modules"]) =
      some ⟨entries ++ [("modules", .tables (done ++ [[]]))], ["modules"]⟩ := by
  have hopen : Entries.openElement ["modules"] .header (ModuleEntry.listed entries done) =
      some (entries ++ [("modules", .tables (done ++ [[]]))]) := by
    cases done with
    | nil => simp [Entries.openElement, Entries.cutLast, Entries.reach, ModuleEntry.listed, hnew]
    | cons first more =>
      simp [Entries.openElement, Entries.cutLast, Entries.reach, ModuleEntry.listed,
        Entries.lookup_append_self hnew, Entries.replace_append_self hnew]
  simp only [add, opened, hopen]

/-- A new key under such a header is added to the last table of the list. -/
theorem add_assign {key : String} {last : Entries} (hkey : last.lookup key = none) (v : Value) :
    add ⟨entries ++ [("modules", .tables (done ++ [last]))], ["modules"]⟩ (.assign [key] v) =
      some ⟨entries ++ [("modules", .tables (done ++ [last ++ [(key, .value v)]]))],
        ["modules"]⟩ := by
  simp only [add, Entries.reach_last hnew, Entries.reach_nil, Entries.insert_new hkey,
    Option.map_some]

/-- A header for the flags starts a table in the last module. -/
theorem add_header {last : Entries} (hflags : last.lookup "flags" = none) :
    add ⟨entries ++ [("modules", .tables (done ++ [last]))], ["modules"]⟩
        (.header ["modules", "flags"]) =
      some ⟨entries ++ [("modules", .tables (done ++ [last ++ [("flags", .table .header [])]]))],
        ["modules", "flags"]⟩ := by
  simp only [add, opened, Entries.openTable, Entries.cutLast, Entries.reach_last hnew,
    Entries.reach_nil, hflags, Option.map_some]

/-- A key under such a header is added to the flags of the last module. -/
theorem add_assign_flags {last : Entries} (hflags : last.lookup "flags" = none) (key : String)
    (v : Value) :
    add ⟨entries ++ [("modules", .tables (done ++ [last ++ [("flags", .table .header [])]]))],
        ["modules", "flags"]⟩ (.assign [key] v) =
      some ⟨entries ++
        [("modules", .tables (done ++ [last ++ [("flags", .table .header [(key, .value v)])]]))],
        ["modules", "flags"]⟩ := by
  have hinsert : Entries.insert [key] v .header [] = some [(key, .value v)] := rfl
  simp only [add, Entries.reach_last hnew, Entries.reach_table hflags, hinsert, Option.map_some]

end

end Toml.Draft

/-- The option of a module is the last entry of its table. -/
theorem CompileFlags.addAll_tomlLines {entries : Entries} (hnew : entries.lookup "modules" = none)
    (done : List Entries) (last : Entries) (hflags : last.lookup "flags" = none)
    (flags : CompileFlags) :
    ∃ header, ∀ more,
      Draft.addAll ⟨entries ++ [("modules", .tables (done ++ [last]))], ["modules"]⟩
          (flags.tomlLines ++ more) =
        Draft.addAll ⟨entries ++
          [("modules", .tables (done ++ [last ++ [("flags", flags.tomlNode)]]))], header⟩ more := by
  -- An option with a payload has a section of its own, with one key.
  have hsection (name payload : String) (more : List Statement) :
      Draft.addAll ⟨entries ++ [("modules", .tables (done ++ [last]))], ["modules"]⟩
          (.header ["modules", "flags"] :: .assign [name] (.text payload) :: more) =
        Draft.addAll ⟨entries ++ [("modules", .tables (done ++
          [last ++ [("flags", .table .header [(name, .value (.text payload))])]]))],
          ["modules", "flags"]⟩ more := by
    rw [Draft.addAll_cons (Draft.add_header hnew done hflags),
      Draft.addAll_cons (Draft.add_assign_flags hnew done hflags _ _)]
  cases flags with
  | optimize level => exact ⟨_, hsection "optimize" level⟩
  | dumpIr directory => exact ⟨_, hsection "dump_ir" directory⟩
  | plain =>
    refine ⟨["modules"], fun more => ?_⟩
    rw [tomlLines, List.singleton_append, Draft.addAll_cons (Draft.add_assign hnew done hflags _)]
    rfl

namespace ModuleEntry

/-- The section of a module adds one table. -/
theorem addAll_tomlLines {entries : Entries} (hnew : entries.lookup "modules" = none)
    (done : List Entries) (header : List String) (m : ModuleEntry) :
    ∃ header', ∀ more, Draft.addAll ⟨listed entries done, header⟩ (m.tomlLines ++ more) =
      Draft.addAll ⟨listed entries (done ++ [m.tomlEntries]), header'⟩ more := by
  obtain ⟨header', hflags⟩ := m.flags.addAll_tomlLines hnew done
    [("source", .value (.text m.source)), ("enabled", .value (.boolean m.enabled))] rfl
  have hlisted : listed entries (done ++ [m.tomlEntries]) =
      entries ++ [("modules", .tables (done ++ [m.tomlEntries]))] := by
    simp [listed]
  refine ⟨header', fun more => ?_⟩
  simp only [tomlLines, List.cons_append]
  rw [Draft.addAll_cons (Draft.add_element hnew done header),
    Draft.addAll_cons (Draft.add_assign hnew done rfl _),
    Draft.addAll_cons (Draft.add_assign hnew done rfl _), hlisted]
  exact hflags more

/-- The sections of modules add a table each. -/
theorem addAll_sections {entries : Entries} (hnew : entries.lookup "modules" = none)
    (modules : List ModuleEntry) (done : List Entries) (header : List String) :
    ∃ header', Draft.addAll ⟨listed entries done, header⟩ (modules.flatMap tomlLines) =
      some ⟨listed entries (done ++ modules.map tomlEntries), header'⟩ := by
  induction modules generalizing done header with
  | nil => exact ⟨header, by simp [Draft.addAll]⟩
  | cons m more ih =>
    obtain ⟨header₁, hm⟩ := m.addAll_tomlLines hnew done header
    obtain ⟨header₂, hmore⟩ := ih (done ++ [m.tomlEntries]) header₁
    refine ⟨header₂, ?_⟩
    rw [List.flatMap_cons, hm, hmore, List.append_assoc, List.singleton_append, List.map_cons]

/-- The finished value of a module list. -/
def listTomlValue (modules : List ModuleEntry) : Toml.Value :=
  .list (modules.map fun m => .table (Toml.finishEntries m.tomlEntries))

/-- The statements of a module list make up its value. -/
theorem addAll_listTomlLines {entries : Entries} (hnew : entries.lookup "modules" = none)
    (modules : List ModuleEntry) :
    ∃ d, Draft.addAll ⟨entries, []⟩ (listTomlLines modules) = some d ∧
      Toml.finishEntries d.entries =
        Toml.finishEntries entries ++ [("modules", listTomlValue modules)] := by
  cases modules with
  | nil =>
    refine ⟨_, Draft.addAll_cons (Draft.add_root hnew (.list [])) [], ?_⟩
    rw [Toml.finishEntries_append]
    rfl
  | cons m more =>
    obtain ⟨header, hadd⟩ := addAll_sections hnew (m :: more) [] []
    refine ⟨_, hadd, ?_⟩
    have hlisted : listed entries ([] ++ (m :: more).map tomlEntries) =
        entries ++ [("modules", .tables ((m :: more).map tomlEntries))] := rfl
    rw [hlisted, Toml.finishEntries_append, Toml.finishEntries, Toml.Node.finish,
      Toml.finishElements_eq_map, List.map_map]
    rfl

/-- A module is read from its finished entries. -/
theorem ofToml_tomlEntries (m : ModuleEntry) :
    ModuleEntry.ofToml (.table (Toml.finishEntries m.tomlEntries)) = .ok m := by
  obtain ⟨source, enabled, flags⟩ := m
  cases flags <;> rfl

/-- A module list is read from its finished value. -/
theorem readList_listTomlValue (modules : List ModuleEntry) :
    Toml.readList ModuleEntry.ofToml (listTomlValue modules) = .ok modules := by
  rw [listTomlValue, Toml.readList]
  induction modules with
  | nil => rfl
  | cons m more ih => rw [List.map_cons, Toml.readItems, m.ofToml_tomlEntries, ih]

end ModuleEntry

/-! ## Plans -/

namespace Plan

/-- The entries of a plan under construction before its modules come. -/
def tomlEntries (p : Plan) (dir : String) : Entries :=
  [("project_dir", .value (.text dir)), ("build_tool", .value (.text p.buildTool)),
    ("reference_compiler", .value (.text p.referenceCompiler))]

/-- The characters of the text of a plan. -/
def tomlText (p : Plan) (dir : String) : List Char :=
  Toml.textLine "project_dir" dir ++ Toml.textLine "build_tool" p.buildTool ++
    Toml.textLine "reference_compiler" p.referenceCompiler ++ ModuleEntry.listToToml p.modules

/-- A plan whose project directory is text has a text. -/
theorem toToml_eq {p : Plan} {dir : String} (h : p.projectDir = .ofString dir) :
    p.toToml = .ok (String.ofList (p.tomlText dir)) := by
  rw [toToml, Path.writable_eq_ok.2 h]
  rfl

/-- The statements of the text of a plan. -/
def tomlLines (p : Plan) (dir : String) : List Statement :=
  .assign ["project_dir"] (.text dir) :: .assign ["build_tool"] (.text p.buildTool) ::
    .assign ["reference_compiler"] (.text p.referenceCompiler) ::
      ModuleEntry.listTomlLines p.modules

/-- The text of a plan is read as its statements. -/
theorem spells_tomlText (p : Plan) (dir : String) :
    Spells (p.tomlText dir) (p.tomlLines dir) := by
  have hmodules := ModuleEntry.spells_listToToml p.modules
  have hreference := hmodules.assign (show IsBare "reference_compiler" by decide)
    (Toml.writesValue_text p.referenceCompiler)
  have htool := hreference.assign (show IsBare "build_tool" by decide)
    (Toml.writesValue_text p.buildTool)
  have hdir := htool.assign (show IsBare "project_dir" by decide) (Toml.writesValue_text dir)
  rw [tomlText, List.append_assoc, List.append_assoc]
  exact hdir

/-- The statements of a plan come to those of its modules behind its other fields. -/
theorem addAll_tomlLines (p : Plan) (dir : String) :
    Draft.addAll {} (p.tomlLines dir) =
      Draft.addAll ⟨p.tomlEntries dir, []⟩ (ModuleEntry.listTomlLines p.modules) := by
  rw [tomlLines, Draft.addAll_cons (Draft.add_root rfl _), Draft.addAll_cons (Draft.add_root rfl _),
    Draft.addAll_cons (Draft.add_root rfl _)]
  rfl

/-- The table that the text of a plan describes. -/
theorem parse_tomlText (p : Plan) (dir : String) :
    Toml.parse (String.ofList (p.tomlText dir)) =
      some (Toml.finishEntries (p.tomlEntries dir) ++
        [("modules", ModuleEntry.listTomlValue p.modules)]) := by
  have hmark : Toml.dropMark (p.tomlText dir) = p.tomlText dir := rfl
  obtain ⟨d, hadd, hfinish⟩ :=
    ModuleEntry.addAll_listTomlLines (show (p.tomlEntries dir).lookup "modules" = none from rfl)
      p.modules
  rw [Toml.parse, String.toList_ofList]
  simp only [hmark, p.spells_tomlText dir _ (Nat.lt_succ_self _), p.addAll_tomlLines dir, hadd,
    hfinish]

/-- The table of a plan is read as the plan. -/
theorem ofTomlFields_tomlEntries {p : Plan} {dir : String} (h : p.projectDir = .ofString dir) :
    ofTomlFields (Toml.finishEntries (p.tomlEntries dir) ++
      [("modules", ModuleEntry.listTomlValue p.modules)]) = .ok p := by
  obtain ⟨projectDir, buildTool, referenceCompiler, modules⟩ := p
  subst h
  simp [ofTomlFields, tomlEntries, Toml.finishEntries, Toml.Node.finish, Toml.readFields, tomlField,
    Toml.readText, Toml.readTextAs, ModuleEntry.readList_listTomlValue, Except.map, Known.toPlan]

/-- A plan whose project directory is text survives its TOML form: what is written is read back as
the plan if its modules keep the rules, and as the error of their check otherwise. -/
theorem ofToml_toToml {p : Plan} (h : p.projectDir.text?.isSome = true) :
    ∃ text, p.toToml = .ok text ∧
      Plan.ofToml text =
        match ModuleEntry.checkAll p.modules with
        | .ok () => .ok p
        | .error e => .error (.invalid e) := by
  obtain ⟨dir, hwritable⟩ := Path.exists_writable_iff.2 h
  have hdir := Path.writable_eq_ok.1 hwritable
  refine ⟨_, toToml_eq hdir, ?_⟩
  have hread : readToml (String.ofList (p.tomlText dir)) = .ok p := by
    rw [readToml, parse_tomlText]
    exact ofTomlFields_tomlEntries hdir
  rw [ofToml, hread]
  cases hcheck : ModuleEntry.checkAll p.modules with
  | error e => simp only [hcheck]
  | ok _ => simp only [hcheck]

/-- A plan whose texts need all the ways to quote, with escapes and with quotes at their ends. -/
def knotty : Plan where
  projectDir := .ofString "a 'quoted' \"project\""
  buildTool := "C:\\make"
  referenceCompiler := "''\ngcc\\\"\"\"\""
  modules := [⟨"a\rb.c", true, .optimize ""⟩, ⟨"\"\"\ntwo.c\"\"", false, .dumpIr "\x7f\n'''"⟩,
    ⟨"ä.c", true, .plain⟩]

/-- The plan with the knotty texts survives its TOML form. -/
theorem ofToml_toToml_knotty : knotty.projectDir.text?.isSome = true ∧
    ∃ text, knotty.toToml = .ok text ∧ Plan.ofToml text = .ok knotty := by
  have hdir : knotty.projectDir.text?.isSome = true := by decide
  have hcheck : ModuleEntry.checkAll knotty.modules = .ok () := by decide
  obtain ⟨text, htext, hread⟩ := ofToml_toToml hdir
  rw [hcheck] at hread
  exact ⟨hdir, text, htext, hread⟩

end Plan

end Shakedown
