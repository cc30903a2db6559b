import Mathlib.Data.List.Forall2
import Shakedown.Proofs.Toml.Keys
import Shakedown.Plan.File

/-!
# What a plan document says

A document says something of a plan by its values under four keys, and of a module by its values
under three. `Plan.Described` puts this down key by key, without an order in which fields are read:
a field is what its key says, or its default if the key is absent.

Main statement: `readToml_eq_ok_iff`, a text is read as a plan exactly if it is a document and the
document describes the plan.
-/

set_option autoImplicit false

namespace Shakedown

open Toml (Value Reader ReadError)

/-! ## Descriptions -/

namespace Toml

/-- Whether a field is what a table gives for it, or its default where the table gives nothing. -/
def Says {α : Type} (describes : Value → α → Prop) (default : α) (given : Option Value) (a : α) :
    Prop :=
  match given with
  | none => a = default
  | some v => describes v a

/-- Whether a value is a text. -/
def DescribesText (v : Value) (s : String) : Prop :=
  v = .text s

/-- Whether a value is a truth value. -/
def DescribesBool (v : Value) (b : Bool) : Prop :=
  v = .boolean b

/-- Whether a value is the text of a path. -/
def DescribesPath (v : Value) (p : Path) : Prop :=
  ∃ s, v = .text s ∧ p = .ofString s

/-- Whether a value lists what each of its items describes, in order. -/
def DescribesList {α : Type} (describes : Value → α → Prop) (v : Value) (as : List α) : Prop :=
  ∃ items, v = .list items ∧ List.Forall₂ describes items as

end Toml

open Toml (Says DescribesText DescribesBool DescribesPath DescribesList)

/-- Whether a value describes a compile option: by its name and what belongs to it. -/
inductive CompileFlags.Described : Value → CompileFlags → Prop
  | optimize (level : String) : Described (.table [("optimize", .text level)]) (.optimize level)
  | dumpIr (directory : String) :
    Described (.table [("dump_ir", .text directory)]) (.dumpIr directory)
  | plain : Described (.text "plain") .plain
  | plainTable : Described (.table [("plain", .table [])]) .plain
  | plainList : Described (.table [("plain", .list [])]) .plain

namespace ModuleEntry

/-- The keys of a module. -/
def tomlKeys : List String := ["source", "enabled", "flags"]

/-- Whether the fields of a table describe a module. -/
structure FieldsDescribe (fields : List (String × Value)) (m : ModuleEntry) : Prop where
  source : fields.lookup "source" = some (.text m.source)
  enabled : Says DescribesBool true (fields.lookup "enabled") m.enabled
  flags : Says CompileFlags.Described .plain (fields.lookup "flags") m.flags

/-- Whether a value describes a module: by a table, or by a list of values for its keys in order. -/
inductive Described : Value → ModuleEntry → Prop
  | table {fields : List (String × Value)} {m : ModuleEntry} (h : FieldsDescribe fields m) :
      Described (.table fields) m
  | list {items : List Value} {m : ModuleEntry} (h : FieldsDescribe (tomlKeys.zip items) m) :
      Described (.list items) m

end ModuleEntry

namespace Plan

/-- The keys of a plan. -/
def tomlKeys : List String := ["project_dir", "build_tool", "reference_compiler", "modules"]

/-- Whether a document describes a plan. -/
structure Described (fields : List (String × Value)) (p : Plan) : Prop where
  projectDir : Says DescribesPath (.ofString "chibicc") (fields.lookup "project_dir") p.projectDir
  buildTool : Says DescribesText "make" (fields.lookup "build_tool") p.buildTool
  referenceCompiler :
    Says DescribesText "gcc" (fields.lookup "reference_compiler") p.referenceCompiler
  modules :
    Says (DescribesList ModuleEntry.Described) Defaults.modules (fields.lookup "modules") p.modules

end Plan

/-! ## Fields one by one -/

namespace Toml

/-- A key that a table does not have gives nothing. -/
theorem lookup_eq_none_of_not_mem {key : String} {fields : List (String × Value)}
    (h : key ∉ fields.map Prod.fst) : fields.lookup key = none := by
  refine List.lookup_eq_none_iff.2 fun f hf => ?_
  have hne : f.1 ≠ key := fun heq => h (heq ▸ List.mem_map_of_mem hf)
  simpa using fun heq => hne heq.symm

/-- What is known of a field after a table was read: what its key gives, or what was known
before. -/
def Takes {α : Type} (read : Reader α) (given : Option Value) (before after : Option α) : Prop :=
  match given with
  | none => after = before
  | some v => ∃ a, read v = .ok a ∧ after = some a

section

variable {α : Type} {read : Reader α} {key : String} {v : Value} {more : List (String × Value)}
  {before after : Option α}

/-- The first field of a table sets what is known of its key, if it is read, before the others
do. -/
theorem takes_cons_self (hnew : more.lookup key = none) :
    Takes read (((key, v) :: more).lookup key) before after ↔
      ∃ a, read v = .ok a ∧ Takes read (more.lookup key) (some a) after := by
  rw [hnew]
  simp [Takes]

/-- The first field of a table leaves what is known of other keys to the fields behind it. -/
theorem takes_cons_ne {other : String} (h : other ≠ key) :
    Takes read (((key, v) :: more).lookup other) before after ↔
      Takes read (more.lookup other) before after := by
  have hbeq : (other == key) = false := by simpa using h
  rw [List.lookup_cons, hbeq]

/-- A field that nothing was known of is what its key says, or its default. -/
theorem exists_takes_iff {describes : Value → α → Prop} (default a : α) (given : Option Value)
    (hread : ∀ v, given = some v → ∀ a, read v = .ok a ↔ describes v a) :
    (∃ after, Takes read given none after ∧ after.getD default = a) ↔
      Says describes default given a := by
  cases given with
  | none => simp [Takes, Says, eq_comm]
  | some v =>
    simp only [Takes, Says]
    constructor
    · rintro ⟨-, ⟨b, hb, rfl⟩, rfl⟩
      exact (hread v rfl b).1 hb
    · intro h
      exact ⟨some a, ⟨a, (hread v rfl a).2 h, rfl⟩, rfl⟩

end

/-! ## Readers of values -/

/-- A text is read exactly where a value is that text. -/
theorem readText_eq_ok {v : Value} {s : String} : readText v = .ok s ↔ DescribesText v s := by
  cases v <;> simp [readText, readTextAs, DescribesText]

/-- A truth value is read exactly where a value is that truth value. -/
theorem readBool_eq_ok {v : Value} {b : Bool} : readBool v = .ok b ↔ DescribesBool v b := by
  cases v <;> simp [readBool, DescribesBool]

/-- Items are read exactly where each one describes what it is read as. -/
theorem readItems_eq_ok {α : Type} {read : Reader α} {describes : Value → α → Prop}
    {items : List Value} {as : List α}
    (hread : ∀ v ∈ items, ∀ a, read v = .ok a ↔ describes v a) :
    readItems read items = .ok as ↔ List.Forall₂ describes items as := by
  induction items generalizing as with
  | nil => simp [readItems, eq_comm]
  | cons v more ih =>
    obtain ⟨hv, hmore⟩ := List.forall_mem_cons.1 hread
    rw [readItems, List.forall₂_cons_left_iff]
    simp only [← hv]
    cases hone : read v with
    | error e => simp
    | ok a =>
      simp only [← ih hmore]
      cases readItems read more with
      | error e => simp
      | ok rest => simp [eq_comm]

/-- A list is read exactly where it lists what each of its items describes. -/
theorem readList_eq_ok {α : Type} {read : Reader α} {describes : Value → α → Prop} {v : Value}
    {as : List α} (hread : ∀ items, v = .list items → ∀ u ∈ items, ∀ a,
      read u = .ok a ↔ describes u a) :
    readList read v = .ok as ↔ DescribesList describes v as := by
  cases v with
  | list items => simp [readList, DescribesList, readItems_eq_ok (hread items rfl)]
  | text s => simp [readList, DescribesList]
  | integer n => simp [readList, DescribesList]
  | real x => simp [readList, DescribesList]
  | boolean b => simp [readList, DescribesList]
  | moment => simp [readList, DescribesList]
  | table fields => simp [readList, DescribesList]

/-- A result is mapped to a value if it is one that the map takes there. -/
theorem map_eq_ok {α β : Type} {x : Except ReadError α} {f : α → β} {b : β} :
    x.map f = .ok b ↔ ∃ a, x = .ok a ∧ f a = b := by
  cases x <;> simp [Except.map]

end Toml

/-! ## Options and modules -/

/-- Compile options are read from a value exactly where it describes them. -/
theorem CompileFlags.ofToml_eq_ok {v : Value} {flags : CompileFlags} :
    CompileFlags.ofToml v = .ok flags ↔ CompileFlags.Described v flags := by
  constructor
  · intro h
    unfold ofToml at h
    split at h
    · unfold ofTomlName at h
      split at h
      · next hname =>
        cases h
        rw [hname]
        exact .plain
      · split at h <;> cases h
    · unfold ofTomlEntry at h
      split at h
      · next hname =>
        obtain ⟨level, hv, rfl⟩ := Toml.map_eq_ok.1 h
        rw [hname, Toml.readText_eq_ok.1 hv]
        exact .optimize level
      · split at h
        · next hname =>
          obtain ⟨directory, hv, rfl⟩ := Toml.map_eq_ok.1 h
          rw [hname, Toml.readText_eq_ok.1 hv]
          exact .dumpIr directory
        · split at h
          · next hname =>
            rw [hname]
            split at h
            · cases h
              exact .plainTable
            · cases h
              exact .plainList
            · cases h
          · cases h
    · cases h
  · intro h
    cases h <;> rfl

namespace ModuleEntry

/-- What is known of a module after a table was read. -/
theorem readFields_eq_ok {fields : List (String × Value)} (hkeys : (fields.map Prod.fst).Nodup)
    {known known' : Known} :
    Toml.readFields tomlField known fields = .ok known' ↔
      Toml.Takes Toml.readText (fields.lookup "source") known.source known'.source ∧
      Toml.Takes Toml.readBool (fields.lookup "enabled") known.enabled known'.enabled ∧
      Toml.Takes CompileFlags.ofToml (fields.lookup "flags") known.flags known'.flags := by
  induction fields generalizing known with
  | nil =>
    obtain ⟨source, enabled, flags⟩ := known
    obtain ⟨source', enabled', flags'⟩ := known'
    simp [Toml.readFields, Toml.Takes, eq_comm]
  | cons f more ih =>
    obtain ⟨key, v⟩ := f
    obtain ⟨hkey, hmore⟩ := List.nodup_cons.1 hkeys
    have hnew := Toml.lookup_eq_none_of_not_mem hkey
    rw [Toml.readFields]
    by_cases hsource : key = "source"
    · subst hsource
      rw [Toml.takes_cons_self hnew, Toml.takes_cons_ne (by decide), Toml.takes_cons_ne (by decide)]
      cases hv : Toml.readText v with
      | error e => simp [tomlField, hv, Except.map]
      | ok s => simp [tomlField, hv, Except.map, ih hmore]
    by_cases henabled : key = "enabled"
    · subst henabled
      rw [Toml.takes_cons_self hnew, Toml.takes_cons_ne (by decide), Toml.takes_cons_ne (by decide)]
      cases hv : Toml.readBool v with
      | error e => simp [tomlField, hv, Except.map]
      | ok b => simp [tomlField, hv, Except.map, ih hmore]
    by_cases hflags : key = "flags"
    · subst hflags
      rw [Toml.takes_cons_self hnew, Toml.takes_cons_ne (by decide), Toml.takes_cons_ne (by decide)]
      cases hv : CompileFlags.ofToml v with
      | error e => simp [tomlField, hv, Except.map]
      | ok flags => simp [tomlField, hv, Except.map, ih hmore]
    · rw [Toml.takes_cons_ne (Ne.symm hsource), Toml.takes_cons_ne (Ne.symm henabled),
        Toml.takes_cons_ne (Ne.symm hflags)]
      simp [tomlField, hsource, henabled, hflags, ih hmore]

/-- A module is read from fields, no key twice, exactly where they describe it. -/
theorem ofTomlFields_eq_ok {fields : List (String × Value)} (hkeys : (fields.map Prod.fst).Nodup)
    {m : ModuleEntry} : ofTomlFields fields = .ok m ↔ FieldsDescribe fields m := by
  have henabled := Toml.exists_takes_iff true m.enabled (fields.lookup "enabled")
    fun v _ _ => Toml.readBool_eq_ok (v := v)
  have hflags := Toml.exists_takes_iff .plain m.flags (fields.lookup "flags")
    fun v _ _ => CompileFlags.ofToml_eq_ok (v := v)
  unfold ofTomlFields
  constructor
  · intro h
    cases hread : Toml.readFields tomlField {} fields with
    | error e => simp [hread] at h
    | ok known =>
      obtain ⟨htakesSource, htakesEnabled, htakesFlags⟩ := (readFields_eq_ok hkeys).1 hread
      cases hsource : known.source with
      | none => simp [hread, hsource] at h
      | some source =>
        have hm : known.toEntry source = m := by simpa [hread, hsource] using h
        subst hm
        refine ⟨?_, henabled.1 ⟨_, htakesEnabled, rfl⟩, hflags.1 ⟨_, htakesFlags, rfl⟩⟩
        rw [hsource] at htakesSource
        cases hgiven : fields.lookup "source" with
        | none => simp [Toml.Takes, hgiven] at htakesSource
        | some v =>
          obtain ⟨s, hs, heq⟩ : ∃ s, Toml.readText v = .ok s ∧ source = s := by
            simpa [Toml.Takes, hgiven] using htakesSource
          rw [Toml.readText_eq_ok.1 hs, heq]
          rfl
  · intro h
    obtain ⟨enabled, htakesEnabled, heqEnabled⟩ := henabled.2 h.enabled
    obtain ⟨flags, htakesFlags, heqFlags⟩ := hflags.2 h.flags
    have htakesSource : Toml.Takes Toml.readText (fields.lookup "source") none (some m.source) := by
      rw [h.source]
      exact ⟨m.source, rfl, rfl⟩
    have hread : Toml.readFields tomlField {} fields = .ok ⟨some m.source, enabled, flags⟩ :=
      (readFields_eq_ok hkeys).2 ⟨htakesSource, htakesEnabled, htakesFlags⟩
    simp only [hread, Known.toEntry, heqEnabled, heqFlags]

/-- The keys that belong to the items of a list are different from one another. -/
theorem nodup_map_fst_zip (items : List Value) : ((tomlKeys.zip items).map Prod.fst).Nodup := by
  have hfirst : (tomlKeys.zip items).map Prod.fst = tomlKeys.take items.length := by
    rw [List.zip_eq_zip_take_min, List.map_fst_zip (by simp), Nat.min_comm,
      ← List.take_eq_take_min]
  rw [hfirst]
  exact (show tomlKeys.Nodup by decide).sublist (List.take_sublist _ _)

/-- A module is read from a value exactly where the value describes it. -/
theorem ofToml_eq_ok {v : Value} (hv : v.Keyed) {m : ModuleEntry} :
    ModuleEntry.ofToml v = .ok m ↔ Described v m := by
  cases v with
  | table fields =>
    cases hv with
    | table hkeys _ =>
      have hfields := ofTomlFields_eq_ok hkeys (m := m)
      constructor
      · intro h
        exact .table (hfields.1 h)
      · intro h
        cases h with
        | table h => exact hfields.2 h
  | list items =>
    have hfields := ofTomlFields_eq_ok (nodup_map_fst_zip items) (m := m)
    constructor
    · intro h
      cases items with
      | nil => cases h
      | cons first more => exact .list (hfields.1 h)
    · intro h
      cases h with
      | list h =>
        cases items with
        | nil => cases h.source
        | cons first more => exact hfields.2 h
  | moment =>
    constructor
    · intro h
      cases h
    · intro h
      cases h
  | text s =>
    constructor
    · intro h
      cases h
    · intro h
      cases h
  | integer n =>
    constructor
    · intro h
      cases h
    · intro h
      cases h
  | real x =>
    constructor
    · intro h
      cases h
    · intro h
      cases h
  | boolean b =>
    constructor
    · intro h
      cases h
    · intro h
      cases h

end ModuleEntry

/-! ## Plans -/

namespace Plan

/-- A path is read exactly where a value is its text. -/
theorem readPath_eq_ok {v : Value} {p : Path} :
    (Toml.readTextAs "path string" v).map Path.ofString = .ok p ↔ DescribesPath v p := by
  cases v <;> simp [Toml.readTextAs, DescribesPath, Except.map, eq_comm]

/-- Modules are read exactly where a value lists what describes them. -/
theorem readModules_eq_ok {v : Value} (hv : v.Keyed) {ms : List ModuleEntry} :
    Toml.readList ModuleEntry.ofToml v = .ok ms ↔ DescribesList ModuleEntry.Described v ms := by
  refine Toml.readList_eq_ok fun items hitems u hu m => ?_
  subst hitems
  cases hv with
  | list h => exact ModuleEntry.ofToml_eq_ok (h u hu)

/-- What is known of a plan after a table was read. -/
theorem readFields_eq_ok {fields : List (String × Value)} (hkeys : (fields.map Prod.fst).Nodup)
    {known known' : Known} :
    Toml.readFields tomlField known fields = .ok known' ↔
      Toml.Takes (fun v => (Toml.readTextAs "path string" v).map Path.ofString)
        (fields.lookup "project_dir") known.projectDir known'.projectDir ∧
      Toml.Takes Toml.readText (fields.lookup "build_tool") known.buildTool known'.buildTool ∧
      Toml.Takes Toml.readText (fields.lookup "reference_compiler") known.referenceCompiler
        known'.referenceCompiler ∧
      Toml.Takes (Toml.readList ModuleEntry.ofToml) (fields.lookup "modules") known.modules
        known'.modules := by
  induction fields generalizing known with
  | nil =>
    obtain ⟨projectDir, buildTool, referenceCompiler, modules⟩ := known
    obtain ⟨projectDir', buildTool', referenceCompiler', modules'⟩ := known'
    simp [Toml.readFields, Toml.Takes, eq_comm]
  | cons f more ih =>
    obtain ⟨key, v⟩ := f
    obtain ⟨hkey, hmore⟩ := List.nodup_cons.1 hkeys
    have hnew := Toml.lookup_eq_none_of_not_mem hkey
    rw [Toml.readFields]
    by_cases hdir : key = "project_dir"
    · subst hdir
      rw [Toml.takes_cons_self hnew, Toml.takes_cons_ne (by decide), Toml.takes_cons_ne (by decide),
        Toml.takes_cons_ne (by decide)]
      cases hv : Toml.readTextAs "path string" v with
      | error e => simp [tomlField, hv, Except.map]
      | ok s => simp [tomlField, hv, Except.map, ih hmore]
    by_cases htool : key = "build_tool"
    · subst htool
      rw [Toml.takes_cons_self hnew, Toml.takes_cons_ne (by decide), Toml.takes_cons_ne (by decide),
        Toml.takes_cons_ne (by decide)]
      cases hv : Toml.readText v with
      | error e => simp [tomlField, hv, Except.map]
      | ok s => simp [tomlField, hv, Except.map, ih hmore]
    by_cases hreference : key = "reference_compiler"
    · subst hreference
      rw [Toml.takes_cons_self hnew, Toml.takes_cons_ne (by decide), Toml.takes_cons_ne (by decide),
        Toml.takes_cons_ne (by decide)]
      cases hv : Toml.readText v with
      | error e => simp [tomlField, hv, Except.map]
      | ok s => simp [tomlField, hv, Except.map, ih hmore]
    by_cases hmodules : key = "modules"
    · subst hmodules
      rw [Toml.takes_cons_self hnew, Toml.takes_cons_ne (by decide), Toml.takes_cons_ne (by decide),
        Toml.takes_cons_ne (by decide)]
      cases hv : Toml.readList ModuleEntry.ofToml v with
      | error e => simp [tomlField, hv, Except.map]
      | ok ms => simp [tomlField, hv, Except.map, ih hmore]
    · rw [Toml.takes_cons_ne (Ne.symm hdir), Toml.takes_cons_ne (Ne.symm htool),
        Toml.takes_cons_ne (Ne.symm hreference), Toml.takes_cons_ne (Ne.symm hmodules)]
      simp [tomlField, hdir, htool, hreference, hmodules, ih hmore]

/-- A plan is read from the fields of a document exactly where they describe it. -/
theorem ofTomlFields_eq_ok {fields : List (String × Value)} (hfields : (Value.table fields).Keyed)
    {p : Plan} : ofTomlFields fields = .ok p ↔ Described fields p := by
  cases hfields with
  | table hkeys hall =>
    have hmem {key : String} {v : Value} (h : fields.lookup key = some v) : v.Keyed := by
      obtain ⟨before, after, rfl, -⟩ := List.lookup_eq_some_iff.1 h
      exact hall (key, v) (by simp)
    have hdir := Toml.exists_takes_iff (.ofString "chibicc") p.projectDir
      (fields.lookup "project_dir") fun v _ _ => readPath_eq_ok (v := v)
    have htool := Toml.exists_takes_iff "make" p.buildTool (fields.lookup "build_tool")
      fun v _ _ => Toml.readText_eq_ok (v := v)
    have hreference := Toml.exists_takes_iff "gcc" p.referenceCompiler
      (fields.lookup "reference_compiler") fun v _ _ => Toml.readText_eq_ok (v := v)
    have hmodules := Toml.exists_takes_iff Defaults.modules p.modules (fields.lookup "modules")
      fun _ hv _ => readModules_eq_ok (hmem hv)
    unfold ofTomlFields
    rw [Toml.map_eq_ok]
    constructor
    · rintro ⟨known, hread, rfl⟩
      obtain ⟨htakesDir, htakesTool, htakesReference, htakesModules⟩ :=
        (readFields_eq_ok hkeys).1 hread
      exact ⟨hdir.1 ⟨_, htakesDir, rfl⟩, htool.1 ⟨_, htakesTool, rfl⟩,
        hreference.1 ⟨_, htakesReference, rfl⟩, hmodules.1 ⟨_, htakesModules, rfl⟩⟩
    · intro h
      obtain ⟨dir, htakesDir, heqDir⟩ := hdir.2 h.projectDir
      obtain ⟨tool, htakesTool, heqTool⟩ := htool.2 h.buildTool
      obtain ⟨reference, htakesReference, heqReference⟩ := hreference.2 h.referenceCompiler
      obtain ⟨modules, htakesModules, heqModules⟩ := hmodules.2 h.modules
      refine ⟨⟨dir, tool, reference, modules⟩,
        (readFields_eq_ok hkeys).2 ⟨htakesDir, htakesTool, htakesReference, htakesModules⟩, ?_⟩
      obtain ⟨_, _, _, _⟩ := p
      simp only at heqDir heqTool heqReference heqModules
      subst heqDir heqTool heqReference heqModules
      rfl

/-- A text is read as a plan exactly if it is a document that describes the plan. -/
theorem readToml_eq_ok_iff {text : String} {p : Plan} :
    readToml text = .ok p ↔ ∃ fields, Toml.parse text = some fields ∧ Described fields p := by
  unfold readToml
  cases hparse : Toml.parse text with
  | none => simp
  | some fields => simp [ofTomlFields_eq_ok (Toml.keyed_of_parse hparse)]

end Plan

end Shakedown
