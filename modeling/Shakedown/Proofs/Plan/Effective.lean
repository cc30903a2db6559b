import Shakedown.Proofs.Plan.Reordered
import Shakedown.Session.Basic

/-!
# The plan in force

A named plan file gives a plan or an error, whatever the overrides are: the built-in plan never
stands in for a file that is named. The plan that comes out is decided field by field, the override
before the file before the default, and by nothing else in the document. A document may thus be
written with its keys in another order, and with keys that no plan or module has.

Main statement: `Session.loadPlan_eq_effective`.
-/

set_option autoImplicit false

namespace Shakedown

open Toml (Value Says DescribesText DescribesBool DescribesPath DescribesList lookup_filter lookup_map)

/-! ## Keys that are not known -/

/-- A module's value without the keys that no module has. -/
def ModuleEntry.knownPart : Value → Value
  | .table fields => .table (fields.filter fun f => f.1 ∈ tomlKeys)
  | v => v

namespace Plan

/-- The value of a plan's key without the keys that no module has. -/
def knownField (key : String) (v : Value) : Value :=
  match key, v with
  | "modules", .list items => .list (items.map ModuleEntry.knownPart)
  | _, v => v

/-- A document without the keys that no plan has, and without those that no module has. -/
def knownPart (fields : List (String × Value)) : List (String × Value) :=
  (fields.filter fun f => f.1 ∈ tomlKeys).map fun f => (f.1, knownField f.1 f.2)

/-- Whether two documents differ in the order of keys and in keys that are not known only. -/
def SameKnown (fields fields' : List (String × Value)) : Prop :=
  (Value.table (knownPart fields)).Reorders (.table (knownPart fields'))

/-- A known key gives its value in a document, less what is not known in that. -/
theorem lookup_knownPart {fields : List (String × Value)} {key : String} (h : key ∈ tomlKeys) :
    (knownPart fields).lookup key = (fields.lookup key).map (knownField key) := by
  rw [knownPart, lookup_map, lookup_filter _ h]

/-- A known key other than the modules gives the same value with and without unknown keys. -/
theorem lookup_knownPart_of_ne {fields : List (String × Value)} {key : String} (h : key ∈ tomlKeys)
    (hne : key ≠ "modules") : (knownPart fields).lookup key = fields.lookup key := by
  have hsame (v : Value) : knownField key v = v := by
    unfold knownField
    split
    · exact absurd rfl hne
    · rfl
  rw [lookup_knownPart h]
  cases fields.lookup key with
  | none => rfl
  | some v => rw [Option.map_some, hsame]

end Plan

/-- A module is described by a value exactly where it is without unknown keys. -/
theorem ModuleEntry.described_knownPart {v : Value} {m : ModuleEntry} :
    Described (knownPart v) m ↔ Described v m := by
  cases v with
  | table fields =>
    have hsource := lookup_filter fields (show "source" ∈ tomlKeys by decide)
    have henabled := lookup_filter fields (show "enabled" ∈ tomlKeys by decide)
    have hflags := lookup_filter fields (show "flags" ∈ tomlKeys by decide)
    constructor
    · intro h
      cases h with
      | table h => exact .table ⟨hsource ▸ h.source, henabled ▸ h.enabled, hflags ▸ h.flags⟩
    · intro h
      cases h with
      | table h =>
        exact .table ⟨hsource.symm ▸ h.source, henabled.symm ▸ h.enabled, hflags.symm ▸ h.flags⟩
  | _ => rfl

namespace Plan

/-- Modules are described by a list exactly where they are without unknown keys. -/
theorem describesList_knownField {v : Value} {ms : List ModuleEntry} :
    DescribesList ModuleEntry.Described (knownField "modules" v) ms ↔
      DescribesList ModuleEntry.Described v ms := by
  cases v with
  | list items =>
    have hitems : List.Forall₂ ModuleEntry.Described (items.map ModuleEntry.knownPart) ms ↔
        List.Forall₂ ModuleEntry.Described items ms := by
      rw [List.forall₂_map_left_iff]
      simp only [ModuleEntry.described_knownPart]
    simpa [DescribesList, knownField] using hitems
  | _ => rfl

/-- Keys that are not known say nothing. -/
theorem described_knownPart {fields : List (String × Value)} {p : Plan} :
    Described (knownPart fields) p ↔ Described fields p := by
  have hdir : (knownPart fields).lookup "project_dir" = fields.lookup "project_dir" :=
    lookup_knownPart_of_ne (by decide) (by decide)
  have htool : (knownPart fields).lookup "build_tool" = fields.lookup "build_tool" :=
    lookup_knownPart_of_ne (by decide) (by decide)
  have hreference :
      (knownPart fields).lookup "reference_compiler" = fields.lookup "reference_compiler" :=
    lookup_knownPart_of_ne (by decide) (by decide)
  have hmodules :
      Says (DescribesList ModuleEntry.Described) Defaults.modules
          ((knownPart fields).lookup "modules") p.modules ↔
        Says (DescribesList ModuleEntry.Described) Defaults.modules (fields.lookup "modules")
          p.modules := by
    rw [lookup_knownPart (by decide)]
    cases fields.lookup "modules" with
    | none => rfl
    | some v => exact describesList_knownField
  constructor
  · intro h
    exact ⟨hdir ▸ h.projectDir, htool ▸ h.buildTool, hreference ▸ h.referenceCompiler,
      hmodules.1 h.modules⟩
  · intro h
    exact ⟨hdir.symm ▸ h.projectDir, htool.symm ▸ h.buildTool,
      hreference.symm ▸ h.referenceCompiler, hmodules.2 h.modules⟩

/-- Without unknown keys a value still has no key twice. -/
theorem keyed_knownField {key : String} {v : Value} (h : v.Keyed) : (knownField key v).Keyed := by
  unfold knownField
  split
  · next items =>
    cases h with
    | list h =>
      refine .list fun u hu => ?_
      obtain ⟨item, hitem, rfl⟩ := List.mem_map.1 hu
      have hkeyed := h item hitem
      cases item with
      | table fields =>
        cases hkeyed with
        | table hkeys hall =>
          exact .table (hkeys.sublist (List.filter_sublist.map Prod.fst)) fun f hf =>
            hall f (List.mem_of_mem_filter hf)
      | _ => exact hkeyed
  · exact h

/-- Without unknown keys a document still has no key twice. -/
theorem keyed_knownPart {fields : List (String × Value)} (h : (Value.table fields).Keyed) :
    (Value.table (knownPart fields)).Keyed := by
  cases h with
  | table hkeys hall =>
    have hfst : (knownPart fields).map Prod.fst =
        (fields.filter fun f => f.1 ∈ tomlKeys).map Prod.fst := by
      rw [knownPart, List.map_map]
      rfl
    refine .table ?_ fun f hf => ?_
    · rw [hfst]
      exact hkeys.sublist (List.filter_sublist.map Prod.fst)
    · obtain ⟨g, hg, rfl⟩ := List.mem_map.1 hf
      exact keyed_knownField (hall g (List.mem_of_mem_filter hg))

/-- A document that differs in the order of keys and in unknown keys only describes the same
plan. -/
theorem Described.of_sameKnown {fields fields' : List (String × Value)} {p : Plan}
    (h : Described fields p) (hkeyed : (Value.table fields).Keyed)
    (hsame : SameKnown fields fields') : Described fields' p := by
  have hknown : Described (knownPart fields) p := described_knownPart.2 h
  exact described_knownPart.1 (hknown.reorder (keyed_knownPart hkeyed) hsame)

/-! ## Overrides, file and defaults -/

/-- Whether a plan is the one in force: each field is its override, or what the document says of it,
or its default, and the modules are those of the document, or the curated ones. -/
structure Effective (o : Overrides) (fields : List (String × Value)) (p : Plan) : Prop where
  projectDir :
    match o.projectDir with
    | some d => p.projectDir = d
    | none => Says DescribesPath (.ofString "chibicc") (fields.lookup "project_dir") p.projectDir
  buildTool :
    match o.buildTool with
    | some tool => p.buildTool = tool
    | none => Says DescribesText "make" (fields.lookup "build_tool") p.buildTool
  referenceCompiler :
    match o.referenceCompiler with
    | some compiler => p.referenceCompiler = compiler
    | none => Says DescribesText "gcc" (fields.lookup "reference_compiler") p.referenceCompiler
  modules :
    Says (DescribesList ModuleEntry.Described) Defaults.modules (fields.lookup "modules") p.modules

/-- The plan that a document describes, with overrides on top, is the one in force. -/
theorem Described.effective_override {fields : List (String × Value)} {p : Plan}
    (h : Described fields p) (o : Overrides) : Effective o fields (p.override o) where
  projectDir := by
    cases hd : o.projectDir with
    | some d => simp [override, hd]
    | none => simpa [override, hd] using h.projectDir
  buildTool := by
    cases ht : o.buildTool with
    | some tool => simp [override, ht]
    | none => simpa [override, ht] using h.buildTool
  referenceCompiler := by
    cases hc : o.referenceCompiler with
    | some compiler => simp [override, hc]
    | none => simpa [override, hc] using h.referenceCompiler
  modules := h.modules

/-- The empty document describes the curated plan. -/
theorem described_nil : Described [] {} :=
  ⟨rfl, rfl, rfl, rfl⟩

end Plan

namespace Session

variable {s : Session} {m : Machine} {path : Path} {text : String}

/-- The plan in force comes from the text of the plan file, and its errors name the file. -/
theorem loadPlan_of_readText (hfile : s.planFile = some path)
    (hread : m.tree.readText m.cwd path = .ok text) :
    s.loadPlan m =
      match Plan.ofToml text with
      | .error e => .error (.planFile path e)
      | .ok p => .ok (p.override s.overrides) := by
  simp only [loadPlan, basePlan, hfile, Plan.load, hread]
  cases Plan.ofToml text with
  | error e => rfl
  | ok p => rfl

/-- Where the plan file describes a plan, only the check of the modules can refuse it. -/
theorem loadPlan_of_described {fields : List (String × Value)} {p : Plan}
    (hfile : s.planFile = some path) (hread : m.tree.readText m.cwd path = .ok text)
    (hparse : Toml.parse text = some fields) (hp : Plan.Described fields p) :
    s.loadPlan m =
      match ModuleEntry.checkAll p.modules with
      | .error e => .error (.planFile path (.invalid e))
      | .ok () => .ok (p.override s.overrides) := by
  have htoml : Plan.readToml text = .ok p := Plan.readToml_eq_ok_iff.2 ⟨fields, hparse, hp⟩
  simp only [loadPlan_of_readText hfile hread, Plan.ofToml, htoml]
  cases ModuleEntry.checkAll p.modules with
  | error e => rfl
  | ok _ => rfl

/-- The plan in force. Without a plan file it is the curated one under the overrides. A named file
that cannot be read, is not a document, does not describe a plan or lists modules that break a rule
is an error that names the file, whatever the overrides are. Every other file gives the plan that
its document says, field by field under the overrides, and so does any document that only orders its
keys differently or has other keys that are not known. -/
theorem loadPlan_eq_effective (s : Session) (m : Machine) :
    match s.planFile with
    | none => ∃ p, s.loadPlan m = .ok p ∧ p.Effective s.overrides []
    | some path =>
      match m.tree.readText m.cwd path with
      | .error fault => s.loadPlan m = .error (.planFile path (.unreadable path fault))
      | .ok text =>
        match Toml.parse text with
        | none => s.loadPlan m = .error (.planFile path (.parse .malformed))
        | some fields =>
          ((¬∃ p, Plan.Described fields p) →
            ∃ e, s.loadPlan m = .error (.planFile path (.parse e))) ∧
          ∀ base, Plan.Described fields base →
            match ModuleEntry.checkAll base.modules with
            | .error e => s.loadPlan m = .error (.planFile path (.invalid e))
            | .ok () =>
              ∃ p, s.loadPlan m = .ok p ∧ Plan.Effective s.overrides fields p ∧
                ∀ (m' : Machine) (path' : Path) (text' : String) (fields' : List (String × Value)),
                  m'.tree.readText m'.cwd path' = .ok text' →
                  Toml.parse text' = some fields' →
                  Plan.SameKnown fields fields' →
                  { s with planFile := some path' }.loadPlan m' = .ok p := by
  cases hfile : s.planFile with
  | none =>
    refine ⟨Plan.override {} s.overrides, ?_, Plan.described_nil.effective_override s.overrides⟩
    simp only [loadPlan, basePlan, hfile]
  | some path =>
    dsimp only
    cases hread : m.tree.readText m.cwd path with
    | error fault => simp only [loadPlan, basePlan, hfile, Plan.load, hread]
    | ok text =>
      dsimp only
      cases hparse : Toml.parse text with
      | none => simp only [loadPlan_of_readText hfile hread, Plan.ofToml, Plan.readToml, hparse]
      | some fields =>
        constructor
        · intro hnone
          cases htoml : Plan.readToml text with
          | error e =>
            exact ⟨e, by simp only [loadPlan_of_readText hfile hread, Plan.ofToml, htoml]⟩
          | ok p =>
            obtain ⟨found, hfound, hp⟩ := Plan.readToml_eq_ok_iff.1 htoml
            rw [hparse] at hfound
            cases hfound
            exact absurd ⟨p, hp⟩ hnone
        · intro base hbase
          have hload := loadPlan_of_described hfile hread hparse hbase
          cases hcheck : ModuleEntry.checkAll base.modules with
          | error e => simp only [hload, hcheck]
          | ok _ =>
            refine ⟨base.override s.overrides, by simp only [hload, hcheck],
              hbase.effective_override s.overrides, ?_⟩
            intro m' path' text' fields' hread' hparse' hsame
            have hbase' : Plan.Described fields' base :=
              hbase.of_sameKnown (Toml.keyed_of_parse hparse) hsame
            rw [loadPlan_of_described (s := { s with planFile := some path' }) rfl hread' hparse'
              hbase', hcheck]

end Session

end Shakedown
