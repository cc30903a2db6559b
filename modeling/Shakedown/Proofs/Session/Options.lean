import Shakedown.Proofs.Plan.Effective
import Shakedown.Proofs.Plan.Exclusive
import Shakedown.Proofs.Session.Verdict
import Shakedown.Proofs.Stage.Isolation

/-!
# Where options come from

What the compile stages of a session are given behind the source and the object file comes from the
plan file, and there from the flags of the module that is compiled: from one entry of them, or from
none. A plan file that leaves the flags of a module undecided is refused, and a session whose plan
is refused starts nothing.

Main statement: `options_exclude_each_other`.
-/

set_option autoImplicit false

namespace Shakedown

open Toml (Value)

/-! ## From a module's value to its command -/

/-- Whether arguments are those that a value for the flags of a module stands for. There may be no
value, or `plain`, or a table with one entry. -/
inductive CompileFlags.Supplies : Option Value → List String → Prop
  | absent : Supplies none []
  | plain : Supplies (some (.text "plain")) []
  | plainTable : Supplies (some (.table [("plain", .table [])])) []
  | plainList : Supplies (some (.table [("plain", .list [])])) []
  | optimize (level : String) : Supplies (some (.table [("optimize", .text level)])) ["-O" ++ level]
  | dumpIr (directory : String) :
      Supplies (some (.table [("dump_ir", .text directory)])) ["--dump-ir", directory]

/-- The arguments of compile options are those that their value stands for. -/
theorem CompileFlags.supplies_toArgs {given : Option Value} {flags : CompileFlags}
    (h : Toml.Says CompileFlags.Described .plain given flags) : Supplies given flags.toArgs := by
  cases given with
  | none =>
    obtain rfl : flags = .plain := h
    exact .absent
  | some v =>
    cases h with
    | optimize level => exact .optimize level
    | dumpIr directory => exact .dumpIr directory
    | plain => exact .plain
    | plainTable => exact .plainTable
    | plainList => exact .plainList

namespace ModuleEntry

/-- The fields of a module's value. -/
def tomlFields : Value → List (String × Value)
  | .table fields => fields
  | .list items => tomlKeys.zip items
  | _ => []

/-- Whether a module's value leaves the module on. -/
def isOn (item : Value) : Bool :=
  match (tomlFields item).lookup "enabled" with
  | some (.boolean b) => b
  | _ => true

/-- A value that describes a module does so by its fields. -/
theorem fieldsDescribe_of_described {item : Value} {m : ModuleEntry} (h : Described item m) :
    FieldsDescribe (tomlFields item) m := by
  cases h with
  | table h => exact h
  | list h => exact h

/-- A value leaves the module on that it describes as enabled, and no other. -/
theorem isOn_of_described {item : Value} {m : ModuleEntry} (h : Described item m) :
    isOn item = m.enabled := by
  have henabled := (fieldsDescribe_of_described h).enabled
  unfold isOn
  cases hgiven : (tomlFields item).lookup "enabled" with
  | none =>
    rw [hgiven] at henabled
    exact henabled.symm
  | some v =>
    rw [hgiven] at henabled
    obtain rfl : v = .boolean m.enabled := henabled
    rfl

/-- Whether a stage compiles a module. -/
def Compiles (m : ModuleEntry) (s : PlannedStage) : Prop :=
  s.stage = .compile m.source ∧
    ∃ object, s.invocation.args = ["-c", m.source, "-o", object] ++ m.flags.toArgs

/-- Whether a stage compiles the module of a value, with the arguments that its flags supply. -/
def Directs (item : Value) (s : PlannedStage) : Prop :=
  ∃ source object extra, (tomlFields item).lookup "source" = some (.text source) ∧
    s.stage = .compile source ∧ s.invocation.args = ["-c", source, "-o", object] ++ extra ∧
    CompileFlags.Supplies ((tomlFields item).lookup "flags") extra

/-- A stage that compiles the module of a value follows the value. -/
theorem directs_of_compiles {item : Value} {m : ModuleEntry} {s : PlannedStage}
    (h : Described item m) (hs : m.Compiles s) : Directs item s := by
  have hfields := fieldsDescribe_of_described h
  obtain ⟨hstage, object, hargs⟩ := hs
  exact ⟨m.source, object, m.flags.toArgs, hfields.source, hstage, hargs,
    CompileFlags.supplies_toArgs hfields.flags⟩

/-- Stages that compile the modules of values follow the values, one after the other. -/
theorem forall₂_directs {items : List Value} {ms : List ModuleEntry} {stages : List PlannedStage}
    (h : List.Forall₂ Described items ms) (hs : List.Forall₂ Compiles ms stages) :
    List.Forall₂ Directs items stages := by
  induction h generalizing stages with
  | nil =>
    cases hs
    exact .nil
  | cons hm _ ih =>
    cases hs with
    | cons hs hmore => exact .cons (directs_of_compiles hm hs) (ih hmore)

end ModuleEntry

/-- The compilations among the stages of a trial are those of its enabled modules, in order. -/
theorem Trial.compiles_of_plannedStages {t : Trial} {c : Compiler} {planned : List PlannedStage}
    (h : t.plannedStages c = .ok planned) :
    List.Forall₂ ModuleEntry.Compiles t.plan.enabledModules
      (planned.filter (·.stage.isCompile)) := by
  refine (Plan.compilations_of_stages h).imp fun m s hs => ?_
  obtain ⟨object, -, rfl⟩ := Plan.compileStage_eq_ok.1 hs
  exact ⟨rfl, object, rfl⟩

/-! ## Sessions -/

namespace Plan

/-- Whether stages compile the modules that a document leaves on, each with the arguments that its
flags supply. Where the document lists no modules, they compile the curated ones. -/
def Directs (fields : List (String × Value)) (planned : List PlannedStage) : Prop :=
  match fields.lookup "modules" with
  | none =>
    List.Forall₂ ModuleEntry.Compiles (Defaults.modules.filter (·.enabled))
      (planned.filter (·.stage.isCompile))
  | some v =>
    ∃ items, v = .list items ∧
      List.Forall₂ ModuleEntry.Directs (items.filter ModuleEntry.isOn)
        (planned.filter (·.stage.isCompile))

/-- Compilations of the enabled modules of a plan follow the document that describes the plan. -/
theorem Described.directs {fields : List (String × Value)} {p : Plan} (h : Described fields p)
    {planned : List PlannedStage}
    (hstages : List.Forall₂ ModuleEntry.Compiles p.enabledModules
      (planned.filter (·.stage.isCompile))) : Directs fields planned := by
  have hmodules := h.modules
  unfold Directs
  unfold enabledModules at hstages
  cases hgiven : fields.lookup "modules" with
  | none =>
    rw [hgiven] at hmodules
    have hcurated : p.modules = Defaults.modules := hmodules
    rwa [hcurated] at hstages
  | some v =>
    rw [hgiven] at hmodules
    obtain ⟨items, rfl, hitems⟩ := hmodules
    refine ⟨items, rfl, ?_⟩
    have hon : List.Forall₂ ModuleEntry.Described (items.filter ModuleEntry.isOn)
        (p.modules.filter (·.enabled)) := by
      refine List.rel_filter (fun item m hm => ?_) hitems
      exact Eq.congr (ModuleEntry.isOn_of_described hm) rfl
    exact ModuleEntry.forall₂_directs hon hstages

/-- Whether a text leaves the flags of a module undecided: in what it says as a whole, or already in
its lines. -/
def UndecidedText (text : String) : Prop :=
  (∃ fields, Toml.parse text = some fields ∧ Undecided fields) ∨
    ∃ lines, Toml.lines? text = some lines ∧ UndecidedLines lines

/-- A text that leaves flags undecided is refused while it is read. -/
theorem ofToml_of_undecidedText {text : String} (h : UndecidedText text) :
    ∃ e, ofToml text = .error (.parse e) := by
  unfold ofToml
  cases hread : readToml text with
  | error e => exact ⟨e, rfl⟩
  | ok p =>
    exfalso
    rcases h with ⟨fields, hparse, hundecided⟩ | ⟨lines, hlines, hundecided⟩
    · rw [readToml, hparse] at hread
      exact not_undecided_of_ofTomlFields hread hundecided
    · exact not_undecidedLines_of_readToml hread hlines hundecided

end Plan

namespace Session

/-- Whether a session ends with an error before it calls its runner. -/
def StartsNothing (s : Session) (m : Machine) : Prop :=
  ∀ (σ : Type) (run : Runner σ) (settings : OutputSettings) (state : σ),
    s.log m run settings state = [] ∧
      ∃ e, s.execute m run settings state = ⟨.error e, "", [], state⟩

variable {s : Session} {m : Machine} {path : Path} {text : String} {plan : Plan}

/-- Whatever else is wrong, a session without a plan starts nothing. -/
theorem startsNothing_of_loadPlan {e : SessionError} (h : s.loadPlan m = .error e) :
    s.StartsNothing m := by
  obtain ⟨e', hprepare⟩ : ∃ e', s.prepare m = .error e' := by
    unfold prepare
    cases m.currentDir with
    | error fault => exact ⟨_, rfl⟩
    | ok base =>
      cases Compiler.ofString s.compiler with
      | error e => exact ⟨_, rfl⟩
      | ok c => exact ⟨e, by simp only [h]⟩
  intro σ run settings state
  refine ⟨log_not_started ?_ run settings state, e', by simp only [execute, hprepare]⟩
  rintro ⟨c, t, planned, hstarts⟩
  cases hprepare.symm.trans hstarts.prepared

/-- A session whose plan file leaves flags undecided has no plan. -/
theorem loadPlan_of_undecidedText (hfile : s.planFile = some path)
    (hread : m.tree.readText m.cwd path = .ok text) (h : Plan.UndecidedText text) :
    ∃ e, s.loadPlan m = .error (.planFile path (.parse e)) := by
  obtain ⟨e, he⟩ := Plan.ofToml_of_undecidedText h
  exact ⟨e, by rw [loadPlan_of_readText hfile hread, he]⟩

/-- The stages of a plan that was loaded take their options from the document in the plan file. -/
theorem directs_of_loadPlan (h : s.loadPlan m = .ok plan) {t : Trial} (ht : t.plan = plan)
    {c : Compiler} {planned : List PlannedStage} (hplanned : t.plannedStages c = .ok planned) :
    match s.planFile with
    | none => Plan.Directs [] planned
    | some path =>
      ∃ text fields, m.tree.readText m.cwd path = .ok text ∧ Toml.parse text = some fields ∧
        Plan.Directs fields planned := by
  have hcompiles := Trial.compiles_of_plannedStages hplanned
  rw [ht] at hcompiles
  -- No override has to do with modules.
  have hoverride (p : Plan) : (p.override s.overrides).enabledModules = p.enabledModules := rfl
  cases hfile : s.planFile with
  | none =>
    simp only [loadPlan, basePlan, hfile, Except.ok.injEq] at h
    rw [← h, hoverride] at hcompiles
    exact Plan.described_nil.directs hcompiles
  | some path =>
    dsimp only
    cases hread : m.tree.readText m.cwd path with
    | error fault => simp [loadPlan, basePlan, hfile, Plan.load, hread] at h
    | ok text =>
      rw [loadPlan_of_readText hfile hread, Plan.ofToml] at h
      cases htoml : Plan.readToml text with
      | error e => simp [htoml] at h
      | ok p =>
        obtain ⟨fields, hparse, hp⟩ := Plan.readToml_eq_ok_iff.1 htoml
        refine ⟨text, fields, rfl, hparse, hp.directs ?_⟩
        cases hcheck : ModuleEntry.checkAll p.modules with
        | error e => simp [htoml, hcheck] at h
        | ok _ =>
          simp only [htoml, hcheck, Except.ok.injEq] at h
          rwa [← h, hoverride] at hcompiles

end Session

/-- Options exclude each other. No text is read, as a plan file or as a JSON document of a plan or a
module, in which the flags of some module are a table that does not have just one entry, or one that
names no option, whatever else there is in it. A session with such a plan file starts nothing, and
neither does one whose plan is refused for another reason. In a plan that is not refused, all that
the compile stages are given behind the object file is supplied by the flags of their module. -/
theorem options_exclude_each_other :
    (∀ text, Plan.UndecidedText text → ∃ e, Plan.ofToml text = .error (.parse e)) ∧
    (∀ ps fields, Toml.tableOfPairs [] ps = some fields → ∀ q ∈ ps, ∀ q' ∈ ps, ∀ key key',
      [key] <+: q.1 → [key'] <+: q'.1 → key ≠ key' ∨ key ∉ CompileFlags.names →
      CompileFlags.Undecided (.table fields)) ∧
    (∀ text, Json.Shows ModuleEntry.UndecidedDoc text →
      ∃ e, Json.readWhole ModuleEntry.read text = .error e) ∧
    (∀ text, Json.Shows Plan.UndecidedDoc text →
      ∃ e, Json.readWhole Plan.read text = .error e) ∧
    ∀ (s : Session) (m : Machine),
      (∀ path text, s.planFile = some path → m.tree.readText m.cwd path = .ok text →
        Plan.UndecidedText text → ∃ e, s.loadPlan m = .error (.planFile path (.parse e))) ∧
      match s.loadPlan m with
      | .error _ => s.StartsNothing m
      | .ok plan =>
        ∀ (t : Trial) (c : Compiler) (planned : List PlannedStage), t.plan = plan →
          t.plannedStages c = .ok planned →
          match s.planFile with
          | none => Plan.Directs [] planned
          | some path =>
            ∃ text fields, m.tree.readText m.cwd path = .ok text ∧
              Toml.parse text = some fields ∧ Plan.Directs fields planned := by
  refine ⟨fun text => Plan.ofToml_of_undecidedText, ?_, fun text hshows => ?_,
    fun text hshows => ?_, fun s m => ⟨fun path text => Session.loadPlan_of_undecidedText, ?_⟩⟩
  · intro ps fields h q hq q' hq' key key'
    exact CompileFlags.undecided_of_tableOfPairs h hq hq'
  · cases hread : Json.readWhole ModuleEntry.read text with
    | error e => exact ⟨e, rfl⟩
    | ok entry =>
      obtain ⟨d, hd, hundecided⟩ := Json.read_of_shows hread hshows
      exact absurd hundecided (ModuleEntry.not_undecidedDoc_of_read hd)
  · cases hread : Json.readWhole Plan.read text with
    | error e => exact ⟨e, rfl⟩
    | ok plan =>
      obtain ⟨d, hd, hundecided⟩ := Json.read_of_shows hread hshows
      exact absurd hundecided (Plan.not_undecidedDoc_of_read hd)
  · cases hload : s.loadPlan m with
    | error e => exact Session.startsNothing_of_loadPlan hload
    | ok plan =>
      intro t c planned ht hplanned
      exact Session.directs_of_loadPlan hload ht hplanned

end Shakedown
