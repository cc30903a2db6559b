import Shakedown.Proofs.Stage.Layout
import Shakedown.Run.Pipeline

/-!
# Each toolchain stays in its stages

The stages of a run name three programs and take one list of modules. What happens to the stages
when one of these is changed and the others stay is said by equations between the two lists of
stages: only the compilations name the compiler under test, only the reference builds name the
reference compiler, and a module that is switched off takes its own compilation away and nothing
else.

The equations hold for lists that cannot be laid out as well, and then say that the reason stays the
same. `Plan.compileStages` is the only part with a recursion, so every law is proved for it first.
-/

set_option autoImplicit false

namespace Shakedown

/-- Whether a stage compiles a module. -/
def Stage.isCompile : Stage → Bool
  | .compile _ => true
  | _ => false

/-- Whether a stage builds the project with the reference compiler. -/
def Stage.isReferenceBuild : Stage → Bool
  | .referenceBuild _ => true
  | _ => false

namespace PlannedStage

/-- The stage with another program, if it is a compilation. -/
def withCompiler (program : String) (p : PlannedStage) : PlannedStage :=
  if p.stage.isCompile then { p with invocation := { p.invocation with program } } else p

/-- The stage with another program, unless it is a compilation. -/
def withBuildTool (program : String) (p : PlannedStage) : PlannedStage :=
  if p.stage.isCompile then p else { p with invocation := { p.invocation with program } }

/-- The stage with another value of `CC`, if it is a reference build. -/
def withReference (compiler : String) (p : PlannedStage) : PlannedStage :=
  if p.stage.isReferenceBuild then
    { p with
      invocation :=
        { p.invocation with
          env := p.invocation.env.map fun (key, value) =>
            (key, if key = "CC" then compiler else value) } }
  else p

end PlannedStage

namespace ModuleEntry

/-- Whether the source of a module has no file name, and so no stem. -/
def lacksStem (m : ModuleEntry) : Bool :=
  (PathLetter.fileName? m.source.toList).isNone

/-- A module lacks an object name exactly if its source lacks a stem. -/
theorem objectName?_eq_none {m : ModuleEntry} : m.objectName? = none ↔ m.lacksStem = true := by
  unfold objectName? lacksStem PathLetter.withSuffix? PathLetter.fileName?
  cases PathLetter.significantReversed m.source.toList with
  | nil => simp
  | cons name before => by_cases h : name = PathLetter.double <;> simp [h]

end ModuleEntry

namespace Plan

/-! ## Compilations -/

section Compilations

variable {c : Compiler}

/-- A compilation cannot be planned exactly if the source lacks a stem. -/
theorem compileStage_eq_error {m : ModuleEntry} {e : ConfigError} :
    compileStage c m = .error e ↔ m.lacksStem = true ∧ e = .noObjectName m.source := by
  rw [← ModuleEntry.objectName?_eq_none]
  unfold compileStage ModuleEntry.compileArgs ModuleEntry.objectName
  cases m.objectName? <;> simp [eq_comm]

/-- The first module without a stem keeps the others from being compiled. -/
theorem compileStages_eq_error {modules : List ModuleEntry} {e : ConfigError} :
    compileStages c modules = .error e ↔
      ∃ m, modules.find? ModuleEntry.lacksStem = some m ∧ e = .noObjectName m.source := by
  induction modules with
  | nil => simp [compileStages]
  | cons m more ih =>
    cases hm : compileStage c m with
    | error e' =>
      obtain ⟨hstem, rfl⟩ := compileStage_eq_error.1 hm
      simp [compileStages, hm, hstem, eq_comm]
    | ok p =>
      have hstem : m.lacksStem = false := by
        cases h : m.lacksStem with
        | false => rfl
        | true =>
          rw [compileStage_eq_error.2 ⟨h, rfl⟩] at hm
          cases hm
      rw [List.find?_cons_of_neg (by simp [hstem]), ← ih]
      simp only [compileStages, hm]
      cases compileStages c more <;> simp

/-- The compilations of another compiler differ in their program. -/
theorem compileStages_withCompiler (c' : Compiler) (modules : List ModuleEntry) :
    compileStages c' modules =
      (compileStages c modules).map (List.map (PlannedStage.withCompiler c'.program)) := by
  have hstage (m : ModuleEntry) : compileStage c' m =
      (compileStage c m).map (PlannedStage.withCompiler c'.program) := by
    unfold compileStage
    cases m.compileArgs <;> rfl
  induction modules with
  | nil => rfl
  | cons m more ih =>
    simp only [compileStages, hstage m, ih]
    cases compileStage c m with
    | error e => rfl
    | ok p => cases compileStages c more <;> rfl

/-- The compilations of modules are compilations, and no reference builds, and set no variables. -/
theorem isCompile_of_mem {modules : List ModuleEntry} {compiles : List PlannedStage}
    (h : compileStages c modules = .ok compiles) {p : PlannedStage} (hp : p ∈ compiles) :
    p.stage.isCompile = true ∧ p.stage.isReferenceBuild = false ∧ p.invocation.env = [] := by
  obtain ⟨m, -, hm⟩ := exists_module_of_mem h hp
  obtain ⟨object, -, rfl⟩ := compileStage_eq_ok.1 hm
  exact ⟨rfl, rfl, rfl⟩

/-- The compilations among the stages of a plan are those of its enabled modules, in order. -/
theorem compilations_of_stages {p : Plan} {planned : List PlannedStage}
    (h : p.stages c = .ok planned) :
    List.Forall₂ (fun m s => compileStage c m = .ok s) p.enabledModules
      (planned.filter (·.stage.isCompile)) := by
  obtain ⟨compiles, hcompiles, rfl⟩ := stages_eq_ok.1 h
  have hfilter : compiles.filter (·.stage.isCompile) = compiles :=
    List.filter_eq_self.2 fun s hs => (isCompile_of_mem hcompiles hs).1
  rw [List.filter_append, List.filter_append, hfilter]
  change List.Forall₂ _ _ ([] ++ compiles ++ [])
  rw [List.nil_append, List.append_nil]
  exact compileStages_eq_ok.1 hcompiles

/-- The compilations of modules are named after their sources, in order. -/
theorem map_stage_compileStages {modules : List ModuleEntry} {compiles : List PlannedStage}
    (h : compileStages c modules = .ok compiles) :
    compiles.map (·.stage) = modules.map fun m => .compile m.source := by
  have hpairs := compileStages_eq_ok.1 h
  clear h
  induction hpairs with
  | nil => rfl
  | cons hm _ ih =>
    obtain ⟨object, -, rfl⟩ := compileStage_eq_ok.1 hm
    rw [List.map_cons, ih, List.map_cons]

/-- Without one of the modules, its compilation is missing. -/
theorem compileStages_eraseIdx {before after : List ModuleEntry} {m : ModuleEntry}
    {compiles : List PlannedStage} (h : compileStages c (before ++ m :: after) = .ok compiles) :
    compileStages c (before ++ after) = .ok (compiles.eraseIdx before.length) ∧
      ∃ p, compiles[before.length]? = some p ∧ compileStage c m = .ok p := by
  simp only [compileStages_eq_ok] at h ⊢
  induction before generalizing compiles with
  | nil =>
    obtain ⟨p, rest, hm, hrest, rfl⟩ := List.forall₂_cons_left_iff.1 h
    exact ⟨hrest, p, rfl, hm⟩
  | cons first before ih =>
    obtain ⟨q, rest, hfirst, hrest, rfl⟩ := List.forall₂_cons_left_iff.1 h
    obtain ⟨herase, p, hp, hm⟩ := ih hrest
    exact ⟨.cons hfirst herase, p, by simpa using hp, hm⟩

end Compilations

/-! ## Stages -/

section Stages

variable {c : Compiler}

/-- The stages of a plan around its compilations. -/
def around (p : Plan) (compiles : List PlannedStage) : List PlannedStage :=
  [p.target .clean Defaults.cleanTarget, p.referenceBuild 1] ++ compiles ++
    [p.referenceBuild 2, p.target .test Defaults.testTarget]

/-- The stages of a plan are the compilations of its enabled modules with the others around them. -/
theorem stages_eq_map (p : Plan) (c : Compiler) :
    p.stages c = (compileStages c p.enabledModules).map p.around := by
  unfold stages
  cases compileStages c p.enabledModules <;> rfl

/-- Another compiler changes the program of the compilations and nothing else. -/
theorem stages_withCompiler (p : Plan) (c c' : Compiler) :
    p.stages c' = (p.stages c).map (List.map (PlannedStage.withCompiler c'.program)) := by
  rw [stages_eq_map, stages_eq_map, compileStages_withCompiler (c := c) c']
  cases compileStages c p.enabledModules with
  | error e => rfl
  | ok compiles =>
    refine congrArg Except.ok ?_
    simp only [around, List.map_append]
    rfl

/-- A change around the compilations is one of every stage, if it leaves compilations as they
are. -/
theorem stages_changedAround {p p' : Plan} (c : Compiler) {change : PlannedStage → PlannedStage}
    (hmodules : p'.enabledModules = p.enabledModules)
    (haround : ∀ compiles, p'.around (compiles.map change) = (p.around compiles).map change)
    (hfixed : ∀ s : PlannedStage, s.stage.isCompile = true → change s = s) :
    p'.stages c = (p.stages c).map (List.map change) := by
  rw [stages_eq_map, stages_eq_map, hmodules]
  cases hcompiles : compileStages c p.enabledModules with
  | error e => rfl
  | ok compiles =>
    have hsame : compiles.map change = compiles := by
      rw [List.map_congr_left fun s hs => hfixed s (isCompile_of_mem hcompiles hs).1, List.map_id']
    have hstages := haround compiles
    rw [hsame] at hstages
    exact congrArg Except.ok hstages

/-- Another reference compiler changes the value of `CC` in the reference builds and nothing
else. -/
theorem stages_withReference (p : Plan) (c : Compiler) (reference : String) :
    { p with referenceCompiler := reference }.stages c =
      (p.stages c).map (List.map (PlannedStage.withReference reference)) := by
  refine stages_changedAround c rfl (fun compiles => ?_) fun s hs => ?_
  · simp only [around, List.map_append]
    rfl
  · cases hstage : s.stage <;>
      simp_all [Stage.isCompile, Stage.isReferenceBuild, PlannedStage.withReference]

/-- Another build tool changes the program of all stages but the compilations and nothing else. -/
theorem stages_withBuildTool (p : Plan) (c : Compiler) (tool : String) :
    { p with buildTool := tool }.stages c =
      (p.stages c).map (List.map (PlannedStage.withBuildTool tool)) := by
  refine stages_changedAround c rfl (fun compiles => ?_) fun s hs => if_pos hs
  simp only [around, List.map_append]
  rfl

/-- Where the compilation of an enabled module stands: behind two stages of the build tool and the
compilations of the enabled modules before it. -/
def place (before : List ModuleEntry) : Nat :=
  2 + before.countP (·.enabled)

/-- A module that is switched off takes its compilation away. -/
theorem stages_switchedOff {p : Plan} {before after : List ModuleEntry} {m : ModuleEntry}
    (hmodules : p.modules = before ++ m :: after) (henabled : m.enabled = true)
    {planned : List PlannedStage} (h : p.stages c = .ok planned) :
    { p with modules := before ++ { m with enabled := false } :: after }.stages c =
        .ok (planned.eraseIdx (place before)) ∧
      ∃ s, planned[place before]? = some s ∧ s.stage = .compile m.source := by
  obtain ⟨compiles, hcompiles, rfl⟩ := stages_eq_ok.1 h
  have hon : p.enabledModules = before.filter (·.enabled) ++ m :: after.filter (·.enabled) := by
    simp [enabledModules, hmodules, henabled]
  have hoff : { p with modules := before ++ { m with enabled := false } :: after }.enabledModules =
      before.filter (·.enabled) ++ after.filter (·.enabled) := by
    simp [enabledModules]
  rw [hon] at hcompiles
  obtain ⟨herase, s, hs, hm⟩ := compileStages_eraseIdx hcompiles
  rw [← List.countP_eq_length_filter] at herase hs
  have hlt : before.countP (·.enabled) < compiles.length := (List.getElem?_eq_some_iff.1 hs).1
  have hplace : place before < ([p.target .clean Defaults.cleanTarget, p.referenceBuild 1] ++
      compiles).length := by
    simp only [place, List.length_append, List.length_cons, List.length_nil]
    omega
  refine ⟨?_, s, ?_, ?_⟩
  · have hindex : place before -
        [p.target .clean Defaults.cleanTarget, p.referenceBuild 1].length =
          before.countP (·.enabled) := by
      simp [place]
    rw [stages_eq_map, hoff, herase, List.eraseIdx_append_of_lt_length hplace,
      List.eraseIdx_append_of_length_le (by simp [place]), hindex]
    rfl
  · rw [List.getElem?_append_left hplace,
      List.getElem?_append_right (by simp [place])]
    simpa [place] using hs
  · obtain ⟨object, -, rfl⟩ := compileStage_eq_ok.1 hm
    rfl

end Stages

end Plan

/-! ## Trials -/

namespace Trial

/-- What the stages of a trial are. -/
structure LaysOut (t : Trial) (c : Compiler) (planned : List PlannedStage) : Prop where
  /-- The steps in order. -/
  order : planned.map (·.stage) =
    [.clean, .referenceBuild 1] ++ t.plan.enabledModules.map (fun m => .compile m.source) ++
      [.referenceBuild 2, .test]
  /-- The compilations have the commands of the enabled modules, one after the other. -/
  commands : List.Forall₂
    (fun m p => ∃ object, m.objectName? = some object ∧ p.invocation =
      { program := anchor c.program t.baseDir
        args := ["-c", m.source, "-o", object] ++ match m.flags with
          | .optimize level => ["-O" ++ level]
          | .dumpIr directory => ["--dump-ir", directory]
          | .plain => []
        env := [] })
    t.plan.enabledModules (planned.filter (·.stage.isCompile))
  /-- The reference builds set `CC`, and nothing else sets anything. -/
  overrides : ∀ p ∈ planned, p.invocation.env =
    if p.stage.isReferenceBuild then [("CC", t.plan.referenceCompiler)] else []

/-- The stages of a trial are laid out by its plan. -/
theorem laysOut_of_plannedStages {t : Trial} {c : Compiler} {planned : List PlannedStage}
    (h : t.plannedStages c = .ok planned) : t.LaysOut c planned := by
  have hpairs := Plan.compilations_of_stages h
  obtain ⟨compiles, hcompiles, rfl⟩ := Plan.stages_eq_ok.1 h
  have hkind (p : PlannedStage) (hp : p ∈ compiles) := Plan.isCompile_of_mem hcompiles hp
  constructor
  · simp only [List.map_append, Plan.map_stage_compileStages hcompiles]
    rfl
  · refine hpairs.imp fun m p hm => ?_
    obtain ⟨object, hobject, rfl⟩ := Plan.compileStage_eq_ok.1 hm
    refine ⟨object, hobject, ?_⟩
    cases m.flags <;> rfl
  · intro p hp
    simp only [List.mem_append, List.mem_cons, List.not_mem_nil, or_false] at hp
    rcases hp with ((rfl | rfl) | hp) | (rfl | rfl)
    · rfl
    · rfl
    · obtain ⟨-, hreference, henv⟩ := hkind p hp
      simp [hreference, henv]
    · rfl
    · rfl

/-- The trial of a changed plan. -/
def replan (t : Trial) (change : Plan → Plan) : Trial :=
  { t with plan := change t.plan }

/-- The stages of a trial are laid out in order, and what changes when one thing is changed. Another
compiler changes the program of the compilations, another reference compiler the value of `CC` in
the reference builds, another build tool the program of all but the compilations, and a module that
is switched off takes its compilation away. There are no stages just if an enabled module has no
stem, and the error names the first. -/
theorem stages_isolated (t : Trial) (c : Compiler) :
    (∀ planned, t.plannedStages c = .ok planned → t.LaysOut c planned) ∧
      (∀ c' : Compiler, t.plannedStages c' = (t.plannedStages c).map
        (List.map (PlannedStage.withCompiler (anchor c'.program t.baseDir)))) ∧
      (∀ reference, (t.replan ({ · with referenceCompiler := reference })).plannedStages c =
        (t.plannedStages c).map (List.map (PlannedStage.withReference reference))) ∧
      (∀ tool, (t.replan ({ · with buildTool := tool })).plannedStages c =
        (t.plannedStages c).map
          (List.map (PlannedStage.withBuildTool (anchor tool t.baseDir)))) ∧
      (∀ before m after planned, t.plan.modules = before ++ m :: after → m.enabled = true →
        t.plannedStages c = .ok planned →
          (t.replan ({ · with
              modules := before ++ { m with enabled := false } :: after })).plannedStages c =
            .ok (planned.eraseIdx (Plan.place before)) ∧
          ∃ s, planned[Plan.place before]? = some s ∧ s.stage = .compile m.source) ∧
      (∀ e, t.plannedStages c = .error e ↔
        ∃ m, t.plan.enabledModules.find? ModuleEntry.lacksStem = some m ∧
          e = .noObjectName m.source) := by
  refine ⟨fun planned => laysOut_of_plannedStages, fun c' => ?_, fun reference => ?_,
    fun tool => ?_, fun before m after planned hmodules henabled h => ?_, fun e => ?_⟩
  · exact t.anchoredPlan.stages_withCompiler (c.anchored t.baseDir) (c'.anchored t.baseDir)
  · exact t.anchoredPlan.stages_withReference (c.anchored t.baseDir) reference
  · exact t.anchoredPlan.stages_withBuildTool (c.anchored t.baseDir) (anchor tool t.baseDir)
  · exact Plan.stages_switchedOff (p := t.anchoredPlan) hmodules henabled h
  · have hmodules : t.anchoredPlan.enabledModules = t.plan.enabledModules := rfl
    rw [plannedStages, Plan.stages_eq_map, ← hmodules, ← Plan.compileStages_eq_error]
    cases Plan.compileStages (c.anchored t.baseDir) t.anchoredPlan.enabledModules with
    | error e' => simp [Except.map]
    | ok compiles => simp [Except.map]

end Trial

end Shakedown
