import Shakedown.Plan.Basic
import Shakedown.Program
import Shakedown.Stage.Basic

/-!
# Laying out a run

The stages of a run in order: clean, reference build, one compilation for each enabled module,
reference build again, test. Nothing is started here.
-/

set_option autoImplicit false

namespace Shakedown

namespace Plan

/-- The build tool run on a target. -/
def target (p : Plan) (stage : Stage) (name : String) : PlannedStage :=
  ⟨stage, { program := p.buildTool, args := [name] }⟩

/-- A build of the whole project with the reference compiler pinned. -/
def referenceBuild (p : Plan) (pass : UInt8) : PlannedStage :=
  ⟨.referenceBuild pass,
    { program := p.buildTool, env := [(Defaults.referenceVariable, p.referenceCompiler)] }⟩

/-- The compilation of one module. -/
def compileStage (c : Compiler) (m : ModuleEntry) : Except ConfigError PlannedStage :=
  match m.compileArgs with
  | .ok args => .ok ⟨.compile m.source, { program := c.program, args }⟩
  | .error e => .error e

/-- The compilations of a list of modules, or the error of the first that has none. -/
def compileStages (c : Compiler) : List ModuleEntry → Except ConfigError (List PlannedStage)
  | [] => .ok []
  | m :: more =>
    match compileStage c m with
    | .error e => .error e
    | .ok s =>
      match compileStages c more with
      | .error e => .error e
      | .ok rest => .ok (s :: rest)

/-- Every stage of a run of the plan with the compiler `c`. -/
def stages (p : Plan) (c : Compiler) : Except ConfigError (List PlannedStage) :=
  match compileStages c p.enabledModules with
  | .error e => .error e
  | .ok compiles =>
    .ok ([p.target .clean Defaults.cleanTarget, p.referenceBuild 1] ++ compiles ++
      [p.referenceBuild 2, p.target .test Defaults.testTarget])

end Plan

end Shakedown
