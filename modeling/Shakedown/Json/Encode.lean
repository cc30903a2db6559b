import Shakedown.Json.Value
import Shakedown.Path.Basic
import Shakedown.Program
import Shakedown.Report

/-!
# JSON documents of the values of a run

One function for each type that is printed or read as JSON. Fields come in the order of the
structures; environment variables are left out when there are none, captured output when it is
absent. Only a path that is not text cannot be written.
-/

set_option autoImplicit false

namespace Shakedown

open Json (Value)

/-- The document of an option. -/
def CompileFlags.toJson : CompileFlags → Value
  | .optimize level => .object [("optimize", .text level)]
  | .dumpIr directory => .object [("dump_ir", .text directory)]
  | .plain => .text "plain"

/-- The document of a module. -/
def ModuleEntry.toJson (m : ModuleEntry) : Value :=
  .object [("source", .text m.source), ("enabled", .bool m.enabled), ("flags", m.flags.toJson)]

/-- The document of a plan. -/
def Plan.toJson (p : Plan) : Except WriteError Value :=
  match p.projectDir.writable with
  | .error e => .error e
  | .ok dir =>
    .ok (.object [("project_dir", .text dir), ("build_tool", .text p.buildTool),
      ("reference_compiler", .text p.referenceCompiler),
      ("modules", .list (p.modules.map ModuleEntry.toJson))])

/-- The document of the compiler under test. -/
def Compiler.toJson (c : Compiler) : Value :=
  .object [("compiler", .text c.program)]

/-- The document of a stage. -/
def Stage.toJson : Stage → Value
  | .clean => .object [("kind", .text "clean")]
  | .referenceBuild pass =>
    .object [("kind", .text "reference_build"), ("pass", .int pass.toNat)]
  | .compile module => .object [("kind", .text "compile"), ("module", .text module)]
  | .test => .object [("kind", .text "test")]

/-- The document of an invocation. -/
def Invocation.toJson (i : Invocation) : Value :=
  .object ([("program", .text i.program), ("args", .list (i.args.map Value.text))] ++
    if i.env = [] then []
    else [("env", .list (i.env.map fun (key, value) => .list [.text key, .text value]))])

/-- The document of a planned stage. -/
def PlannedStage.toJson (p : PlannedStage) : Value :=
  .object [("stage", p.stage.toJson), ("invocation", p.invocation.toJson)]

/-- The document of a list of planned stages. -/
def PlannedStage.listToJson (stages : List PlannedStage) : Value :=
  .list (stages.map PlannedStage.toJson)

/-- The document of an exit code. -/
def exitCodeToJson : Option Int32 → Value
  | none => .null
  | some code => .int code.toInt

/-- The document of an outcome. -/
def StageOutcome.toJson : StageOutcome → Value
  | .succeeded => .object [("status", .text "succeeded")]
  | .failed code => .object [("status", .text "failed"), ("code", exitCodeToJson code)]
  | .spawnFailed error => .object [("status", .text "spawn_failed"), ("error", .text error)]
  | .skipped => .object [("status", .text "skipped")]

/-- A field that is left out when it is absent. -/
def optionalField (name : String) : Option String → List (String × Value)
  | none => []
  | some s => [(name, .text s)]

/-- The document of a record. -/
def StageRecord.toJson (r : StageRecord) : Value :=
  .object ([("stage", r.stage.toJson), ("invocation", r.invocation.toJson),
    ("outcome", r.outcome.toJson), ("duration_ms", .int r.durationMs.toNat)] ++
    optionalField "stdout" r.stdout ++ optionalField "stderr" r.stderr)

/-- The document of a failure policy. -/
def FailurePolicy.toJson : FailurePolicy → Value
  | .keepGoing => .text "continue"
  | .haltOnFailure => .text "halt_on_failure"

/-- The document of a report. -/
def Report.toJson (r : Report) : Except WriteError Value :=
  match r.projectDir.writable with
  | .error e => .error e
  | .ok dir =>
    .ok (.object [("compiler", .text r.compiler), ("project_dir", .text dir),
      ("policy", r.policy.toJson), ("stages", .list (r.stages.map StageRecord.toJson))])

end Shakedown
