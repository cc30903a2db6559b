import Shakedown.Document
import Shakedown.Json.Read
import Shakedown.Program
import Shakedown.Report

/-!
# Reading the values of a run from JSON text

One reader for each type that is printed or read as JSON. Fields may come in any order and unknown
ones are passed over; fields with a default may be missing.
-/

set_option autoImplicit false

namespace Shakedown

open Json

/-! ## Plans -/

/-- Reads a compile option. -/
def CompileFlags.read : Reader CompileFlags :=
  readAlternative CompileFlags.names fun name payload =>
    if name = "optimize" then (textPayload payload).map .optimize
    else if name = "dump_ir" then (textPayload payload).map .dumpIr
    else (unitPayload payload).map fun _ => .plain

namespace ModuleEntry

/-- The fields of a module. -/
def field (key : String) : Option (FieldUpdate Known) :=
  if key = "source" then
    some (once key readText (·.source) fun k a => { k with source := some a })
  else if key = "enabled" then
    some (once key readBool (·.enabled) fun k a => { k with enabled := some a })
  else if key = "flags" then
    some (once key CompileFlags.read (·.flags) fun k a => { k with flags := some a })
  else none

/-- The wanted length of a module given as a list. -/
def wantedLength : String :=
  structureLength "ModuleEntry" 3

/-- Reads a module. -/
def read : Reader ModuleEntry
  | .object entries closed => do
    let k ← readEntries field {} entries closed
    let source ← required "source" k.source
    return k.toEntry source
  | .list items closed => do
    let (source, rest) ← requiredItem readText 0 wantedLength (items, closed)
    let (enabled, rest) ← defaultedItem readBool true rest
    let (flags, rest) ← defaultedItem CompileFlags.read .plain rest
    endOfItems rest
    return { source, enabled, flags }
  | d => .error (d.wrong (structureName "ModuleEntry"))

end ModuleEntry

/-- Reads a path. -/
def Path.read : Reader Path := fun d =>
  (readTextAs "path string" d).map Path.ofString

namespace Plan

/-- The fields of a plan. -/
def field (key : String) : Option (FieldUpdate Known) :=
  if key = "project_dir" then
    some (once key Path.read (·.projectDir) fun k a => { k with projectDir := some a })
  else if key = "build_tool" then
    some (once key readText (·.buildTool) fun k a => { k with buildTool := some a })
  else if key = "reference_compiler" then
    some (once key readText (·.referenceCompiler) fun k a =>
      { k with referenceCompiler := some a })
  else if key = "modules" then
    some (once key (readList ModuleEntry.read) (·.modules) fun k a => { k with modules := some a })
  else none

/-- Reads a plan. The rules for its modules are not checked here. -/
def read : Reader Plan
  | .object entries closed => do
    let k ← readEntries field {} entries closed
    return k.toPlan
  | .list items closed => do
    let (projectDir, rest) ←
      defaultedItem Path.read (.ofString Defaults.projectDir) (items, closed)
    let (buildTool, rest) ← defaultedItem readText Defaults.buildTool rest
    let (referenceCompiler, rest) ← defaultedItem readText Defaults.referenceCompiler rest
    let (modules, rest) ← defaultedItem (readList ModuleEntry.read) Defaults.modules rest
    endOfItems rest
    return { projectDir, buildTool, referenceCompiler, modules }
  | d => .error (d.wrong (structureName "PipelinePlan"))

end Plan

/-! ## The compiler under test -/

/-- The structure in which a compiler is written, in messages. -/
def Compiler.structure : String := "RawBuildConfiguration"

/-- Reads the name of a compiler. -/
def Compiler.readName : Reader String
  | .object entries closed => do
    let k ← readEntries (γ := Option String)
      (fun key =>
        if key = "compiler" then some (once key readText id fun _ a => some a) else none)
      none entries closed
    required "compiler" k
  | .list items closed => do
    let (name, rest) ←
      requiredItem readText 0 (structureLength Compiler.structure 1) (items, closed)
    endOfItems rest
    return name
  | d => .error (d.wrong (structureName Compiler.structure))

/-- Reads a compiler; its name must not be blank. -/
def Compiler.read : Reader Compiler := fun d => do
  match Compiler.ofString (← Compiler.readName d) with
  | .ok c => return c
  | .error e => .error (.shape (.config e))

/-! ## Stages -/

namespace Stage

/-- The tags of the stages. -/
def tags : List String := ["clean", "reference_build", "compile", "test"]

/-- Reads the number of a build pass. -/
def readPass : Reader UInt8 := fun d =>
  (readInteger 0 255 "u8" d).map fun n => .ofNat n.toNat

/-- Reads a stage inside `enclosing` lists and objects. -/
def read (enclosing : Nat) : Reader Stage := fun d => do
  let (tag, beside) ← readTagged "Stage" "kind" tags enclosing d
  if tag = "clean" then
    beside.nothing
    return .clean
  else if tag = "reference_build" then
    return .referenceBuild (← beside.field "Stage::ReferenceBuild" "pass" readPass none)
  else if tag = "compile" then
    return .compile (← beside.field "Stage::Compile" "module" readText none)
  else
    beside.nothing
    return .test

end Stage

/-- Reads an environment variable with its value. -/
def readPair : Reader (String × String)
  | .list items closed => do
    let wanted := "a tuple of size 2"
    let (key, rest) ← requiredItem readText 0 wanted (items, closed)
    let (value, rest) ← requiredItem readText 1 wanted rest
    endOfItems rest
    return (key, value)
  | d => .error (d.wrong "a tuple of size 2")

namespace Invocation

/-- What is known of an invocation while it is read. -/
structure Known where
  program : Option String := none
  args : Option (List String) := none
  env : Option (List (String × String)) := none

/-- The fields of an invocation. -/
def field (key : String) : Option (FieldUpdate Known) :=
  if key = "program" then
    some (once key readText (·.program) fun k a => { k with program := some a })
  else if key = "args" then
    some (once key (readList readText) (·.args) fun k a => { k with args := some a })
  else if key = "env" then
    some (once key (readList readPair) (·.env) fun k a => { k with env := some a })
  else none

/-- The wanted length of an invocation given as a list. -/
def wantedLength : String :=
  structureLength "Invocation" 3

/-- Reads an invocation. -/
def read : Reader Invocation
  | .object entries closed => do
    let k ← readEntries field {} entries closed
    let program ← required "program" k.program
    let args ← required "args" k.args
    return { program, args, env := k.env.getD [] }
  | .list items closed => do
    let (program, rest) ← requiredItem readText 0 wantedLength (items, closed)
    let (args, rest) ← requiredItem (readList readText) 1 wantedLength rest
    let (env, rest) ← defaultedItem (readList readPair) [] rest
    endOfItems rest
    return { program, args, env }
  | d => .error (d.wrong (structureName "Invocation"))

end Invocation

namespace PlannedStage

/-- What is known of a planned stage while it is read. -/
structure Known where
  stage : Option Stage := none
  invocation : Option Invocation := none

/-- The fields of a planned stage inside `enclosing` lists and objects. -/
def field (enclosing : Nat) (key : String) : Option (FieldUpdate Known) :=
  if key = "stage" then
    some (once key (Stage.read (enclosing + 1)) (·.stage) fun k a => { k with stage := some a })
  else if key = "invocation" then
    some (once key Invocation.read (·.invocation) fun k a => { k with invocation := some a })
  else none

/-- The wanted length of a planned stage given as a list. -/
def wantedLength : String :=
  structureLength "PlannedStage" 2

/-- Reads a planned stage inside `enclosing` lists and objects. -/
def read (enclosing : Nat) : Reader PlannedStage
  | .object entries closed => do
    let k ← readEntries (field enclosing) {} entries closed
    let stage ← required "stage" k.stage
    let invocation ← required "invocation" k.invocation
    return { stage, invocation }
  | .list items closed => do
    let (stage, rest) ←
      requiredItem (Stage.read (enclosing + 1)) 0 wantedLength (items, closed)
    let (invocation, rest) ← requiredItem Invocation.read 1 wantedLength rest
    endOfItems rest
    return { stage, invocation }
  | d => .error (d.wrong (structureName "PlannedStage"))

/-- Reads a list of planned stages. -/
def readMany : Reader (List PlannedStage) :=
  readList (read 1)

end PlannedStage

/-! ## Reports -/

namespace StageOutcome

/-- The tags of the outcomes. -/
def tags : List String := ["succeeded", "failed", "spawn_failed", "skipped"]

/-- Reads an exit code. -/
def readCode : Reader Int32 := fun d =>
  (readInteger (-2147483648) 2147483647 "i32" d).map Int32.ofInt

/-- Reads an outcome inside `enclosing` lists and objects. -/
def read (enclosing : Nat) : Reader StageOutcome := fun d => do
  let (tag, beside) ← readTagged "StageOutcome" "status" tags enclosing d
  if tag = "succeeded" then
    beside.nothing
    return .succeeded
  else if tag = "failed" then
    return .failed
      (← beside.field "StageOutcome::Failed" "code" (readOptional readCode) (some none))
  else if tag = "spawn_failed" then
    return .spawnFailed (← beside.field "StageOutcome::SpawnFailed" "error" readText none)
  else
    beside.nothing
    return .skipped

end StageOutcome

/-- Reads a number of milliseconds. -/
def readDuration : Reader UInt64 := fun d =>
  (readInteger 0 18446744073709551615 "u64" d).map fun n => .ofNat n.toNat

namespace StageRecord

/-- What is known of a record while it is read. -/
structure Known where
  stage : Option Stage := none
  invocation : Option Invocation := none
  outcome : Option StageOutcome := none
  durationMs : Option UInt64 := none
  stdout : Option (Option String) := none
  stderr : Option (Option String) := none

/-- The fields of a record inside `enclosing` lists and objects. -/
def field (enclosing : Nat) (key : String) : Option (FieldUpdate Known) :=
  if key = "stage" then
    some (once key (Stage.read (enclosing + 1)) (·.stage) fun k a => { k with stage := some a })
  else if key = "invocation" then
    some (once key Invocation.read (·.invocation) fun k a => { k with invocation := some a })
  else if key = "outcome" then
    some (once key (StageOutcome.read (enclosing + 1)) (·.outcome) fun k a =>
      { k with outcome := some a })
  else if key = "duration_ms" then
    some (once key readDuration (·.durationMs) fun k a => { k with durationMs := some a })
  else if key = "stdout" then
    some (once key (readOptional readText) (·.stdout) fun k a => { k with stdout := some a })
  else if key = "stderr" then
    some (once key (readOptional readText) (·.stderr) fun k a => { k with stderr := some a })
  else none

/-- The wanted length of a record given as a list. -/
def wantedLength : String :=
  structureLength "StageRecord" 6

/-- Reads a record inside `enclosing` lists and objects. -/
def read (enclosing : Nat) : Reader StageRecord
  | .object entries closed => do
    let k ← readEntries (field enclosing) {} entries closed
    let stage ← required "stage" k.stage
    let invocation ← required "invocation" k.invocation
    let outcome ← required "outcome" k.outcome
    let durationMs ← required "duration_ms" k.durationMs
    return { stage, invocation, outcome, durationMs, stdout := k.stdout.getD none,
             stderr := k.stderr.getD none }
  | .list items closed => do
    let (stage, rest) ←
      requiredItem (Stage.read (enclosing + 1)) 0 wantedLength (items, closed)
    let (invocation, rest) ← requiredItem Invocation.read 1 wantedLength rest
    let (outcome, rest) ← requiredItem (StageOutcome.read (enclosing + 1)) 2 wantedLength rest
    let (durationMs, rest) ← requiredItem readDuration 3 wantedLength rest
    let (stdout, rest) ← defaultedItem (readOptional readText) none rest
    let (stderr, rest) ← defaultedItem (readOptional readText) none rest
    endOfItems rest
    return { stage, invocation, outcome, durationMs, stdout, stderr }
  | d => .error (d.wrong (structureName "StageRecord"))

end StageRecord

/-- Reads a failure policy. -/
def FailurePolicy.read : Reader FailurePolicy :=
  readAlternative ["continue", "halt_on_failure"] fun name payload =>
    (unitPayload payload).map fun _ =>
      if name = "continue" then .keepGoing else .haltOnFailure

namespace Report

/-- What is known of a report while it is read. -/
structure Known where
  compiler : Option String := none
  projectDir : Option Path := none
  policy : Option FailurePolicy := none
  stages : Option (List StageRecord) := none

/-- The fields of a report. -/
def field (key : String) : Option (FieldUpdate Known) :=
  if key = "compiler" then
    some (once key readText (·.compiler) fun k a => { k with compiler := some a })
  else if key = "project_dir" then
    some (once key Path.read (·.projectDir) fun k a => { k with projectDir := some a })
  else if key = "policy" then
    some (once key FailurePolicy.read (·.policy) fun k a => { k with policy := some a })
  else if key = "stages" then
    some (once key (readList (StageRecord.read 2)) (·.stages) fun k a =>
      { k with stages := some a })
  else none

/-- The wanted length of a report given as a list. -/
def wantedLength : String :=
  structureLength "RunReport" 4

/-- Reads a report. -/
def read : Reader Report
  | .object entries closed => do
    let k ← readEntries field {} entries closed
    let compiler ← required "compiler" k.compiler
    let projectDir ← required "project_dir" k.projectDir
    let policy ← required "policy" k.policy
    let stages ← required "stages" k.stages
    return { compiler, projectDir, policy, stages }
  | .list items closed => do
    let (compiler, rest) ← requiredItem readText 0 wantedLength (items, closed)
    let (projectDir, rest) ← requiredItem Path.read 1 wantedLength rest
    let (policy, rest) ← requiredItem FailurePolicy.read 2 wantedLength rest
    let (stages, rest) ← requiredItem (readList (StageRecord.read 2)) 3 wantedLength rest
    endOfItems rest
    return { compiler, projectDir, policy, stages }
  | d => .error (d.wrong (structureName "RunReport"))

end Report

end Shakedown
