import Shakedown.Plan.Basic
import Shakedown.Stage.Basic

/-!
# Reports

A report keeps how every stage of a run ended, in order. The test stage alone decides whether the
run passed; all else is kept for the reader.
-/

set_option autoImplicit false

namespace Shakedown

/-! ## Outcomes of stages -/

/-- How a stage ended. -/
inductive StageOutcome where
  /-- The command exited with status zero. -/
  | succeeded
  /-- The command exited with another status, or was killed by a signal and has none. -/
  | failed (code : Option Int32)
  /-- The command could not be started. -/
  | spawnFailed (error : String)
  /-- An earlier stage halted the run. -/
  | skipped
  deriving DecidableEq, Repr

namespace StageOutcome

/-- Whether the stage ran and exited with status zero. -/
def isSuccess : StageOutcome → Bool
  | .succeeded => true
  | _ => false

/-- Whether the stage was attempted and did not succeed. -/
def isFailure : StageOutcome → Bool
  | .failed _ => true
  | .spawnFailed _ => true
  | _ => false

end StageOutcome

/-- What a report says about one stage. -/
structure StageRecord where
  /-- The step. -/
  stage : Stage
  /-- The command that was issued, or would have been. -/
  invocation : Invocation
  /-- How it ended. -/
  outcome : StageOutcome
  /-- Milliseconds it took. -/
  durationMs : UInt64
  /-- What the command wrote to its output, if that was captured. -/
  stdout : Option String := none
  /-- What the command wrote to its error output, if that was captured. -/
  stderr : Option String := none
  deriving DecidableEq, Repr

/-! ## Reports -/

/-- What follows a failed stage. -/
inductive FailurePolicy where
  /-- Every stage is attempted, whatever happened before it. -/
  | keepGoing
  /-- The first failed stage ends the run, and the others are skipped. -/
  | haltOnFailure
  deriving DecidableEq, Repr

/-- Everything a run did. -/
structure Report where
  /-- The compiler under test, as it was invoked. -/
  compiler : String
  /-- The directory in which every stage ran. -/
  projectDir : Path
  /-- The failure policy of the run. -/
  policy : FailurePolicy
  /-- One record for each stage, in order. -/
  stages : List StageRecord
  deriving DecidableEq, Repr

namespace Report

/-- The outcome of the last test stage. -/
def testOutcome? (r : Report) : Option StageOutcome :=
  (r.stages.reverse.find? (·.stage = .test)).map (·.outcome)

/-- Whether the tests passed. -/
def succeeded (r : Report) : Bool :=
  r.testOutcome?.any StageOutcome.isSuccess

/-- The exit code of the run: 0 if the tests passed, their own code if they failed with one. -/
def exitCode (r : Report) : Int32 :=
  match r.testOutcome? with
  | some .succeeded => 0
  | some (.failed (some code)) => if code = 0 then Defaults.failureExitCode else code
  | _ => Defaults.failureExitCode

/-- The stages that were attempted and failed. -/
def failedStages (r : Report) : List StageRecord :=
  r.stages.filter (·.outcome.isFailure)

/-- How many stages were attempted. -/
def attemptedCount (r : Report) : Nat :=
  r.stages.countP (·.outcome ≠ .skipped)

end Report

end Shakedown
