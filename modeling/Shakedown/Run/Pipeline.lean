import Shakedown.Machine.Basic
import Shakedown.Report
import Shakedown.Run.Event
import Shakedown.Run.Runner
import Shakedown.Stage.Planning

/-!
# Running the stages

A trial is a plan, a starting directory and a failure policy. `Trial.run` checks the project
directory, lays out the stages, and hands their invocations to a runner one after the other, each
with the project as its directory. Once stages run, nothing is an error any more: what happens is
recorded, and the policy alone decides whether the next stage is attempted.

The loop `runStages` recurses over the planned stages and returns the records, the events and the
runner's state together.
-/

set_option autoImplicit false

namespace Shakedown

/-- Why a run cannot start. -/
inductive RunError where
  /-- The project directory does not exist. -/
  | projectDirNotFound (path : Path)
  /-- The project path is no directory. -/
  | projectDirNotADirectory (path : Path)
  /-- The working directory of the harness is unknown. -/
  | currentDir (fault : Fault)
  deriving DecidableEq, Repr

/-- What is said about a run that cannot start. -/
def RunError.message : RunError → String
  | .projectDirNotFound path => "Project directory not found: " ++ path.display
  | .projectDirNotADirectory path => "Project path is not a directory: " ++ path.display
  | .currentDir fault => "Failed to determine the current directory: " ++ fault.message

/-- Why no report comes out of a trial. -/
inductive TrialError where
  /-- The plan cannot be laid out. -/
  | config (e : ConfigError)
  /-- The run cannot start. -/
  | run (e : RunError)
  deriving DecidableEq, Repr

/-- What is said about a trial without a report. -/
def TrialError.message : TrialError → String
  | .config e => "Configuration error: " ++ e.message
  | .run e => e.message

/-- The outcome that an answer amounts to. -/
def Answer.outcome : Answer → StageOutcome
  | .ok completion => if completion.success then .succeeded else .failed completion.code
  | .error e => .spawnFailed e

/-- The captured output of an answer. -/
def Answer.stdout : Answer → Option String
  | .ok completion => completion.stdout
  | .error _ => none

/-- The captured error output of an answer. -/
def Answer.stderr : Answer → Option String
  | .ok completion => completion.stderr
  | .error _ => none

namespace PlannedStage

/-- The record of a stage that was attempted. -/
def record (p : PlannedStage) (r : Reply) : StageRecord :=
  { stage := p.stage
    invocation := p.invocation
    outcome := Answer.outcome r.answer
    durationMs := r.elapsedMs
    stdout := Answer.stdout r.answer
    stderr := Answer.stderr r.answer }

/-- The record of a stage that was not attempted. -/
def skipped (p : PlannedStage) : StageRecord :=
  { stage := p.stage, invocation := p.invocation, outcome := .skipped, durationMs := 0 }

/-- What is reported about a stage that did not go well. -/
def complaints (p : PlannedStage) : Answer → List Event
  | .ok completion =>
    if completion.success then [] else [.stageFailed p.stage completion.code]
  | .error e => [.stageNotStarted p.stage p.invocation.program e]

/-- What is reported about a stage that was attempted. -/
def events (p : PlannedStage) (a : Answer) : List Event :=
  .stageStarted p.stage p.invocation :: p.complaints a

end PlannedStage

/-- Runs planned stages in order, each in the directory `root`. -/
def runStages {σ : Type} (policy : FailurePolicy) (run : Runner σ) (root : Path) :
    List PlannedStage → σ → List StageRecord × List Event × σ
  | [], s => ([], [], s)
  | p :: more, s =>
    let (reply, s) := run p.invocation root s
    let record := p.record reply
    if record.outcome.isFailure ∧ policy = .haltOnFailure then
      (record :: more.map PlannedStage.skipped, p.events reply.answer ++ [.halting p.stage], s)
    else
      let (records, events, s) := runStages policy run root more s
      (record :: records, p.events reply.answer ++ events, s)

/-- A plan to be run from a starting directory under a failure policy. -/
structure Trial where
  /-- What is built and compiled. -/
  plan : Plan
  /-- The directory from which relative paths are taken. -/
  baseDir : Path
  /-- What follows a failed stage. -/
  policy : FailurePolicy := .keepGoing

/-- What a run leaves behind. -/
structure RunResult (σ : Type) where
  /-- The report, or why there is none. -/
  verdict : Except TrialError Report
  /-- What was reported on the way. -/
  events : List Event
  /-- The runner's state in the end. -/
  state : σ

namespace Trial

/-- The directory in which every stage runs. -/
def projectRoot (t : Trial) : Path :=
  t.baseDir.join t.plan.projectDir

/-- The plan with its build tool anchored to the starting directory. -/
def anchoredPlan (t : Trial) : Plan :=
  { t.plan with buildTool := anchor t.plan.buildTool t.baseDir }

/-- Every stage of a run, as it will be issued. -/
def plannedStages (t : Trial) (c : Compiler) : Except ConfigError (List PlannedStage) :=
  t.anchoredPlan.stages (c.anchored t.baseDir)

/-- Refuses a project path that is not a directory. -/
def checkProjectDir (m : Machine) (root : Path) : Except RunError Unit :=
  if !m.pathExists root then .error (.projectDirNotFound root)
  else if !m.isDirectory root then .error (.projectDirNotADirectory root)
  else .ok ()

/-- What is reported before the first stage. -/
def openingEvents (m : Machine) (t : Trial) (compiler : String) (count : Nat) : List Event :=
  (if (m.locate compiler).isNone then [.compilerNotFound compiler] else []) ++
    [.runStarted count t.projectRoot compiler]

/-- Runs the whole trial with the compiler `c`. -/
def run {σ : Type} (t : Trial) (m : Machine) (runner : Runner σ) (c : Compiler) (s : σ) :
    RunResult σ :=
  match checkProjectDir m t.projectRoot with
  | .error e => ⟨.error (.run e), [], s⟩
  | .ok () =>
    match t.plannedStages c with
    | .error e => ⟨.error (.config e), [], s⟩
    | .ok stages =>
      let compiler := (c.anchored t.baseDir).program
      let (records, events, s) := runStages t.policy runner t.projectRoot stages s
      { verdict := .ok
          { compiler, projectDir := t.projectRoot, policy := t.policy, stages := records }
        events := openingEvents m t compiler stages.length ++ events
        state := s }

end Trial

end Shakedown
