import Shakedown.Path.Basic
import Shakedown.Plan.File
import Shakedown.Run.Pipeline

/-!
# Sessions

A session is one use of the harness: a compiler, perhaps a plan file, overrides for its fields, a
failure policy, and whether the stages are run or only listed. `Session.loadPlan` finds the plan in
force: the file's, or the curated one if no file is named, with the overrides on top.

Every failure has a message and perhaps a cause, which has one too. The chain of a failure lists the
messages, outermost first.
-/

set_option autoImplicit false

namespace Shakedown

/-! ## Failures and their causes -/

/-- The messages of a refused configuration. -/
def ConfigError.chain (e : ConfigError) : List String :=
  [e.message]

/-- The messages of a plan file without a plan. -/
def PlanError.chain (e : PlanError) : List String :=
  e.message :: match e with
    | .unreadable _ _ => []
    | .parse cause => [cause.message]
    | .invalid cause => cause.chain

/-- The messages of a run that cannot start. -/
def RunError.chain (e : RunError) : List String :=
  e.message :: match e with
    | .currentDir fault => [fault.message]
    | _ => []

/-- The messages of a trial without a report. -/
def TrialError.chain (e : TrialError) : List String :=
  e.message :: match e with
    | .config cause => cause.chain
    | .run cause => cause.chain

/-- Any failure of the harness. -/
inductive Failure where
  /-- A trial without a report. -/
  | trial (e : TrialError)
  /-- A plan that cannot be had. -/
  | plan (e : PlanError)
  deriving DecidableEq, Repr

/-- The messages of any failure. -/
def Failure.chain : Failure → List String
  | .trial e => e.chain
  | .plan e => ("Plan error: " ++ e.message) :: e.chain

/-- Why a session ends without an exit code. -/
inductive SessionError where
  /-- The starting directory is unknown. -/
  | startingDirectory (fault : Fault)
  /-- The compiler under test is refused. -/
  | compiler (e : ConfigError)
  /-- The plan file gives no plan. -/
  | planFile (path : Path) (e : PlanError)
  /-- The trial gives no report. -/
  | trial (e : TrialError)
  /-- What came out cannot be shown. -/
  | output (e : WriteError)
  deriving DecidableEq, Repr

/-- The messages of a session without an exit code. -/
def SessionError.chain : SessionError → List String
  | .startingDirectory fault => (RunError.currentDir fault).chain
  | .compiler e => e.chain
  | .planFile path e => ("Failed to load plan from " ++ path.display) :: e.chain
  | .trial e => e.chain
  | .output e => [e.message]

/-! ## Sessions -/

/-- One use of the harness. -/
structure Session where
  /-- The compiler under test. -/
  compiler : String
  /-- The plan file, if one is named. -/
  planFile : Option Path := none
  /-- Fields that replace those of the plan. -/
  overrides : Overrides := {}
  /-- What follows a failed stage. -/
  policy : FailurePolicy := .keepGoing
  /-- Whether the stages are only listed. -/
  dryRun : Bool := false
  deriving DecidableEq, Repr

namespace Session

/-- The plan before overrides. -/
def basePlan (s : Session) (m : Machine) : Except SessionError Plan :=
  match s.planFile with
  | none => .ok {}
  | some path =>
    match Plan.load m path with
    | .error e => .error (.planFile path e)
    | .ok p => .ok p

/-- The plan in force. -/
def loadPlan (s : Session) (m : Machine) : Except SessionError Plan :=
  match s.basePlan m with
  | .error e => .error e
  | .ok p => .ok (p.override s.overrides)

end Session

end Shakedown
