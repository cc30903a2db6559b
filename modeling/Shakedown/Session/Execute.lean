import Shakedown.Console.Summary
import Shakedown.Process.Runner
import Shakedown.Session.Basic

/-!
# Executing a session

A session finds its starting directory, checks the compiler, loads the plan, and then lists the
stages or runs them. `Session.execute` leaves open how invocations are carried out, and
`Session.executeOn` starts processes.

All that can go wrong before the first stage ends the session with an error. After the stages only
the writing of the report can still fail.
-/

set_option autoImplicit false

namespace Shakedown

/-- What a session leaves behind. -/
structure SessionResult (σ : Type) where
  /-- The exit code, or why there is none. -/
  verdict : Except SessionError Int32
  /-- What is shown in the end. -/
  shown : String
  /-- What was reported on the way. -/
  events : List Event
  /-- The runner's state in the end. -/
  state : σ

namespace Session

/-- The trial of a session, once its plan is known. -/
def trial (s : Session) (plan : Plan) (baseDir : Path) : Trial :=
  { plan, baseDir, policy := s.policy }

/-- What is known before stages are laid out: the compiler and the trial. -/
def prepare (s : Session) (m : Machine) : Except SessionError (Compiler × Trial) :=
  match m.currentDir with
  | .error fault => .error (.startingDirectory fault)
  | .ok baseDir =>
    match Compiler.ofString s.compiler with
    | .error e => .error (.compiler e)
    | .ok c =>
      match s.loadPlan m with
      | .error e => .error e
      | .ok plan => .ok (c, s.trial plan baseDir)

/-- Lists the stages of a trial. -/
def listStages (t : Trial) (c : Compiler) (settings : OutputSettings) :
    Except SessionError Int32 × String :=
  match t.plannedStages c with
  | .error e => (.error (.trial (.config e)), "")
  | .ok stages => (.ok 0, showPlanned stages t.projectRoot settings)

/-- What comes of a finished run: its exit code and what is shown, or why that cannot be shown. -/
def conclude (r : Report) (settings : OutputSettings) : Except SessionError Int32 × String :=
  match r.shown settings with
  | .ok text => (.ok r.exitCode, text)
  | .error e => (.error (.output e), "")

/-- The events of a run with the start of each process among them. -/
def withSpawning (root : Path) (events : List Event) : List Event :=
  events.flatMap fun
    | .stageStarted stage invocation =>
      [.stageStarted stage invocation, .spawning invocation root]
    | e => [e]

/-- Runs the stages of a trial. -/
def runStages {σ : Type} (t : Trial) (m : Machine) (runner : Runner σ) (c : Compiler)
    (settings : OutputSettings) (state : σ) : SessionResult σ :=
  let result := t.run m runner c state
  let (verdict, shown) := match result.verdict with
    | .error e => (.error (.trial e), "")
    | .ok r => conclude r settings
  { verdict, shown, events := withSpawning t.projectRoot result.events, state := result.state }

/-- Executes a session with a runner. -/
def execute {σ : Type} (s : Session) (m : Machine) (runner : Runner σ)
    (settings : OutputSettings) (state : σ) : SessionResult σ :=
  match s.prepare m with
  | .error e => ⟨.error e, "", [], state⟩
  | .ok (c, t) =>
    if s.dryRun then
      let (verdict, shown) := listStages t c settings
      ⟨verdict, shown, [], state⟩
    else runStages t m runner c settings state

/-- Output is captured if it goes into a document. -/
def outputMode (settings : OutputSettings) : OutputMode :=
  if settings.json then .capture else .inherit

/-- Executes a session with processes. -/
def executeOn (s : Session) (m : Machine) (settings : OutputSettings) : SessionResult World :=
  s.execute m (m.runner (outputMode settings)) settings { tree := m.tree }

end Session

end Shakedown
