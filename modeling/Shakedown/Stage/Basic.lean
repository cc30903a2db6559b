/-!
# Stages and invocations

A stage is one step of the run, an invocation is the command that it issues: a program, its
arguments, and environment variables set on top of the inherited ones. Both have a one-line
rendering.
-/

set_option autoImplicit false

namespace Shakedown

/-- One step of a run. -/
inductive Stage where
  /-- Removes what earlier runs left. -/
  | clean
  /-- Builds the project with the reference compiler: pass 1 before the modules, pass 2 after. -/
  | referenceBuild (pass : UInt8)
  /-- Compiles one module with the compiler under test. -/
  | compile (module : String)
  /-- Runs the test suite. -/
  | test
  deriving DecidableEq, Repr

/-- The name under which a stage is shown. -/
def Stage.render : Stage → String
  | .clean => "clean"
  | .referenceBuild pass => "build (pass " ++ pass.toNat.repr ++ ")"
  | .compile module => "compile " ++ module
  | .test => "test"

/-- One external command. -/
structure Invocation where
  /-- Name or path of the executable. -/
  program : String
  /-- Arguments in order. -/
  args : List String := []
  /-- Variables set on top of the inherited environment, in the order in which they were set. -/
  env : List (String × String) := []
  deriving DecidableEq, Repr

namespace Invocation

/-- One more argument. -/
def arg (i : Invocation) (a : String) : Invocation :=
  { i with args := i.args ++ [a] }

/-- Several more arguments. -/
def addArgs (i : Invocation) (as : List String) : Invocation :=
  { i with args := i.args ++ as }

/-- One more environment variable. -/
def setEnv (i : Invocation) (key value : String) : Invocation :=
  { i with env := i.env ++ [(key, value)] }

/-- The value first set for a variable. -/
def envValue (i : Invocation) (key : String) : Option String :=
  i.env.lookup key

/-- The command on one line: variables, program, arguments. -/
def render (i : Invocation) : String :=
  (i.env.map fun (key, value) => key ++ "=" ++ value ++ " ").foldr (· ++ ·)
    (i.program ++ (i.args.map (" " ++ ·)).foldr (· ++ ·) "")

end Invocation

/-- A stage with the command it issues. -/
structure PlannedStage where
  /-- The step. -/
  stage : Stage
  /-- Its command. -/
  invocation : Invocation
  deriving DecidableEq, Repr

end Shakedown
