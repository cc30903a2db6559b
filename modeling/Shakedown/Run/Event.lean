import Shakedown.Path.Basic
import Shakedown.Stage.Basic

/-!
# What a run reports while it goes on

The events of a run, with the level at which each is logged and its text, and the settings that
choose how much of that is shown.
-/

set_option autoImplicit false

namespace Shakedown

/-- Importance of an event. -/
inductive LogLevel where
  | error
  | warn
  | info
  | debug
  deriving DecidableEq, Repr

/-- The name of a level. -/
def LogLevel.name : LogLevel → String
  | .error => "ERROR"
  | .warn => "WARN"
  | .info => "INFO"
  | .debug => "DEBUG"

/-- How output is shown. -/
structure OutputSettings where
  /-- No summary. -/
  quiet : Bool := false
  /-- Documents in place of status lines. -/
  json : Bool := false
  /-- How often more detail was asked for. -/
  verbose : UInt8 := 0
  deriving DecidableEq, Repr

/-- The least important level that is still logged. -/
def OutputSettings.logLevel (s : OutputSettings) : LogLevel :=
  if s.quiet then .error
  else if s.verbose = 0 then .warn
  else if s.verbose = 1 then .info
  else .debug

/-- Something a run reports. -/
inductive Event where
  /-- The compiler was not found before the first stage. -/
  | compilerNotFound (compiler : String)
  /-- The stages are about to run. -/
  | runStarted (stages : Nat) (root : Path) (compiler : String)
  /-- A stage is about to run. -/
  | stageStarted (stage : Stage) (invocation : Invocation)
  /-- A process is about to be started. -/
  | spawning (invocation : Invocation) (directory : Path)
  /-- A stage ended without success; no code means that a signal ended it. -/
  | stageFailed (stage : Stage) (code : Option Int32)
  /-- The program of a stage could not be started. -/
  | stageNotStarted (stage : Stage) (program error : String)
  /-- The run stops after a failed stage. -/
  | halting (stage : Stage)
  deriving DecidableEq, Repr

namespace Event

/-- The level of an event. -/
def level : Event → LogLevel
  | .compilerNotFound _ => .warn
  | .runStarted .. => .info
  | .stageStarted .. => .info
  | .spawning .. => .debug
  | .stageFailed .. => .warn
  | .stageNotStarted .. => .warn
  | .halting _ => .warn

/-- How a process that did not succeed ended. -/
def describeEnd : Option Int32 → String
  | none => "a signal"
  | some code => "exit code " ++ code.toInt.repr

/-- The text of an event. -/
def text : Event → String
  | .compilerNotFound compiler =>
    "Compiler '" ++ compiler ++ "' not found; its compile stages will fail"
  | .runStarted stages root compiler =>
    "Running " ++ stages.repr ++ " stages in " ++ root.display ++ " with compiler '" ++ compiler
      ++ "'"
  | .stageStarted stage invocation =>
    "Stage '" ++ stage.render ++ "': " ++ invocation.render
  | .spawning invocation directory =>
    "Spawning \x60" ++ invocation.render ++ "\x60 in " ++ directory.display
  | .stageFailed stage code =>
    "Stage '" ++ stage.render ++ "' failed with " ++ describeEnd code
  | .stageNotStarted stage program error =>
    "Stage '" ++ stage.render ++ "' could not start '" ++ program ++ "': " ++ error
  | .halting stage => "Halting after failed stage '" ++ stage.render ++ "'"

/-- The event as one log line. -/
def line (e : Event) : String :=
  e.level.name ++ " " ++ e.text

end Event

end Shakedown
