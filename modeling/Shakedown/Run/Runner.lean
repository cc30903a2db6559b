import Shakedown.Path.Basic
import Shakedown.Stage.Basic

/-!
# Runners

A runner carries out one invocation in a directory. It may answer as it likes and remember all it
was asked, so it is a state machine: the same definitions serve processes, scripts of prepared
answers, and any other runner a statement quantifies over.
-/

set_option autoImplicit false

namespace Shakedown

/-- What a finished process tells. -/
structure Completion where
  /-- Whether it exited with status zero. -/
  success : Bool
  /-- Its exit code; none if a signal ended it. -/
  code : Option Int32
  /-- What it wrote to its output, if that was captured. -/
  stdout : Option String := none
  /-- What it wrote to its error output, if that was captured. -/
  stderr : Option String := none
  deriving DecidableEq, Repr

/-- A process that exited with a code, nothing captured. -/
def Completion.exited (code : Int32) : Completion :=
  { success := code = 0, code := some code }

/-- The answer to an invocation: a finished process or the reason why none was started. -/
abbrev Answer := Except String Completion

/-- An answer and the time it took. -/
structure Reply where
  /-- What came of the invocation. -/
  answer : Answer
  /-- Milliseconds it took. -/
  elapsedMs : UInt64 := 0

/-- Carries out an invocation in a directory, from one state to the next. -/
abbrev Runner (σ : Type) := Invocation → Path → σ → Reply × σ

/-- The runner that also keeps a list of all it was asked, latest first. -/
def Runner.recording {σ : Type} (run : Runner σ) : Runner (σ × List (Invocation × Path)) :=
  fun invocation directory (state, calls) =>
    let (reply, next) := run invocation directory state
    (reply, next, (invocation, directory) :: calls)

end Shakedown
