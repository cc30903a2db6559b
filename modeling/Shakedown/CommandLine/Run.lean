import Shakedown.CommandLine.Help
import Shakedown.CommandLine.Parse
import Shakedown.Session.Execute

/-!
# Running the command line

From arguments to an exit code and what is written. Output of the stages comes before the summary,
and the description of a failure comes last. The log goes to the error output.
-/

set_option autoImplicit false

namespace Shakedown

/-- What a finished program leaves behind. -/
structure Transcript where
  /-- The exit code. -/
  exitCode : Int32
  /-- What was written to the output. -/
  output : Bytes
  /-- What was written to the error output. -/
  errors : Bytes

/-- What the system keeps of the exit code: its last eight bits. -/
def Transcript.status (t : Transcript) : UInt8 :=
  .ofNat (t.exitCode.toInt % 256).toNat

/-- How unimportant a level is. -/
def LogLevel.rank : LogLevel → Nat
  | .error => 0
  | .warn => 1
  | .info => 2
  | .debug => 3

/-- The log lines that are shown. -/
def OutputSettings.log (settings : OutputSettings) (events : List Event) : String :=
  concatLines ((events.filter (·.level.rank ≤ settings.logLevel.rank)).map Event.line)

/-- The transcript of a session: what its processes and the session itself wrote. -/
def SessionResult.transcript (r : SessionResult World) : Transcript :=
  let output := r.state.output
  let errors := r.state.errors
  match r.verdict with
  | .ok code => ⟨code, output ++ Utf8.bytes r.shown, errors⟩
  | .error e => ⟨1, output, errors ++ Utf8.bytes (showFailure e.chain)⟩

namespace CommandLine

/-- Executes what an accepted command line asks for. -/
def run (c : CommandLine) (m : Machine) : SessionResult World :=
  c.session.executeOn m c.output

/-- The whole program: what comes of its arguments on a machine. -/
def respond (m : Machine) (args : List Bytes) : Transcript :=
  match parse m.env args with
  | .error e =>
    ⟨e.exitCode, Terminal.written m.env (e.reply m.env), Terminal.written m.env e.complaint⟩
  | .ok c =>
    let result := c.run m
    let t := result.transcript
    { t with errors := Utf8.bytes (c.output.log result.events) ++ t.errors }

end CommandLine

end Shakedown
