import Shakedown.Plan.Basic
import Shakedown.Run.Runner
import Shakedown.Utility.Perform

/-!
# The runner that starts processes

`Machine.runner` carries out invocations as processes of a machine. Their output either goes where
that of the harness goes, or it is captured, and then the last part of it is kept as text.

The cut falls between two bytes, so a character may lose its beginning; what is left of it is read
as invalid, like anything else that is not UTF-8.
-/

set_option autoImplicit false

namespace Shakedown

/-- What becomes of the output of processes. -/
inductive OutputMode where
  /-- It goes to the output of the harness. -/
  | inherit
  /-- It is collected and comes with the answer. -/
  | capture
  deriving DecidableEq, Repr

/-- The last bytes, so many at most. -/
def lastBytes (limit : Nat) (bytes : Bytes) : Bytes :=
  bytes.drop (bytes.length - limit)

/-- The text of the last bytes, so many at most. -/
def tailText (limit : Nat) (bytes : Bytes) : String :=
  String.ofList (Utf8.decodeLossy (lastBytes limit bytes))

/-- What the end of a process tells. -/
def Ending.completion : Ending → Completion
  | .exited status => { success := status = 0, code := some (.ofNat status.toNat) }
  | .killed _ => { success := false, code := none }

namespace World

/-- What the harness wrote. -/
def output (w : World) : Bytes :=
  w.written 0

/-- What the harness complained. -/
def errors (w : World) : Bytes :=
  w.written 1

end World

namespace Machine

/-- Finds what is started for an invocation in a directory, and the location of the directory. -/
def prepare (m : Machine) (w : World) (i : Invocation) (directory : Path) :
    Except Fault (Location × Launch) :=
  if i.hasNul || directory.bytes.contains 0 then .error .nulInArgument
  else match w.tree.enter m.cwd directory with
    | .error e => .error e
    | .ok cwd =>
      match i.launch w.tree cwd (i.childEnvironment m.env) with
      | .error e => .error e
      | .ok l => .ok (cwd, l)

/-- Runs a process for an invocation with given descriptors. -/
def runWith (m : Machine) (i : Invocation) (cwd : Location) (l : Launch)
    (descriptors : List (Nat × Nat)) (w : World) : Ending × World :=
  Act.runOn (perform programDepth l)
    (Process.start w cwd (Environment.handedOver (i.childEnvironment m.env)) descriptors)

/-- Runs a process whose output goes to the output of the harness. -/
def runInherited (m : Machine) (i : Invocation) (cwd : Location) (l : Launch) (w : World) :
    Completion × World :=
  let (ending, w) := m.runWith i cwd l [(0, 0), (1, 1), (2, 2)] w
  (ending.completion, w)

/-- The path of what a process reads whose output is captured. -/
def emptyInput : Path := .ofString "/dev/null"

/-- Opens the input of a process whose output is captured. -/
def openInput (w : World) : World × Nat :=
  match w.tree.stat [] emptyInput with
  | .ok (_, .file number) => w.addOpen { channel := .file number, readable := true }
  | _ => (w, 0)

/-- Runs a process whose output is captured. -/
def runCaptured (m : Machine) (i : Invocation) (cwd : Location) (l : Launch) (w : World) :
    Completion × World :=
  let (w, input) := openInput w
  let (w, stdout, outputs) := w.addCollector none
  let (w, stderr, complaints) := w.addCollector none
  let (ending, w) := m.runWith i cwd l [(0, input), (1, outputs), (2, complaints)] w
  ({ ending.completion with
      stdout := some (tailText Defaults.captureLimit (w.written stdout))
      stderr := some (tailText Defaults.captureLimit (w.written stderr)) }, w)

/-- The runner that starts processes on the machine. -/
def runner (m : Machine) (mode : OutputMode) : Runner World := fun i directory w =>
  match m.prepare w i directory with
  | .error e => ({ answer := .error e.message }, w)
  | .ok (cwd, l) =>
    let (completion, w) := match mode with
      | .inherit => m.runInherited i cwd l w
      | .capture => m.runCaptured i cwd l w
    ({ answer := .ok completion }, w)

end Machine

end Shakedown
