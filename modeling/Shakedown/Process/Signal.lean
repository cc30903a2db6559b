import Shakedown.Process.Basic

/-!
# Signals

The signals by their numbers and names, what is said of a process that one of them ended, and how a
process sends them. A signal to a process that is not running right now waits until it runs again.
-/

set_option autoImplicit false

namespace Shakedown

namespace Signal

/-- The names of the signals, by their numbers. -/
def names : List (String × Nat) :=
  [("HUP", 1), ("INT", 2), ("QUIT", 3), ("ILL", 4), ("TRAP", 5), ("ABRT", 6), ("BUS", 7),
    ("FPE", 8), ("KILL", 9), ("USR1", 10), ("SEGV", 11), ("USR2", 12), ("PIPE", 13), ("ALRM", 14),
    ("TERM", 15), ("STKFLT", 16), ("CHLD", 17), ("CONT", 18), ("STOP", 19), ("TSTP", 20),
    ("TTIN", 21), ("TTOU", 22), ("URG", 23), ("XCPU", 24), ("XFSZ", 25), ("VTALRM", 26),
    ("PROF", 27), ("WINCH", 28), ("IO", 29), ("PWR", 30), ("SYS", 31)]

/-- The name of a signal. -/
def name? (number : Nat) : Option String :=
  (names.find? (·.2 = number)).map (·.1)

/-- A letter as a capital. -/
def capital (c : Char) : Char :=
  c.toUpper

/-- The number of a signal of a name. -/
def ofName? (text : Chars) : Option Nat :=
  (names.find? fun (n, _) => n.toList = text.map capital).map (·.2)

/-- What is said of a process that a signal ended. -/
def descriptions : List (Nat × String) :=
  [(1, "Hangup"), (2, "Interrupt"), (3, "Quit"), (4, "Illegal instruction"),
    (5, "Trace/breakpoint trap"), (6, "Aborted"), (7, "Bus error"),
    (8, "Floating point exception"), (9, "Killed"), (10, "User defined signal 1"),
    (11, "Segmentation fault"), (12, "User defined signal 2"), (13, "Broken pipe"),
    (14, "Alarm clock"), (15, "Terminated"), (16, "Stack fault"), (24, "CPU time limit exceeded"),
    (25, "File size limit exceeded"), (26, "Virtual timer expired"),
    (27, "Profiling timer expired"), (29, "I/O possible"), (30, "Power failure"),
    (31, "Bad system call")]

/-- What is said of a process that a signal ended. -/
def description (number : Nat) : Chars :=
  ((descriptions.lookup number).getD "Unknown signal").toList

/-- Whether a process survives a signal that it does nothing about. -/
def isHarmless (number : Nat) : Bool :=
  [0, 17, 18, 19, 20, 21, 22, 23, 28].contains number

/-- The signal that cannot be ignored. -/
def kill : Nat := 9

/-- The signal that is sent where none is named. -/
def terminate : Nat := 15

/-- The largest number of a signal. -/
def largest : Nat := 64

end Signal

namespace Process

/-- What a signal does to a process. -/
inductive Effect where
  /-- Nothing. -/
  | none
  /-- The process has something to do about it. -/
  | caught
  /-- The process ends. -/
  | fatal
  deriving DecidableEq, Repr

/-- What a signal does to a process. -/
def effect (p : Process) (signal : Nat) : Effect :=
  if signal = Signal.kill then .fatal
  else if p.ignored.contains signal then .none
  else if p.caught.contains signal then .caught
  else if Signal.isHarmless signal then .none
  else .fatal

end Process

namespace Act

/-- Notes a signal for a process. -/
def postpone (target signal : Nat) : Act Unit :=
  modifyWorld fun w => { w with signals := w.signals ++ [(target, signal)] }

/-- Sends a signal to a process. -/
def signal (target signal : Nat) : Act (Option Fault) := do
  let p ← get
  if target = p.number then
    match p.effect signal with
    | .none => return none
    | .caught =>
      postpone target signal
      return none
    | .fatal => throw (.killed signal)
  else if p.world.alive.contains target then
    postpone target signal
    return none
  else return some .noProcess

/-- Takes the signals that came for the process: one that is fatal ends it, the ones that it catches
are given back. -/
def takeSignals : Act (List Nat) := do
  let p ← get
  let (mine, others) := p.world.signals.partition (·.1 = p.number)
  if mine.isEmpty then return []
  else
    set { p with world := { p.world with signals := others } }
    match mine.find? fun (_, s) => p.effect s = .fatal with
    | some (_, s) => throw (.killed s)
    | none => return (mine.map (·.2)).filter fun s => p.effect s = .caught

/-- Carries out an act in a new process and waits for its end. -/
def waitFor (act : Act Unit) : Act Ending := do
  let ending ← child act
  if !(← get).world.signals.isEmpty then
    (← takeSignals).forM fun s => do postpone (← get).number s
  return ending

end Act

end Shakedown
