import Shakedown.Process.Signal
import Shakedown.Shell.Grammar
import Shakedown.Shell.Redirection

/-!
# Running scripts and subshells

What commands need to run other commands: the text of a script is read line by line and every line
is run before the next one is read; a subshell is a process with a copy of all that the shell knows;
and jobs that are not waited for run when the shell next has time for them.

How one command runs is left to a `Runner`, so that builtin commands can use all of this.
-/

set_option autoImplicit false

namespace Shakedown.Shell

/-- How a command is run. -/
structure Manner where
  /-- Whether its status is looked at, so that a failure is no mistake. -/
  tested : Bool := false
  /-- Whether the shell ends with it. -/
  last : Bool := false

/-- How a shell ends that has nothing left to do. -/
def ending (s : Shell) : Ending :=
  .exited (.ofNat s.status)

/-- How the shell runs commands. -/
structure Runner where
  /-- How programs are started. -/
  host : Host
  /-- Runs a command. -/
  run : Manner → Command → Sh Unit

namespace Runner

/-! ## Scripts -/

/-- The letter of the option under which the text of a script is shown as it is read. -/
def verboseOption : Char := 'v'

/-- The letter of the option under which nothing is run. -/
def idleOption : Char := 'n'

/-- Shows the text that was read between two places. -/
def showRead (before after : Reader) : Sh Unit := do
  if (← get).has verboseOption then
    let _ ← Sh.act (Act.put 2 (before.rest.take (before.left - after.left)))

/-- Runs the lines of a script from some place on, so many at most. `ran` tells whether a command
was run before, `isFile` whether the text is that of a file, which may be shown. -/
def runLines (r : Runner) (m : Manner) (isFile : Bool) : Nat → Bool → Reader → Sh Unit
  | 0, _, _ => return ()
  | n + 1, ran, reader => do
    let s ← get
    let reader :=
      { reader with aliases := s.aliases, nextDocument := s.nextDocument, documents := [] }
    match parseLine reader with
    | .error e =>
      modify ({ · with complaintLine := e.line })
      Sh.fail ("Syntax error: ".toList ++ e.message)
    | .ok (none, next) =>
      if isFile then showRead reader next
      if !ran then Sh.leave 0
    | .ok (some (c, ended), next) =>
      if isFile then showRead reader next
      modify fun s =>
        { s with documents := next.documents ++ s.documents, nextDocument := next.nextDocument }
      match c with
      | .idle => runLines r m isFile n ran next
      | _ =>
        r.run { m with last := m.last && ended } c
        runLines r m isFile n true next

/-- Runs a script. -/
def runText (r : Runner) (m : Manner) (text : Chars) (isFile : Bool := false) : Sh Unit :=
  runLines r m isFile (text.length + 2) false { rest := text, left := text.length, line := 1 }

/-! ## Signals and the end of a shell -/

/-- Runs a trap; the status and what a trap inside of it would leave stay as they are. -/
def runAction (r : Runner) (action : Chars) : Sh Unit := do
  let s ← get
  set { s with trapStatus := some (s.trapStatus.getD s.status) }
  r.runText {} action
  modify fun t => { t with trapStatus := s.trapStatus, status := s.status }

/-- Does what is to be done when a signal comes. -/
def runTrap (r : Runner) (signal : Nat) : Sh Unit := do
  match (← get).traps.lookup signal with
  | none => return ()
  | some action => r.runAction action

/-- Deals with the signals that came. -/
def dealWithSignals (r : Runner) : Sh Unit := do
  if !(← get).process.world.signals.isEmpty then
    (← Sh.act Act.takeSignals).forM r.runTrap

/-- What is done at the end of a shell, and how it ends. -/
def exitTrap (r : Runner) : Sh Ending := do
  let s ← get
  match s.traps.lookup 0 with
  | none => return s.ending
  | some action =>
    set { s with traps := s.traps.filter (·.1 ≠ 0) }
    match ← Sh.attempt (r.runAction action) with
    | .error (.ended e) => return e
    | .error .returns => return s.ending
    | _ => return (← get).ending

/-! ## Subshells -/

/-- What a subshell knows: what the shell knows but what is to be done about signals. -/
def Memory.inSubshell (m : Memory) (number : Nat) (world : World) : Shell :=
  { m with
    process := { ({ m.process with world }).fork number with caught := [] }
    traps := m.traps.filter fun (_, action) => action.isEmpty
    jobs := [] }

/-- The world without a process that has ended. -/
def withoutProcess (w : World) (number : Nat) : World :=
  { w with alive := w.alive.erase number }

/-- Runs a process of a number with what a shell knew, and answers how it ended. -/
def runAs (number : Nat) (m : Memory) (body : Sh Ending) : Sh Ending := fun s =>
  let back (w : World) : Shell :=
    { s with process := { s.process with world := withoutProcess w number } }
  match body (Memory.inSubshell m number s.process.world) with
  | (.ok e, child) => (.ok e, back child.process.world)
  | (.error (.ended e), child) => (.ok e, back child.process.world)
  | (.error _, child) => (.ok child.ending, back child.process.world)

/-- The number of the next process. -/
def nextNumber : Sh Nat := do
  return (← get).process.world.started + 1

mutual

/-- Runs the jobs that are chosen by their commands, so deep at most. -/
def runJobs (r : Runner) (isChosen : Command → Bool) : Nat → Sh Unit
  | 0 => return ()
  | n + 1 => do
    let jobs := (← get).jobs.reverse
    jobs.forM fun job =>
      match job.state with
      | .ended _ => return ()
      | .pending m command => do
        if !isChosen command then return ()
        let e ← runAs job.number m <|
          runWhole r n (do r.dealWithSignals; r.run { last := true } command)
        modify fun s =>
          { s with jobs := s.jobs.map fun j =>
              if j.number = job.number then { j with state := .ended e } else j }

/-- Runs what a shell does up to its end, with its jobs. -/
def runWhole (r : Runner) : Nat → Sh Unit → Sh Ending
  | 0, _ => return .exited 2
  | n + 1, body => do
    let e ← match ← Sh.attempt body with
      | .error (.ended e) => pure e
      | _ => r.exitTrap
    runJobs r (fun _ => true) n
    return e

end

/-- How deep jobs may start jobs. -/
def jobDepth : Nat := 20

/-- Runs the jobs that were not run yet. -/
def catchUp (r : Runner) : Sh Unit := do
  if !(← get).jobs.isEmpty then runJobs r (fun _ => true) jobDepth

/-- The name of the program that lets time pass. -/
def sleepName : Chars := "sleep".toList

/-- Whether a command lets time pass before it does anything, as far as that is seen by looking so
deep into it. -/
def startsSleeping : Nat → Command → Bool
  | 0, _ => false
  | _ + 1, .simple _ _ words _ => (words.head?.bind literal?) = some sleepName
  | n + 1, .sequence commands => commands.head?.any (startsSleeping n)
  | n + 1, .pipeline commands => commands.head?.any (startsSleeping n)
  | n + 1, .both a _ => startsSleeping n a
  | n + 1, .either a _ => startsSleeping n a
  | n + 1, .negation a => startsSleeping n a
  | n + 1, .subshell _ a _ => startsSleeping n a
  | n + 1, .redirected _ a _ => startsSleeping n a
  | n + 1, .branch a _ _ => startsSleeping n a
  | n + 1, .loop _ a _ => startsSleeping n a
  | _, _ => false

/-- Runs the jobs that have something to do right away. -/
def keepPace (r : Runner) : Sh Unit := do
  if !(← get).jobs.isEmpty then runJobs r (!startsSleeping jobDepth ·) jobDepth

/-- Runs a subshell and answers how it ended. -/
def subshell (r : Runner) (body : Sh Unit) : Sh Ending := do
  let e ← runAs (← nextNumber) (← get).toMemory (runWhole r jobDepth body)
  r.dealWithSignals
  return e

/-- Says what ended a process that was waited for, unless that is usual. -/
def report (e : Ending) : Sh Unit :=
  match e with
  | .exited _ => return ()
  | .killed signal =>
    if signal = 2 || signal = pipeSignal then return ()
    else Sh.act (Act.complain (Signal.description signal))

/-- Waits for a subshell and leaves its status. -/
def waitFor (r : Runner) (body : Sh Unit) : Sh Unit := do
  let e ← r.subshell body
  report e
  Sh.leave e.status

/-! ## Output of commands -/

/-- Runs something in a subshell whose output is collected. -/
def collect (r : Runner) (body : Sh Unit) : Sh (Ending × Chars) := do
  let (world, number, writer) := (← get).process.world.addCollector none
  modifyProcess fun p => { p with world }
  let e ← r.subshell do
    modifyProcess (·.withDescriptor 1 writer)
    body
  return (e, Chars.ofBytes ((← get).process.world.written number))

/-- What a command writes. -/
def capture (r : Runner) (c : Command) : Sh Chars := do
  match c with
  | .idle => return []
  | _ =>
    let (e, text) ← r.collect (r.run { last := true } c)
    report e
    modify ({ · with wordStatus := e.status })
    return text

end Runner

end Shakedown.Shell
