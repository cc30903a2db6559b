import Shakedown.Process.Basic
import Shakedown.Shell.Reader

/-!
# The state of a shell

A `Shell` is a process that runs a script, with its variables, functions and options. `Sh` is the
type of what a shell does: it changes the shell and goes on, or stops what it is doing.
-/

set_option autoImplicit false

namespace Shakedown

/-- A variable of a shell. -/
structure Variable where
  /-- Its value, if it has one. -/
  value : Option Chars := none
  /-- Whether processes that are started from here inherit it. -/
  exported : Bool := false
  /-- Whether it cannot be changed. -/
  isReadonly : Bool := false

namespace Shell

/-- What goes back to what it was when a command is over. -/
structure Frame where
  /-- What variables were before, latest first. -/
  hidden : List (Chars × Option Variable) := []
  /-- What the options were before, if they go back. -/
  options : Option (List Char) := none

/-- A function of a shell. -/
structure Definition where
  /-- The line where its body starts. -/
  line : Nat
  /-- Its body. -/
  body : Command

end Shell

/-- What a shell knows, and the process that it is. -/
structure Shell.Memory where
  /-- The process. -/
  process : Process
  /-- The name of the script. -/
  name : Chars
  /-- The arguments. -/
  args : List Chars := []
  /-- The variables, in the order in which they came. -/
  bindings : List (Chars × Variable) := []
  /-- The functions. -/
  functions : List (Chars × Shell.Definition) := []
  /-- The aliases. -/
  aliases : List (Chars × Chars) := []
  /-- The names of programs that were looked up. -/
  known : List Chars := []
  /-- The letters of the options that are set. -/
  options : List Char := []
  /-- Status of the last command. -/
  status : Nat := 0
  /-- Status of the last command that ran inside a word of the present one. -/
  wordStatus : Nat := 0
  /-- The status that a trap leaves as it was, while one is run. -/
  trapStatus : Option Nat := none
  /-- The path of the working directory as it was reached; nothing if it is unknown. -/
  place : Chars := []
  /-- The number that the name of the shell has for those who ask it for its process. -/
  rootNumber : Nat
  /-- The number of the last process that was not waited for. -/
  lastJob : Nat := 0
  /-- The line that complaints name. -/
  complaintLine : Nat := 0
  /-- The builtin command that is run. -/
  command : Option Chars := none
  /-- What is done at the end, which has the number 0, and when a signal comes. -/
  traps : List (Nat × Chars) := []
  /-- The signals that came and were not dealt with yet. -/
  arrived : List Nat := []
  /-- The here-documents that were read, by their numbers. -/
  documents : List (Nat × List Shell.Piece) := []
  /-- The number of the next here-document. -/
  nextDocument : Nat := 0
  /-- What goes back when the commands that are run are over, innermost first. -/
  frames : List Shell.Frame := []
  /-- How many loops are run inside of one another. -/
  loops : Nat := 0
  /-- How many functions are run inside of one another. -/
  calls : Nat := 0
  /-- How many scripts are read by others. -/
  sources : Nat := 0
  /-- The number of the argument where options are looked for next. -/
  optionIndex : Nat := 1
  /-- How far into the argument before that one option letters were read. -/
  optionOffset : Option Nat := none
  /-- Whether commands are being shown, so that what is run for that is not shown itself. -/
  showing : Bool := false

namespace Shell

/-- What became of a job. -/
inductive JobState where
  /-- It has not been run yet; this is what the shell knew when it was started. -/
  | pending (memory : Memory) (command : Command)
  /-- It has ended. -/
  | ended (e : Ending)

/-- A job: a command that is not waited for. -/
structure Job where
  /-- The number of its process. -/
  number : Nat
  /-- What became of it. -/
  state : JobState
  /-- Whether it was waited for. -/
  waited : Bool := false

/-- Whether a job has ended. -/
def Job.hasEnded (j : Job) : Bool :=
  match j.state with
  | .ended _ => true
  | .pending .. => false

end Shell

/-- A shell: what it knows, and its jobs. -/
structure Shell extends Shell.Memory where
  /-- The jobs, latest first. -/
  jobs : List Shell.Job := []

namespace Shell

/-- Why a shell does not go on with what it does. -/
inductive Stop where
  /-- The process is over. -/
  | ended (e : Ending)
  /-- The shell ends with its status. -/
  | exits
  /-- A mistake that a script does not survive. -/
  | fails
  /-- So many loops end. -/
  | breaks (loops : Nat)
  /-- The innermost loop but so many goes on with its next round. -/
  | continues (loops : Nat)
  /-- The function or script returns. -/
  | returns

end Shell

/-- What a shell does. -/
abbrev Sh := ExceptT Shell.Stop (StateM Shell)

namespace Sh

/-- Does something as a process. -/
def act {α : Type} (a : Act α) : Sh α := fun s =>
  match a s.process with
  | (.ok x, process) => (.ok x, { s with process })
  | (.error e, process) => (.error (.ended e), { s with process })

/-- Writes to the output. -/
def write (text : Chars) : Sh Unit :=
  act (Act.write text)

/-- Writes a line to the output. -/
def writeLine (text : Chars) : Sh Unit :=
  act (Act.writeLine text)

/-- Leaves a status for the next command to see. -/
def leave (status : Nat) : Sh Unit :=
  modify ({ · with status })

/-- A message with the place that it is about. -/
def located (s : Shell) (message : Chars) : Chars :=
  let place := s.name ++ ": ".toList ++ Chars.ofNat s.complaintLine ++ ": ".toList
  match s.command with
  | none => place ++ message
  | some c => place ++ c ++ ": ".toList ++ message

/-- Complains. -/
def complain (message : Chars) : Sh Unit := do
  act (Act.complain (located (← get) message))

/-- Complains about a mistake that a script does not survive. -/
def fail {α : Type} (message : Chars) : Sh α := do
  complain message
  leave 2
  throw .fails

/-- Does something, and something else afterwards in any case. -/
def always {α : Type} (a : Sh α) (after : Sh Unit) : Sh α := fun s =>
  let (result, s) := a s
  match after s with
  | (.ok (), s) => (result, s)
  | (.error e, s) => (.error e, s)

/-- Does something and answers how it went, whatever stopped it. -/
def attempt {α : Type} (a : Sh α) : Sh (Except Shell.Stop α) := fun s =>
  let (result, s) := a s
  (.ok result, s)

/-- Does something again and again as long as it says so, so many times at most. Every round makes
something new out of what the one before left. -/
def iterating {α : Type} (round : α → Sh (α × Bool)) : Nat → α → Sh α
  | 0, a, s => (.ok a, s)
  | n + 1, a, s =>
    match round a s with
    | (.ok (b, true), s) => iterating round n b s
    | (.ok (b, false), s) => (.ok b, s)
    | (.error e, s) => (.error e, s)

end Sh

namespace Shell

/-! ## Variables -/

/-- The letter of the option under which every variable that is set is exported. -/
def exportAllOption : Char := 'a'

/-- Whether an option is set. -/
def has (s : Shell) (option : Char) : Bool :=
  s.options.contains option

/-- The value of a variable. -/
def get? (s : Shell) (name : Chars) : Option Chars :=
  (s.bindings.lookup name).bind (·.value)

/-- The value of a variable, nothing if it has none. -/
def getD (s : Shell) (name : String) : Chars :=
  (s.get? name.toList).getD []

/-- The shell with a variable changed, which is added behind the others if it is new. -/
def modifyVariable (s : Shell) (name : Chars) (change : Variable → Variable) : Shell :=
  if (s.bindings.lookup name).isSome then
    { s with bindings := s.bindings.map fun (n, v) => if n = name then (n, change v) else (n, v) }
  else { s with bindings := s.bindings ++ [(name, change {})] }

/-- The shell with a variable set. -/
def put (s : Shell) (name value : Chars) : Shell :=
  let s := if name = "OPTIND".toList then
      { s with optionIndex := max 1 ((Chars.decimal? value).getD 1), optionOffset := none }
    else if name = "PATH".toList then { s with known := [] }
    else s
  s.modifyVariable name fun v =>
    { v with value := some value, exported := v.exported || s.has exportAllOption }

/-- Variables that are never forgotten altogether. -/
def fixedNames : List String :=
  ["IFS", "OPTIND", "PATH", "PS1", "PS2", "PS4"]

/-- The shell without a variable. -/
def unset (s : Shell) (name : Chars) : Shell :=
  if fixedNames.any (·.toList = name) then s.modifyVariable name ({ · with value := none })
  else { s with bindings := s.bindings.filter (·.1 ≠ name) }

/-- The shell with what a variable was before. -/
def restore (s : Shell) (name : Chars) (before : Option Variable) : Shell :=
  match before with
  | none => { s with bindings := s.bindings.filter (·.1 ≠ name) }
  | some v => s.modifyVariable name fun _ => v

/-- How many groups the variables are kept in. -/
def groupCount : Nat := 39

/-- The group of a variable. -/
def groupOf (name : Chars) : Nat :=
  ((name.map Char.toNat).foldl (· + ·) 0 + 16 * (name.headD '\x00').toNat) % groupCount

/-- The environment of processes that are started from here, group by group. -/
def environment (s : Shell) : Environment :=
  let grouped := s.bindings.mergeSort fun a b => decide (groupOf a.1 ≤ groupOf b.1)
  grouped.filterMap fun (name, v) =>
    if v.exported then v.value.map fun value => (Chars.toBytes name, Chars.toBytes value)
    else none

/-- A text in quotes from which a shell reads the same text. -/
def quoted (text : Chars) : Chars :=
  let parts := text.splitBy fun a b => (a = '\'') = (b = '\'')
  if parts.isEmpty then "''".toList
  else
    let shown := parts.flatMap fun part =>
      if part.contains '\'' then '"' :: part ++ ['"'] else Chars.quoted part
    if text.head? = some '\'' then "''".toList ++ shown else shown

end Shell

namespace Sh

/-- Sets a variable. -/
def assign (name value : Chars) : Sh Unit := do
  let s ← get
  if !Shell.isName name then fail (name ++ ": bad variable name".toList)
  else if (s.bindings.lookup name).any (·.isReadonly) then fail (name ++ ": is read only".toList)
  else set (s.put name value)

/-- Removes a variable. -/
def unassign (name : Chars) : Sh Unit := do
  let s ← get
  if (s.bindings.lookup name).any (·.isReadonly) then fail (name ++ ": is read only".toList)
  else set (s.unset name)

/-- The environment of a process is what the shell exports. -/
def handEnvironment : Sh Unit :=
  modify fun s => { s with process := { s.process with env := s.environment } }

end Sh

end Shakedown
