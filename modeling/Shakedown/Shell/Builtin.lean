import Shakedown.Shell.Assignment
import Shakedown.Shell.Condition
import Shakedown.Shell.Directory
import Shakedown.Shell.Input
import Shakedown.Shell.Lookup
import Shakedown.Shell.Runner
import Shakedown.Shell.Trap
import Shakedown.Text.Format

/-!
# Builtin commands

The commands that the shell carries out itself, by their names. Those that write text, run other
commands, or stop what the shell is doing, are defined here; the others come from modules of their
own. What `echo` and `printf` write appears when they are done, behind all that they complain.
-/

set_option autoImplicit false

namespace Shakedown.Shell

/-- A builtin command. -/
structure Builtin where
  /-- Its name. -/
  name : String
  /-- Whether a mistake in it ends the shell, and assignments in front of it last. -/
  isSpecial : Bool := false
  /-- Whether arguments that look like assignments are expanded like those. -/
  assigns : Bool := false
  /-- Carries it out and answers its status. -/
  run : Runner → Manner → List Chars → Sh Nat

/-! ## Writing text -/

/-- The escapes of arguments. -/
def argumentEscapes : EscapeStyle :=
  { zeroLeads := true, hexadecimal := false, stops := true }

/-- The escapes of formats. -/
def formatEscapes : EscapeStyle :=
  { zeroLeads := false, hexadecimal := false, stops := false }

/-- Writes arguments with a space between each two. An escape may end all output. -/
def echoCommand (args : List Chars) : Sh Nat := do
  let bare := args.head? = some ['-', 'n']
  let (text, ending) :=
    Escape.expand argumentEscapes (Chars.spaced (if bare then args.tail else args))
  Sh.write (text ++ if bare || ending = .stopped then [] else Chars.newline)
  return 0

/-- The letters of directives. -/
def directiveLetters : Chars :=
  ['b', 'c', 's', 'd', 'i', 'o', 'u', 'x', 'X', 'a', 'A', 'e', 'E', 'f', 'F', 'g', 'G']

/-- How formats are written. -/
def formatStyle : FormatStyle where
  escapes := formatEscapes
  argumentEscapes := argumentEscapes
  numbers := .double
  lengths := []
  accepts s := s.letter.any directiveLetters.contains
  mistake s :=
    if s.letter.isNone then "missing format character".toList
    else s.text ++ ": invalid directive".toList
  noNumber arg := arg ++ ": expected numeric value".toList
  notAll arg := arg ++ ": not completely converted".toList
  tooLarge arg := arg ++ ": Numerical result out of range".toList
  moreBehind _ := none
  leftOver _ := none

/-- The complaints among events. -/
def complaintsOf (events : List FormatEvent) : List Chars :=
  events.filterMap fun
    | .complaint s => some s
    | .text _ => none

/-- The text among events. -/
def textOf (events : List FormatEvent) : Chars :=
  events.flatMap fun
    | .complaint _ => []
    | .text s => s

/-- Writes a format. -/
def printfCommand (args : List Chars) : Sh Nat := do
  match ← withoutOptions args with
  | [] => Sh.fail "usage: printf format [arg ...]".toList
  | format :: words =>
    let result := formatStyle.write format words
    (complaintsOf result.events).forM Sh.complain
    Sh.write (textOf result.events)
    if result.ending = some .broken then
      Sh.leave 2
      throw .fails
    return if result.failed then 1 else 0

/-! ## Going on as a program -/

/-- The status of a shell that cannot go on as a program. -/
def launchStatus (e : Fault) : Nat :=
  if isAbsence e || e = .tooManyLinks || e = .nameTooLong then 127 else 126

/-- What is started for the first path that can be, given the fault so far. -/
def firstLaunch (s : Shell) (words : List Bytes) : Fault → List Chars → Except Fault Launch
  | fault, [] => .error fault
  | fault, path :: more =>
    match s.process.world.tree.launchOrRead s.process.cwd ⟨Chars.toBytes path⟩ words with
    | .ok l => .ok l
    | .error e => firstLaunch s words (if isAbsence e then fault else e) more

/-- Goes on as a program that is looked for in directories. -/
def becomeProgram {α : Type} (r : Runner) (directories words : List Chars) : Sh α := do
  Sh.handEnvironment
  let s ← get
  let name := words.headD []
  let paths := if name.contains '/' then [name] else directories.map (inDirectory · name)
  match firstLaunch s (words.map Chars.toBytes) .notFound paths with
  | .ok l =>
    Sh.act do
      modify ({ · with caught := [] })
      r.host.become l
      Act.exit 0
  | .error e =>
    Sh.complain (name ++ ": ".toList ++ programReason e)
    Sh.leave (launchStatus e)
    throw .exits

/-- Goes on as a program; without arguments, only redirections take effect. -/
def execCommand (r : Runner) (args : List Chars) : Sh Nat := do
  match ← withoutOptions args with
  | [] => return 0
  | words => becomeProgram r (searchDirectories (← get)) words

/-! ## Running text -/

/-- Runs its arguments as a script. -/
def evalCommand (r : Runner) (m : Manner) (args : List Chars) : Sh Nat := do
  r.runText { tested := m.tested } (Chars.spaced args)
  return (← get).status

/-- The path of a script that is to be read: one on the search path, unless it says itself where it
is. -/
def scriptPath (s : Shell) (name : Chars) : Option Chars :=
  if name.contains '/' then some name
  else ((searchDirectories s).map (inDirectory · name)).find? fun path =>
    match s.process.world.tree.stat s.process.cwd ⟨Chars.toBytes path⟩ with
    | .ok (_, n) => s.process.world.tree.isPlainFile n
    | .error _ => false

/-- Runs a script in this shell. -/
def sourceCommand (r : Runner) (args : List Chars) : Sh Nat := do
  match ← withoutOptions args with
  | [] => return 0
  | name :: _ =>
    match scriptPath (← get) name with
    | none => Sh.fail (name ++ ": not found".toList)
    | some path =>
      let text ← match ← Sh.act (Act.readPath path) with
        | .ok text => pure text
        | .error .isADirectory => pure []
        | .error e => failToOpen false path e
      modify ({ · with command := some path })
      match ← Sh.attempt (r.runText {} text true) with
      | .ok () => return (← get).status
      | .error .returns => return (← get).status
      | .error e => throw e

/-! ## Stopping -/

/-- Ends the shell. -/
def exitCommand (args : List Chars) : Sh Nat := do
  let s ← get
  match args with
  | [] => Sh.leave (s.trapStatus.getD s.status)
  | text :: _ => Sh.leave (← numberArgument text)
  throw .exits

/-- Returns from a function or a script. -/
def returnCommand (args : List Chars) : Sh Nat := do
  if let text :: _ := args then Sh.leave (← numberArgument text)
  throw .returns

/-- Stops loops, as many as an argument says, but not more than there are. -/
def loopCommand (stop : Nat → Stop) (args : List Chars) : Sh Nat := do
  let count ← match args with
    | [] => pure 1
    | text :: _ => do
      let n ← numberArgument text
      if n = 0 then failNumber text else pure n
  let loops := (← get).loops
  if loops = 0 then return 0
  else
    Sh.leave 0
    throw (stop (min count loops))

/-! ## Jobs -/

/-- Notes which jobs were waited for. -/
def markWaited (isWaited : Job → Bool) : Sh Unit :=
  modify fun s =>
    { s with jobs := s.jobs.map fun j => { j with waited := j.waited || isWaited j } }

/-- Waits for a job and answers its status. -/
def waitForJob (r : Runner) (text : Chars) : Sh Nat := do
  let s ← get
  let target ← processOf s text
  let wasPending := s.jobs.any fun j => some j.number = target && !j.hasEnded
  r.catchUp
  match (← get).jobs.find? fun j => some j.number = target with
  | some { state := .ended e, .. } =>
    if wasPending then Runner.report e
    markWaited fun j => some j.number = target
    return e.status
  | _ => return 127

/-- Waits for jobs, or for all of them. -/
def waitCommand (r : Runner) (args : List Chars) : Sh Nat := do
  match ← withoutOptions args with
  | [] =>
    r.catchUp
    markWaited fun _ => true
    return 0
  | targets =>
    let statuses ← targets.mapM (waitForJob r)
    return statuses.getLast?.getD 0

/-- Complains that there is no job that could go on. -/
def resumeCommand (args : List Chars) : Sh Nat := do
  let words ← withoutOptions args
  match words, (← get).jobs with
  | [], [] => Sh.fail "No current job".toList
  | [], _ => Sh.fail "job (null) not created under job control".toList
  | text :: _, _ =>
    let _ ← processOf (← get) text
    Sh.fail ("job ".toList ++ text ++ " not created under job control".toList)

/-- Lists jobs; their commands are not told. -/
def jobsCommand (args : List Chars) : Sh Nat := do
  let (_, words) ← readOptions ['l', 'p'] args
  words.forM fun text => do
    let _ ← processOf (← get) text
  return 0

/-! ## Limits -/

/-- What the limits of a process are, by their letters. -/
def limits : List (Char × String) :=
  [('t', "unlimited"), ('f', "unlimited"), ('d', "unlimited"), ('s', "8192"), ('c', "0"),
    ('m', "unlimited"), ('l', "8192"), ('p', "unlimited"), ('n', "1048576"), ('v', "unlimited"),
    ('w', "unlimited"), ('r', "0")]

/-- Shows a limit; setting one changes nothing here. -/
def ulimitCommand (args : List Chars) : Sh Nat := do
  let (options, words) ←
    readOptions ['H', 'S', 'a', 't', 'f', 'd', 's', 'c', 'm', 'l', 'p', 'n', 'v', 'w', 'r'] args
  let letter := ((options.map (·.1)).filter fun c => c ≠ 'H' && c ≠ 'S').getLast?.getD 'f'
  match words with
  | [] =>
    Sh.writeLine ((limits.lookup letter).getD "unlimited").toList
    return 0
  | [text] =>
    if text = "unlimited".toList || (!text.isEmpty && text.all Char.isDigit) then return 0
    else Sh.fail "bad number".toList
  | _ => Sh.fail "too many arguments".toList

/-- Shows how much time was used. -/
def timesCommand : Sh Nat := do
  let line := "0m0.000000s 0m0.000000s".toList
  Sh.writeLine line
  Sh.writeLine line
  return 0

/-! ## The table -/

/-- Success. -/
def succeed : Sh Nat := return 0

/-- The builtin commands but for the ones that tell about builtin commands. -/
def coreBuiltins : List Builtin :=
  [{ name := ".", isSpecial := true, run r _ args := sourceCommand r args },
    { name := ":", isSpecial := true, run _ _ _ := succeed },
    { name := "[", run _ _ args := testCommand args },
    { name := "alias", run _ _ args := aliasCommand args },
    { name := "bg", run _ _ args := resumeCommand args },
    { name := "break", isSpecial := true, run _ _ args := loopCommand .breaks args },
    { name := "cd", run _ _ args := changeDirectory args },
    { name := "chdir", run _ _ args := changeDirectory args },
    { name := "continue", isSpecial := true, run _ _ args := loopCommand .continues args },
    { name := "echo", run _ _ args := echoCommand args },
    { name := "eval", isSpecial := true, run r m args := evalCommand r m args },
    { name := "exec", isSpecial := true, run r _ args := execCommand r args },
    { name := "exit", isSpecial := true, run _ _ args := exitCommand args },
    { name := "export", isSpecial := true, assigns := true, run _ _ args := exportCommand args },
    { name := "false", run _ _ _ := return 1 },
    { name := "fg", run _ _ args := resumeCommand args },
    { name := "getopts", run _ _ args := getoptsCommand args },
    { name := "hash", run _ _ args := hashCommand args },
    { name := "jobs", run _ _ args := jobsCommand args },
    { name := "kill", run _ _ args := killCommand args },
    { name := "local", isSpecial := true, assigns := true, run _ _ args := localCommand args },
    { name := "printf", run _ _ args := printfCommand args },
    { name := "pwd", run _ _ args := showDirectory args },
    { name := "read", run _ _ args := readCommand args },
    { name := "readonly", isSpecial := true, assigns := true,
      run _ _ args := readonlyCommand args },
    { name := "return", isSpecial := true, run _ _ args := returnCommand args },
    { name := "set", isSpecial := true, run _ _ args := setCommand args },
    { name := "shift", isSpecial := true, run _ _ args := shiftCommand args },
    { name := "test", run _ _ args := testCommand args },
    { name := "times", isSpecial := true, run _ _ _ := timesCommand },
    { name := "trap", isSpecial := true, run _ _ args := trapCommand args },
    { name := "true", run _ _ _ := succeed },
    { name := "ulimit", run _ _ args := ulimitCommand args },
    { name := "umask", run _ _ args := maskCommand args },
    { name := "unalias", run _ _ args := unaliasCommand args },
    { name := "unset", isSpecial := true, run _ _ args := unsetCommand args },
    { name := "wait", run r _ args := waitCommand r args }]

/-- Whether a builtin command of a name is special; nothing if there is none of that name. -/
def builtinKind? (name : Chars) : Option Bool :=
  if name = "command".toList || name = "type".toList then some false
  else (coreBuiltins.find? (·.name.toList = name)).map (·.isSpecial)

/-- Says what a name stands for. -/
def commandCommand (args : List Chars) : Sh Nat := do
  let (options, words) ← readOptions ['p', 'v', 'V'] args
  let letters := options.map (·.1)
  let s ← get
  let directories :=
    if letters.contains 'p' then Chars.splitAt ':' usualPath else searchDirectories s
  match words with
  | [] => return 0
  | name :: _ =>
    let m := meaning s builtinKind? directories name
    if letters.contains 'V' then Sh.writeLine (describe name m)
    else if letters.contains 'v' then (usage? name m).forM Sh.writeLine
    return if (letters.contains 'v' || letters.contains 'V') && m = .missing then 127 else 0

/-- The builtin commands. -/
def builtins : List Builtin :=
  { name := "command", run _ _ args := commandCommand args }
    :: { name := "type", run _ _ args := typeCommand builtinKind? args } :: coreBuiltins

/-- The builtin command of a name. -/
def builtin? (name : Chars) : Option Builtin :=
  builtins.find? (·.name.toList = name)

end Shakedown.Shell
