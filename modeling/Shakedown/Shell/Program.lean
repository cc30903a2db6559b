import Shakedown.Shell.Execute

/-!
# The shell as a program

How a shell is started: what it takes over from its environment, and where the commands come from
that it runs, a text in its arguments, a file, or its input.
-/

set_option autoImplicit false

namespace Shakedown.Shell

/-- The variables that every shell has. -/
def usualVariables : List (String × Chars) :=
  [("PATH", usualPath), ("PS1", "# ".toList), ("PS2", "> ".toList), ("PS4", "+ ".toList)]

/-- A shell that a process has just become. -/
def ofProcess (p : Process) : Shell :=
  let fresh : Shell := { process := p, name := p.name, rootNumber := p.number }
  let withUsual := usualVariables.foldl (fun s (name, value) => s.put name.toList value) fresh
  let inherited := p.env.map fun (name, value) => (Chars.ofBytes name, Chars.ofBytes value)
  let withInherited := (inherited.filter fun (name, _) => isName name).foldl
    (fun s (name, value) => (s.put name value).modifyVariable name ({ · with exported := true }))
    withUsual
  ((withInherited.put "IFS".toList usualSeparators).put "OPTIND".toList ['1']).put
    "PPID".toList (Chars.ofNat p.parent)

/-- Finds out where the shell is: where its environment says so, if that is true. -/
def settle : Sh Unit := do
  let s ← get
  let told := s.getD "PWD"
  let isTrue := told.head? = some '/' &&
    match s.process.world.tree.stat s.process.cwd ⟨Chars.toBytes told⟩ with
    | .ok (l, .directory ..) => l = s.process.cwd
    | _ => false
  if isTrue then notePlace told else findPlace

/-- The commands that a shell runs. -/
inductive Source where
  /-- A text in the arguments. -/
  | text (script : Chars)
  /-- A file, with the arguments of the script. -/
  | file (path : Chars) (args : List Chars)
  /-- The input. -/
  | input

/-- The letter of the option under which commands come from the input. -/
def inputOption : Char := 's'

/-- Reads the arguments of a shell: options, then where its commands come from, its name, and the
arguments of the script. -/
def readArguments (args : List Chars) : Sh Source := do
  let found ← setLeading true (args.length + 1) false args
  let takeName (words : List Chars) : Sh Unit :=
    match words with
    | [] => return ()
    | name :: more => modify fun s => { withArgs s more with name }
  match found.givesCommand, found.rest with
  | true, [] => Sh.fail "-c requires an argument".toList
  | true, script :: more =>
    takeName more
    return .text script
  | false, [] =>
    setOption inputOption true
    return .input
  | false, path :: more =>
    if (← get).has inputOption then
      modify (withArgs · (path :: more))
      return .input
    else return .file path more

/-- Runs the commands of the input. -/
def runInput (r : Runner) : Sh Unit := do
  let text := (← Sh.act (Act.readAll 0)).toOption.getD []
  r.runText {} text true

/-- Runs a source. -/
def runSource (r : Runner) : Source → Sh Unit
  | .text script => do
    let also := (← get).has inputOption
    r.runText { last := !also } script
    if also then runInput r
  | .input => runInput r
  | .file path args => do
    match ← Sh.act (Act.readPath path) with
    | .error .isADirectory => return ()
    | .error e => failToOpen false path e
    | .ok text =>
      modify fun s => { withArgs s args with name := path }
      r.runText {} text true

/-- What a shell does from its start to its end. -/
def whole (host : Host) : Sh Ending := do
  let r := runner host
  r.runWhole Runner.jobDepth do
    settle
    runSource r (← readArguments (← get).process.args)

/-- The shell as a program. -/
def program : Program := fun host p =>
  match whole host (ofProcess p) with
  | (.ok e, s) => (.error e, s.process)
  | (.error (.ended e), s) => (.error e, s.process)
  | (.error _, s) => (.error s.ending, s.process)

end Shakedown.Shell
