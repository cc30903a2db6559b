import Shakedown.Build.Update
import Shakedown.Utility.Operation
import Shakedown.Utility.Starter

/-!
# Making targets

The utility `make` reads a makefile and brings the targets up to date that it is called with.
-/

set_option autoImplicit false

namespace Shakedown.Utility.Make

open Build

/-- The options of `make`. -/
def options : List OptionKind :=
  [{ key := 'b' }, { key := 'm' }, .named 'B' "always-make", .namedValue 'C' "directory",
    { key := 'd' }, .named 'e' "environment-overrides",
    { key := 'f', names := ["file", "makefile"], takes := .value }, .named 'i' "ignore-errors",
    .namedValue 'I' "include-dir", { key := 'j', names := ["jobs"], takes := .perhaps },
    { key := 'k', names := ["keep-going"] },
    { key := 'l', names := ["load-average", "max-load"], takes := .perhaps },
    .named 'L' "check-symlink-times", { key := 'n', names := ["just-print", "dry-run", "recon"] },
    { key := 'o', names := ["old-file", "assume-old"], takes := .value },
    { key := 'O', names := ["output-sync"], takes := .perhaps }, .named 'q' "question",
    .named 'r' "no-builtin-rules", .named 'R' "no-builtin-variables",
    { key := 's', names := ["silent", "quiet"] },
    { key := 'S', names := ["no-keep-going", "stop"] }, .named 't' "touch",
    .named 'w' "print-directory", .long 'W' "no-print-directory", .long 'D' "debug" .perhaps,
    .long 'T' "trace", .long 'U' "warn-undefined-variables", .long 'Z' "no-silent"]

/-- The options as they take effect. -/
def effectOf (a : Arguments) : Options :=
  { silent := a.has 's' && a.lastOf? ['s', 'Z'] = some 's'
    dry := a.has 'n'
    persistent := a.lastOf? ['k', 'S'] = some 'k'
    careless := a.has 'i'
    always := a.has 'B'
    asking := a.has 'q'
    touching := a.has 't'
    environmentFirst := a.has 'e'
    bare := a.has 'r' || a.has 'R' }

/-- Words in which the number behind an option for jobs is part of its word. -/
def withJobs : List Chars → List Chars
  | word :: number :: more =>
    if (word = ['-', 'j'] || word = ['-', 'l']) && (Chars.decimal? number).isSome then
      (word ++ number) :: withJobs more
    else word :: withJobs (number :: more)
  | words => words

/-- The words that are handed over from one `make` to another inside of it. -/
def inheritedWords (p : Process) : List Chars :=
  match wordsOf ((p.getEnv? "MAKEFLAGS").getD []) with
  | [] => []
  | first :: more =>
    if first.head? = some '-' || first.contains '=' then first :: more
    else ('-' :: first) :: more

/-- The letters of the options that are handed over. -/
def handedLetters (a : Arguments) : Chars :=
  "Beiknqrst".toList.filter a.has

/-- What is handed over: letters of options, and assignments. -/
def handedText (a : Arguments) (assignments : List Chars) : Chars :=
  handedLetters a
    ++ if assignments.isEmpty then [] else " -- ".toList ++ Chars.spaced assignments

/-- The variables before any makefile is read. -/
def initialVariables (p : Process) (o : Options) (flags : Chars) : List (Chars × Build.Variable) :=
  let origin := if o.environmentFirst then Origin.strongEnvironment else .environment
  let fromEnvironment := p.env.reverse.map fun (name, value) =>
    (Chars.ofBytes name, ({ text := Chars.ofBytes value, origin } : Build.Variable))
  let own := [("MAKEFLAGS", flags), ("MAKE_COMMAND", p.name),
    ("CURDIR", Chars.ofBytes p.cwd.path.bytes)]
  let level := (p.getEnv? "MAKELEVEL").getD ['0']
  own.map (fun (name, text) => (name.toList, { text, late := false, origin := .file }))
    ++ [("MAKELEVEL".toList, { text := level, late := false, origin := .environment })]
    ++ (fromEnvironment.filter fun (name, _) =>
      ! ["SHELL", "MAKEFLAGS", "MAKELEVEL", "CURDIR"].any (·.toList = name))
    ++ builtinVariables.map fun (name, text) =>
      (name.toList, { text := text.toList, origin := .builtin })

/-- The names of makefiles that are looked for. -/
def usualNames : List String := ["GNUmakefile", "makefile", "Makefile"]

/-- Reads the makefiles. -/
def readAll (files : List Chars) : Build.Make Bool := do
  let p ← getThe Process
  let paths := if !files.isEmpty then files
    else ((usualNames.map String.toList).find? fun name => (p.node? name true).isSome).toList
  for path in paths do readMakefile path
  modify ({ · with place? := none })
  return !paths.isEmpty

/-- Brings the goals up to date; tells whether that failed. -/
def bringUp (files assignments goals : List Chars) : Build.Make Bool := do
  for word in assignments do
    (assignment? word).forM (assign .commandLine)
  let hasFile ← readAll files
  let chosen? := ((← Make.lookUp ".DEFAULT_GOAL".toList).map fun v => stripped v.text).or
    (← get).goal?
  let goals := if goals.isEmpty then chosen?.toList else goals
  if goals.isEmpty then
    if hasFile then Make.fail "No targets".toList
    else Make.fail "No targets specified and no makefile found".toList
  let mut failed := false
  for goal in goals do
    if ← updateGoal goal then failed := true
  return failed

/-- Tells which directory targets are made in. -/
def tellDirectory (word : String) : Build.Make Unit := do
  let p ← getThe Process
  Make.tell (word.toList ++ " directory '".toList ++ Chars.ofBytes p.cwd.path.bytes ++ ['\''])

/-- Goes to the directories that are named by options. -/
def enterAll (s : State) (host : Host) (directories : List Chars) : Act Unit := do
  for directory in directories do
    match ← Act.stat directory with
    | .ok (l, .directory ..) => modify fun p => { p with cwd := l }
    | found =>
      let e := match found with
        | .error e => e
        | .ok _ => Fault.notADirectory
      let complain : Build.Make Unit := Make.fail (directory ++ ": ".toList ++ Act.reason e)
      let _ ← (complain.run host).run s

/-- Says how the program is used, and ends it. -/
def misused {α : Type} (message : Chars) : Act α := do
  Act.grumble message
  Act.complain "Usage: make [options] [target] ...".toList
  Act.exit Make.failureStatus

/-- Makes targets. -/
def make : Program := fun host => do
  let p ← get
  let a ← match sortArguments options false (withJobs (inheritedWords p ++ p.args)) with
    | .ok a => pure a
    | .error e => misused e
  let o := effectOf a
  let level := ((p.getEnv? "MAKELEVEL").bind Chars.decimal?).getD 0
  let isAssignment := fun (word : Chars) => (assignment? word).isSome
  let assignments := a.operands.filter isAssignment
  let start : State := { options := o, level }
  enterAll start host (a.values 'C')
  let flags := handedText a assignments
  modify fun p => { p with env := p.env.put (Utf8.bytes "MAKEFLAGS") (Chars.toBytes flags) }
  let tells := (a.has 'w' || level > 0 || a.has 'C') && !a.has 'W' && !o.silent
  let all : Build.Make Bool := do
    modify ({ · with bindings := initialVariables (← getThe Process) o flags })
    bringUp (a.values 'f') assignments (a.operands.filter (!isAssignment ·))
  let tellWhere : String → Act Unit := fun word => do
    if tells then
      let _ ← ((tellDirectory word).run host).run start
  tellWhere "Entering"
  let ended ← tryCatch (do
      let (failed, _) ← (all.run host).run start
      pure (Ending.exited (if failed then Make.failureStatus else 0)))
    fun ending => pure ending
  tellWhere "Leaving"
  match ended with
  | .exited status => Act.finish status 1
  | .killed signal => throw (.killed signal)

end Shakedown.Utility.Make
