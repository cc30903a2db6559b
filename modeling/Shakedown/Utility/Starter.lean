import Shakedown.Text.Escape
import Shakedown.Utility.Input
import Shakedown.Utility.Surroundings

/-!
# Utilities that start programs

`env`, `nice`, `nohup` and `timeout` change something and go on as another program; `xargs` starts
a program for the words that it reads.
-/

set_option autoImplicit false

namespace Shakedown

namespace Act

/-- The status of a program that could not be started. -/
def startFailure (e : Fault) : UInt8 :=
  if e = .notFound then 127 else 126

/-- Goes on as another program, or complains and ends. -/
def goOn {α : Type} (host : Host) (words : List Chars) (message : Chars → Chars) : Act α := do
  let e ← become host words
  grumble (message (words.headD []) ++ ": ".toList ++ reason e)
  exit (startFailure e)

/-- Ends with a status, unless something could not be written. -/
def finish {α : Type} (status failure : UInt8) : Act α := do
  match (← get).fault with
  | none => exit status
  | some e => die ("write error: ".toList ++ reason e) failure

end Act

namespace Utility

/-- The options of `env`. -/
def envOptions : List OptionKind :=
  [.named 'i' "ignore-environment", .named '0' "null", .namedValue 'u' "unset",
    .namedValue 'C' "chdir", .namedValue 'S' "split-string", .named 'v' "debug"]

/-- The words of a text, in which quotation marks keep words together. -/
def splitWords : Option Char → Option Chars → Chars → List Chars
  | _, word?, [] => word?.toList
  | none, word?, c :: more =>
    if Chars.isSpace c then word?.toList ++ splitWords none none more
    else if c = '\'' || c = '"' then splitWords (some c) (some (word?.getD [])) more
    else splitWords none (some (word?.getD [] ++ [c])) more
  | some q, word?, c :: more =>
    if c = q then splitWords none word? more
    else splitWords (some q) (some (word?.getD [] ++ [c])) more

/-- The arguments of `env`, those that come out of one of its options put in. -/
def envArguments : Act Arguments := do
  match sortArguments envOptions true (← get).args with
  | .error e => Act.misused e 125
  | .ok a =>
    match a.value? 'S' with
    | none => return a
    | some text =>
      match sortArguments envOptions true (splitWords none none text ++ a.operands) with
      | .error e => Act.misused e 125
      | .ok b => return { options := a.options ++ b.options, operands := b.operands }

/-- Changes the environment as `env` is told to. -/
def changeEnvironment (a : Arguments) (settings : List Chars) : Act Unit := do
  if a.has 'i' then modify fun p => { p with env := [] }
  for name in a.values 'u' do
    if name.isEmpty || name.contains '=' then
      Act.die ("cannot unset ".toList ++ name.shown ++ ": Invalid argument".toList) 125
    modify fun p => { p with env := p.env.unset (Chars.toBytes name) }
  for word in settings do
    let name := word.takeWhile (· ≠ '=')
    let value := word.drop (name.length + 1)
    modify fun p => { p with env := p.env.put (Chars.toBytes name) (Chars.toBytes value) }

/-- Goes to a directory. -/
def goTo (directory : Chars) : Act Unit := do
  let refuse := fun e : Fault => Act.die (α := Unit)
    ("cannot change directory to ".toList ++ directory.shown ++ ": ".toList ++ Act.reason e) 125
  match ← Act.stat directory with
  | .ok (l, .directory ..) => modify fun p => { p with cwd := l }
  | .ok _ => refuse .notADirectory
  | .error e => refuse e

/-- Goes on as a program in a changed environment, or writes it. -/
def env : Program := fun host => do
  let a ← envArguments
  let bare := a.operands.head? = some ['-']
  let a := if bare then
    { options := ('i', none) :: a.options, operands := a.operands.tail } else a
  let settings := a.operands.takeWhile (·.contains '=')
  let words := a.operands.drop settings.length
  if !words.isEmpty && a.has '0' then
    Act.misused "cannot specify --null (-0) with command".toList 125
  if words.isEmpty && a.has 'C' then
    Act.misused "must specify command with --chdir (-C)".toList 125
  changeEnvironment a settings
  if words.isEmpty then
    for v in (← get).env do
      Act.write (variableText v ++ if a.has '0' then ['\x00'] else Chars.newline)
    Act.finish 0 125
  (a.value? 'C').forM goTo
  Act.goOn host words Chars.shown

/-- Goes on as a program that gives way to others. -/
def nice : Program := fun host => do
  let a ← match sortArguments [.namedValue 'n' "adjustment"] true (← get).args with
    | .ok a => pure a
    | .error e => Act.misused e 125
  let adjustment? := a.value? 'n'
  adjustment?.forM fun word => do
    if (Numeral.integer? word).isNone then
      Act.die ("invalid adjustment ".toList ++ word.shown) 125
  if a.operands.isEmpty then
    if adjustment?.isSome then
      Act.misused "a command must be given with an adjustment".toList 125
    Act.writeLine ['0']
    Act.finish 0 125
  Act.goOn host a.operands Chars.shown

/-- What is said in front of the name of a program that cannot be run. -/
def failedToRun (name : Chars) : Chars :=
  "failed to run command ".toList ++ name.shown

/-- The number of the signal for the end of a connection. -/
def hangUp : Nat := 1

/-- Goes on as a program that outlives its terminal. -/
def nohup : Program := fun host => do
  let a ← match sortArguments [] true (← get).args with
    | .ok a => pure a
    | .error e => Act.misused e 125
  if a.operands.isEmpty then Act.missingOperand 125
  modify fun p => { p with ignored := hangUp :: p.ignored }
  Act.goOn host a.operands failedToRun

/-- The options of `timeout`. -/
def timeoutOptions : List OptionKind :=
  [.namedValue 's' "signal", .namedValue 'k' "kill-after", .named 'v' "verbose",
    .long 'f' "foreground", .long 'p' "preserve-status"]

/-- Whether a word is a duration. -/
def isDuration (word : Chars) : Bool :=
  match Numeral.leadingReading? word with
  | some (.finite false .., rest) =>
    rest.isEmpty || (rest.length = 1 && rest.all "smhd".toList.contains)
  | _ => false

/-- Starts a program, which is always fast enough. -/
def timeout : Program := fun host => do
  let a ← match sortArguments timeoutOptions true (← get).args with
    | .ok a => pure a
    | .error e => Act.misused e 125
  match a.operands with
  | duration :: name :: words =>
    if !isDuration duration then
      Act.misused ("invalid time interval ".toList ++ duration.shown) 125
    match ← Act.child (Act.goOn host (name :: words) failedToRun) with
    | .exited status => Act.exit status
    | .killed signal => throw (.killed signal)
  | _ => Act.referToHelp 125

/-! ## Starting a program for words that are read -/

/-- How `xargs` reads words. -/
inductive WordRule where
  /-- Between blanks, with quotation marks and backslashes. -/
  | quoted
  /-- Between single characters. -/
  | separated (c : Char)
  /-- Lines, with quotation marks and backslashes, blanks in front passed over. -/
  | lines
  deriving DecidableEq, Repr

/-- How far the reading of words is. -/
structure WordRun where
  /-- The words that were read, latest first; each is marked if it ends a line. -/
  words : List (Chars × Bool) := []
  /-- The word that is being read. -/
  current : Option Chars := none
  /-- The quotation mark inside which a character stands. -/
  quote : Option Char := none
  /-- Whether a backslash stands before a character. -/
  escaped : Bool := false
  /-- Whether the line that is read ends in a blank and so goes on. -/
  goesOn : Bool := false

/-- Ends a word. -/
def WordRun.finish (r : WordRun) (endsLine : Bool) : WordRun :=
  match r.current with
  | some word => { r with words := (word, endsLine) :: r.words, current := none }
  | none =>
    match r.words with
    | (word, ended) :: more => { r with words := (word, ended || endsLine) :: more }
    | [] => r

/-- Reads a character. -/
def WordRun.step (byLines : Bool) (r : WordRun) (c : Char) : WordRun :=
  let add := { r with current := some (c :: r.current.getD []), goesOn := false }
  if r.escaped then { add with escaped := false }
  else match r.quote with
    | some q => if c = q then { r with quote := none } else add
    | none =>
      if c = '\\' then { r with escaped := true, current := some (r.current.getD []) }
      else if c = '\'' || c = '"' then
        { r with quote := some c, current := some (r.current.getD []) }
      else if c = '\n' then { r.finish (!r.goesOn) with goesOn := false }
      else if c = ' ' || c = '\t' then
        if byLines then (if r.current.isSome then add else r)
        else { r.finish false with goesOn := true }
      else add

/-- The words of a text, each marked if it ends a line; or what is wrong. -/
def readWords (rule : WordRule) (text : Chars) : Except Chars (List (Chars × Bool)) :=
  match rule with
  | .separated c => .ok ((Chars.records c text).map fun word => (word, true))
  | _ =>
    let r := text.foldl (WordRun.step (rule = .lines)) {}
    match r.quote with
    | some q =>
      .error <| "unmatched ".toList ++ (if q = '"' then "double" else "single").toList
        ++ " quote; by default quotes are special to xargs unless you use the -0 option".toList
    | none =>
      .ok ((r.finish true).words.reverse.map fun (word, endsLine) => (word.reverse, endsLine))

/-- Words in groups of so many. -/
def groupsOf (count : Nat) : Nat → List Chars → List (List Chars)
  | 0, _ => []
  | _ + 1, [] => []
  | n + 1, words => words.take count :: groupsOf count n (words.drop count)

/-- Words in groups of so many lines. -/
def groupsOfLines (count : Nat) (words : List (Chars × Bool)) : List (List Chars) :=
  let (groups, open_, _) := words.foldl
    (fun (groups, current, lines) (word, endsLine) =>
      let current := word :: current
      let lines := if endsLine then lines + 1 else lines
      if endsLine && lines ≥ count then (current.reverse :: groups, [], 0)
      else (groups, current, lines))
    (([] : List (List Chars)), ([] : List Chars), 0)
  (if open_.isEmpty then groups else open_.reverse :: groups).reverse

/-- A text with every occurrence of another one replaced. -/
def replaceAll (old new : Chars) : Nat → Chars → Chars
  | 0, s => s
  | _ + 1, [] => []
  | n + 1, c :: more =>
    if !old.isEmpty && old.isPrefixOf (c :: more) then
      new ++ replaceAll old new n ((c :: more).drop old.length)
    else c :: replaceAll old new n more

/-- The options of `xargs`. -/
def xargsOptions : List OptionKind :=
  [.named '0' "null", .namedValue 'n' "max-args", .namedValue 'L' "max-lines",
    .namedValue 'I' "replace", .namedValue 'd' "delimiter", .named 'r' "no-run-if-empty",
    .named 't' "verbose", .namedValue 'P' "max-procs", .namedValue 's' "max-chars",
    .namedValue 'a' "arg-file", { key := 'E', takes := .value }, .named 'x' "exit",
    { key := 'i', takes := .perhaps }, { key := 'l', takes := .perhaps },
    { key := 'e', takes := .perhaps }, .named 'p' "interactive"]

/-- A number that belongs to an option of `xargs`. -/
def xargsNumber (a : Arguments) (key : Char) : Act (Option Nat) := do
  match a.value? key with
  | none => return none
  | some word =>
    match Numeral.integer? word with
    | some i =>
      if i ≥ 1 || key = 'P' then return some i.toNat
      else Act.misused ("value ".toList ++ word ++ " for -".toList ++ [key]
        ++ " option should be >= 1".toList)
    | none =>
      Act.misused ("invalid number \"".toList ++ word ++ "\" for -".toList ++ [key]
        ++ " option".toList)

/-- The character that a word between which others stand is given as. -/
def delimiterOf (word : Chars) : Char :=
  match Escape.expand { zeroLeads := false, hexadecimal := true, stops := false } word with
  | (c :: _, _) => c
  | _ => '\n'

/-- Runs a program on behalf of `xargs`; tells whether it failed. -/
def runFor (host : Host) (tell : Bool) (words : List Chars) : Act Bool := do
  let name := words.headD []
  if tell then Act.complain (Chars.spaced (words.map Chars.shellWord))
  match ← Act.child (do
    let e ← Act.become host words
    Act.grumble (name ++ ": ".toList ++ Act.reason e)
    Act.exit (Act.startFailure e)) with
  | .exited 255 => Act.die (name ++ ": exited with status 255; aborting".toList) 124
  | .exited 127 => Act.exit 127
  | .exited 126 => Act.exit 126
  | .exited status => return status ≠ 0
  | .killed signal =>
    Act.die (name ++ ": terminated by signal ".toList ++ Chars.ofNat signal) 125

/-- Starts a program for the words that are read. -/
def xargs : Program := fun host => do
  let a ← match sortArguments xargsOptions true (← get).args with
    | .ok a => pure a
    | .error e => Act.misused e
  let count? ← xargsNumber a 'n'
  let lines? ← xargsNumber a 'L'
  let lines? := if a.has 'l' then lines?.or ((a.value? 'l').elim (some 1) Chars.decimal?) else lines?
  let place? := if a.has 'i' then some ((a.value? 'i').getD ['\x7b', '\x7d']) else a.value? 'I'
  let rule := match a.lastOf? ['0', 'd'] with
    | some '0' => WordRule.separated '\x00'
    | some _ => .separated (delimiterOf ((a.value? 'd').getD []))
    | none => if place?.isSome then .lines else .quoted
  let text ← match a.value? 'a' with
    | none => pure ((← Act.readAll 0).toOption.getD [])
    | some path => match ← Act.readPath path with
      | .ok text => pure text
      | .error e =>
        Act.die ("Cannot open input file ".toList ++ path.shown ++ ": ".toList ++ Act.reason e)
  let command := if a.operands.isEmpty then ["echo".toList] else a.operands
  match readWords rule text with
  | .error e => Act.die e
  | .ok words =>
    let words := match a.value? 'E' with
      | some ending => words.takeWhile (·.1 ≠ ending)
      | none => words
    let plain := words.map (·.1)
    let commands := match place?, lines?, count? with
      | some place, _, _ => plain.map fun word =>
        command.map fun part => replaceAll place word (part.length + 1) part
      | none, some lines, _ => (groupsOfLines lines words).map (command ++ ·)
      | none, none, some count => (groupsOf count (words.length + 1) plain).map (command ++ ·)
      | none, none, none => if plain.isEmpty then [] else [command ++ plain]
    let commands := if commands.isEmpty && !a.has 'r' && place?.isNone then [command] else commands
    let mut failed := false
    for words in commands do
      if ← runFor host (a.has 't') words then failed := true
    Act.exit (if failed then 123 else 0)

end Utility

end Shakedown
