import Shakedown.Shell.Expansion
import Shakedown.Shell.Option

/-!
# Variables, arguments and options of a shell

The builtin commands that set and list what a shell knows: variables and how they are marked, the
arguments, and the options. What a command sets for itself alone is noted in a frame and goes back
to what it was when the command is over.
-/

set_option autoImplicit false

namespace Shakedown.Shell

/-- The name in an argument and the value behind an equals sign, if there is one. -/
def assignmentParts (word : Chars) : Chars × Option Chars :=
  let name := word.takeWhile (· ≠ '=')
  (name, if name.length = word.length then none else some (word.drop (name.length + 1)))

/-- Demands that a text is a name. -/
def demandName (name : Chars) : Sh Unit := do
  if !isName name then Sh.fail (name ++ ": bad variable name".toList)

/-! ## Frames -/

/-- Notes what a variable is, so that it goes back to that. -/
def hide (name : Chars) : Sh Unit :=
  modify fun s =>
    let note (f : Frame) : Frame := { f with hidden := (name, s.bindings.lookup name) :: f.hidden }
    { s with frames := s.frames.modifyHead note }

/-- Gives back what a frame notes. -/
def Frame.giveBack (f : Frame) (s : Shell) : Shell :=
  let s := f.hidden.foldl (fun s (name, before) => s.restore name before) s
  { s with options := f.options.getD s.options }

/-- Does something whose local changes go back afterwards. -/
def withFrame {α : Type} (a : Sh α) : Sh α := do
  modify fun s => { s with frames := {} :: s.frames }
  Sh.always a <| modify fun s => ((s.frames.headD {}).giveBack { s with frames := s.frames.tail })

/-! ## Marks of variables -/

/-- Marks a variable, which is set first if a value is given. -/
def declare (mark : Variable → Variable) (word : Chars) : Sh Unit := do
  let (name, value) := assignmentParts word
  match value with
  | some v => Sh.assign name v
  | none => demandName name
  modify (·.modifyVariable name mark)

/-- A line that sets a variable to what it is. -/
def variableLine (front name : Chars) (v : Variable) : Chars :=
  front ++ name ++ v.value.elim [] fun value => '=' :: quoted value

/-- Lists variables in the order of their names. -/
def showVariables (front : Chars) (isShown : Variable → Bool) : Sh Unit := do
  let shown := (← get).bindings.filter fun (_, v) => isShown v
  let inOrder := shown.mergeSort fun a b => !Chars.before b.1 a.1
  inOrder.forM fun (name, v) => Sh.writeLine (variableLine front name v)

/-- Marks variables, or lists those that are marked. -/
def markCommand (command : String) (mark : Variable → Variable) (isMarked : Variable → Bool)
    (args : List Chars) : Sh Nat := do
  let (options, names) ← readOptions ['p'] args
  if options.isEmpty && !names.isEmpty then names.forM (declare mark)
  else showVariables (command.toList ++ [' ']) isMarked
  return 0

/-- Lets processes inherit variables. -/
def exportCommand : List Chars → Sh Nat :=
  markCommand "export" ({ · with exported := true }) (·.exported)

/-- Keeps variables from being changed. -/
def readonlyCommand : List Chars → Sh Nat :=
  markCommand "readonly" ({ · with isReadonly := true }) (·.isReadonly)

/-- Makes a variable, or the options, local. -/
def makeLocal (word : Chars) : Sh Unit := do
  if word = ['-'] then
    modify fun s =>
      let note (f : Frame) : Frame := { f with options := f.options.or (some s.options) }
      { s with frames := s.frames.modifyHead note }
  else
    let (name, value) := assignmentParts word
    demandName name
    hide name
    match value with
    | some v => Sh.assign name v
    | none => modify (·.modifyVariable name id)

/-- Makes variables local to a function. -/
def localCommand (args : List Chars) : Sh Nat := do
  if (← get).frames.isEmpty then Sh.fail "not in a function".toList
  args.forM makeLocal
  return 0

/-- Removes variables or functions. -/
def unsetCommand (args : List Chars) : Sh Nat := do
  let (options, names) ← readOptions ['v', 'f'] args
  if (options.getLast?).any (·.1 = 'f') then
    modify fun s => { s with functions := s.functions.filter fun f => !names.contains f.1 }
  else
    names.forM fun word => do
      let (name, _) := assignmentParts word
      demandName name
      Sh.unassign name
  return 0

/-! ## Arguments -/

/-- Drops arguments from the front. -/
def shiftCommand (args : List Chars) : Sh Nat := do
  let count ← match args with
    | [] => pure 1
    | text :: _ => numberArgument text
  let s ← get
  if s.args.length < count then Sh.fail "can't shift that many".toList
  else
    set { s with args := s.args.drop count, optionIndex := 1, optionOffset := none }
    return 0

/-- The shell with other arguments. -/
def withArgs (s : Shell) (args : List Chars) : Shell :=
  { s with args, optionIndex := 1, optionOffset := none }

/-! ## Options -/

/-- The options by their names, with their letters. Two of them have no letter that a script can
use. -/
def optionNames : List (String × Char) :=
  [("errexit", 'e'), ("noglob", 'f'), ("ignoreeof", 'I'), ("interactive", 'i'), ("monitor", 'm'),
    ("noexec", 'n'), ("stdin", 's'), ("xtrace", 'x'), ("verbose", 'v'), ("vi", 'V'),
    ("emacs", 'E'), ("noclobber", 'C'), ("allexport", 'a'), ("notify", 'b'), ("nounset", 'u'),
    ("privileged", 'p'), ("nolog", '\x01'), ("debug", '\x02')]

/-- Sets an option or takes it away. Editing in the manner of one editor excludes the other. -/
def setOption (letter : Char) (value : Bool) : Sh Unit := do
  if letter = 'm' && value then
    Sh.complain "can't access tty; job control turned off".toList
  else
    let rival? : Option Char :=
      if value && letter = 'V' then some 'E' else if value && letter = 'E' then some 'V' else none
    modify fun s =>
      let others := s.options.filter fun o => o ≠ letter && some o ≠ rival?
      { s with options := if value then letter :: others else others }

/-- Sets an option of a letter that a script can use. -/
def setLetter (letter : Char) (value : Bool) : Sh Unit := do
  if optionNames.any fun (_, c) => c = letter && c.isAlpha then setOption letter value
  else Sh.fail ("Illegal option -".toList ++ [letter])

/-- Sets an option of a name. -/
def setNamed (name : Chars) (value : Bool) : Sh Unit := do
  match optionNames.find? fun (n, _) => n.toList = name with
  | some (_, letter) => setOption letter value
  | none => Sh.fail ("Illegal option -o ".toList ++ name)

/-- Lists the options, either for readers or as commands. -/
def showOptions (forReaders : Bool) : Sh Unit := do
  let s ← get
  if forReaders then Sh.writeLine "Current option settings".toList
  optionNames.forM fun (name, letter) =>
    Sh.writeLine <|
      if forReaders then
        Chars.padRight 16 name.toList ++ (if s.has letter then "on" else "off").toList
      else (if s.has letter then "set -o " else "set +o ").toList ++ name.toList

/-- What is found in front of the arguments of a shell. -/
structure LeadingOptions where
  /-- Whether the options were ended by a word of their own. -/
  ended : Bool := false
  /-- Whether a command is given. -/
  givesCommand : Bool := false
  /-- What is behind the options. -/
  rest : List Chars

/-- Sets the options of a word, and answers whether a command is given and which arguments are
left. `atStart` tells that the shell is being started. -/
def setLetters (atStart value : Bool) : Chars → Bool → List Chars → Sh (Bool × List Chars)
  | [], given, args => return (given, args)
  | 'o' :: more, given, args => do
    match args with
    | [] =>
      showOptions value
      setLetters atStart value more given []
    | name :: rest =>
      setNamed name value
      setLetters atStart value more given rest
  | c :: more, given, args => do
    if atStart && c = 'c' then setLetters atStart value more true args
    else if atStart && c = 'l' then setLetters atStart value more given args
    else
      setLetter c value
      setLetters atStart value more given args

/-- Sets the options in front of arguments, of which so many are looked at. -/
def setLeading (atStart : Bool) : Nat → Bool → List Chars → Sh LeadingOptions
  | 0, given, args => return { givesCommand := given, rest := args }
  | _ + 1, given, [] => return { givesCommand := given, rest := [] }
  | n + 1, given, word :: more =>
    match word with
    | ['-'] => do
      if !atStart then
        modify fun s => { s with options := s.options.filter fun o => o ≠ 'x' && o ≠ 'v' }
      return { givesCommand := given, rest := more }
    | ['-', '-'] => return { ended := true, givesCommand := given, rest := more }
    | '-' :: letters => do
      let (given, rest) ← setLetters atStart true letters given more
      setLeading atStart n given rest
    | '+' :: letters => do
      let (given, rest) ← setLetters atStart false letters given more
      setLeading atStart n given rest
    | _ => return { givesCommand := given, rest := word :: more }

/-- Sets options and arguments, or lists the variables. -/
def setCommand (args : List Chars) : Sh Nat := do
  if args.isEmpty then showVariables [] (·.value.isSome)
  else
    let found ← setLeading false (args.length + 1) false args
    if found.ended || !found.rest.isEmpty then modify (withArgs · found.rest)
  return 0

end Shakedown.Shell
