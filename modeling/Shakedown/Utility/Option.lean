import Shakedown.Process.Basic
import Shakedown.Text.Octet

/-!
# Options of utilities

Options stand anywhere among the arguments of a utility: letters behind one hyphen, or names behind
two, which may be shortened as long as they are unambiguous. `sortArguments` sorts the arguments
into options and operands; `Act.arguments` does so for a process, which ends with a complaint if
something is wrong. File names and other words stand in complaints between apostrophes, or in the
form in which a shell would read them; characters that cannot be shown are given by their numbers.
-/

set_option autoImplicit false

/-! ## Words in messages -/

namespace Shakedown.Chars

/-- Whether a character can be shown. -/
def isShowable (c : Char) : Bool :=
  ' ' ≤ c && c ≤ '~'

/-- The letters behind a backslash for characters that cannot be shown. -/
def controlLetters : List (Char × Char) :=
  [('\x07', 'a'), ('\x08', 'b'), ('\t', 't'), ('\n', 'n'), ('\x0b', 'v'), ('\x0c', 'f'),
    ('\r', 'r')]

/-- A character that cannot be shown, behind a backslash. -/
def controlText (c : Char) : Chars :=
  match controlLetters.lookup c with
  | some letter => ['\\', letter]
  | none =>
    let digits := Nat.toDigits 8 c.toNat
    '\\' :: (List.replicate (3 - digits.length) '0' ++ digits)

/-- A word in apostrophes, in which apostrophes and backslashes are escaped. -/
def shown (s : Chars) : Chars :=
  let inner := s.flatMap fun c =>
    if c = '\'' || c = '\\' then ['\\', c] else if isShowable c then [c] else controlText c
  '\'' :: inner ++ ['\'']

/-- The characters that a shell does not take for themselves. -/
def shellSigns : Chars :=
  [' ', '!', '"', '$', '&', '(', ')', '*', ';', '<', '=', '>', '?', '[', '\\', '^', '\x60', '|',
    '\'']

/-- Whether a shell takes a word for itself as it stands. -/
def isShellWord (s : Chars) : Bool :=
  match s with
  | [] => false
  | [c] => c ≠ '\x7b' && c ≠ '\x7d' && c ≠ '~' && c ≠ '#' && isShowable c && !shellSigns.contains c
  | c :: _ => c ≠ '~' && c ≠ '#' && s.all fun d => isShowable d && !shellSigns.contains d

/-- The inside of a word in apostrophes for a shell. `escaped` tells that the characters before were
ones that cannot be shown. -/
def shellInside (escaped : Bool) : Chars → Chars
  | [] => []
  | c :: more =>
    if isShowable c then
      let front : Chars := if escaped then ['\'', '\''] else []
      let text : Chars := if c = '\'' then ['\'', '\\', '\'', '\''] else [c]
      front ++ text ++ shellInside false more
    else
      let front : Chars := if escaped then [] else ['\'', '$', '\'']
      front ++ controlText c ++ shellInside true more

/-- A word in quotes for a shell. -/
def shellQuoted (s : Chars) : Chars :=
  let unsafeInDouble : Chars := ['"', '$', '\\', '!', '\x60']
  if s.contains '\'' && s.all fun c => isShowable c && !unsafeInDouble.contains c then
    '"' :: s ++ ['"']
  else '\'' :: shellInside false s ++ ['\'']

/-- A word for a shell, in quotes where that is needed. -/
def shellWord (s : Chars) : Chars :=
  if isShellWord s then s else shellQuoted s

/-- A file name at the beginning of a message, where a colon has to be in quotes, too. -/
def fileLabel (s : Chars) : Chars :=
  if s.contains ':' then shellQuoted s else shellWord s

end Shakedown.Chars

/-! ## Kinds of options -/

namespace Shakedown

/-- Whether an option takes a value. -/
inductive Takes where
  /-- It does not. -/
  | nothing
  /-- It does. -/
  | value
  /-- It may, in the same word. -/
  | perhaps
  deriving DecidableEq, Repr

/-- An option that a utility knows. -/
structure OptionKind where
  /-- The letter, or what stands for the option if it has none. -/
  key : Char
  /-- The names. -/
  names : List String := []
  /-- Whether it takes a value. -/
  takes : Takes := .nothing
  /-- Whether the key is a letter that can be written. -/
  hasLetter : Bool := true

namespace OptionKind

/-- Options without values that have only letters. -/
def letters (keys : String) : List OptionKind :=
  keys.toList.map fun key => { key }

/-- Options with values that have only letters. -/
def valued (keys : String) : List OptionKind :=
  keys.toList.map fun key => { key, takes := .value }

/-- An option without a value that has a name, too. -/
def named (key : Char) (name : String) : OptionKind :=
  { key, names := [name] }

/-- An option with a value that has a name, too. -/
def namedValue (key : Char) (name : String) : OptionKind :=
  { key, names := [name], takes := .value }

/-- An option that has only a name. -/
def long (key : Char) (name : String) (takes : Takes := .nothing) : OptionKind :=
  { key, names := [name], takes, hasLetter := false }

end OptionKind

/-- The arguments of a utility. -/
structure Arguments where
  /-- The options with their values, in order. -/
  options : List (Char × Option Chars) := []
  /-- The other arguments. -/
  operands : List Chars := []

namespace Arguments

/-- Whether an option is given. -/
def has (a : Arguments) (key : Char) : Bool :=
  a.options.any (·.1 = key)

/-- The value of an option that is given last. -/
def value? (a : Arguments) (key : Char) : Option Chars :=
  (a.options.reverse.lookup key).join

/-- The values of an option, in order. -/
def values (a : Arguments) (key : Char) : List Chars :=
  a.options.filterMap fun (k, v) => if k = key then v else none

/-- Which of several options is given last. -/
def lastOf? (a : Arguments) (keys : List Char) : Option Char :=
  (a.options.reverse.find? fun (k, _) => keys.contains k).map (·.1)

end Arguments

/-! ## Reading -/

/-- Options that were found, and one that still waits for its value. -/
abbrev FoundOptions := List (Char × Option Chars) × Option OptionKind

/-- Reads the letters of a word. -/
def readCluster (flags : List OptionKind) : Chars → Except Chars FoundOptions
  | [] => .ok ([], none)
  | c :: more =>
    match flags.find? fun f => f.key = c && f.hasLetter with
    | none => .error ("invalid option -- ".toList ++ Chars.quoted [c])
    | some f =>
      match f.takes with
      | .nothing => do
        let (found, waiting) ← readCluster flags more
        return ((c, none) :: found, waiting)
      | .perhaps => .ok ([(c, if more.isEmpty then none else some more)], none)
      | .value => if more.isEmpty then .ok ([], some f) else .ok ([(c, some more)], none)

/-- The option that a name stands for. -/
def findName (flags : List OptionKind) (name : Chars) : Except Chars (OptionKind × String) :=
  let all := flags.flatMap fun f => f.names.map fun n => (f, n)
  let candidates := all.filter fun (_, n) => name.isPrefixOf n.toList
  match all.find? fun (_, n) => n.toList = name with
  | some found => .ok found
  | none =>
    match candidates with
    | [] => .error ("unrecognized option '--".toList ++ name ++ ['\''])
    | (f, n) :: more =>
      if more.all fun (g, _) => g.key = f.key then .ok (f, n)
      else .error <| "option '--".toList ++ name ++ "' is ambiguous; possibilities:".toList
        ++ candidates.flatMap fun (_, n) => " '--".toList ++ n.toList ++ ['\'']

/-- Reads a word that gives an option by its name. -/
def readName (flags : List OptionKind) (word : Chars) : Except Chars FoundOptions :=
  let name := word.takeWhile (· ≠ '=')
  let value? := if name.length = word.length then none else some (word.drop (name.length + 1))
  match findName flags name with
  | .error e => .error e
  | .ok (f, full) =>
    match f.takes, value? with
    | .nothing, some _ =>
      .error ("option '--".toList ++ full.toList ++ "' doesn't allow an argument".toList)
    | .value, none => .ok ([], some { f with names := [full] })
    | _, v => .ok ([(f.key, v)], none)

/-- Complains about an option that waits for its value at the end of the arguments. -/
def valueMissing (f : OptionKind) (byName : Bool) : Chars :=
  if byName then
    "option '--".toList ++ (f.names.headD "").toList ++ "' requires an argument".toList
  else "option requires an argument -- ".toList ++ Chars.quoted [f.key]

/-- Sorts arguments into options and operands. Where `inOrder`, the first operand ends the
options. -/
def sortArguments (flags : List OptionKind) (inOrder : Bool) : List Chars → Except Chars Arguments
  | [] => .ok {}
  | word :: more =>
    let isName := ['-', '-'].isPrefixOf word
    let found : Except Chars FoundOptions :=
      if isName then readName flags (word.drop 2) else readCluster flags word.tail
    if word = ['-', '-'] then .ok { operands := more }
    else if word.head? = some '-' && word.length > 1 then
      match found with
      | .error e => .error e
      | .ok (options, none) =>
        (sortArguments flags inOrder more).map fun a => { a with options := options ++ a.options }
      | .ok (options, some f) =>
        match more with
        | [] => .error (valueMissing f isName)
        | value :: rest =>
          (sortArguments flags inOrder rest).map fun a =>
            { a with options := options ++ (f.key, some value) :: a.options }
    else if inOrder then .ok { operands := word :: more }
    else (sortArguments flags inOrder more).map fun a => { a with operands := word :: a.operands }

namespace Act

/-- Complains in the name of the program. -/
def grumble (message : Chars) : Act Unit := do
  complain ((← get).name ++ ": ".toList ++ message)

/-- Complains in the name of the program and ends it. -/
def die {α : Type} (message : Chars) (status : UInt8 := 1) : Act α := do
  grumble message
  exit status

/-- Says where to find help, and ends the program. -/
def referToHelp {α : Type} (status : UInt8 := 1) : Act α := do
  complain ("Try '".toList ++ (← get).name ++ " --help' for more information.".toList)
  exit status

/-- Complains about how the program is used, and ends it. -/
def misused {α : Type} (message : Chars) (status : UInt8 := 1) : Act α := do
  grumble message
  referToHelp status

/-- The arguments of the process. -/
def arguments (flags : List OptionKind) (inOrder : Bool := false) (status : UInt8 := 1) :
    Act Arguments := do
  match sortArguments flags inOrder (← get).args with
  | .ok a => return a
  | .error e => misused e status

/-- Complains about a file. -/
def grumbleAbout (path : Chars) (e : Fault) : Act Unit :=
  grumble (path.fileLabel ++ ": ".toList ++ reason e)

/-- Complains about an operand too many. -/
def extraOperand {α : Type} (operand : Chars) (status : UInt8 := 1) : Act α :=
  misused ("extra operand ".toList ++ operand.shown) status

/-- Complains about a missing operand. -/
def missingOperand {α : Type} (status : UInt8 := 1) : Act α :=
  misused "missing operand".toList status

end Act

/-- A utility: what it does, and the status that it leaves. -/
abbrev Utility := Act UInt8

/-- A utility as a program, which fails if it could not write. -/
def Utility.program (u : Utility) (failure : UInt8 := 1) : Program := fun _ => do
  let status ← u
  match (← get).fault with
  | none => Act.exit status
  | some e => Act.die ("write error: ".toList ++ Act.reason e) failure

/-- The status of a utility that may have failed. -/
def statusOf (failed : Bool) : UInt8 :=
  if failed then 1 else 0

end Shakedown
