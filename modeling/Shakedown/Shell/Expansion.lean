import Shakedown.Shell.Arithmetic
import Shakedown.Shell.Field
import Shakedown.Shell.Word

/-!
# Expanding words

What the words of a command stand for. The pieces of a word are expanded one by one into marks. The
output of a command inside a word is asked for from `capture`, so that this module does not depend
on how commands run.
-/

set_option autoImplicit false

namespace Shakedown.Shell

/-- How a word is expanded. -/
structure Mode where
  /-- Whether the word becomes arguments. -/
  full : Bool := false
  /-- Whether a tilde at the beginning stands for a home directory. -/
  tilde : Bool := false
  /-- Whether a tilde behind a colon does, too. -/
  tildeBehindColon : Bool := false
  /-- Whether unquoted text is split like a value, because it stands in for one. -/
  standsIn : Bool := false

namespace Mode

/-- A word that becomes arguments. -/
def arguments : Mode := { full := true, tilde := true }

/-- A word that becomes one text. -/
def single : Mode := { tilde := true }

/-- The value of an assignment. -/
def assigned : Mode := { tilde := true, tildeBehindColon := true }

end Mode

/-- What expands the pieces of a word. -/
abbrev Expander := Mode → List Piece → Sh (List Mark)

/-! ## Home directories -/

/-- The home directory of a user, as the system's list of users has it. -/
def homeOf (t : FileTree) (user : Chars) : Option Chars :=
  match t.read [] (.ofString "/etc/passwd") with
  | .error _ => none
  | .ok bytes =>
    ((Chars.lines (Chars.ofBytes bytes)).map (Chars.splitAt ':')).findSome? fun entry =>
      if entry.head? = some user then entry[5]? else none

/-- The directory that a tilde with a name behind it stands for. -/
def homeDirectory (s : Shell) (user : Chars) : Option Chars :=
  if user.isEmpty then (s.get? "HOME".toList).filter (!·.isEmpty)
  else homeOf s.process.world.tree user

/-- The name behind a tilde, and the pieces behind the name; nothing if it is quoted or a value. -/
def userName? (colonEnds : Bool) : List Piece → Option (Chars × List Piece)
  | [] => some ([], [])
  | .plain c :: more =>
    if c = '/' || (colonEnds && c = ':') then some ([], .plain c :: more)
    else (userName? colonEnds more).map fun (name, rest) => (c :: name, rest)
  | _ => none

/-- Pieces with a tilde at their beginning replaced. -/
def withoutTilde (s : Shell) (mode : Mode) : List Piece → List Piece
  | .plain '~' :: more =>
    match userName? mode.tildeBehindColon more with
    | none => .plain '~' :: more
    | some (user, rest) =>
      match homeDirectory s user with
      | none => .plain '~' :: more
      | some home => quotedWord home ++ rest
  | pieces => pieces

/-- Pieces with the tildes behind colons replaced. -/
def withoutTildes (s : Shell) (mode : Mode) : Nat → List Piece → List Piece
  | 0, pieces => pieces
  | _ + 1, [] => []
  | n + 1, .plain ':' :: more =>
    .plain ':' :: withoutTildes s mode n (withoutTilde s mode more)
  | n + 1, piece :: more => piece :: withoutTildes s mode n more

/-- Pieces with all tildes replaced. -/
def expandTildes (s : Shell) (mode : Mode) (pieces : List Piece) : List Piece :=
  let pieces := if mode.tilde then withoutTilde s mode pieces else pieces
  if mode.tildeBehindColon then withoutTildes s mode (pieces.length + 1) pieces else pieces

/-! ## Values -/

/-- Pieces without the quotes around all arguments, which make no argument of their own. `inside`
tells whether the pieces start in quotes. -/
def withoutArgumentMarks (inside : Bool) : List Piece → List Piece
  | .mark :: .parameter ['@'] .value nonEmpty word inQuotes :: .mark :: more =>
    if inside then
      .mark :: .parameter ['@'] .value nonEmpty word inQuotes :: .mark ::
        withoutArgumentMarks inside more
    else .parameter ['@'] .value nonEmpty word inQuotes :: withoutArgumentMarks inside more
  | .mark :: more => .mark :: withoutArgumentMarks (!inside) more
  | piece :: more => piece :: withoutArgumentMarks inside more
  | [] => []

/-- The characters of a value. -/
def valueMarks (inQuotes : Bool) (value : Chars) : List Mark :=
  if inQuotes then value.map .solid else .seam :: value.map .soft

/-- The separators of fields. -/
def separators (s : Shell) : Chars :=
  (s.get? "IFS".toList).getD usualSeparators

/-- What stands between arguments that become one text. -/
def argumentSeparator (s : Shell) : Chars :=
  ((s.get? "IFS".toList).getD usualSeparators).take 1

/-- Whether a name stands for all arguments. -/
def isArgumentList (name : Chars) : Bool :=
  name = ['@'] || name = ['*']

/-- The arguments as marks. -/
def argumentMarks (s : Shell) (mode : Mode) (name : Chars) (inQuotes : Bool) : List Mark :=
  if mode.full && !inQuotes then
    .seam :: [Mark.gap].intercalate (s.args.map fun a => a.map .soft)
  else if mode.full && name = ['@'] then
    if s.args.isEmpty then []
    else .presence :: [Mark.cut].intercalate (s.args.map fun a => a.map .solid)
  else valueMarks inQuotes (Chars.joined (argumentSeparator s) s.args)

/-- The letters of the options in the order in which they are shown. -/
def optionOrder : List Char :=
  ['p', 'u', 'b', 'a', 'C', 'E', 'V', 'v', 'x', 's', 'n', 'm', 'i', 'I', 'f', 'e']

/-- The value of a parameter that is not all arguments. -/
def parameterValue (s : Shell) (name : Chars) : Option Chars :=
  match name with
  | ['?'] => some (Chars.ofNat s.status)
  | ['#'] => some (Chars.ofNat s.args.length)
  | ['$'] => some (Chars.ofNat s.rootNumber)
  | ['!'] => if s.lastJob = 0 then none else some (Chars.ofNat s.lastJob)
  | ['-'] => some (optionOrder.filter s.has)
  | _ =>
    match Chars.decimal? name with
    | none => s.get? name
    | some 0 => some s.name
    | some (n + 1) => s.args[n]?

/-- The value of a parameter as one text, if it is there. -/
def valueOf (s : Shell) (name : Chars) : Option Chars :=
  if isArgumentList name then some (Chars.joined (argumentSeparator s) s.args)
  else parameterValue s name

/-- The value of a parameter as marks. -/
def parameterMarks (s : Shell) (mode : Mode) (name : Chars) (inQuotes : Bool) : List Mark :=
  if isArgumentList name then argumentMarks s mode name inQuotes
  else valueMarks inQuotes ((parameterValue s name).getD [])

/-- The letter of the option under which a missing parameter is a mistake. -/
def unsetOption : Char := 'u'

/-- Complains about a missing parameter. -/
def failUnset {α : Type} (name : Chars) (message : Chars) : Sh α :=
  Sh.fail (name ++ ": ".toList ++ message)

/-- Complains about a missing parameter if that is a mistake. -/
def demandSet (name : Chars) : Sh Unit := do
  let s ← get
  if s.has unsetOption && (valueOf s name).isNone then failUnset name "parameter not set".toList

/-- What a parameter in braces stands for. -/
def expandParameter (nested : Expander) (mode : Mode) (name : Chars) (rule : Rule)
    (nonEmpty : Bool) (word : List Piece) (inQuotes : Bool) : Sh (List Mark) := do
  let s ← get
  let value := valueOf s name
  let missing := value.isNone || (nonEmpty && value = some [])
  let inner : Mode := { mode with tilde := true, tildeBehindColon := false, standsIn := !inQuotes }
  match rule with
  | .value =>
    demandSet name
    return parameterMarks s mode name inQuotes
  | .length =>
    demandSet name
    return valueMarks inQuotes (Chars.ofNat (value.getD []).length)
  | .byDefault =>
    if missing then nested inner word else return parameterMarks s mode name inQuotes
  | .ifPresent => if missing then return [] else nested inner word
  | .assigning =>
    if missing then
      let text := Mark.text (← nested Mode.single word)
      Sh.assign name text
      return valueMarks inQuotes text
    else return parameterMarks s mode name inQuotes
  | .demanding =>
    if missing then
      let message := Mark.text (← nested Mode.single word)
      failUnset name <|
        if !word.isEmpty then message
        else if nonEmpty then "parameter not set or null".toList
        else "parameter not set".toList
    else return parameterMarks s mode name inQuotes
  | .trimmed atEnd longest =>
    demandSet name
    let pattern : Pattern := Mark.pattern (← nested Mode.single word)
    return valueMarks inQuotes (pattern.trim atEnd longest (value.getD []))
  | .malformed => Sh.fail "Bad substitution".toList

/-- Text without the newlines at its end. -/
def withoutFinalNewlines (s : Chars) : Chars :=
  (s.reverse.dropWhile (· = '\n')).reverse

/-- What a piece stands for. -/
def expandPiece (capture : Command → Sh Chars) (nested : Expander) (mode : Mode) :
    Piece → Sh (List Mark)
  | .plain c => return [if mode.standsIn then .soft c else .plain c]
  | .quoted c => return [.solid c]
  | .mark => return [.presence]
  | .parameter name rule nonEmpty word inQuotes =>
    expandParameter nested mode name rule nonEmpty word inQuotes
  | .output command inQuotes => do
    let text := (← capture command).filter (· ≠ '\x00')
    return valueMarks inQuotes (withoutFinalNewlines text)
  | .arithmetic expression inQuotes => do
    let text := Mark.text (← nested {} expression)
    return valueMarks inQuotes (Chars.ofInt (← arithmeticValue text).toInt)

/-- What pieces stand for, up to a depth. -/
def expandWithin (capture : Command → Sh Chars) : Nat → Expander
  | 0, _, _ => Sh.fail "Bad substitution".toList
  | n + 1, mode, pieces => do
    let pieces := withoutArgumentMarks false (expandTildes (← get) mode pieces)
    return (← pieces.mapM (expandPiece capture (expandWithin capture n) mode)).flatten

/-- How deep words may lie in one another. -/
def wordDepth : Nat := 200

/-- What a word stands for. -/
def expand (capture : Command → Sh Chars) : Expander :=
  expandWithin capture wordDepth

/-- The text that a word stands for. -/
def expandText (capture : Command → Sh Chars) (mode : Mode) (word : List Piece) : Sh Chars := do
  return Mark.text (← expand capture mode word)

/-- The pattern that a word stands for. -/
def expandPattern (capture : Command → Sh Chars) (word : List Piece) : Sh Pattern := do
  return Mark.pattern (← expand capture Mode.single word)

/-! ## File names -/

/-- The letter of the option under which patterns are no file names. -/
def noPatternsOption : Char := 'f'

/-- The arguments that a field stands for: the paths that it is a pattern of, or else itself. -/
def fileNames (s : Shell) (letters : List Letter) : List Chars :=
  let itself := [letters.map (·.1)]
  if s.has noPatternsOption || !Pattern.isActive letters then itself
  else
    let paths := pathsOf s.process letters
    if paths.isEmpty then itself else paths

/-- The arguments that a word stands for. -/
def expandArguments (capture : Command → Sh Chars) (word : List Piece) : Sh (List Chars) := do
  let marks ← expand capture Mode.arguments word
  let s ← get
  return (Mark.fields (separators s) marks).flatMap (fileNames s)

end Shakedown.Shell
