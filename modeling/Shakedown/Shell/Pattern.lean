import Shakedown.Process.Property
import Shakedown.Text.CharSet

/-!
# Patterns

The patterns of file names, cases and trimming rules. A pattern is a list of letters, some of which
stand for themselves because they were quoted. `Pattern.ofLetters` reads it, `Pattern.holds`
compares a text with it, and `pathsOf` finds the paths that are as it says.
-/

set_option autoImplicit false

namespace Shakedown.Shell

/-- A character of a pattern, and whether it stands for itself. -/
abbrev Letter := Char × Bool

/-- A part of a pattern. -/
inductive PatternPart where
  /-- A character. -/
  | char (c : Char)
  /-- Any character. -/
  | anyChar
  /-- Any text. -/
  | anyText
  /-- A character of a set. -/
  | oneOf (s : CharSet)

/-- A pattern. -/
abbrev Pattern := List PatternPart

namespace Pattern

/-- Letters that mean what is not quoted in a set of characters. -/
def isPlain (l : Letter) (c : Char) : Bool :=
  l.1 = c && !l.2

/-- The name of a class at the beginning of letters behind `[`, and the letters behind it. -/
def className? (letters : List Letter) : Option (String × List Letter) :=
  match letters with
  | (':', false) :: more =>
    let name := more.takeWhile fun l => l.1.isAlpha
    match more.drop name.length with
    | (':', _) :: (']', _) :: rest => some (String.ofList (name.map (·.1)), rest)
    | _ => none
  | _ => none

/-- Reads the rest of a set. `first` tells that no member was read, so that a closing bracket is
one. -/
def readSet (s : CharSet) : Nat → Bool → List Letter → Option (CharSet × List Letter)
  | 0, _, _ => none
  | _ + 1, _, [] => none
  | n + 1, first, l :: more =>
    if isPlain l ']' && !first then some (s, more)
    else match if isPlain l '[' then className? more else none with
      | some (name, rest) => readSet { s with classes := name :: s.classes } n false rest
      | none =>
        match more with
        | d :: e :: rest =>
          if isPlain d '-' && !isPlain e ']' then
            readSet { s with ranges := (l.1, e.1) :: s.ranges } n false rest
          else readSet { s with ranges := (l.1, l.1) :: s.ranges } n false more
        | _ => readSet { s with ranges := (l.1, l.1) :: s.ranges } n false more

/-- The set at the beginning of letters behind `[`, and the letters behind it. -/
def set? (letters : List Letter) : Option (CharSet × List Letter) :=
  match letters with
  | l :: more =>
    if isPlain l '!' then readSet { negated := true } (more.length + 1) true more
    else readSet { negated := false } (letters.length + 1) true letters
  | [] => none

/-- The pattern of letters, of which so many are read at most. -/
def read : Nat → List Letter → Pattern
  | 0, _ => []
  | _ + 1, [] => []
  | n + 1, l :: more =>
    if isPlain l '*' then .anyText :: read n more
    else if isPlain l '?' then .anyChar :: read n more
    else if isPlain l '[' then
      match set? more with
      | some (s, rest) => .oneOf s :: read n rest
      | none => .char '[' :: read n more
    else .char l.1 :: read n more

/-- The pattern of letters. -/
def ofLetters (letters : List Letter) : Pattern :=
  read letters.length letters

/-- Whether a text as a whole is as a pattern says. -/
def holds : Pattern → Chars → Bool
  | [], s => s.isEmpty
  | .anyText :: more, [] => holds more []
  | .anyText :: more, c :: s => holds more (c :: s) || holds (.anyText :: more) s
  | _ :: _, [] => false
  | .char d :: more, c :: s => c = d && holds more s
  | .anyChar :: more, _ :: s => holds more s
  | .oneOf set :: more, c :: s => set.has c && holds more s
termination_by p s => p.length + s.length

/-- Whether letters have a part that does not stand for itself. -/
def isActive (letters : List Letter) : Bool :=
  letters.any fun l => isPlain l '*' || isPlain l '?' || isPlain l '['

/-- Where a text can be cut so that the part in front, or behind, is as a pattern says. -/
def cuts (p : Pattern) (atEnd : Bool) (s : Chars) : List Nat :=
  (List.range (s.length + 1)).filter fun n => p.holds (if atEnd then s.drop n else s.take n)

/-- A text without a beginning, or an end, that is as a pattern says: the longest or the shortest
one. -/
def trim (p : Pattern) (atEnd longest : Bool) (s : Chars) : Chars :=
  let places := p.cuts atEnd s
  match if longest != atEnd then places.getLast? else places.head? with
  | none => s
  | some n => if atEnd then s.take n else s.drop n

end Pattern

/-! ## Names of files

Each segment of a path is compared with the names in a directory. A slash is never part of what a
sign in a pattern stands for, and names that begin with a dot are only found where the pattern
begins with one, too. -/

/-- The names in a directory, as patterns see them. -/
def namesIn (p : Process) (directory : Chars) : List Chars :=
  match p.node? (if directory.isEmpty then ['.'] else directory) true with
  | some (l, .directory ..) =>
    ['.'] :: ['.', '.'] :: (p.world.tree.entries l).map Chars.ofBytes
  | _ => []

/-- The names in a directory that are as a pattern says. Hidden names need a dot in the pattern. -/
def matchingNames (p : Process) (directory : Chars) (letters : List Letter) : List Chars :=
  let pattern := Pattern.ofLetters letters
  let showsHidden := letters.head?.any fun l => l.1 = '.'
  (namesIn p directory).filter fun name =>
    (showsHidden || name.head? ≠ some '.') && pattern.holds name

/-- Whether a path names something. -/
def isThere (p : Process) (path : Chars) : Bool :=
  (p.node? path false).isSome

/-- Letters cut at slashes. -/
def letterSegments (letters : List Letter) : List (List Letter) :=
  match letters with
  | [] => [[]]
  | l :: more =>
    match letterSegments more with
    | [] => [[l]]
    | segment :: rest => if l.1 = '/' then [] :: segment :: rest else (l :: segment) :: rest

/-- The paths behind a directory that are as segments say. -/
def matchingPaths (p : Process) (directory : Chars) : List (List Letter) → List Chars
  | [] => []
  | [letters] =>
    if Pattern.isActive letters then
      (matchingNames p directory letters).map (directory ++ ·)
    else
      let path := directory ++ letters.map (·.1)
      if isThere p path then [path] else []
  | letters :: more =>
    if Pattern.isActive letters then
      (matchingNames p directory letters).flatMap fun name =>
        matchingPaths p (directory ++ name ++ ['/']) more
    else matchingPaths p (directory ++ letters.map (·.1) ++ ['/']) more

/-- Texts in their order, byte by byte. -/
def sorted (l : List Chars) : List Chars :=
  l.mergeSort fun a b => !Chars.before b a

/-- The paths that a pattern stands for, in their order. -/
def pathsOf (p : Process) (letters : List Letter) : List Chars :=
  sorted (matchingPaths p [] (letterSegments letters))

end Shakedown.Shell
