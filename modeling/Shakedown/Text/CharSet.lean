import Shakedown.Text.Octet

/-!
# Sets of characters

Sets that are given by ranges and by names of classes, as they stand between brackets in patterns.
-/

set_option autoImplicit false

namespace Shakedown

/-- A set of characters. -/
structure CharSet where
  /-- Whether it has the characters that are not listed. -/
  negated : Bool
  /-- The first and the last character of each range. -/
  ranges : List (Char × Char) := []
  /-- The names of classes of characters. -/
  classes : List String := []

/-- The classes of characters. -/
def characterClasses : List (String × (Char → Bool)) :=
  let isPrintable (c : Char) : Bool := ' ' ≤ c && c ≤ '~'
  [("alnum", Char.isAlphanum), ("alpha", Char.isAlpha), ("blank", fun c => c = ' ' || c = '\t'),
    ("cntrl", fun c => c < ' ' || c = '\x7f'), ("digit", Char.isDigit),
    ("graph", fun c => isPrintable c && c ≠ ' '), ("lower", Char.isLower),
    ("print", isPrintable),
    ("punct", fun c => isPrintable c && c ≠ ' ' && !c.isAlphanum), ("space", Chars.isSpace),
    ("upper", Char.isUpper),
    ("xdigit", fun c => c.isDigit || ('a' ≤ c && c ≤ 'f') || ('A' ≤ c && c ≤ 'F'))]

/-- Whether a character is in a class. -/
def isInClass (name : String) (c : Char) : Bool :=
  (characterClasses.lookup name).any (· c)

/-- Whether a character is in a set. -/
def CharSet.has (s : CharSet) (c : Char) : Bool :=
  (s.ranges.any (fun (a, b) => a ≤ c && c ≤ b) || s.classes.any (isInClass · c)) != s.negated

/-- The set of one character. -/
def CharSet.single (c : Char) : CharSet :=
  { negated := false, ranges := [(c, c)] }

/-- The set of all characters. -/
def CharSet.all : CharSet :=
  { negated := true }

/-- The set that has a character if a given one has it in either case. -/
def CharSet.hasFolded (s : CharSet) (c : Char) : Bool :=
  let listed : CharSet := { s with negated := false }
  (listed.has c.toLower || listed.has c.toUpper) != s.negated

end Shakedown
