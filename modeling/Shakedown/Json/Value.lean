/-!
# JSON documents and how they are written

A JSON document as a tree, and its two written forms: one on a single line without spaces, and one
with an entry per line and two spaces per level. Texts are written with the quote, the backslash and
the characters below the space escaped, everything else as itself.
-/

set_option autoImplicit false

namespace Shakedown.Json

/-- A JSON document. -/
inductive Value where
  /-- `null` -/
  | null
  /-- `true` or `false` -/
  | bool (b : Bool)
  /-- An integer. -/
  | int (n : Int)
  /-- A text. -/
  | text (s : String)
  /-- A list. -/
  | list (items : List Value)
  /-- Fields in order. -/
  | object (fields : List (String × Value))

/-- The four hexadecimal digits of a number below 2^16. -/
def hex4 (n : Nat) : List Char :=
  [n / 4096 % 16, n / 256 % 16, n / 16 % 16, n % 16].map Nat.digitChar

/-- A character inside a written text. -/
def escapeChar (c : Char) : List Char :=
  if c = '"' then ['\\', '"']
  else if c = '\\' then ['\\', '\\']
  else if c = '\x08' then ['\\', 'b']
  else if c = '\t' then ['\\', 't']
  else if c = '\n' then ['\\', 'n']
  else if c = '\x0c' then ['\\', 'f']
  else if c = '\r' then ['\\', 'r']
  else if c.toNat < 0x20 then '\\' :: 'u' :: hex4 c.toNat
  else [c]

/-- A written text. -/
def writeText (s : String) : List Char :=
  '"' :: (s.toList.flatMap escapeChar ++ ['"'])

/-- A written integer. -/
def writeInt (n : Int) : List Char :=
  if n < 0 then '-' :: Nat.toDigits 10 n.natAbs else Nat.toDigits 10 n.natAbs

/-- A new line at a level of nesting. -/
def newline (level : Nat) : List Char :=
  '\n' :: List.replicate (2 * level) ' '

namespace Value

mutual

/-- The document on one line. -/
def compact : Value → List Char
  | .null => ['n', 'u', 'l', 'l']
  | .bool true => ['t', 'r', 'u', 'e']
  | .bool false => ['f', 'a', 'l', 's', 'e']
  | .int n => writeInt n
  | .text s => writeText s
  | .list [] => ['[', ']']
  | .list (v :: more) => '[' :: (compact v ++ compactItems more)
  | .object [] => ['{', '}']
  | .object ((key, v) :: more) =>
    '{' :: (writeText key ++ ':' :: (compact v ++ compactFields more))

/-- Further items and the end of a list. -/
def compactItems : List Value → List Char
  | [] => [']']
  | v :: more => ',' :: (compact v ++ compactItems more)

/-- Further fields and the end of an object. -/
def compactFields : List (String × Value) → List Char
  | [] => ['}']
  | (key, v) :: more => ',' :: (writeText key ++ ':' :: (compact v ++ compactFields more))

end

mutual

/-- The document over several lines, its first line already indented. -/
def pretty (level : Nat) : Value → List Char
  | .null => ['n', 'u', 'l', 'l']
  | .bool true => ['t', 'r', 'u', 'e']
  | .bool false => ['f', 'a', 'l', 's', 'e']
  | .int n => writeInt n
  | .text s => writeText s
  | .list [] => ['[', ']']
  | .list (v :: more) =>
    '[' :: (newline (level + 1) ++ (pretty (level + 1) v ++ prettyItems level more))
  | .object [] => ['{', '}']
  | .object ((key, v) :: more) =>
    '{' :: (newline (level + 1) ++ (writeText key ++ ':' :: ' ' ::
      (pretty (level + 1) v ++ prettyFields level more)))

/-- Further items and the end of a list over several lines. -/
def prettyItems (level : Nat) : List Value → List Char
  | [] => newline level ++ [']']
  | v :: more =>
    ',' :: (newline (level + 1) ++ (pretty (level + 1) v ++ prettyItems level more))

/-- Further fields and the end of an object over several lines. -/
def prettyFields (level : Nat) : List (String × Value) → List Char
  | [] => newline level ++ ['}']
  | (key, v) :: more =>
    ',' :: (newline (level + 1) ++ (writeText key ++ ':' :: ' ' ::
      (pretty (level + 1) v ++ prettyFields level more)))

end

/-- The document on one line, as a text. -/
def toCompact (v : Value) : String :=
  String.ofList v.compact

/-- The document over several lines, as a text. -/
def toPretty (v : Value) : String :=
  String.ofList (v.pretty 0)

end Value

end Shakedown.Json
