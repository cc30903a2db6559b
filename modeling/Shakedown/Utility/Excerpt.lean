import Shakedown.Number.Binary64
import Shakedown.Text.Numeral
import Shakedown.Utility.Input

/-!
# Utilities for the beginning and the end of files

`head` and `tail`, which count lines or bytes.
-/

set_option autoImplicit false

namespace Shakedown.Utility

/-- The letters behind a size and how often each multiplies it by a thousand and twenty-four. -/
def sizeLetters : List (Char × Nat) :=
  [('k', 1), ('K', 1), ('m', 2), ('M', 2), ('G', 3), ('T', 4), ('P', 5), ('E', 6)]

/-- What the letters behind a size multiply it by. -/
def sizeFactor? (letters : Chars) : Option Nat :=
  match letters with
  | [] => some 1
  | ['b'] => some 512
  | c :: more =>
    match sizeLetters.lookup c, more with
    | some n, [] => some (twoTo (10 * n))
    | some n, ['i', 'B'] => some (twoTo (10 * n))
    | some n, ['B'] => some (tenTo (3 * n))
    | _, _ => none

/-- A size with letters behind it. -/
def size? (word : Chars) : Option Nat :=
  let digits := word.takeWhile Char.isDigit
  if digits.isEmpty then none
  else (sizeFactor? (word.drop digits.length)).map (Numeral.numberOf 10 digits * ·)

/-- A part of a text. -/
structure Excerpt where
  /-- Whether bytes are counted, and not lines. -/
  bytes : Bool
  /-- How many. -/
  count : Nat
  /-- Whether they are counted from the other end: the part is all but those. -/
  fromOther : Bool

/-- The part of a text at its beginning. -/
def Excerpt.front (e : Excerpt) (ending : Char) (text : Chars) : Chars :=
  if e.bytes then text.take (if e.fromOther then text.length - e.count else e.count)
  else
    let lines := text.pieces ending
    (lines.take (if e.fromOther then lines.length - e.count else e.count)).flatten

/-- The part of a text at its end. -/
def Excerpt.back (e : Excerpt) (ending : Char) (text : Chars) : Chars :=
  if e.bytes then text.drop (if e.fromOther then e.count - 1 else text.length - e.count)
  else
    let lines := text.pieces ending
    (lines.drop (if e.fromOther then e.count - 1 else lines.length - e.count)).flatten

/-- The options of both utilities. -/
def excerptOptions : List OptionKind :=
  [.namedValue 'c' "bytes", .namedValue 'n' "lines",
    { key := 'q', names := ["quiet", "silent"] }, .named 'v' "verbose",
    .named 'z' "zero-terminated", .named 'f' "follow"]

/-- Complains about a word that is no count. -/
def invalidCount {α : Type} (bytes : Bool) (word : Chars) : Act α :=
  Act.die ("invalid number of ".toList ++ (if bytes then "bytes" else "lines").toList
    ++ ": ".toList ++ word.shown)

/-- The excerpt that options ask for; a sign in front of a count tells that it is counted from the
other end, the other sign means nothing. -/
def excerptOf (a : Arguments) (otherSign plainSign : Char) : Act Excerpt := do
  match a.lastOf? ['c', 'n'] with
  | none => return { bytes := false, count := 10, fromOther := false }
  | some key =>
    let bytes := key = 'c'
    let word := (a.value? key).getD []
    let fromOther := word.head? = some otherSign
    let digits := if fromOther || word.head? = some plainSign then word.tail else word
    match size? digits with
    | some count => return { bytes, count, fromOther }
    | none => invalidCount bytes digits

/-- What an operand is called. -/
def sourceName (operand : Chars) : Chars :=
  if operand = ['-'] then "standard input".toList else operand

/-- The heading of a file. -/
def heading (first : Bool) (operand : Chars) : Chars :=
  (if first then [] else Chars.newline) ++ "==> ".toList ++ sourceName operand ++ " <==\n".toList

/-- Complains about a file of which an excerpt should have been written. -/
def excerptComplaint (operand : Chars) (e : ReadFault) : Chars :=
  let name := (sourceName operand).shown
  if e.opening then
    "cannot open ".toList ++ name ++ " for reading: ".toList ++ Act.reason e.fault
  else "error reading ".toList ++ name ++ ": ".toList ++ Act.reason e.fault

/-- Writes excerpts of files, with headings where several are asked for. -/
def excerpts (a : Arguments) (part : Chars → Chars)
    (readInput : Act (Except Fault Chars)) : Utility := do
  let sources := a.sources
  let headed := match a.lastOf? ['q', 'v'] with
    | some key => key = 'v'
    | none => sources.length > 1
  let mut failed := false
  let mut first := true
  for operand in sources do
    let text ← if operand = ['-'] then
        pure ((← readInput).mapError ({ opening := false, fault := · }))
      else Act.readSource operand
    let opened := match text with
      | .error e => !e.opening
      | .ok _ => true
    if headed && opened then
      Act.write (heading first operand)
      first := false
    match text with
    | .ok text => Act.write (part text)
    | .error e =>
      Act.grumble (excerptComplaint operand e)
      failed := true
  return statusOf failed

/-- The words for an option that is a count itself, such as `-5` or `-5c`. -/
def spelledCount (sign : Char) (word : Chars) : Option (List Chars) :=
  match word with
  | c :: d :: more =>
    if c = sign && d.isDigit then
      let digits := d :: more.takeWhile Char.isDigit
      let value := if sign = '+' then '+' :: digits else digits
      match more.dropWhile Char.isDigit with
      | [] => some [['-', 'n'], value]
      | ['l'] => some [['-', 'n'], value]
      | ['c'] => some [['-', 'c'], value]
      | ['q'] => some [['-', 'n'], value, ['-', 'q']]
      | ['f'] => some [['-', 'n'], value]
      | _ => none
    else none
  | _ => none

/-- Writes the beginnings of files. -/
def head : Utility := do
  let words := (← get).args
  let first := words.headD []
  let args ← match spelledCount '-' first with
    | some spelled => pure (spelled ++ words.tail)
    | none =>
      match first with
      | '-' :: d :: more =>
        if d.isDigit then
          Act.misused ("invalid trailing option -- ".toList
            ++ (more.dropWhile Char.isDigit).take 1)
        else pure words
      | _ => pure words
  match sortArguments excerptOptions false args with
  | .error e => Act.misused e
  | .ok a =>
    let e ← excerptOf a '-' '+'
    let ending := if a.has 'z' then '\x00' else '\n'
    excerpts a (e.front ending) (Act.readPart 0 fun text => (e.front ending text).length)

/-- Writes the ends of files. -/
def tail : Utility := do
  let words := (← get).args
  let spelled? := (spelledCount '-' (words.headD [])).or (spelledCount '+' (words.headD []))
  let args := match spelled? with
    | some spelled => if words.length ≤ 2 then spelled ++ words.tail else words
    | none => words
  match sortArguments excerptOptions false args with
  | .error e =>
    if spelled?.isSome && words.length > 2 then
      Act.die ("option used in invalid context -- ".toList ++ ((words.headD []).drop 1).take 1)
    else Act.misused e
  | .ok a =>
    let e ← excerptOf a '+' '-'
    let ending := if a.has 'z' then '\x00' else '\n'
    excerpts a (e.back ending) (Act.readAll 0)

end Shakedown.Utility
