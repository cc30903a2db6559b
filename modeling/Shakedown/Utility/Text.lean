import Shakedown.Utility.Input
import Shakedown.Text.Format

/-!
# Utilities that say something

`echo`, `printf`, `yes`, `seq`, and those that have only a status.
-/

set_option autoImplicit false

namespace Shakedown.Utility

/-! ## Echoing -/

/-- The escapes of words that are echoed. -/
def echoEscapes : EscapeStyle :=
  { zeroLeads := true, hexadecimal := true, stops := true }

/-- Whether a word holds options of `echo`. -/
def isEchoOption (word : Chars) : Bool :=
  word.head? = some '-' && word.length > 1
    && word.tail.all fun c => c = 'n' || c = 'e' || c = 'E'

/-- Writes words with a space between each two. -/
def echo : Utility := do
  let args := (← get).args
  let letters := (args.takeWhile isEchoOption).flatMap List.tail
  let text := Chars.spaced (args.dropWhile isEchoOption)
  let escaped := (letters.reverse.find? (· ≠ 'n')) = some 'e'
  let (text, stopped) :=
    if escaped then
      let (text, ending) := Escape.expand echoEscapes text
      (text, ending = .stopped)
    else (text, false)
  Act.write (text ++ if letters.contains 'n' || stopped then [] else Chars.newline)
  return 0

/-! ## Formats -/

/-- The escapes of formats. -/
def formatEscapes : EscapeStyle :=
  { zeroLeads := false, hexadecimal := true, demandsDigits := true, stops := true, quotes := true }

/-- The letters of directives, each with the flags that it takes. -/
def directives : List (Char × Chars) :=
  let signed : Chars := ['\'', ' ', '+', '-', '0', 'I']
  let based : Chars := [' ', '+', '-', '0', '#', 'I']
  let real : Chars := ['\'', ' ', '+', '-', '0', '#', 'I']
  [('d', signed), ('i', signed), ('u', ['\'', ' ', '+', '-', '0', 'I']), ('o', based),
    ('x', based), ('X', based), ('a', [' ', '+', '-', '0', '#']), ('A', [' ', '+', '-', '0', '#']),
    ('e', based), ('E', based), ('f', real), ('F', real), ('g', real), ('G', real),
    ('c', [' ', '+', '-']), ('s', [' ', '+', '-']), ('b', []), ('q', [])]

/-- How `printf` writes formats. -/
def formatStyle : FormatStyle where
  escapes := formatEscapes
  argumentEscapes := { echoEscapes with demandsDigits := true, quotes := true }
  numbers := .extended
  lengths := ['h', 'l', 'L', 'j', 't', 'z']
  accepts s :=
    match s.letter with
    | none => false
    | some c =>
      match directives.lookup c with
      | none => false
      | some flags => s.flags.all flags.contains
  mistake s := s.text ++ ": invalid conversion specification".toList
  noNumber arg := arg.shown ++ ": expected a numeric value".toList
  notAll arg := arg.shown ++ ": value not completely converted".toList
  tooLarge arg := arg.shown ++ ": Numerical result out of range".toList
  moreBehind rest := some <| "warning: ".toList ++ rest
    ++ ": character(s) following character constant have been ignored".toList
  leftOver arg := some <| "warning: ignoring excess arguments, starting with ".toList ++ arg.shown

/-- Writes a format. -/
def printf : Utility := do
  let args := match (← get).args with
    | ['-', '-'] :: more => more
    | args => args
  match args with
  | [] => Act.missingOperand
  | format :: words =>
    let result := formatStyle.write format words
    for event in result.events do
      match event with
      | .text s => Act.write s
      | .complaint s => Act.grumble s
    return if result.ending = some .stopped then 0
      else statusOf (result.failed || result.ending = some .broken)

/-! ## Repeating and counting -/

/-- How often a line is written that is repeated without end: more often than any reader takes. -/
def endlessly : Nat := 1048576

/-- Writes a line again and again until nobody reads any more. -/
def yes : Utility := do
  let args := (← Act.arguments [] true).operands
  let line := (if args.isEmpty then ['y'] else Chars.spaced args) ++ Chars.newline
  let block := (List.replicate 512 line).flatten
  for _ in List.range (endlessly / 256) do
    if (← get).fault.isNone then Act.write block
  return 1

/-- Where a sequence of numbers begins and ends, and how far its steps are. -/
structure Progression where
  /-- The first number, as a multiple of the unit. -/
  first : Int
  /-- The step. -/
  step : Int
  /-- The last number. -/
  last : Int

/-- How many numbers there are. -/
def Progression.length (p : Progression) : Nat :=
  if p.step > 0 then ((p.last - p.first) / p.step + 1).toNat
  else ((p.first - p.last) / -p.step + 1).toNat

/-- A decimal fraction: an integer, and how many of its digits stand behind the point. -/
def decimalFraction? (word : Chars) : Option (Int × Nat) :=
  match Numeral.leadingReading? word with
  | some (.finite negative 10 digits power, []) =>
    if power > 0 then some (Numeral.signed negative (digits * tenTo power.toNat), 0)
    else some (Numeral.signed negative digits, (-power).toNat)
  | _ => none

/-- A number with so many digits behind the point. -/
def withPlaces (places : Nat) (i : Int) : Chars :=
  let sign : Chars := if i < 0 then ['-'] else []
  if places = 0 then sign ++ Chars.ofNat i.natAbs
  else
    let digits := Chars.ofNat i.natAbs
    let padded := List.replicate (places + 1 - digits.length) '0' ++ digits
    sign ++ padded.take (padded.length - places) ++ '.' :: padded.drop (padded.length - places)

/-- The options of `seq`. -/
def seqOptions : List OptionKind :=
  [.namedValue 'f' "format", .namedValue 's' "separator", .named 'w' "equal-width"]

/-- Whether a word is a negative number rather than options. -/
def isNegativeNumber (word : Chars) : Bool :=
  word.head? = some '-' && (word[1]?).any fun c => c.isDigit || c = '.'

/-- The arguments of `seq`: a negative number ends the options. -/
def seqArguments : Act Arguments := do
  let args := (← get).args
  let front := args.takeWhile (!isNegativeNumber ·)
  let takesNext := front.getLast?.any fun w => w = ['-', 's'] || w = ['-', 'f']
  match sortArguments seqOptions true (if takesNext then args else front) with
  | .error e => Act.misused e
  | .ok a => return if takesNext then a else { a with operands := a.operands ++ args.drop front.length }

/-- Writes the numbers of a sequence. -/
def seq : Utility := do
  let a ← seqArguments
  if a.operands.isEmpty then Act.missingOperand
  if a.operands.length > 3 then
    Act.extraOperand (a.operands.getD 3 [])
  let numbers := a.operands.map fun word => (word, decimalFraction? word)
  for (word, number?) in numbers do
    if number?.isNone then
      Act.grumble ("invalid floating point argument: ".toList ++ word.shown)
      Act.referToHelp
  let values := numbers.filterMap (·.2)
  let (first, step, last) := match values with
    | [last] => ((1, 0), (1, 0), last)
    | [first, last] => (first, (1, 0), last)
    | [first, step, last] => (first, step, last)
    | _ => ((1, 0), (1, 0), (0, 0))
  if step.1 = 0 then
    Act.misused
      ("invalid Zero increment value: ".toList ++ (a.operands.getD 1 []).shown)
  let places := max first.2 step.2
  let unit := max places last.2
  let scaled : Int × Nat → Int := fun (i, n) => i * tenTo (unit - n)
  let p : Progression := { first := scaled first, step := scaled step, last := scaled last }
  let shown := fun k : Nat => withPlaces places ((p.first + p.step * k) / tenTo (unit - places))
  let all := (List.range p.length).map shown
  let width := if a.has 'w' then
      max (withPlaces places ((scaled first) / tenTo (unit - places))).length
        (max (withPlaces places ((scaled last) / tenTo (unit - places))).length
          ((all.map List.length).foldl max 0))
    else 0
  let widened := all.map fun s =>
    match s with
    | '-' :: digits => '-' :: (List.replicate (width - s.length) '0' ++ digits)
    | _ => List.replicate (width - s.length) '0' ++ s
  let formatted := match a.value? 'f' with
    | none => widened
    | some format => all.map fun s =>
      (formatStyle.write format [s]).events.flatMap fun
        | .text t => t
        | .complaint _ => []
  let separator := (a.value? 's').getD Chars.newline
  if !formatted.isEmpty then Act.write (Chars.joined separator formatted ++ Chars.newline)
  return 0

end Shakedown.Utility
