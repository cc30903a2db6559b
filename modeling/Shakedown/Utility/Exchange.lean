import Shakedown.Text.CharSet
import Shakedown.Text.Escape
import Shakedown.Utility.Input

/-!
# Exchanging characters

The utility `tr`, which replaces, deletes and squeezes characters of a set.
-/

set_option autoImplicit false

namespace Shakedown.Utility.Exchange

/-- A part of the description of a set. -/
inductive SetPart where
  /-- A character. -/
  | char (c : Char)
  /-- A range. -/
  | range (first last : Char)
  /-- A class. -/
  | named (name : String)
  /-- A character that is repeated, as often as needed if no count is given. -/
  | repeated (c : Char) (count : Nat)

/-- A character of a description: whether it was escaped, and what it is. -/
abbrev SetLetter := Bool × Char

/-- The characters of a description. -/
def letters : Nat → Chars → List SetLetter
  | 0, _ => []
  | _ + 1, [] => []
  | n + 1, '\\' :: c :: more =>
    let style : EscapeStyle := { zeroLeads := false, hexadecimal := false, stops := false }
    if c = 'e' then (true, 'e') :: letters n more
    else match Escape.read style (c :: more) with
      | (.char d, rest) => (true, d) :: letters n rest
      | _ => (true, c) :: letters n more
  | n + 1, c :: more => (false, c) :: letters n more

/-- The text between brackets with a sign inside them, and the rest. -/
def bracketed (sign : Char) : List SetLetter → List SetLetter → Option (Chars × List SetLetter)
  | found, (false, c) :: (false, ']') :: more =>
    if c = sign then some ((found.reverse.map (·.2)), more)
    else bracketed sign ((false, c) :: found) ((false, ']') :: more)
  | found, l :: more => bracketed sign (l :: found) more
  | _, [] => none

/-- The count behind a repeated character, and the rest. -/
def repeatCount (s : List SetLetter) : Option (Nat × List SetLetter) :=
  let digits := (s.takeWhile fun l => !l.1 && l.2.isDigit).map (·.2)
  match s.drop digits.length with
  | (false, ']') :: more =>
    let base := if digits.head? = some '0' then 8 else 10
    some (Numeral.numberOf base digits, more)
  | _ => none

/-- A character of a message. -/
def shownChar (c : Char) : Chars :=
  if Chars.isShowable c then [c] else Chars.controlText c

/-- The parts of a description. -/
def parts : Nat → List SetLetter → Except Chars (List SetPart)
  | 0, _ => .ok []
  | _ + 1, [] => .ok []
  | n + 1, l :: more =>
    let plain : Except Chars (List SetPart) :=
      match more with
      | (false, '-') :: (_, last) :: rest =>
        if last < l.2 then
          .error <| "range-endpoints of '".toList ++ shownChar l.2 ++ '-' :: shownChar last
            ++ "' are in reverse collating sequence order".toList
        else (parts n rest).map (.range l.2 last :: ·)
      | _ => (parts n more).map (.char l.2 :: ·)
    if l = (false, '[') then
      match more with
      | (false, ':') :: inside =>
        match bracketed ':' [] inside with
        | some (name, rest) =>
          let name := String.ofList name
          if characterClasses.any (·.1 = name) then
            (parts n rest).map (.named name :: ·)
          else .error ("invalid character class ".toList ++ Chars.quoted name.toList)
        | none => plain
      | (false, '=') :: inside =>
        match bracketed '=' [] inside with
        | some ([c], rest) => (parts n rest).map (.char c :: ·)
        | some (text, _) =>
          .error (text ++ ": equivalence class operand must be a single character".toList)
        | none => plain
      | (_, c) :: (false, '*') :: inside =>
        match repeatCount inside with
        | some (count, rest) => (parts n rest).map (.repeated c count :: ·)
        | none => plain
      | _ => plain
    else plain

/-- All characters. -/
def allChars : Chars :=
  (List.range 256).map Char.ofNat

/-- The characters of a part. A character repeated as often as needed stands for `fill` ones. -/
def SetPart.chars (fill : Nat) : SetPart → Chars
  | .char c => [c]
  | .range first last => allChars.filter fun c => first ≤ c && c ≤ last
  | .named name => allChars.filter (isInClass name)
  | .repeated c 0 => List.replicate fill c
  | .repeated c count => List.replicate count c

/-- The characters of parts, filled up to a length by a character that is repeated. -/
def charsOf (length : Nat) (all : List SetPart) : Chars :=
  let fixed := (all.flatMap (SetPart.chars 0)).length
  all.flatMap (SetPart.chars (length - fixed))

/-- Whether a part is the class of small or of capital letters. -/
def SetPart.isCase : SetPart → Bool
  | .named name => name = "lower" || name = "upper"
  | _ => false

/-- Whether the classes of one case stand where those of the other one do. -/
def isAligned (one two : List SetPart) : Bool :=
  let starts := fun (all : List SetPart) =>
    (all.zipIdx).filterMap fun (p, n) =>
      if p.isCase then some ((charsOf 0 (all.take n)).length) else none
  (starts two).all (starts one).contains

/-- The parts of a description, or the end of the program. -/
def readParts (text : Chars) : Act (List SetPart) := do
  if (text.reverse.takeWhile (· = '\\')).length % 2 = 1 then
    Act.grumble "warning: an unescaped backslash at end of string is not portable".toList
  match parts (text.length + 1) (letters (text.length + 1) text) with
  | .ok all => return all
  | .error e => Act.die e

/-- A text without repeats of characters of a set. -/
def squeezed (set : Chars) : Chars → Chars
  | c :: d :: more =>
    if c = d && set.contains c then squeezed set (d :: more) else c :: squeezed set (d :: more)
  | s => s

/-- What takes the place of a character, the last one standing for all that have no partner. -/
def partner (one two : Chars) (c : Char) : Char :=
  match (one.zip two).reverse.find? (·.1 = c) with
  | some (_, d) => d
  | none => if one.contains c then two.getLast?.getD c else c

/-- A table of what takes the place of every character. -/
def partners (one two : Chars) : Array Char :=
  (allChars.map (partner one two)).toArray

/-- The options of `tr`. -/
def options : List OptionKind :=
  [.named 'c' "complement", { key := 'C' }, .named 'd' "delete", .named 's' "squeeze-repeats",
    .named 't' "truncate-set1"]

/-- Complains about a missing or an extra operand, with one more line of explanation. -/
def misused {α : Type} (message : Chars) (explanation : String) : Act α := do
  Act.grumble message
  if explanation ≠ "" then Act.complain explanation.toList
  Act.referToHelp

/-- Checks how many sets there are. -/
def checkSets (a : Arguments) : Act Unit := do
  let least := if a.has 'd' = a.has 's' then 2 else 1
  let most := if a.has 'd' && !a.has 's' then 1 else 2
  match a.operands with
  | [] => Act.missingOperand
  | [one] =>
    if least > 1 then
      misused ("missing operand after ".toList ++ one.shown) <|
        if a.has 's' then
          "Two strings must be given when both deleting and squeezing repeats."
        else "Two strings must be given when translating."
  | operands =>
    match operands[most]? with
    | none => pure ()
    | some extra =>
      misused ("extra operand ".toList ++ extra.shown) <|
        if operands.length = 2 then
          "Only one string may be given when deleting without squeezing repeats."
        else ""

/-- Complains about two sets that cannot be used to replace. -/
def checkPair (a : Arguments) (one two : List SetPart) : Act Unit := do
  let isClass := fun | SetPart.named _ => true | _ => false
  if two.any fun p => isClass p && !p.isCase then
    Act.die ("when translating, the only character classes that may appear in\n".toList
      ++ "string2 are 'upper' and 'lower'".toList)
  if (charsOf 1 two).isEmpty && !a.has 't' then
    Act.die "when not truncating set1, string2 must be non-empty".toList
  if !isAligned one two then
    Act.die "misaligned [:upper:] and/or [:lower:] construct".toList

/-- Replaces, deletes and squeezes characters. -/
def exchange : Utility := do
  let a ← Act.arguments options true
  checkSets a
  let one ← readParts (a.operands.headD [])
  let complemented := a.has 'c' || a.has 'C'
  let first := charsOf 0 one
  let set := if complemented then allChars.filter (!first.contains ·) else first
  let text ← match ← Act.readAll 0 with
    | .ok text => pure text
    | .error e => Act.die ("read error: ".toList ++ Act.reason e)
  match a.operands[1]? with
  | none => Act.write (if a.has 'd' then text.filter (!set.contains ·) else squeezed set text)
  | some second =>
    let two ← readParts second
    if a.has 'd' then
      Act.write (squeezed (charsOf 0 two) (text.filter (!set.contains ·)))
    else
      checkPair a one two
      let goal := charsOf set.length two
      let table := partners (if a.has 't' then set.take goal.length else set) goal
      let replaced := text.map fun c => table.getD c.toNat c
      Act.write (if a.has 's' then squeezed goal replaced else replaced)
  return 0

end Shakedown.Utility.Exchange
