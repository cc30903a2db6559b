import Shakedown.Number.Quantity

/-!
# Directives

A directive of a format tells how one value is written: flags, the least width, a precision, and a
letter. `Directive.read` reads what stands behind the percent sign, where a width or a precision may
be left to an argument, and the rest of the module writes values.
-/

set_option autoImplicit false

namespace Shakedown

/-- A width or a precision as it is written. -/
inductive Measure where
  /-- Not at all. -/
  | unset
  /-- In digits. -/
  | given (n : Nat)
  /-- As a star, which stands for an argument. -/
  | argument
  deriving DecidableEq, Repr

/-- A directive as it is written. -/
structure Specification where
  /-- The flags. -/
  flags : Chars
  /-- The width. -/
  width : Measure
  /-- The precision. -/
  precision : Measure
  /-- The letter, unless the text ends before it. -/
  letter : Option Char
  /-- The whole directive. -/
  text : Chars

namespace Specification

/-- Whether a character is a flag. -/
def isFlag (c : Char) : Bool :=
  c = '-' || c = '+' || c = ' ' || c = '#' || c = '0'

/-- A width or a precision at the beginning of a text, and the rest. -/
def readMeasure (s : Chars) : Measure × Chars :=
  match s with
  | '*' :: more => (.argument, more)
  | _ =>
    let digits := s.takeWhile Char.isDigit
    if digits.isEmpty then (.unset, s)
    else (.given (Numeral.numberOf 10 digits), s.dropWhile Char.isDigit)

/-- The directive behind a percent sign and the rest. The letters for the length of a number are
passed over. -/
def read (lengths : Chars) (s : Chars) : Specification × Chars :=
  let flags := s.takeWhile isFlag
  let (width, rest) := readMeasure (s.dropWhile isFlag)
  let (precision, rest) : Measure × Chars := match rest with
    | '.' :: more =>
      match readMeasure more with
      | (.unset, rest) => (.given 0, rest)
      | result => result
    | _ => (.unset, rest)
  let rest := rest.dropWhile lengths.contains
  let text := '%' :: s.take (s.length - rest.length + 1)
  ({ flags, width, precision, letter := rest.head?, text }, rest.tail)

end Specification

/-- A directive whose width and precision are known. -/
structure Directive where
  /-- The flags. -/
  flags : Chars := []
  /-- The least width. -/
  width : Nat := 0
  /-- The precision. -/
  precision : Option Nat := none
  /-- The letter. -/
  letter : Char

namespace Directive

/-- Whether a flag is set. -/
def has (d : Directive) (flag : Char) : Bool :=
  d.flags.contains flag

/-- A text with blanks up to the width. -/
def padded (d : Directive) (text : Chars) : Chars :=
  if d.has '-' then text.padRight d.width else text.padLeft d.width

/-- A text as the directive says. -/
def text (d : Directive) (s : Chars) : Chars :=
  d.padded (d.precision.elim s s.take)

/-- A number with what stands in front of it, filled with zeros or blanks up to the width. -/
def number (d : Directive) (zeros : Bool) (front digits : Chars) : Chars :=
  if zeros && d.has '0' && !d.has '-' then
    front ++ List.replicate (d.width - front.length - digits.length) '0' ++ digits
  else d.padded (front ++ digits)

/-- The sign in front of a number. -/
def sign (d : Directive) (negative : Bool) : Chars :=
  if negative then ['-'] else if d.has '+' then ['+'] else if d.has ' ' then [' '] else []

/-- Digits with as many zeros in front as the precision asks for. -/
def withPrecision (d : Directive) (digits : Chars) : Chars :=
  match d.precision with
  | none => digits
  | some p =>
    let digits := if digits = ['0'] then [] else digits
    List.replicate (p - digits.length) '0' ++ digits

/-- An integer. -/
def integer (d : Directive) (i : Int) : Chars :=
  d.number d.precision.isNone (d.sign (i < 0)) (d.withPrecision (Chars.ofNat i.natAbs))

/-- How many different numbers without a sign there are. -/
def naturalLimit : Int := 18446744073709551616

/-- The base of the letter of a natural number. -/
def base (letter : Char) : Nat :=
  if letter = 'o' then 8 else if letter = 'x' || letter = 'X' then 16 else 10

/-- An integer as a number without a sign: a negative one wraps around. -/
def natural (d : Directive) (i : Int) : Chars :=
  let n := (i % naturalLimit).toNat
  let digits := d.withPrecision (Nat.toDigits (base d.letter) n)
  let digits := if d.letter = 'X' then digits.map Char.toUpper else digits
  let marked := d.has '#'
  let front : Chars :=
    if marked && n ≠ 0 && base d.letter = 16 then ['0', d.letter] else []
  let digits := if marked && base d.letter = 8 && digits.head? ≠ some '0' then '0' :: digits
    else digits
  d.number d.precision.isNone front digits

/-- The number of decimal places where no precision is given. -/
def usualPrecision : Nat := 6

/-- How many significant bits the first hexadecimal digit of a number has, and how many digits
follow. -/
def hexadecimalShape : Quantity.Format → Nat × Nat
  | .double => (1, 13)
  | .extended => (4, 15)

/-- The digits of a fraction. -/
def fraction (d : Directive) (f : Quantity.Format) (num den : Nat) : Chars :=
  let p := d.precision.getD usualPrecision
  let marked := d.has '#'
  match d.letter.toLower with
  | 'f' => Quantity.fixedDigits p marked num den
  | 'g' => Quantity.generalDigits 'e' p marked num den
  | 'a' =>
    let (leadingBits, digits) := hexadecimalShape f
    Quantity.hexadecimalDigits leadingBits digits d.precision marked num den
  | _ => Quantity.scientificDigits 'e' p marked num den

/-- A number with a fraction. -/
def quantity (d : Directive) (f : Quantity.Format) (q : Quantity) : Chars :=
  let shown : Chars := match q with
    | .finite negative num den => d.number true (d.sign negative) (d.fraction f num den)
    | .infinite negative => d.number false (d.sign negative) "inf".toList
    | .undefined negative => d.number false (d.sign negative) "nan".toList
  if d.letter.isUpper then shown.map Char.toUpper else shown

end Directive

end Shakedown
