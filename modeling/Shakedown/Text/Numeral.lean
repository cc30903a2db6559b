import Shakedown.Text.Octet

/-!
# Numerals

Integers and decimal fractions at the beginning of a text, as programs read them from their
arguments: blanks in front are passed over, a sign may follow, and what stands behind the number is
left to the caller.
-/

set_option autoImplicit false

namespace Shakedown.Numeral

/-- The largest integer that has 64 bits with its sign. -/
def largest : Nat := 9223372036854775807

/-- Whether an integer has 64 bits with its sign. -/
def isSmall (i : Int) : Bool :=
  -(largest : Int) - 1 ≤ i && i ≤ largest

/-- The integer with 64 bits that is nearest to a given one. -/
def cut (i : Int) : Int :=
  max (-(largest : Int) - 1) (min i largest)

/-- The value of a digit in bases up to 36. -/
def digitValue? (c : Char) : Option Nat :=
  if c.isDigit then some (c.toNat - '0'.toNat)
  else if 'a' ≤ c && c ≤ 'z' then some (c.toNat - 'a'.toNat + 10)
  else if 'A' ≤ c && c ≤ 'Z' then some (c.toNat - 'A'.toNat + 10)
  else none

/-- Whether a character is a digit of a base. -/
def isDigitOf (base : Nat) (c : Char) : Bool :=
  (digitValue? c).any (· < base)

/-- The number that digits of a base stand for. -/
def numberOf (base : Nat) (digits : Chars) : Nat :=
  digits.foldl (fun n c => base * n + (digitValue? c).getD 0) 0

/-- The number at the beginning of a text, whose base it tells itself, and the rest. -/
def leadingNumber (s : Chars) : Nat × Chars :=
  let inBase (base : Nat) (s : Chars) : Nat × Chars :=
    (numberOf base (s.takeWhile (isDigitOf base)), s.dropWhile (isDigitOf base))
  match s with
  | '0' :: x :: c :: more =>
    if (x = 'x' || x = 'X') && isDigitOf 16 c then inBase 16 (c :: more) else inBase 8 s
  | '0' :: _ => inBase 8 s
  | _ => inBase 10 s

/-- The sign in front of a number, blanks before it passed over, and the rest. -/
def leadingSign (s : Chars) : Bool × Chars :=
  match s.dropWhile Chars.isSpace with
  | '-' :: more => (true, more)
  | '+' :: more => (false, more)
  | rest => (false, rest)

/-- An integer with the sign that was read in front of it. -/
def signed (negative : Bool) (n : Nat) : Int :=
  if negative then -(n : Int) else n

/-- The integer at the beginning of a text and the rest; base 0 is told by the text itself. -/
def leadingInteger? (base : Nat) (text : Chars) : Option (Int × Chars) :=
  let (negative, s) := leadingSign text
  if s.head?.any Char.isDigit then
    let (n, rest) :=
      if base = 0 then leadingNumber s
      else (numberOf base (s.takeWhile (isDigitOf base)), s.dropWhile (isDigitOf base))
    some (signed negative n, rest)
  else none

/-- The integer that a text stands for in some base, blanks around it allowed. -/
def integerIn? (base : Nat) (text : Chars) : Option Int :=
  match leadingInteger? base text with
  | some (i, rest) => if rest.all Chars.isSpace then some i else none
  | none => none

/-- The decimal integer that a text is, perhaps with a sign, and nothing else. -/
def integer? (text : Chars) : Option Int :=
  match text with
  | '-' :: digits => (Chars.decimal? digits).map fun n => -(n : Int)
  | '+' :: digits => (Chars.decimal? digits).map Int.ofNat
  | digits => (Chars.decimal? digits).map Int.ofNat

/-! ## Fractions -/

/-- What a number with a fraction is read as. -/
inductive Reading where
  /-- `digits * base ^ power`, the base being ten, or two for hexadecimal digits. -/
  | finite (negative : Bool) (base digits : Nat) (power : Int)
  /-- The word for infinity. -/
  | infinite (negative : Bool)
  /-- The word for what is no number. -/
  | undefined (negative : Bool)
  deriving DecidableEq, Repr

/-- The exponent at the beginning of a text behind its letter, and the rest. -/
def leadingExponent (letter : Char) (s : Chars) : Int × Chars :=
  match s with
  | c :: more =>
    if c.toLower = letter then
      let (negative, digits) : Bool × Chars := match more with
        | '-' :: rest => (true, rest)
        | '+' :: rest => (false, rest)
        | rest => (false, rest)
      let value := digits.takeWhile Char.isDigit
      if value.isEmpty then (0, s)
      else (signed negative (numberOf 10 value), digits.dropWhile Char.isDigit)
    else (0, s)
  | [] => (0, s)

/-- The digits in front of a point and behind it, and the rest. -/
def leadingDigits (base : Nat) (s : Chars) : Chars × Chars × Chars :=
  let whole := s.takeWhile (isDigitOf base)
  match s.dropWhile (isDigitOf base) with
  | '.' :: more => (whole, more.takeWhile (isDigitOf base), more.dropWhile (isDigitOf base))
  | rest => (whole, [], rest)

/-- Whether a text begins with a word, whatever the case of its letters. -/
def startsWithWord (word : String) (s : Chars) : Bool :=
  s.length ≥ word.length && (s.take word.length).map Char.toLower = word.toList

/-- The word at the beginning of a text that stands for a number. -/
def leadingWord? (negative : Bool) (s : Chars) : Option (Reading × Chars) :=
  if startsWithWord "infinity" s then some (.infinite negative, s.drop 8)
  else if startsWithWord "inf" s then some (.infinite negative, s.drop 3)
  else if startsWithWord "nan" s then some (.undefined negative, s.drop 3)
  else none

/-- The hexadecimal fraction behind `0x`, and the rest. -/
def leadingHexadecimal? (negative : Bool) (s : Chars) : Option (Reading × Chars) :=
  let (whole, part, rest) := leadingDigits 16 s
  if whole.isEmpty && part.isEmpty then none
  else
    let (power, rest) := leadingExponent 'p' rest
    some (.finite negative 2 (numberOf 16 (whole ++ part)) (power - 4 * part.length), rest)

/-- The decimal fraction at the beginning of a text, and the rest. -/
def leadingDecimal? (negative : Bool) (s : Chars) : Option (Reading × Chars) :=
  let (whole, part, rest) := leadingDigits 10 s
  if whole.isEmpty && part.isEmpty then none
  else
    let (power, rest) := leadingExponent 'e' rest
    some (.finite negative 10 (numberOf 10 (whole ++ part)) (power - part.length), rest)

/-- The number with a fraction at the beginning of a text, and the rest. -/
def leadingReading? (text : Chars) : Option (Reading × Chars) :=
  let (negative, s) := leadingSign text
  let hexadecimal? := match s with
    | '0' :: x :: more =>
      if x = 'x' || x = 'X' then leadingHexadecimal? negative more else none
    | _ => none
  match hexadecimal? with
  | some r => some r
  | none =>
    match leadingDecimal? negative s with
    | some r => some r
    | none => leadingWord? negative s

end Shakedown.Numeral
