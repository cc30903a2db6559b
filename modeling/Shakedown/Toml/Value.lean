import Shakedown.Number.Shortest

/-!
# TOML values

A document is a table; its values are texts, numbers, truth values, moments, lists and tables. Keys
of a table are kept in the order of the document.

An unquoted value is one word: a truth value, an integer, a number with a fraction, or a moment.
`scalar?` reads a whole word. A date and a time of day may be two words, but then a space and a
digit follow the date, and `takeWord` takes both.
-/

set_option autoImplicit false

namespace Shakedown.Toml

/-! ## Values -/

/-- A number with a fraction or an exponent, or a name for one that has neither. -/
inductive Real where
  /-- A finite number. -/
  | finite (x : Binary64)
  /-- An infinite number. -/
  | infinite (negative : Bool)
  /-- No number. -/
  | notANumber
  deriving DecidableEq, Repr

/-- How a number with a fraction is spelled in messages. -/
def Real.spelling : Real → String
  | .finite x => x.positional
  | .infinite false => "inf"
  | .infinite true => "-inf"
  | .notANumber => "NaN"

/-- A TOML value. -/
inductive Value where
  /-- A text. -/
  | text (s : String)
  /-- An integer. -/
  | integer (n : Int)
  /-- A number with a fraction. -/
  | real (x : Real)
  /-- A truth value. -/
  | boolean (b : Bool)
  /-- A date, a time of day, or both. Which one does not matter to any reader. -/
  | moment
  /-- A list. -/
  | list (items : List Value)
  /-- A table. -/
  | table (fields : List (String × Value))
  deriving Repr

/-! ## Integers -/

/-- Digits, with an underscore allowed between any two; the underscores are dropped. -/
def digitRun (isDigit : Char → Bool) : List Char → Option (List Char)
  | [] => none
  | [c] => if isDigit c then some [c] else none
  | c :: '_' :: more =>
    if isDigit c then (digitRun isDigit more).map (c :: ·) else none
  | c :: more =>
    if isDigit c then (digitRun isDigit more).map (c :: ·) else none

/-- The value of a digit, up to sixteen of them. -/
def digitValue (c : Char) : Nat :=
  if c ≤ '9' then c.toNat - '0'.toNat
  else if c ≤ 'F' then c.toNat - 'A'.toNat + 10
  else c.toNat - 'a'.toNat + 10

/-- The number that digits of a base spell. -/
def ofDigits (base : Nat) (digits : List Char) : Nat :=
  digits.foldl (fun n c => base * n + digitValue c) 0

/-- Whether a character is one of the first `base` digits, `base` at most ten. -/
def isDigitBelow (base : Nat) (c : Char) : Bool :=
  c.isDigit && digitValue c < base

/-- Whether a character is a hexadecimal digit. -/
def isHexDigit (c : Char) : Bool :=
  c.isDigit || ('a' ≤ c && c ≤ 'f') || ('A' ≤ c && c ≤ 'F')

/-- The least and the greatest integer. -/
def integerBounds : Int × Int := (-(twoTo 63 : Int), (twoTo 63 : Int) - 1)

/-- An integer, if it is in range. -/
def boundedInteger (n : Int) : Option Value :=
  if integerBounds.1 ≤ n ∧ n ≤ integerBounds.2 then some (.integer n) else none

/-- A sign in front of a number, and what follows: true for a minus. -/
def takeSign : List Char → Bool × List Char
  | '+' :: more => (false, more)
  | '-' :: more => (true, more)
  | word => (false, word)

/-- Decimal digits without a leading zero. -/
def wholeDigits (word : List Char) : Option (List Char) :=
  match word with
  | ['0'] => some ['0']
  | '0' :: _ => none
  | _ => digitRun Char.isDigit word

/-- An integer in a base other than ten. -/
def basedInteger (base : Nat) (isDigit : Char → Bool) (word : List Char) : Option Value :=
  match digitRun isDigit word with
  | none => none
  | some digits => boundedInteger (ofDigits base digits)

/-- A decimal integer with a sign. -/
def decimalInteger (negative : Bool) (word : List Char) : Option Value :=
  match wholeDigits word with
  | none => none
  | some digits =>
    let n : Int := ofDigits 10 digits
    boundedInteger (if negative then -n else n)

/-! ## Numbers with a fraction -/

/-- A word cut at the first character with a property, which is dropped. -/
def cutAt (p : Char → Bool) (word : List Char) : List Char × Option (List Char) :=
  match word.dropWhile (fun c => !p c) with
  | [] => (word, none)
  | _ :: more => (word.takeWhile (fun c => !p c), some more)

/-- An exponent with its sign. -/
def exponent? (word : List Char) : Option Int :=
  let (negative, word) := takeSign word
  match digitRun Char.isDigit word with
  | none => none
  | some digits =>
    let n : Int := ofDigits 10 digits
    some (if negative then -n else n)

/-- Above this power of ten of the first digit nothing is finite, and below its opposite all is
zero. -/
def decimalReach : Int := 400

/-- The number that digits spell with their last one at a power of ten; none if it is too large. -/
def ofDigitsAt (digits : List Char) (power : Int) : Option Binary64 :=
  let n := ofDigits 10 digits
  let magnitude : Int := (Nat.toDigits 10 n).length + power
  if n = 0 ∨ magnitude < -decimalReach then some .zero
  else if decimalReach < magnitude then none
  else Binary64.ofDecimal n power

/-- A number read from its digits. A number too large to be finite is refused, unless it is
negative. -/
def realOf (negative : Bool) (digits : List Char) (power : Int) : Option Value :=
  match ofDigitsAt digits power with
  | some x => some (.real (.finite (x.withSign negative)))
  | none => if negative then some (.real (.infinite true)) else none

/-- A number with a fraction or an exponent or both, its sign taken off. -/
def realDigits (negative : Bool) (word : List Char) : Option Value :=
  let (mantissa, exponentWord) := cutAt (fun c => c = 'e' || c = 'E') word
  let (whole, fractionWord) := cutAt (· = '.') mantissa
  match wholeDigits whole, fractionWord.map (digitRun Char.isDigit), exponentWord.map exponent? with
  | some whole, none, some (some e) => realOf negative whole e
  | some whole, some (some fraction), none =>
    realOf negative (whole ++ fraction) (-fraction.length)
  | some whole, some (some fraction), some (some e) =>
    realOf negative (whole ++ fraction) (e - fraction.length)
  | _, _, _ => none

/-! ## Moments -/

/-- The number of two digits. -/
def twoDigits? (a b : Char) : Option Nat :=
  if a.isDigit && b.isDigit then some (10 * digitValue a + digitValue b) else none

/-- Whether two digits spell a number between bounds. -/
def twoDigitsWithin (low high : Nat) (a b : Char) : Bool :=
  (twoDigits? a b).any fun n => low ≤ n && n ≤ high

/-- Whether a year has a leap day. -/
def isLeapYear (year : Nat) : Bool :=
  year % 4 = 0 && (year % 100 ≠ 0 || year % 400 = 0)

/-- The number of days in a month. -/
def daysInMonth (year month : Nat) : Nat :=
  if month = 2 then (if isLeapYear year then 29 else 28)
  else if month = 4 ∨ month = 6 ∨ month = 9 ∨ month = 11 then 30
  else 31

/-- Whether digits are a date of the calendar. -/
def isDate (y1 y2 y3 y4 m1 m2 d1 d2 : Char) : Bool :=
  match twoDigits? y1 y2, twoDigits? y3 y4, twoDigits? m1 m2, twoDigits? d1 d2 with
  | some century, some year, some month, some day =>
    1 ≤ month && month ≤ 12 && 1 ≤ day && day ≤ daysInMonth (100 * century + year) month
  | _, _, _, _ => false

/-- An offset from universal time: none, `Z`, or hours and minutes with a sign. -/
def isOffset : List Char → Bool
  | [] => true
  | [c] => c = 'Z' || c = 'z'
  | [sign, h1, h2, ':', m1, m2] =>
    (sign = '+' || sign = '-') && twoDigitsWithin 0 23 h1 h2 && twoDigitsWithin 0 59 m1 m2
  | _ => false

/-- What may follow the seconds: a fraction, and where `dated` an offset. -/
def isSecondsTail (dated : Bool) (word : List Char) : Bool :=
  let offset := match word with
    | '.' :: c :: more => if c.isDigit then more.dropWhile Char.isDigit else ['.']
    | _ => word
  if dated then isOffset offset else offset = []

/-- A time of day, with an offset where it is `dated`. -/
def isTime (dated : Bool) : List Char → Bool
  | h1 :: h2 :: ':' :: m1 :: m2 :: ':' :: s1 :: s2 :: more =>
    twoDigitsWithin 0 23 h1 h2 && twoDigitsWithin 0 59 m1 m2 && twoDigitsWithin 0 60 s1 s2 &&
      isSecondsTail dated more
  | _ => false

/-- Whether a character may stand between a date and a time. -/
def isMomentJoint (c : Char) : Bool :=
  c = 'T' || c = 't' || c = ' '

/-- A date, a time of day, or both. -/
def isMoment (word : List Char) : Bool :=
  match word with
  | [y1, y2, y3, y4, '-', m1, m2, '-', d1, d2] => isDate y1 y2 y3 y4 m1 m2 d1 d2
  | y1 :: y2 :: y3 :: y4 :: '-' :: m1 :: m2 :: '-' :: d1 :: d2 :: c :: time =>
    isDate y1 y2 y3 y4 m1 m2 d1 d2 && isMomentJoint c && isTime true time
  | _ => isTime false word

/-! ## Words -/

/-- An unquoted value that is spelled with digits. -/
def number? (word : List Char) : Option Value :=
  match word with
  | '0' :: 'x' :: digits => basedInteger 16 isHexDigit digits
  | '0' :: 'o' :: digits => basedInteger 8 (isDigitBelow 8) digits
  | '0' :: 'b' :: digits => basedInteger 2 (isDigitBelow 2) digits
  | _ =>
    let (negative, digits) := takeSign word
    if digits = ['i', 'n', 'f'] then some (.real (.infinite negative))
    else if digits = ['n', 'a', 'n'] then some (.real .notANumber)
    else if digits.any (fun c => c = '.' || c = 'e' || c = 'E') then realDigits negative digits
    else decimalInteger negative digits

/-- An unquoted value. -/
def scalar? (word : List Char) : Option Value :=
  if word = ['t', 'r', 'u', 'e'] then some (.boolean true)
  else if word = ['f', 'a', 'l', 's', 'e'] then some (.boolean false)
  else if isMoment word then some .moment
  else number? word

/-- Whether a character can be part of an unquoted value. -/
def isWordChar (c : Char) : Bool :=
  c.isAlphanum || c = '_' || c = '+' || c = '-' || c = '.' || c = ':'

/-- Whether a space and a digit continue a word: it is a date. -/
def continuesDate (word rest : List Char) : Bool :=
  match rest with
  | ' ' :: c :: _ => c.isDigit && word.length = 10 && isMoment word
  | _ => false

/-- An unquoted value with what follows it. -/
def takeWord (s : List Char) : List Char × List Char :=
  let word := s.takeWhile isWordChar
  let rest := s.dropWhile isWordChar
  if continuesDate word rest then
    (word ++ ' ' :: (rest.drop 1).takeWhile isWordChar, (rest.drop 1).dropWhile isWordChar)
  else (word, rest)

end Shakedown.Toml
