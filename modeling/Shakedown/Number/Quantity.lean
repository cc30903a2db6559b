import Shakedown.Number.Shortest
import Shakedown.Text.Numeral

/-!
# Numbers written with a given precision

A `Quantity` is what a floating-point number stands for: a fraction with a sign, infinity, or no
number. Here it is read from a text with a given number of significant bits and written with a given
number of decimal places or digits. Every quotient is rounded to nearest, and a tie to the even
neighbour.
-/

set_option autoImplicit false

namespace Shakedown

/-- What a floating-point number stands for. -/
inductive Quantity where
  /-- A fraction. -/
  | finite (negative : Bool) (num den : Nat)
  /-- Infinity. -/
  | infinite (negative : Bool)
  /-- No number. -/
  | undefined (negative : Bool)
  deriving DecidableEq, Repr

namespace Quantity

/-- Zero. -/
def zero : Quantity := .finite false 0 1

/-! ## Reading -/

/-- The power of two that scales a positive fraction to an integer with so many bits. -/
def scaleFor (bits num den : Nat) : Int :=
  let guess : Int := (num.log2 : Int) - den.log2 - bits
  let e := [guess, guess + 1, guess + 2].find? fun e =>
    let (n, d) := Binary64.scaled num den e
    n < twoTo bits * d
  e.getD guess

/-- A fraction rounded to so many significant bits. -/
def roundedTo (bits num den : Nat) : Nat × Nat :=
  if num = 0 then (0, 1)
  else
    let e := scaleFor bits num den
    let (n, d) := Binary64.scaled num den e
    let m := Binary64.roundQuotient n d
    if 0 ≤ e then (m * twoTo e.toNat, 1) else (m, twoTo (-e).toNat)

/-- The formats that numbers are kept in. -/
inductive Format where
  /-- 64 bits, of which 53 are significant. -/
  | double
  /-- 80 bits, of which 64 are significant. -/
  | extended
  deriving DecidableEq, Repr

/-- The largest power of two in the extended format. -/
def extendedLimit : Nat := 16384

/-- The number of a format that is nearest to a fraction. -/
def nearest (f : Format) (negative : Bool) (num den : Nat) : Quantity :=
  match f with
  | .double =>
    match Binary64.ofFraction num den with
    | some x => .finite negative x.fraction.1 x.fraction.2
    | none => .infinite negative
  | .extended =>
    let (n, d) := roundedTo 64 num den
    if twoTo extendedLimit * d ≤ n then .infinite negative else .finite negative n d

/-- The largest power of ten that needs to be told from infinity. -/
def powerLimit : Nat := 6000

/-- The number of a format that was read. -/
def ofReading (f : Format) : Numeral.Reading → Quantity
  | .infinite negative => .infinite negative
  | .undefined negative => .undefined negative
  | .finite negative base digits power =>
    if digits = 0 then .finite negative 0 1
    else if 0 ≤ power then
      if powerLimit * 4 < power.toNat then .infinite negative
      else nearest f negative (digits * Nat.pow base power.toNat) 1
    else if powerLimit * 4 < (-power).toNat then .finite negative 0 1
    else nearest f negative digits (Nat.pow base (-power).toNat)

/-- Whether a number that was read lies beyond what its format holds. -/
def overflows (r : Numeral.Reading) (q : Quantity) : Bool :=
  match r, q with
  | .finite .., .infinite _ => true
  | _, _ => false

/-- The value of a 64-bit number. -/
def ofFloat (x : Float) : Quantity :=
  let bits := x.toBits.toNat
  let negative := decide (bits ≥ twoTo 63)
  let exponent := bits / twoTo 52 % 2048
  let fraction := bits % twoTo 52
  if exponent = 2047 then
    if fraction = 0 then .infinite negative else .undefined negative
  else if exponent = 0 then .finite negative fraction (twoTo 1074)
  else if 1075 ≤ exponent then
    .finite negative ((fraction + twoTo 52) * twoTo (exponent - 1075)) 1
  else .finite negative (fraction + twoTo 52) (twoTo (1075 - exponent))

/-! ## Writing -/

/-- A number with so many decimal places, without its sign; the point is written without places only
if `pointed` says so. -/
def fixedDigits (places : Nat) (pointed : Bool) (num den : Nat) : Chars :=
  let digits := Chars.ofNat (Binary64.roundQuotient (num * tenTo places) den)
  let digits := List.replicate (places + 1 - digits.length) '0' ++ digits
  let whole := digits.take (digits.length - places)
  if places = 0 && !pointed then whole else whole ++ '.' :: digits.drop whole.length

/-- The significant digits of a fraction, so many, and the power of ten of the first one. -/
def significant (count num den : Nat) : Chars × Int :=
  if num = 0 then (List.replicate count '0', 0)
  else
    let power := Binary64.leadingPower num den
    let shift := power - (count : Int) + 1
    let n := if 0 ≤ shift then Binary64.roundQuotient num (den * tenTo shift.toNat)
      else Binary64.roundQuotient (num * tenTo (-shift).toNat) den
    if n = tenTo count then (Chars.ofNat (n / 10), power + 1) else (Chars.ofNat n, power)

/-- An exponent with its sign and two digits at least. -/
def exponentText (letter : Char) (e : Int) : Chars :=
  let digits := Chars.ofNat e.natAbs
  letter :: (if e < 0 then '-' else '+') :: (List.replicate (2 - digits.length) '0' ++ digits)

/-- Digits with a point behind the first one. -/
def pointedDigits (pointed : Bool) (digits : Chars) : Chars :=
  match digits with
  | [] => []
  | [c] => if pointed then [c, '.'] else [c]
  | c :: more => c :: '.' :: more

/-- A number with an exponent and so many decimal places, without its sign. -/
def scientificDigits (letter : Char) (places : Nat) (pointed : Bool) (num den : Nat) : Chars :=
  let (digits, power) := significant (places + 1) num den
  pointedDigits pointed digits ++ exponentText letter power

/-- A text with a point without the zeros at its end, and without the point if nothing follows. -/
def withoutFinalZeros (s : Chars) : Chars :=
  if s.contains '.' then
    match s.reverse.dropWhile (· = '0') with
    | '.' :: rest => rest.reverse
    | rest => rest.reverse
  else s

/-- A number with so many significant digits, without its sign: with an exponent if it is very small
or very large. Zeros at the end are left out unless `full` says otherwise. -/
def generalDigits (letter : Char) (count : Nat) (full : Bool) (num den : Nat) : Chars :=
  let count := max count 1
  let (digits, power) := significant count num den
  if -4 ≤ power && power < count then
    let text := fixedDigits (count - 1 - power).toNat full num den
    if full then text else withoutFinalZeros text
  else
    let text := pointedDigits full digits
    (if full then text else withoutFinalZeros text) ++ exponentText letter power

/-- Hexadecimal digits. -/
def hexadecimalText (n : Nat) : Chars :=
  Nat.toDigits 16 n

/-- A number in hexadecimal digits with a power of two, without its sign. The first digit has so
many significant bits. -/
def hexadecimalDigits (leadingBits digits : Nat) (places : Option Nat) (pointed : Bool)
    (num den : Nat) : Chars :=
  let bits := leadingBits + 4 * (places.getD digits)
  let e := if num = 0 then 0 else scaleFor bits num den
  let (n, d) := Binary64.scaled num den e
  let m := Binary64.roundQuotient n d
  let (m, e) := if m = twoTo bits then (m / 2, e + 1) else (m, e)
  let text := hexadecimalText m
  let text := List.replicate (places.getD digits + 1 - text.length) '0' ++ text
  let power := if num = 0 then 0 else e + 4 * (places.getD digits)
  let shown := pointedDigits pointed text
  let shown := if places.isSome then shown else withoutFinalZeros shown
  let sign : Chars := if power < 0 then ['-'] else ['+']
  '0' :: 'x' :: shown ++ 'p' :: sign ++ Chars.ofNat power.natAbs

end Quantity

end Shakedown
