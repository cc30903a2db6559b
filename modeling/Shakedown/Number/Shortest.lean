import Shakedown.Number.Binary64

/-!
# The shortest decimal of a binary number

The decimal with the fewest digits that rounds back to a binary number, and of those the one nearest
to it. For one digit, then two, up to seventeen, the two neighbours of the value on that decimal
grid are tried against the interval of reals that round to the number; the first grid with a hit
wins.

Two spellings are written from it: a positional one, and one that turns to an exponent for large and
small numbers.
-/

set_option autoImplicit false

namespace Shakedown

/-- A decimal `digits * 10 ^ power`. -/
structure Decimal where
  /-- The significant digits as one number. -/
  digits : Nat
  /-- The power of ten of the last digit. -/
  power : Int
  deriving DecidableEq, Repr

namespace Decimal

/-- The decimal as a fraction. -/
def fraction (d : Decimal) : Nat × Nat :=
  if 0 ≤ d.power then (d.digits * tenTo d.power.toNat, 1)
  else (d.digits, tenTo (-d.power).toNat)

/-- The decimal with no zero at its end. -/
def trimmed : Nat → Decimal → Decimal
  | 0, d => d
  | n + 1, d =>
    if d.digits ≠ 0 ∧ d.digits % 10 = 0 then trimmed n ⟨d.digits / 10, d.power + 1⟩ else d

end Decimal

namespace Binary64

/-- Whether a decimal rounds to the magnitude of `x`. -/
def reads (x : Binary64) (d : Decimal) : Bool :=
  Binary64.ofDecimal d.digits d.power = some (x.withSign false)

/-- The distance of a decimal from the magnitude of `x`, as a fraction over a denominator that all
decimals of one power share. -/
def distance (x : Binary64) (d : Decimal) : Nat :=
  let (n, m) := x.fraction
  let (k, l) := d.fraction
  (n * l - k * m) + (k * m - n * l)

/-- The power of ten of the first digit of a positive fraction. -/
def leadingPower (num den : Nat) : Int :=
  if den ≤ num then ((Nat.toDigits 10 (num / den)).length : Int) - 1
  else -((Nat.toDigits 10 ((den - 1) / num)).length : Int)

/-- The best decimal with `count` digits that reads back as `x`, if there is one. -/
def withDigits (x : Binary64) (count : Nat) : Option Decimal :=
  let (n, d) := x.fraction
  let power := leadingPower n d - (count : Int) + 1
  let below := if 0 ≤ power then n / (d * tenTo power.toNat) else n * tenTo (-power).toNat / d
  let low : Decimal := ⟨below, power⟩
  let high : Decimal := ⟨below + 1, power⟩
  match x.reads low, x.reads high with
  | true, true =>
    let a := x.distance low
    let b := x.distance high
    some (if a < b ∨ (a = b ∧ below % 2 = 0) then low else high)
  | true, false => some low
  | false, true => some high
  | false, false => none

/-- The decimal with the fewest digits that reads back as `x`, and of those the nearest. -/
def shortest (x : Binary64) : Decimal :=
  if x.mantissa = 0 then ⟨0, 0⟩
  else
    match (List.range 17).findSome? fun n => x.withDigits (n + 1) with
    | some d => d.trimmed 20
    | none => ⟨x.mantissa, x.exponent⟩

/-- The sign of a number as text. -/
def signText (x : Binary64) : List Char :=
  if x.negative then ['-'] else []

/-- Digits with the point after the first `point` of them, zeros filled in, at least one digit on
each side. -/
def pointed (digits : List Char) (point : Int) : List Char :=
  if point ≤ 0 then
    '0' :: '.' :: (List.replicate (-point).toNat '0' ++ digits)
  else
    let n := point.toNat
    if digits.length ≤ n then
      digits ++ List.replicate (n - digits.length) '0' ++ ['.', '0']
    else digits.take n ++ '.' :: digits.drop n

/-- The number without an exponent. -/
def positional (x : Binary64) : String :=
  let d := x.shortest
  let digits := Nat.toDigits 10 d.digits
  String.ofList (x.signText ++ pointed digits (digits.length + d.power))

/-- The number with a signed exponent where its point would stand more than sixteen digits to the
right or more than five to the left. -/
def scientific (x : Binary64) : String :=
  let d := x.shortest
  let digits := Nat.toDigits 10 d.digits
  let point : Int := digits.length + d.power
  let body :=
    if x.mantissa = 0 then ['0', '.', '0']
    else if -5 < point ∧ point ≤ 16 then pointed digits point
    else
      let mantissa := match digits with
        | [] => []
        | [c] => [c]
        | c :: more => c :: '.' :: more
      let e := point - 1
      mantissa ++ 'e' :: (if e < 0 then '-' else '+') :: Nat.toDigits 10 e.natAbs
  String.ofList (x.signText ++ body)

end Binary64

end Shakedown
