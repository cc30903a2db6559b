/-!
# Binary floating-point numbers in natural arithmetic

The finite magnitudes of the 64-bit binary format as `mantissa * 2 ^ exponent`, with rounding to the
nearest one and ties to the even mantissa. Multiplication and division round the exact result. All
of it is arithmetic of natural numbers, so it can be reasoned about.
-/

set_option autoImplicit false

namespace Shakedown

/-- A power of two. -/
def twoTo (exponent : Nat) : Nat :=
  Nat.pow 2 exponent

/-- A power of ten. -/
def tenTo (exponent : Nat) : Nat :=
  Nat.pow 10 exponent

/-- A finite number of the 64-bit binary format. -/
structure Binary64 where
  /-- Whether the sign is set. -/
  negative : Bool
  /-- The integral significand, below 2^53. -/
  mantissa : Nat
  /-- The power of two that it is scaled by. -/
  exponent : Int
  deriving DecidableEq, Repr

namespace Binary64

/-- The least exponent of the format. -/
def minExponent : Int := -1074

/-- The greatest exponent of the format. -/
def maxExponent : Int := 971

/-- Zero. -/
def zero : Binary64 := ⟨false, 0, minExponent⟩

/-- The fraction `num / den * 2 ^ (-e)` as a numerator and a denominator. -/
def scaled (num den : Nat) (e : Int) : Nat × Nat :=
  if 0 ≤ e then (num, den * twoTo e.toNat) else (num * twoTo (-e).toNat, den)

/-- A quotient rounded to the nearest natural number, a tie to the even one. -/
def roundQuotient (num den : Nat) : Nat :=
  let q := num / den
  let r := num % den
  if 2 * r < den then q
  else if den < 2 * r then q + 1
  else if q % 2 = 0 then q else q + 1

/-- The exponent at which a positive fraction has 53 significant bits, or the least one. -/
def exponentFor (num den : Nat) : Int :=
  let guess : Int := (num.log2 : Int) - den.log2 - 53
  let e := [guess, guess + 1, guess + 2].find? fun e =>
    let (n, d) := scaled num den e
    n < twoTo 53 * d
  max minExponent (e.getD guess)

/-- The number of the format nearest to a fraction; none if that overflows. -/
def ofFraction (num den : Nat) : Option Binary64 :=
  if num = 0 then some zero
  else
    let e := exponentFor num den
    let (n, d) := scaled num den e
    let m := roundQuotient n d
    let (m, e) := if m = twoTo 53 then (twoTo 52, e + 1) else (m, e)
    if maxExponent < e then none else some ⟨false, m, e⟩

/-- The magnitude as a fraction. -/
def fraction (x : Binary64) : Nat × Nat :=
  if 0 ≤ x.exponent then (x.mantissa * twoTo x.exponent.toNat, 1)
  else (x.mantissa, twoTo (-x.exponent).toNat)

/-- The product of two magnitudes, rounded. -/
def mul (x y : Binary64) : Option Binary64 :=
  ofFraction (x.fraction.1 * y.fraction.1) (x.fraction.2 * y.fraction.2)

/-- The quotient of two magnitudes, rounded. -/
def div (x y : Binary64) : Option Binary64 :=
  ofFraction (x.fraction.1 * y.fraction.2) (x.fraction.2 * y.fraction.1)

/-- The number with a sign. -/
def withSign (x : Binary64) (negative : Bool) : Binary64 :=
  { x with negative }

/-- The number nearest to `digits * 10 ^ power`; none if that overflows. -/
def ofDecimal (digits : Nat) (power : Int) : Option Binary64 :=
  if 0 ≤ power then ofFraction (digits * tenTo power.toNat) 1
  else ofFraction digits (tenTo (-power).toNat)

end Binary64

end Shakedown
