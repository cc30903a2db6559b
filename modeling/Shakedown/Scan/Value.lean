import Shakedown.Text.Directive

/-!
# Values of scanning scripts

A value is a number or a text. Text that came from outside counts as a number where it looks like
one, and a variable that was never set is both the empty text and zero.
-/

set_option autoImplicit false

namespace Shakedown.Scan

/-- A value. -/
inductive Value where
  /-- Nothing yet. -/
  | unset
  /-- A number. -/
  | number (x : Float)
  /-- A text. -/
  | text (s : Chars)
  /-- A text from outside. -/
  | input (s : Chars)
  deriving Inhabited

/-! ## Numbers as text -/

/-- The powers of ten that make a difference. -/
def powerBound : Int := 400

/-- The number of a reading. -/
def ofReading : Numeral.Reading → Float
  | .infinite negative => if negative then -(1.0 / 0.0) else 1.0 / 0.0
  | .undefined _ => 0.0 / 0.0
  | .finite negative base digits power =>
    let size := power + (Chars.ofNat digits).length
    let x : Float :=
      if digits = 0 || size < -powerBound then 0.0
      else if base = 10 then
        if size > powerBound then 1.0 / 0.0
        else Float.ofScientific digits (power < 0) power.natAbs
      else (Float.ofNat digits).scaleB power
    if negative then -x else x

/-- The number that a text begins with; zero if there is none. -/
def leadingFloat (s : Chars) : Float :=
  match Numeral.leadingReading? s with
  | some (r, _) => ofReading r
  | none => 0.0

/-- Whether a text is a number with nothing but blanks around it. -/
def looksNumeric (s : Chars) : Bool :=
  match Numeral.leadingReading? s with
  | some (_, rest) => rest.all Chars.isSpace
  | none => false

/-- What a number is to be written as; one that is undefined has a sign. -/
def quantityOf (x : Float) : Quantity :=
  match Quantity.ofFloat x with
  | .undefined _ => .undefined true
  | q => q

/-- The number without its fraction; what is beyond all integers of 64 bits is cut. -/
def wholePart (x : Float) : Int :=
  match Quantity.ofFloat x with
  | .finite negative num den => Numeral.signed negative (num / den)
  | .infinite negative => Numeral.signed negative Numeral.largest
  | .undefined _ => -(Numeral.largest : Int) - 1

/-- Below which size whole numbers are written with all their digits. -/
def wholeLimit : Nat := 18446744073709551616

/-- The digits of a number without a fraction that is not too large. -/
def wholeText? (x : Float) : Option Chars :=
  match Quantity.ofFloat x with
  | .finite negative num den =>
    if num % den = 0 && num / den < wholeLimit then
      some (Chars.ofInt (Numeral.signed negative (num / den)))
    else none
  | _ => none

/-- A number as a directive writes it. -/
def formatted (format : Chars) (x : Float) : Chars :=
  let front := format.takeWhile (· ≠ '%')
  let (s, rest) := Specification.read ['l'] (format.drop (front.length + 1))
  let amount (m : Measure) : Option Nat := match m with
    | .given n => some n
    | _ => none
  let d : Directive :=
    { flags := s.flags, width := (amount s.width).getD 0, precision := amount s.precision
      letter := s.letter.getD 'g' }
  let shown := if "di".toList.contains d.letter then d.integer (wholePart x)
    else d.quantity .double (quantityOf x)
  front ++ shown ++ rest

/-- A number as text: its digits if it is whole, otherwise as a format says. -/
def numberText (format : Chars) (x : Float) : Chars :=
  (wholeText? x).getD (formatted format x)

namespace Value

/-- A value as a number. -/
def toFloat : Value → Float
  | .unset => 0.0
  | .number x => x
  | .text s => leadingFloat s
  | .input s => leadingFloat s

/-- A value as text, numbers as a format says. -/
def toChars (format : Chars) : Value → Chars
  | .unset => []
  | .number x => numberText format x
  | .text s => s
  | .input s => s

/-- Whether a value counts as a number in a comparison. -/
def isNumeric : Value → Bool
  | .unset => true
  | .number _ => true
  | .text _ => false
  | .input s => looksNumeric s

/-- Whether a value counts as true. -/
def isTrue : Value → Bool
  | .unset => false
  | .number x => x != 0.0
  | .text s => !s.isEmpty
  | .input s => if looksNumeric s then leadingFloat s != 0.0 else !s.isEmpty

/-- The number for a truth. -/
def ofBool (b : Bool) : Value :=
  .number (if b then 1.0 else 0.0)

/-- The number for a natural number. -/
def ofNat (n : Nat) : Value :=
  .number (Float.ofNat n)

/-- The number for an integer. -/
def ofInt (i : Int) : Value :=
  .number (Float.ofInt i)

end Value

/-- How two values are compared. -/
inductive Comparison where
  /-- Smaller. -/
  | less
  /-- Not larger. -/
  | atMost
  /-- Equal. -/
  | equal
  /-- Not equal. -/
  | different
  /-- Not smaller. -/
  | atLeast
  /-- Larger. -/
  | greater
  deriving DecidableEq, Repr

/-- Whether two numbers compare so. -/
def Comparison.ofNumbers (c : Comparison) (x y : Float) : Bool :=
  match c with
  | .less => x < y
  | .atMost => x ≤ y
  | .equal => x == y
  | .different => x != y
  | .atLeast => y ≤ x
  | .greater => y < x

/-- Whether two texts compare so. -/
def Comparison.ofTexts (c : Comparison) (s t : Chars) : Bool :=
  match c with
  | .less => Chars.before s t
  | .atMost => !Chars.before t s
  | .equal => s = t
  | .different => s ≠ t
  | .atLeast => !Chars.before s t
  | .greater => Chars.before t s

/-- Whether two values compare so: as numbers if both count as some. -/
def Comparison.holds (c : Comparison) (format : Chars) (a b : Value) : Bool :=
  if a.isNumeric && b.isNumeric then c.ofNumbers a.toFloat b.toFloat
  else c.ofTexts (a.toChars format) (b.toChars format)

/-! ## Arithmetic -/

/-- An operation on two numbers. -/
inductive Operation where
  /-- Sum. -/
  | plus
  /-- Difference. -/
  | minus
  /-- Product. -/
  | times
  /-- Quotient. -/
  | divide
  /-- Remainder, with the sign of the first number. -/
  | modulo
  /-- Power. -/
  | power
  deriving DecidableEq, Repr

/-- The remainder of two numbers. -/
def remainder (x y : Float) : Float :=
  match Quantity.ofFloat x, Quantity.ofFloat y with
  | .finite negative a b, .finite _ c d =>
    if c = 0 then 0.0 / 0.0
    else
      let rest := (a * d) % (c * b)
      let value := Float.ofNat rest / Float.ofNat (b * d)
      let exact := if b = 1 && d = 1 then Float.ofNat rest else value
      if negative then -exact else exact
  | .finite .., .infinite _ => x
  | _, _ => 0.0 / 0.0

/-- The result of an operation. -/
def Operation.apply (o : Operation) (x y : Float) : Float :=
  match o with
  | .plus => x + y
  | .minus => x - y
  | .times => x * y
  | .divide => x / y
  | .modulo => remainder x y
  | .power => x.pow y

end Shakedown.Scan
