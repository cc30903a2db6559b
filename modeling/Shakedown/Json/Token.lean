import Shakedown.Number.Shortest

/-!
# Lexemes of JSON text

Text is cut into lexemes from left to right. Where it is malformed the list ends with `broken`, so
whoever reads the list meets the first problem at its place and never looks behind it.

Two things are well-formed but have no value: a text with half of a surrogate pair, and a number
beyond the floating-point range. They are kept as such, because they are an error only for a reader
who wants the value.
-/

set_option autoImplicit false

namespace Shakedown.Json

/-- A number as it is read. -/
inductive Number where
  /-- A natural number below 2^64. -/
  | natural (n : Nat)
  /-- The negative of a number between 1 and 2^63. -/
  | negative (n : Nat)
  /-- Any number with a point or an exponent, minus zero, and integers out of the two ranges. -/
  | float (x : Binary64)
  /-- Beyond the floating-point range. -/
  | outOfRange
  deriving DecidableEq, Repr

/-- A document without parts. -/
inductive Scalar where
  /-- `null` -/
  | null
  /-- `true` or `false` -/
  | bool (b : Bool)
  /-- A number. -/
  | number (n : Number)
  /-- A text; none if it holds half of a surrogate pair. -/
  | text (s : Option String)
  deriving DecidableEq, Repr

/-- A lexeme. -/
inductive Token where
  /-- A document without parts. -/
  | scalar (s : Scalar)
  /-- `[` -/
  | listStart
  /-- `]` -/
  | listEnd
  /-- A left brace. -/
  | objectStart
  /-- A right brace. -/
  | objectEnd
  /-- `,` -/
  | comma
  /-- `:` -/
  | colon
  /-- Malformed text from here on. -/
  | broken
  deriving DecidableEq, Repr

/-! ## Numbers -/

/-- The greatest significand that is kept exactly. -/
def significandLimit : Nat := twoTo 64 - 1

/-- A significand with one more digit. -/
def appendDigit (significand : Nat) (c : Char) : Nat :=
  significand * 10 + (c.toNat - '0'.toNat)

/-- The significand of the digits before the point, and how many of them no longer fitted. -/
def wholePart : List Char → Nat → Nat × Nat
  | [], s => (s, 0)
  | c :: r, s =>
    if appendDigit s c ≤ significandLimit then wholePart r (appendDigit s c) else (s, r.length + 1)

/-- The significand after the digits behind the point that still fit, and how many those are. -/
def fractionPart : List Char → Nat → Nat → Nat × Nat
  | [], s, n => (s, n)
  | c :: r, s, n =>
    if appendDigit s c ≤ significandLimit then fractionPart r (appendDigit s c) (n + 1) else (s, n)

/-- The greatest power of ten that one step scales by. -/
def powerLimit : Nat := 308

/-- A number scaled down by a power of ten in steps the format can hold. -/
def scaleDown : Nat → Binary64 → Nat → Binary64
  | 0, _, _ => .zero
  | steps + 1, x, power =>
    if x.mantissa = 0 then .zero
    else if power ≤ powerLimit then
      ((Binary64.ofDecimal 1 power).bind (x.div ·)).getD .zero
    else
      scaleDown steps (((Binary64.ofDecimal 1 powerLimit).bind (x.div ·)).getD .zero)
        (power - powerLimit)

/-- `significand * 10 ^ power` as a floating-point number, reached by rounding the significand and
then scaling it; none if that leaves the range. -/
def floatOf (significand : Nat) (power : Int) : Option Binary64 :=
  match Binary64.ofFraction significand 1 with
  | none => none
  | some x =>
    if power < 0 then some (scaleDown 4 x (-power).toNat)
    else if power ≤ powerLimit then (Binary64.ofDecimal 1 power).bind (x.mul ·)
    else if significand = 0 then some .zero
    else none

/-- The value of digits as a number. -/
def digitsValue (digits : List Char) : Nat :=
  Nat.ofDigitChars 10 digits 0

/-- The parts of a number as written. -/
structure NumberParts where
  /-- A leading minus sign. -/
  negative : Bool
  /-- Digits before the point. -/
  whole : List Char
  /-- Digits behind the point, if there is one. -/
  fraction : Option (List Char)
  /-- The exponent, if there is one. -/
  exponent : Option Int
  deriving DecidableEq, Repr

/-- The number that the parts make up. -/
def NumberParts.value (p : NumberParts) : Number :=
  let (s, dropped) := wholePart p.whole 0
  if p.fraction = none ∧ p.exponent = none ∧ dropped = 0 then
    if !p.negative then .natural s
    else if 0 < s ∧ s ≤ twoTo 63 then .negative s
    else match Binary64.ofFraction s 1 with
      | some x => .float (x.withSign true)
      | none => .outOfRange
  else
    let (s, kept) := fractionPart (p.fraction.getD []) s 0
    match floatOf s (dropped - kept + p.exponent.getD 0) with
    | some x => .float (x.withSign p.negative)
    | none => .outOfRange

/-- The digits at the start of a text, and what follows them. -/
def takeDigits (cs : List Char) : List Char × List Char :=
  cs.span Char.isDigit

/-- An exponent at the start of a text: none if there is none, an inner none if it is malformed. -/
def takeExponent : List Char → Option (Option Int × List Char)
  | c :: r =>
    if c = 'e' ∨ c = 'E' then
      let (negative, r) := match r with
        | '+' :: r => (false, r)
        | '-' :: r => (true, r)
        | r => (false, r)
      let (digits, r) := takeDigits r
      if digits = [] then none
      else
        let n : Int := digitsValue digits
        some (some (if negative then -n else n), r)
    else some (none, c :: r)
  | [] => some (none, [])

/-- A fraction at the start of a text: an outer none if it is malformed. -/
def takeFraction : List Char → Option (Option (List Char) × List Char)
  | '.' :: r =>
    let (digits, r) := takeDigits r
    if digits = [] then none else some (some digits, r)
  | r => some (none, r)

/-- A number at the start of a text, if it is well-formed. -/
def takeNumber (cs : List Char) : Option (NumberParts × List Char) :=
  let (negative, cs) := match cs with
    | '-' :: r => (true, r)
    | r => (false, r)
  let (whole, r) := takeDigits cs
  if whole = [] ∨ (whole.length > 1 ∧ whole.head? = some '0') then none
  else match takeFraction r with
    | none => none
    | some (fraction, r) =>
      match takeExponent r with
      | none => none
      | some (exponent, r) => some (⟨negative, whole, fraction, exponent⟩, r)

/-! ## Texts -/

/-- A piece of a text: a character as it stands, or a sixteen-bit unit from an escape. -/
inductive Piece where
  | char (c : Char)
  | unit (n : Nat)
  deriving DecidableEq, Repr

/-- The value of a hexadecimal digit. -/
def hexValue? (c : Char) : Option Nat :=
  if c.isDigit then some (c.toNat - '0'.toNat)
  else if 'a' ≤ c ∧ c ≤ 'f' then some (c.toNat - 'a'.toNat + 10)
  else if 'A' ≤ c ∧ c ≤ 'F' then some (c.toNat - 'A'.toNat + 10)
  else none

/-- The value of four hexadecimal digits. -/
def hexUnit? (a b c d : Char) : Option Nat :=
  match hexValue? a, hexValue? b, hexValue? c, hexValue? d with
  | some a, some b, some c, some d => some (((a * 16 + b) * 16 + c) * 16 + d)
  | _, _, _, _ => none

/-- The character of a one-letter escape. -/
def escaped? (c : Char) : Option Char :=
  if c = '"' ∨ c = '\\' ∨ c = '/' then some c
  else if c = 'b' then some '\x08'
  else if c = 'f' then some '\x0c'
  else if c = 'n' then some '\n'
  else if c = 'r' then some '\r'
  else if c = 't' then some '\t'
  else none

/-- A piece put before what is read of a text. -/
def Piece.before (p : Piece) (r : Option (List Piece × List Char)) :
    Option (List Piece × List Char) :=
  r.map fun (ps, rest) => (p :: ps, rest)

/-- The pieces of a text up to its closing quote, and what follows that; none if it is malformed or
does not end. -/
def takePieces : List Char → Option (List Piece × List Char)
  | [] => none
  | '"' :: r => some ([], r)
  | '\\' :: 'u' :: a :: b :: c :: d :: r =>
    match hexUnit? a b c d with
    | some n => (Piece.unit n).before (takePieces r)
    | none => none
  | '\\' :: c :: r =>
    match escaped? c with
    | some e => (Piece.char e).before (takePieces r)
    | none => none
  | c :: r =>
    if c = '\\' ∨ c.toNat < 0x20 then none else (Piece.char c).before (takePieces r)

/-- Whether a unit is the first half of a surrogate pair. -/
def isHighSurrogate (n : Nat) : Bool :=
  0xD800 ≤ n && n ≤ 0xDBFF

/-- Whether a unit is the second half of a surrogate pair. -/
def isLowSurrogate (n : Nat) : Bool :=
  0xDC00 ≤ n && n ≤ 0xDFFF

/-- The characters of pieces; none if half of a surrogate pair stands alone. -/
def joinPieces : List Piece → Option (List Char)
  | [] => some []
  | .char c :: r => (joinPieces r).map (c :: ·)
  | .unit n :: r =>
    if isHighSurrogate n then
      match r with
      | .unit m :: r =>
        if isLowSurrogate m then
          (joinPieces r).map
            (Char.ofNat (0x10000 + (n - 0xD800) * 0x400 + (m - 0xDC00)) :: ·)
        else none
      | _ => none
    else if isLowSurrogate n then none
    else (joinPieces r).map (Char.ofNat n :: ·)

/-! ## Lexemes -/

/-- Whether a character may stand between lexemes. -/
def isSpace (c : Char) : Bool :=
  c = ' ' || c = '\n' || c = '\t' || c = '\r'

/-- What a text must go on with to be a word, and the lexeme it then is. -/
def takeWord (word : List Char) (s : Scalar) (cs : List Char) : Option (Token × List Char) :=
  if word.isPrefixOf cs then some (.scalar s, cs.drop word.length) else none

/-- The lexeme at the start of a text that starts with no space; none if it is malformed. -/
def takeToken : List Char → Option (Token × List Char)
  | [] => none
  | '[' :: r => some (.listStart, r)
  | ']' :: r => some (.listEnd, r)
  | '{' :: r => some (.objectStart, r)
  | '}' :: r => some (.objectEnd, r)
  | ',' :: r => some (.comma, r)
  | ':' :: r => some (.colon, r)
  | '"' :: r =>
    (takePieces r).map fun (ps, r) => (.scalar (.text ((joinPieces ps).map String.ofList)), r)
  | 'n' :: r => takeWord ['u', 'l', 'l'] .null r
  | 't' :: r => takeWord ['r', 'u', 'e'] (.bool true) r
  | 'f' :: r => takeWord ['a', 'l', 's', 'e'] (.bool false) r
  | cs => (takeNumber cs).map fun (n, r) => (.scalar (.number n.value), r)

/-- The lexemes of a text; every one takes a character at least, so `fuel` of its length is
enough. -/
def tokensWith : Nat → List Char → List Token
  | 0, _ => []
  | _ + 1, [] => []
  | fuel + 1, c :: r =>
    if isSpace c then tokensWith fuel r
    else match takeToken (c :: r) with
      | none => [.broken]
      | some (t, rest) => t :: tokensWith fuel rest

/-- The lexemes of a text. -/
def tokens (cs : List Char) : List Token :=
  tokensWith cs.length cs

end Shakedown.Json
