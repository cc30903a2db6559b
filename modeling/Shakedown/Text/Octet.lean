import Shakedown.Text.Utf8

/-!
# Texts whose characters are bytes

Scripts, the arguments of programs and what programs write are byte strings that are mostly read as
text. A text of this kind holds each byte as the character of its number, so that it can be compared
with letters and needs no decoding.

Main statement: `toBytes_ofBytes`, nothing is lost on the way to characters and back.
-/

set_option autoImplicit false

namespace Shakedown

/-- Characters that each stand for one byte. -/
abbrev Chars := List Char

namespace Chars

/-- The characters of bytes. -/
def ofBytes (b : Bytes) : Chars :=
  b.map fun x => Char.ofNat x.toNat

/-- The bytes that characters stand for. -/
def toBytes (s : Chars) : Bytes :=
  s.map fun c => .ofNat c.toNat

/-- The bytes of a text, as characters. -/
def ofString (s : String) : Chars :=
  ofBytes (Utf8.bytes s)

/-- A newline. -/
def newline : Chars := ['\n']

/-- A number in decimal digits. -/
def ofNat (n : Nat) : Chars :=
  (Nat.repr n).toList

/-- An integer in decimal digits, with a sign if it is negative. -/
def ofInt (i : Int) : Chars :=
  (toString i).toList

/-- Texts with another between each two. -/
def joined (separator : Chars) (parts : List Chars) : Chars :=
  separator.intercalate parts

/-- Texts with a space between each two. -/
def spaced (parts : List Chars) : Chars :=
  joined [' '] parts

/-- A text cut at every occurrence of a character. -/
def splitAt (separator : Char) : Chars → List Chars
  | [] => [[]]
  | c :: r =>
    if c = separator then [] :: splitAt separator r
    else match splitAt separator r with
      | [] => [[c]]
      | s :: more => (c :: s) :: more

/-- The lines of a text; a newline ends a line, and a last line may go without. -/
def lines (s : Chars) : List Chars :=
  match s with
  | [] => []
  | _ => splitAt '\n' (if s.getLast? = some '\n' then s.dropLast else s)

/-- Every text with a newline behind it. -/
def ofLines (l : List Chars) : Chars :=
  l.flatMap (· ++ newline)

/-- A text with spaces in front of it up to a width. -/
def padLeft (width : Nat) (s : Chars) : Chars :=
  List.replicate (width - s.length) ' ' ++ s

/-- A text with spaces behind it up to a width. -/
def padRight (width : Nat) (s : Chars) : Chars :=
  s ++ List.replicate (width - s.length) ' '

/-- A text in apostrophes. -/
def quoted (s : Chars) : Chars :=
  '\'' :: s ++ ['\'']

/-- Whether a text comes before another byte by byte. -/
def before : Chars → Chars → Bool
  | [], [] => false
  | [], _ :: _ => true
  | _ :: _, [] => false
  | a :: s, b :: t => if a = b then before s t else decide (a < b)

/-- The value of a decimal digit. -/
def digit? (c : Char) : Option Nat :=
  if c.isDigit then some (c.toNat - '0'.toNat) else none

/-- The number that a text is the decimal form of. -/
def decimal? (s : Chars) : Option Nat :=
  if s.isEmpty || s.any (!·.isDigit) then none
  else some (s.foldl (fun n c => 10 * n + (c.toNat - '0'.toNat)) 0)

/-- Whether a character is a blank, a tab or one of the four vertical moves. -/
def isSpace (c : Char) : Bool :=
  c = ' ' || ('\t' ≤ c && c ≤ '\r')

/-- The parts of a text between blanks. -/
def fields (isGap : Char → Bool) (s : Chars) : List Chars :=
  (s.splitBy fun a b => isGap a = isGap b).filter fun part => !part.any isGap

/-- A byte is the number of its character. -/
theorem toNat_charOfByte (x : UInt8) : (Char.ofNat x.toNat).toNat = x.toNat := by
  have hx : x.toNat < 256 := x.toNat_lt
  have hv : x.toNat.isValidChar := Or.inl (by omega)
  unfold Char.ofNat
  rw [dif_pos hv]
  rfl

/-- Nothing is lost on the way to characters and back. -/
@[simp]
theorem toBytes_ofBytes (b : Bytes) : toBytes (ofBytes b) = b := by
  induction b with
  | nil => rfl
  | cons x more ih =>
    have h : UInt8.ofNat (Char.ofNat x.toNat).toNat = x := by
      rw [toNat_charOfByte]
      exact UInt8.ofNat_toNat
    simp only [toBytes, ofBytes, List.map_cons] at ih ⊢
    rw [h, ih]

end Chars

end Shakedown
