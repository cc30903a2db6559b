import Shakedown.Text.Numeral

/-!
# Escapes

What a backslash and the characters behind it stand for. Who reads escapes differs in a few points,
which an `EscapeStyle` tells.
-/

set_option autoImplicit false

namespace Shakedown

/-- Which escapes there are. -/
structure EscapeStyle where
  /-- Whether a zero may stand in front of three octal digits. -/
  zeroLeads : Bool
  /-- Whether octal digits stand for a character at all. -/
  octal : Bool := true
  /-- Whether `\x` stands in front of hexadecimal digits. -/
  hexadecimal : Bool
  /-- Whether `\x` without digits behind it is a mistake. -/
  demandsDigits : Bool := false
  /-- Whether `\c` ends all output. -/
  stops : Bool
  /-- Whether a quotation mark may be escaped. -/
  quotes : Bool := false

/-- What an escape stands for. -/
inductive Escape where
  /-- A character. -/
  | char (c : Char)
  /-- The end of all output. -/
  | stop
  /-- A backslash, since this is no escape. -/
  | literal
  /-- A mistake. -/
  | bad
  deriving DecidableEq, Repr

namespace Escape

/-- The characters that letters behind a backslash stand for. -/
def letters : List (Char × Char) :=
  [('a', '\x07'), ('b', '\x08'), ('e', '\x1b'), ('f', '\x0c'), ('n', '\n'), ('r', '\r'),
    ('t', '\t'), ('v', '\x0b'), ('\\', '\\')]

/-- The byte of a number, as a character. -/
def byte (n : Nat) : Char :=
  .ofNat (n % 256)

/-- The character of up to so many digits of a base at the beginning of a text, and the rest. -/
def numbered (base count : Nat) (s : Chars) : Escape × Chars :=
  let digits := (s.take count).takeWhile (Numeral.isDigitOf base)
  (.char (byte (Numeral.numberOf base digits)), s.drop digits.length)

/-- The escape at the beginning of a text behind its backslash, and the rest. -/
def read (style : EscapeStyle) (s : Chars) : Escape × Chars :=
  match s with
  | [] => (.literal, [])
  | c :: more =>
    if style.stops && c = 'c' then (.stop, more)
    else if style.octal && style.zeroLeads && c = '0' then numbered 8 3 more
    else if style.octal && Numeral.isDigitOf 8 c then numbered 8 3 s
    else if style.hexadecimal && c = 'x' then
      if more.head?.any (Numeral.isDigitOf 16) then numbered 16 2 more
      else (if style.demandsDigits then .bad else .literal, s)
    else if style.quotes && c = '"' then (.char '"', more)
    else match letters.lookup c with
      | some d => (.char d, more)
      | none => (.literal, s)

/-- How the reading of a text with escapes ends. -/
inductive Ending where
  /-- With the text. -/
  | over
  /-- With an escape that ends all output. -/
  | stopped
  /-- With a mistake. -/
  | broken
  deriving DecidableEq, Repr

/-- The text that a text with escapes stands for, of which so many characters are read at most, and
how it ends. -/
def expandWithin (style : EscapeStyle) : Nat → Chars → Chars × Ending
  | 0, _ => ([], .over)
  | _ + 1, [] => ([], .over)
  | n + 1, c :: more =>
    if c = '\\' then
      match read style more with
      | (.char d, rest) =>
        let (text, ending) := expandWithin style n rest
        (d :: text, ending)
      | (.stop, _) => ([], .stopped)
      | (.bad, _) => ([], .broken)
      | (.literal, rest) =>
        let (text, ending) := expandWithin style n rest
        ('\\' :: text, ending)
    else
      let (text, ending) := expandWithin style n more
      (c :: text, ending)

/-- The text that a text with escapes stands for, and how it ends. A backslash that begins no escape
stands for itself, and so does what is behind it. -/
def expand (style : EscapeStyle) (s : Chars) : Chars × Ending :=
  expandWithin style (s.length + 1) s

end Escape

end Shakedown
