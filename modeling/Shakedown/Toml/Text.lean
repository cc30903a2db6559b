/-!
# Quoted text in TOML

A text is quoted in one of four ways: basic or literal, on one line or over several. Basic texts
have escapes, literal texts stand for themselves. A newline right after the opening quotes of a text
over several lines does not count, and up to two quotes may stand right before its closing quotes.

Each reader starts behind the opening quotes and answers the text together with what follows the
closing quotes, or nothing if the text is malformed or does not end.
-/

set_option autoImplicit false

namespace Shakedown.Toml

/-- What was read, and what follows it. -/
abbrev Reading (α : Type) := Option (α × List Char)

namespace Reading

/-- A character in front of the text that was read. -/
def push (c : Char) : Reading (List Char) → Reading (List Char)
  | none => none
  | some (text, rest) => some (c :: text, rest)

end Reading

/-- Whether a character is a space or a tab. -/
def isGap (c : Char) : Bool :=
  c = ' ' || c = '\t'

/-- Whether a character stands for itself in a comment or a text: a tab, or one that is no ASCII
control character. -/
def isPlain (c : Char) : Bool :=
  c = '\t' || (0x20 ≤ c.toNat && c.toNat ≠ 0x7F)

/-- The value of a hexadecimal digit. -/
def hexValue? (c : Char) : Option Nat :=
  if '0' ≤ c ∧ c ≤ '9' then some (c.toNat - '0'.toNat)
  else if 'a' ≤ c ∧ c ≤ 'f' then some (c.toNat - 'a'.toNat + 10)
  else if 'A' ≤ c ∧ c ≤ 'F' then some (c.toNat - 'A'.toNat + 10)
  else none

/-- The value of hexadecimal digits behind a value already read. -/
def hexNumber? : Nat → List Char → Option Nat
  | n, [] => some n
  | n, c :: more =>
    match hexValue? c with
    | none => none
    | some d => hexNumber? (16 * n + d) more

/-- The character with a code point written in hexadecimal digits. -/
def codePoint? (digits : List Char) : Option Char :=
  match hexNumber? 0 digits with
  | none => none
  | some n => if n.isValidChar then some (Char.ofNat n) else none

/-- The character that a backslash and a letter stand for. -/
def escaped? (c : Char) : Option Char :=
  if c = 'b' then some '\x08'
  else if c = 't' then some '\t'
  else if c = 'n' then some '\n'
  else if c = 'f' then some '\x0c'
  else if c = 'r' then some '\r'
  else if c = '"' then some '"'
  else if c = '\\' then some '\\'
  else none

/-- An escape that was read, in front of the rest of the text. -/
def pushEscape (c : Option Char) (text : Reading (List Char)) : Reading (List Char) :=
  match c with
  | none => none
  | some c => text.push c

/-- A basic text on one line. -/
def basicText : List Char → Reading (List Char)
  | [] => none
  | '"' :: rest => some ([], rest)
  | '\\' :: 'u' :: a :: b :: c :: d :: rest =>
    pushEscape (codePoint? [a, b, c, d]) (basicText rest)
  | '\\' :: 'U' :: a :: b :: c :: d :: e :: f :: g :: h :: rest =>
    pushEscape (codePoint? [a, b, c, d, e, f, g, h]) (basicText rest)
  | '\\' :: c :: rest => pushEscape (escaped? c) (basicText rest)
  | c :: rest => if isPlain c && c ≠ '\\' then (basicText rest).push c else none

/-- A literal text on one line. -/
def literalText : List Char → Reading (List Char)
  | [] => none
  | c :: rest =>
    if c = '\'' then some ([], rest)
    else if isPlain c then (literalText rest).push c
    else none

/-- The quotes that stand right before the closing quotes, when one triple of quotes is read: of two
or more further quotes, two belong to the text. -/
def trailingQuotes (quote : Char) (rest : List Char) : List Char × List Char :=
  match rest with
  | a :: b :: more =>
    if a = quote then (if b = quote then ([a, b], more) else ([a], b :: more)) else ([], rest)
  | [a] => if a = quote then ([a], []) else ([], rest)
  | [] => ([], [])

/-- Where the reader of a basic text over several lines stands. -/
inductive Fold where
  /-- Within the text. -/
  | inText
  /-- Behind a backslash and spaces: the line must end. -/
  | lineMustEnd
  /-- Behind the end of such a line: white space does not count. -/
  | skipping
  deriving DecidableEq, Repr

/-- A space, a tab or a newline in a basic text over several lines. -/
def Fold.pushSpace (f : Fold) (c : Char) (text : Reading (List Char)) : Reading (List Char) :=
  if f = .inText then text.push c else text

/-- Where the reader stands behind a newline. -/
def Fold.afterNewline (f : Fold) : Fold :=
  if f = .inText then .inText else .skipping

/-- Where the reader stands behind a backslash and white space. -/
def Fold.ofSpace (c : Char) : Fold :=
  if c = '\n' then .skipping else .lineMustEnd

/-- A basic text over several lines. -/
def basicLines (f : Fold) : List Char → Reading (List Char)
  | [] => none
  | ' ' :: rest => f.pushSpace ' ' (basicLines f rest)
  | '\t' :: rest => f.pushSpace '\t' (basicLines f rest)
  | '\n' :: rest => f.pushSpace '\n' (basicLines f.afterNewline rest)
  | '\r' :: '\n' :: rest => f.pushSpace '\n' (basicLines f.afterNewline rest)
  | '"' :: '"' :: '"' :: rest =>
    if f = .lineMustEnd then none else some (trailingQuotes '"' rest)
  | '\\' :: 'u' :: a :: b :: c :: d :: rest =>
    if f = .lineMustEnd then none
    else pushEscape (codePoint? [a, b, c, d]) (basicLines .inText rest)
  | '\\' :: 'U' :: a :: b :: c :: d :: e :: f' :: g :: h :: rest =>
    if f = .lineMustEnd then none
    else pushEscape (codePoint? [a, b, c, d, e, f', g, h]) (basicLines .inText rest)
  | '\\' :: '\r' :: '\n' :: rest =>
    if f = .lineMustEnd then none else basicLines .skipping rest
  | '\\' :: c :: rest =>
    if f = .lineMustEnd then none
    else if isGap c || c = '\n' then basicLines (.ofSpace c) rest
    else pushEscape (escaped? c) (basicLines .inText rest)
  | c :: rest =>
    if f = .lineMustEnd then none
    else if isPlain c && c ≠ '\\' then (basicLines .inText rest).push c
    else none

/-- A literal text over several lines. -/
def literalLines : List Char → Reading (List Char)
  | [] => none
  | '\n' :: rest => (literalLines rest).push '\n'
  | '\r' :: '\n' :: rest => (literalLines rest).push '\n'
  | '\'' :: '\'' :: '\'' :: rest => some (trailingQuotes '\'' rest)
  | c :: rest => if isPlain c then (literalLines rest).push c else none

/-- What follows a newline at the very start. -/
def dropNewline : List Char → List Char
  | '\n' :: rest => rest
  | '\r' :: '\n' :: rest => rest
  | rest => rest

/-- A quoted text of any kind, opening quotes included. -/
def quotedText : List Char → Reading (List Char)
  | '"' :: '"' :: '"' :: rest => basicLines .inText (dropNewline rest)
  | '"' :: rest => basicText rest
  | '\'' :: '\'' :: '\'' :: rest => literalLines (dropNewline rest)
  | '\'' :: rest => literalText rest
  | _ => none

end Shakedown.Toml
