import Shakedown.Number.Binary64
import Shakedown.Utility.Excerpt

/-!
# Dumping bytes

The utility `od`, which writes the bytes of files in forms: each form cuts a row of bytes into units
and writes every unit with the same width. Where there are several forms, the units of all of them
are aligned.
-/

set_option autoImplicit false

namespace Shakedown.Utility.Dump

/-- How a unit is written. -/
inductive Kind where
  /-- As a number of a base, with leading zeros unless the base is ten. -/
  | natural (base : Nat)
  /-- As a number that may be negative. -/
  | integer
  /-- As a character or an escape. -/
  | character
  /-- By name. -/
  | named
  deriving DecidableEq, Repr

/-- A form. -/
structure Form where
  /-- How a unit is written. -/
  kind : Kind
  /-- The bytes of a unit. -/
  size : Nat
  /-- Whether the printable characters follow each row. -/
  showsText : Bool := false
  deriving DecidableEq, Repr

/-- The largest number of so many bytes. -/
def largestOf (size : Nat) : Nat :=
  twoTo (8 * size) - 1

/-- The width of a unit. -/
def Form.width (f : Form) : Nat :=
  match f.kind with
  | .natural base => (Nat.toDigits base (largestOf f.size)).length
  | .integer => (Nat.toDigits 10 (twoTo (8 * f.size - 1))).length + 1
  | .character => 3
  | .named => 3

/-- The number of bytes, the first of which counts least unless the order is the other one. -/
def numberOf (bigFirst : Bool) (bytes : List Nat) : Nat :=
  (if bigFirst then bytes else bytes.reverse).foldl (fun n b => 256 * n + b) 0

/-- The escapes of characters. -/
def escapes : List (Nat × Char) :=
  [(0, '0'), (7, 'a'), (8, 'b'), (9, 't'), (10, 'n'), (11, 'v'), (12, 'f'), (13, 'r')]

/-- Digits with zeros in front of them up to a width. -/
def zeroFilled (width : Nat) (digits : Chars) : Chars :=
  List.replicate (width - digits.length) '0' ++ digits

/-- The character of a byte, if it can be shown. -/
def printable? (b : Nat) : Option Char :=
  if 32 ≤ b && b ≤ 126 then some (Char.ofNat b) else none

/-- A byte as a character or an escape. -/
def characterText (b : Nat) : Chars :=
  match printable? b, escapes.lookup b with
  | some c, _ => [c]
  | none, some letter => ['\\', letter]
  | none, none => zeroFilled 3 (Nat.toDigits 8 b)

/-- The names of the characters that cannot be shown. -/
def names : List String :=
  ["nul", "soh", "stx", "etx", "eot", "enq", "ack", "bel", "bs", "ht", "nl", "vt", "ff", "cr",
    "so", "si", "dle", "dc1", "dc2", "dc3", "dc4", "nak", "syn", "etb", "can", "em", "sub", "esc",
    "fs", "gs", "rs", "us", "sp"]

/-- The name of a byte without its highest bit. -/
def nameText (b : Nat) : Chars :=
  let b := b % 128
  if b = 127 then "del".toList
  else match names[b]? with
    | some name => name.toList
    | none => [Char.ofNat b]

/-- A unit as text. -/
def Form.text (f : Form) (bigFirst : Bool) (bytes : List Nat) : Chars :=
  let n := numberOf bigFirst bytes
  match f.kind with
  | .natural base =>
    let digits := Nat.toDigits base n
    if base = 10 then digits else zeroFilled f.width digits
  | .integer =>
    Chars.ofInt (if n < twoTo (8 * f.size - 1) then (n : Int) else n - twoTo (8 * f.size))
  | .character => characterText n
  | .named => nameText n

/-- Bytes in units, the last of which is filled with zeros. -/
def units (size : Nat) : Nat → List Nat → List (List Nat)
  | 0, _ => []
  | _ + 1, [] => []
  | n + 1, bytes =>
    let u := bytes.take size
    (u ++ List.replicate (size - u.length) 0) :: units size n (bytes.drop size)

/-- How a dump is made. -/
structure Layout where
  /-- The forms. -/
  forms : List Form
  /-- The bytes of a row. -/
  rowSize : Nat
  /-- The base of places; without one none are written. -/
  placeBase : Option Nat
  /-- Whether rows that repeat the one before are written, too. -/
  all : Bool
  /-- Whether the first byte of a unit counts most. -/
  bigFirst : Bool

/-- The width of the units of a row in a form with the least gaps. -/
def Layout.spanOf (l : Layout) (f : Form) : Nat :=
  l.rowSize / f.size * (f.width + 1)

/-- The width of the units of a row. -/
def Layout.span (l : Layout) : Nat :=
  (l.forms.map l.spanOf).foldl max 0

/-- The units of a row in a form: what is left of the width goes in front of the units one after the
other. -/
def Layout.rowText (l : Layout) (f : Form) (bytes : List Nat) : Chars :=
  let count := l.rowSize / f.size
  let spare := l.span - f.width * count
  ((units f.size bytes.length bytes).zipIdx.flatMap fun (u, i) =>
    let before := spare * (count - i) / count
    let behind := spare * (count - i - 1) / count
    (f.text l.bigFirst u).padLeft (f.width + before - behind))

/-- The printable characters of a row behind it. -/
def Layout.shown (l : Layout) (f : Form) (bytes : List Nat) (text : Chars) : Chars :=
  if f.showsText then
    List.replicate (l.span - text.length) ' ' ++ "  >".toList
      ++ bytes.map (fun b => (printable? b).getD '.') ++ ['<']
  else []

/-- A place. -/
def Layout.place (l : Layout) (n : Nat) : Chars :=
  match l.placeBase with
  | none => []
  | some base => zeroFilled (if base = 16 then 6 else 7) (Nat.toDigits base n)

/-- A row in all forms. -/
def Layout.row (l : Layout) (start : Nat) (bytes : List Nat) : Chars :=
  let place := l.place start
  Chars.ofLines <| l.forms.zipIdx.map fun (f, i) =>
    let text := l.rowText f bytes
    (if i = 0 then place else List.replicate place.length ' ') ++ text ++ l.shown f bytes text

/-- The rows of bytes from a place on. -/
def Layout.rows (l : Layout) : Nat → Nat → Option (List Nat) → Bool → List Nat → List Chars
  | 0, _, _, _, _ => []
  | _ + 1, _, _, _, [] => []
  | n + 1, start, last, marked, bytes =>
    let row := bytes.take l.rowSize
    let rest := bytes.drop l.rowSize
    let next := start + row.length
    if !l.all && last = some row && row.length = l.rowSize then
      if marked then l.rows n next last true rest
      else "*\n".toList :: l.rows n next last true rest
    else l.row start row :: l.rows n next (some row) false rest

/-- The dump of bytes that begin at a place. -/
def Layout.dump (l : Layout) (start : Nat) (bytes : List Nat) : Chars :=
  (l.rows bytes.length start none false bytes).flatten
    ++ if l.placeBase.isSome then l.place (start + bytes.length) ++ Chars.newline else []

/-! ## Forms as they are written -/

/-- The sizes by their letters. -/
def sizeNames : List (Char × Nat) := [('C', 1), ('S', 2), ('I', 4), ('L', 8)]

/-- The size at the beginning of a text, if there is one, and the rest. -/
def readSize (s : Chars) : Option Nat × Chars :=
  match s with
  | [] => (none, [])
  | c :: more =>
    match sizeNames.lookup c with
    | some size => (some size, more)
    | none =>
      let digits := s.takeWhile Char.isDigit
      if digits.isEmpty then (none, s)
      else (some (Numeral.numberOf 10 digits), s.drop digits.length)

/-- The bases of natural numbers by their letters. -/
def bases : List (Char × Nat) := [('o', 8), ('u', 10), ('x', 16)]

/-- The forms of a text, of which so many are read at most; the whole text is told in mistakes. -/
def readForms (whole : Chars) : Nat → Chars → Except Chars (List Form)
  | 0, _ => .ok []
  | _ + 1, [] => .ok []
  | n + 1, c :: more =>
    let finish := fun (kind : Kind) (size : Nat) (rest : Chars) =>
      let showsText := rest.head? = some 'z'
      (readForms whole n (if showsText then rest.tail else rest)).map
        ({ kind, size, showsText } :: ·)
    match c, bases.lookup c with
    | 'a', _ => finish .named 1 more
    | 'c', _ => finish .character 1 more
    | _, base? =>
      if base?.isNone && c ≠ 'd' then
        .error ("invalid character '".toList ++ c :: "' in type string ".toList ++ whole.shown)
      else
        let (size?, rest) := readSize more
        let size := size?.getD 4
        if [1, 2, 4, 8].contains size then finish (base?.elim .integer .natural) size rest
        else .error ("invalid type string ".toList ++ whole.shown
          ++ ";\nthis system doesn't provide a ".toList ++ Chars.ofNat size
          ++ "-byte integral type".toList)

/-- The forms of options that are letters by themselves. -/
def letterForms : List (Char × Form) :=
  [('a', ⟨.named, 1, false⟩), ('b', ⟨.natural 8, 1, false⟩), ('c', ⟨.character, 1, false⟩),
    ('d', ⟨.natural 10, 2, false⟩), ('i', ⟨.integer, 4, false⟩), ('l', ⟨.integer, 8, false⟩),
    ('o', ⟨.natural 8, 2, false⟩), ('s', ⟨.integer, 2, false⟩), ('x', ⟨.natural 16, 2, false⟩)]

/-- The options of `od`. -/
def options : List OptionKind :=
  [.namedValue 'A' "address-radix", .namedValue 'j' "skip-bytes", .namedValue 'N' "read-bytes",
    .namedValue 't' "format", .named 'v' "output-duplicates",
    { key := 'w', names := ["width"], takes := .perhaps }, .long 'E' "endian" .value]
    ++ OptionKind.letters "abcdilosx"

/-- The forms that options ask for. -/
def formsOf (a : Arguments) : Except Chars (List Form) := do
  let found ← a.options.mapM fun (key, value?) =>
    match key, value? with
    | 't', some text => readForms text (text.length + 1) text
    | _, _ => .ok (letterForms.lookup key).toList
  let forms := found.flatten
  return if forms.isEmpty then [⟨.natural 8, 2, false⟩] else forms

/-- The base of places that a word asks for. -/
def placeBaseOf (word : Chars) : Except Chars (Option Nat) :=
  match word.head? with
  | some 'd' => .ok (some 10)
  | some 'o' => .ok (some 8)
  | some 'x' => .ok (some 16)
  | some 'n' => .ok none
  | c =>
    .error ("invalid output address radix '".toList ++ c.toList
      ++ "'; it must be one character from [doxn]".toList)

/-- A number of bytes, perhaps of another base. -/
def bytesOf? (word : Chars) : Option Nat :=
  match word with
  | '0' :: 'x' :: digits =>
    if !digits.isEmpty && digits.all (Numeral.isDigitOf 16) then some (Numeral.numberOf 16 digits)
    else none
  | '0' :: digits =>
    if digits.all (Numeral.isDigitOf 8) then some (Numeral.numberOf 8 digits) else size? word
  | _ => size? word

/-- The number of bytes that an option gives. -/
def countOf (a : Arguments) (key : Char) : Act (Option Nat) := do
  match a.value? key with
  | none => return none
  | some word =>
    match bytesOf? word with
    | some n => return some n
    | none => Act.die ("invalid -".toList ++ key :: " argument ".toList ++ word.shown)

/-- What is right or the end of the program. -/
def demand {α : Type} (result : Except Chars α) : Act α :=
  match result with
  | .ok x => pure x
  | .error e => Act.die e

/-- The usual number of bytes of a row. -/
def usualRow : Nat := 16

/-- How many bytes a row has where an option asks for wide ones. -/
def wideRow : Nat := 32

/-- The bytes of a row. -/
def rowSizeOf (a : Arguments) (forms : List Form) : Act Nat := do
  let unit := (forms.map Form.size).foldl max 1
  if !a.has 'w' then return usualRow / unit * unit
  let asked ← countOf a 'w'
  let size := asked.getD wideRow
  if size > 0 && size % unit = 0 then return size
  Act.grumble ("warning: invalid width ".toList ++ Chars.ofNat size ++ "; using ".toList
    ++ Chars.ofNat unit ++ " instead".toList)
  return unit

/-- Dumps files. -/
def od : Utility := do
  let a ← Act.arguments options
  let forms ← demand (formsOf a)
  let placeBase ← demand (placeBaseOf ((a.value? 'A').getD ['o']))
  let skipped := (← countOf a 'j').getD 0
  let count? ← countOf a 'N'
  let rowSize ← rowSizeOf a forms
  let (texts, failed) ← Act.gatherSources a.sources
  let text := texts.flatten
  if texts.isEmpty then return 1
  if skipped > text.length then
    Act.die "cannot skip past end of combined input".toList
  let part := text.drop skipped
  let part := count?.elim part part.take
  let layout : Layout :=
    { forms, rowSize, placeBase, all := a.has 'v', bigFirst := a.value? 'E' = some "big".toList }
  Act.write (layout.dump skipped (part.map Char.toNat))
  return statusOf failed

end Shakedown.Utility.Dump
