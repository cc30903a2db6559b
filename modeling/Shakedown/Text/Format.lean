import Shakedown.Text.Directive
import Shakedown.Text.Escape

/-!
# Formats

A format is a text with escapes and directives, each of which takes an argument. It is written again
and again until the arguments are used up. What comes out is a list of events, since complaints
about arguments fall between the parts of the text.

The programs that write formats differ in what they accept and in how they word their complaints; a
`FormatStyle` tells how.
-/

set_option autoImplicit false

namespace Shakedown

/-- Something that happens when a format is written. -/
inductive FormatEvent where
  /-- Text is written. -/
  | text (s : Chars)
  /-- A complaint is made. -/
  | complaint (s : Chars)
  deriving DecidableEq, Repr

/-- Why the writing of a format ends before its time. -/
inductive FormatEnd where
  /-- An escape ends all output. -/
  | stopped
  /-- There is a mistake in the format. -/
  | broken
  deriving DecidableEq, Repr

/-- How a program writes formats. -/
structure FormatStyle where
  /-- The escapes of the format. -/
  escapes : EscapeStyle
  /-- The escapes of arguments that have some. -/
  argumentEscapes : EscapeStyle
  /-- The format of numbers with a fraction. -/
  numbers : Quantity.Format
  /-- Letters for the length of a number, which are passed over. -/
  lengths : Chars
  /-- Whether a directive makes sense. -/
  accepts : Specification → Bool
  /-- What is said about a directive that does not. -/
  mistake : Specification → Chars
  /-- What is said about an argument that is no number. -/
  noNumber : Chars → Chars
  /-- What is said about an argument that begins with a number. -/
  notAll : Chars → Chars
  /-- What is said about a number that is too large. -/
  tooLarge : Chars → Chars
  /-- What is said about an argument that is a character with more behind it. -/
  moreBehind : Chars → Option Chars
  /-- What is said about arguments that no directive takes. -/
  leftOver : Chars → Option Chars

/-- How far the writing of a format is. -/
structure FormatRun where
  /-- What happened, latest first. -/
  events : List FormatEvent := []
  /-- The arguments that are left. -/
  args : List Chars
  /-- Whether an argument was wrong. -/
  failed : Bool := false

/-- A step of writing a format. -/
abbrev Formatter := ExceptT FormatEnd (StateM FormatRun)

namespace Formatter

/-- Writes text. -/
def write (s : Chars) : Formatter Unit :=
  modify fun r => { r with events := .text s :: r.events }

/-- Makes a complaint that is no failure. -/
def warn (s : Chars) : Formatter Unit :=
  modify fun r => { r with events := .complaint s :: r.events }

/-- Makes a complaint. -/
def complain (s : Chars) : Formatter Unit := do
  warn s
  modify ({ · with failed := true })

/-- Takes the next argument, if there is one. -/
def next? : Formatter (Option Chars) := do
  let r ← get
  set { r with args := r.args.tail }
  return r.args.head?

/-- Takes the next argument, or an empty one. -/
def next : Formatter Chars := do
  return (← next?).getD []

/-! ## Arguments -/

/-- The character whose number an argument stands for: one behind a quotation mark. -/
def quotedChar? (arg : Chars) : Option (Char × Chars) :=
  match arg with
  | q :: c :: more => if q = '\'' || q = '"' then some (c, more) else none
  | _ => none

/-- Complains about what is behind a number in an argument, or about its size. -/
def checkRest (style : FormatStyle) (arg rest : Chars) (tooLarge : Bool) : Formatter Unit := do
  if !rest.isEmpty then complain (style.notAll arg)
  else if tooLarge then complain (style.tooLarge arg)

/-- A number that is read from an argument. -/
def numeric {α : Type} (style : FormatStyle) (arg : Chars) (ofInt : Int → α)
    (read : Chars → Option (α × Bool × Chars)) : Formatter α := do
  match quotedChar? arg with
  | some (c, more) =>
    if !more.isEmpty then (style.moreBehind more).forM warn
    return ofInt c.toNat
  | none =>
    match read arg with
    | some (value, tooLarge, rest) =>
      checkRest style arg rest tooLarge
      return value
    | none =>
      if !arg.isEmpty then complain (style.noNumber arg)
      return ofInt 0

/-- The integer that an argument stands for. -/
def integer (style : FormatStyle) (arg : Chars) : Formatter Int :=
  numeric style arg id fun s =>
    (Numeral.leadingInteger? 0 s).map fun (i, rest) =>
      (Numeral.cut i, !Numeral.isSmall i, rest)

/-- The integer that an argument stands for, where there are only positive ones and negative ones
wrap around. -/
def natural (style : FormatStyle) (arg : Chars) : Formatter Int :=
  numeric style arg id fun s =>
    (Numeral.leadingInteger? 0 s).map fun (i, rest) =>
      let tooLarge := decide (Directive.naturalLimit ≤ i.natAbs)
      (if tooLarge then Directive.naturalLimit - 1 else i, tooLarge, rest)

/-- The number with a fraction that an argument stands for. -/
def quantity (style : FormatStyle) (arg : Chars) : Formatter Quantity :=
  numeric style arg (fun i => .finite (i < 0) i.natAbs 1) fun s =>
    (Numeral.leadingReading? s).map fun (r, rest) =>
      let q := Quantity.ofReading style.numbers r
      (q, Quantity.overflows r q, rest)

/-! ## Directives -/

/-- The width, where a negative one asks for blanks behind the text. -/
def width (style : FormatStyle) : Measure → Formatter (Nat × Chars)
  | .unset => return (0, [])
  | .given n => return (n, [])
  | .argument => do
    match ← next? with
    | none => return (0, [])
    | some arg =>
      let i ← integer style arg
      return (i.natAbs, if i < 0 then ['-'] else [])

/-- The precision; a negative one is none. -/
def precision (style : FormatStyle) : Measure → Formatter (Option Nat)
  | .unset => return none
  | .given n => return some n
  | .argument => do
    match ← next? with
    | none => return some 0
    | some arg =>
      let i ← integer style arg
      return if i < 0 then none else some i.natAbs

/-- Writes an argument with escapes. -/
def escaped (style : FormatStyle) (d : Directive) (arg : Chars) : Formatter Unit := do
  let (text, ending) := Escape.expand style.argumentEscapes arg
  write (d.text text)
  match ending with
  | .over => return ()
  | .stopped => throw .stopped
  | .broken =>
    complain "missing hexadecimal number in escape".toList
    throw .broken

/-- Writes an argument as a directive says. -/
def directive (style : FormatStyle) (d : Directive) : Formatter Unit := do
  let arg ← next
  match d.letter with
  | 'b' => escaped style d arg
  | 's' => write (d.text arg)
  | 'c' => write (d.padded [arg.headD '\x00'])
  | 'd' | 'i' => write (d.integer (← integer style arg))
  | 'o' | 'u' | 'x' | 'X' => write (d.natural (← natural style arg))
  | _ => write (d.quantity style.numbers (← quantity style arg))

/-- Writes what a specification asks for. -/
def specification (style : FormatStyle) (s : Specification) : Formatter Unit := do
  match s.letter with
  | some letter =>
    if style.accepts s then
      let (width, flags) ← width style s.width
      let precision ← precision style s.precision
      directive style { flags := flags ++ s.flags, width, precision, letter }
    else
      complain (style.mistake s)
      throw .broken
  | none =>
    complain (style.mistake s)
    throw .broken

/-- Writes a format once, of which so many characters are read at most. -/
def once (style : FormatStyle) : Nat → Chars → Formatter Unit
  | 0, _ => return ()
  | _ + 1, [] => return ()
  | n + 1, '%' :: '%' :: more => do
    write ['%']
    once style n more
  | n + 1, '%' :: more => do
    let (s, rest) := Specification.read style.lengths more
    specification style s
    once style n rest
  | n + 1, '\\' :: more => do
    match Escape.read style.escapes more with
    | (.char c, rest) =>
      write [c]
      once style n rest
    | (.literal, rest) =>
      write ['\\']
      once style n rest
    | (.stop, _) => throw .stopped
    | (.bad, _) =>
      complain "missing hexadecimal number in escape".toList
      throw .broken
  | n + 1, c :: more => do
    write [c]
    once style n more

/-- Writes a format until the arguments are used up, so many times at most. -/
def whole (style : FormatStyle) (format : Chars) : Nat → Formatter Unit
  | 0 => return ()
  | n + 1 => do
    let before := (← get).args
    once style (format.length + 1) format
    let after := (← get).args
    if after.isEmpty then return ()
    else if after.length = before.length then (style.leftOver (after.headD [])).forM warn
    else whole style format n

end Formatter

/-- What comes of writing a format. -/
structure Formatted where
  /-- What happens, in order. -/
  events : List FormatEvent
  /-- Why the writing ends before its time, if it does. -/
  ending : Option FormatEnd
  /-- Whether an argument was wrong. -/
  failed : Bool

/-- Writes a format with arguments. -/
def FormatStyle.write (style : FormatStyle) (format : Chars) (args : List Chars) : Formatted :=
  match Formatter.whole style format (args.length + 1) { args } with
  | (.ok (), r) => { events := r.events.reverse, ending := none, failed := r.failed }
  | (.error e, r) => { events := r.events.reverse, ending := some e, failed := r.failed }

end Shakedown
