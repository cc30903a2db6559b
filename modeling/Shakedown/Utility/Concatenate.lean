import Shakedown.Process.Property
import Shakedown.Utility.Input

/-!
# Utilities that hand their input on

`cat` writes one file after the other, `tac` the lines of each in reverse order, `rev` every line
backwards, and `tee` writes its input to several places.
-/

set_option autoImplicit false

namespace Shakedown.Utility

/-! ## Showing -/

/-- How `cat` changes what it writes. -/
structure CatStyle where
  /-- Whether lines are numbered. -/
  numbers : Bool
  /-- Whether only lines with something in them are numbered. -/
  skipsBlanks : Bool
  /-- Whether no more than one empty line in a row is written. -/
  squeezes : Bool
  /-- Whether the ends of lines are shown. -/
  ends : Bool
  /-- Whether tabs are shown. -/
  tabs : Bool
  /-- Whether characters that cannot be shown are spelled out. -/
  spells : Bool

/-- Whether everything is written as it is. -/
def CatStyle.isPlain (s : CatStyle) : Bool :=
  !(s.numbers || s.squeezes || s.ends || s.tabs || s.spells)

/-- A character of seven bits, spelled out. -/
def spelledSeven (c : Char) : Chars :=
  if c < ' ' then ['^', Char.ofNat (c.toNat + 64)]
  else if c = '\x7f' then ['^', '?']
  else [c]

/-- A character, spelled out. -/
def spelled (c : Char) : Chars :=
  if c.toNat < 128 then spelledSeven c
  else 'M' :: '-' :: spelledSeven (Char.ofNat (c.toNat - 128))

/-- The inside of a line as it is written. -/
def CatStyle.inside (s : CatStyle) (ended : Bool) : Chars → Chars
  | [] => []
  | c :: more =>
    let shown : Chars :=
      if c = '\t' then (if s.tabs then ['^', 'I'] else [c])
      else if s.spells then spelled c
      else if c = '\r' && s.ends && ended && more.isEmpty then ['^', 'M']
      else [c]
    shown ++ CatStyle.inside s ended more

/-- Where the writing of lines is. -/
structure CatState where
  /-- The number of the line before. -/
  line : Nat := 0
  /-- How many empty lines came last. -/
  blanks : Nat := 0
  /-- Whether a new line begins. -/
  fresh : Bool := true

/-- A line as it is written, and where the writing is then. -/
def CatStyle.line (s : CatStyle) (state : CatState) (piece : Chars) : Chars × CatState :=
  let isBlank := state.fresh && piece = Chars.newline
  let blanks := if isBlank then state.blanks + 1 else 0
  let ended := piece.getLast? = some '\n'
  if s.squeezes && blanks > 1 then ([], { state with blanks })
  else
    let counts := s.numbers && state.fresh && !(s.skipsBlanks && isBlank)
    let line := if counts then state.line + 1 else state.line
    let front := if counts then Chars.padLeft 6 (Chars.ofNat line) ++ ['\t'] else []
    let body := s.inside ended (if ended then piece.dropLast else piece)
    let ending : Chars := if !ended then [] else if s.ends then ['$', '\n'] else ['\n']
    (front ++ body ++ ending, { line, blanks, fresh := ended })

/-- Lines as they are written, and where the writing is then. -/
def CatStyle.lines (s : CatStyle) (state : CatState) : List Chars → Chars × CatState
  | [] => ([], state)
  | piece :: more =>
    let (text, state) := s.line state piece
    let (rest, state) := CatStyle.lines s state more
    (text ++ rest, state)

/-- The options of `cat`. -/
def catOptions : List OptionKind :=
  [.named 'b' "number-nonblank", .named 'n' "number", .named 's' "squeeze-blank",
    .named 'v' "show-nonprinting", .named 'E' "show-ends", .named 'T' "show-tabs",
    .named 'A' "show-all"] ++ OptionKind.letters "etu"

/-- The style that options ask for. -/
def catStyle (a : Arguments) : CatStyle where
  numbers := a.has 'n' || a.has 'b'
  skipsBlanks := a.has 'b'
  squeezes := a.has 's'
  ends := a.has 'A' || a.has 'E' || a.has 'e'
  tabs := a.has 'A' || a.has 'T' || a.has 't'
  spells := a.has 'A' || a.has 'v' || a.has 'e' || a.has 't'

/-- The file behind an operand, and how far it was read. -/
def fileBehind (p : Process) (operand : Chars) : Option (Nat × Nat) :=
  if operand = ['-'] then
    match p.open? 0 with
    | some (_, { channel := .file number, offset, .. }) => some (number, offset)
    | _ => none
  else match p.node? operand true with
    | some (_, .file number) => some (number, 0)
    | _ => none

/-- Whether an operand names the file behind the output, with something left in it to read. -/
def isOutput (p : Process) (operand : Chars) : Bool :=
  match p.open? 1, fileBehind p operand with
  | some (_, { channel := .file goal, .. }), some (number, offset) =>
    number = goal && offset < p.world.tree.sizeOf (.file number)
  | _, _ => false

/-- Writes files one after the other. -/
def cat : Utility := do
  let a ← Act.arguments catOptions
  let style := catStyle a
  let mut failed := false
  let mut state : CatState := {}
  for operand in a.sources do
    if isOutput (← get) operand then
      Act.grumble (operand.fileLabel ++ ": input file is output file".toList)
      failed := true
    else match ← Act.readSource operand with
      | .error e =>
        Act.grumbleAbout operand e.fault
        failed := true
      | .ok text =>
        if style.isPlain then Act.write text
        else
          let (shown, after) := style.lines state (text.pieces '\n')
          state := after
          Act.write shown
  if a.sources.contains ['-'] && ((← get).open? 0).isNone then
    Act.grumble "closing standard input: Bad file descriptor".toList
    failed := true
  return statusOf failed

/-! ## Reversing -/

/-- The options of `tac`. -/
def tacOptions : List OptionKind :=
  [.named 'b' "before", .named 'r' "regex", .namedValue 's' "separator"]

/-- A text cut behind every occurrence of a separator, or before every one. -/
def separated (separator : Chars) (before : Bool) : Nat → Chars → Chars → List Chars
  | 0, current, _ => [current.reverse]
  | _ + 1, current, [] => [current.reverse]
  | n + 1, current, c :: more =>
    if separator.isPrefixOf (c :: more) then
      let rest := (c :: more).drop separator.length
      if before then current.reverse :: separated separator before n separator.reverse rest
      else (current.reverse ++ separator) :: separated separator before n [] rest
    else separated separator before n (c :: current) more

/-- Writes the lines of files in reverse order. -/
def tac : Utility := do
  let a ← Act.arguments tacOptions
  let separator := match a.value? 's' with
    | none => Chars.newline
    | some [] => ['\x00']
    | some s => s
  let complaint := fun (operand : Chars) (e : ReadFault) =>
    if e.opening then
      "failed to open ".toList ++ operand.shown ++ " for reading: ".toList ++ Act.reason e.fault
    else operand.fileLabel ++ ": read error: Invalid argument".toList
  let failed ← Act.forSources a.sources complaint fun _ text =>
    Act.write ((separated separator (a.has 'b') (text.length + 1) [] text).reverse.flatten)
  return statusOf failed

/-- Writes every line backwards. -/
def rev : Utility := do
  let a ← Act.arguments [.named '0' "zero"]
  let complaint := fun (operand : Chars) (e : ReadFault) =>
    "cannot open ".toList ++ operand ++ ": ".toList ++ Act.reason e.fault
  let failed ← Act.forSources a.sources complaint fun _ text =>
    Act.write (Chars.joined Chars.newline ((Chars.splitAt '\n' text).map List.reverse))
  return statusOf failed

/-! ## Handing on -/

/-- Writes the input to files and to the output. -/
def tee : Utility := do
  let a ← Act.arguments [.named 'a' "append", .named 'i' "ignore-interrupts",
    { key := 'p', names := ["output-error"], takes := .perhaps }]
  let purpose := if a.has 'a' then Act.Purpose.append else .write
  let mut failed := false
  let mut files := []
  for path in a.operands do
    match ← Act.openPath purpose path with
    | .ok number => files := (path, number) :: files
    | .error e =>
      Act.grumbleAbout path e
      failed := true
  let text ← match ← Act.readAll 0 with
    | .ok text => pure text
    | .error e =>
      Act.grumble ("read error: ".toList ++ Act.reason e)
      failed := true
      pure []
  Act.write text
  for (path, number) in files.reverse do
    match ← Act.putTo number text with
    | none => pure ()
    | some e =>
      Act.grumbleAbout path e
      failed := true
  return statusOf failed

end Shakedown.Utility
