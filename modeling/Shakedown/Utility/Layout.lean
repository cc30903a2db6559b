import Shakedown.Text.Numeral
import Shakedown.Utility.Input

/-!
# Utilities for the layout of lines

`nl` numbers lines, `fold` breaks long ones, `expand` and `unexpand` trade tabs for blanks and back.
-/

set_option autoImplicit false

namespace Shakedown.Utility

/-! ## Numbering -/

/-- The options of `nl`. -/
def nlOptions : List OptionKind :=
  [.namedValue 'b' "body-numbering", .namedValue 'd' "section-delimiter",
    .namedValue 'f' "footer-numbering", .namedValue 'h' "header-numbering",
    .namedValue 'i' "line-increment", .namedValue 'l' "join-blank-lines",
    .namedValue 'n' "number-format", .named 'p' "no-renumber",
    .namedValue 's' "number-separator", .namedValue 'v' "starting-line-number",
    .namedValue 'w' "number-width"]

/-- The integer that belongs to an option, or another one. -/
def integerOption (a : Arguments) (key : Char) (usual : Int) (what : String) : Act Int := do
  match a.value? key with
  | none => return usual
  | some word =>
    match Numeral.integer? word with
    | some i => return i
    | none => Act.die ("invalid ".toList ++ what.toList ++ ": ".toList ++ word.shown)

/-- A number in a column: aligned to one side or filled with zeros. -/
def numberColumn (style : Chars) (width : Nat) (i : Int) : Chars :=
  match style with
  | ['l', 'n'] => Chars.padRight width (Chars.ofInt i)
  | ['r', 'z'] =>
    let digits := Chars.ofNat i.natAbs
    let sign : Chars := if i < 0 then ['-'] else []
    sign ++ List.replicate (width - sign.length - digits.length) '0' ++ digits
  | _ => Chars.padLeft width (Chars.ofInt i)

/-- Numbers lines. -/
def nl : Utility := do
  let a ← Act.arguments nlOptions
  let body := (a.value? 'b').getD ['t']
  if ! [['a'], ['t'], ['n']].contains body then
    Act.misused ("invalid body numbering style: ".toList ++ body.shown)
  let style := (a.value? 'n').getD ['r', 'n']
  if ! [['l', 'n'], ['r', 'n'], ['r', 'z']].contains style then
    Act.misused ("invalid line numbering format: ".toList ++ style.shown)
  let start ← integerOption a 'v' 1 "starting line number"
  let step ← integerOption a 'i' 1 "line number increment"
  let width := (← integerOption a 'w' 6 "line number field width").toNat
  let separator := (a.value? 's').getD ['\t']
  let (texts, failed) ← Act.gatherSources a.sources
  let mut number := start
  for line in texts.flatMap (Chars.records '\n') do
    if body = ['a'] || (body = ['t'] && !line.isEmpty) then
      Act.writeLine (numberColumn style width number ++ separator ++ line)
      number := number + step
    else Act.writeLine (List.replicate (width + separator.length) ' ' ++ line)
  return statusOf failed

/-! ## Breaking lines -/

/-- The column behind a character. -/
def columnAfter (bytes : Bool) (column : Nat) (c : Char) : Nat :=
  if bytes then column + 1
  else if c = '\x08' then column - 1
  else if c = '\r' then 0
  else if c = '\t' then column + 8 - column % 8
  else column + 1

/-- The column behind a text. -/
def columnBehind (bytes : Bool) (text : Chars) : Nat :=
  text.foldl (columnAfter bytes) 0

/-- A line broken into parts that are no wider than `width`. What was read of a part comes in
reverse. -/
def foldLine (width : Nat) (bytes atBlanks : Bool) : Nat → Chars → Nat → Chars → List Chars
  | 0, part, _, _ => [part.reverse]
  | _ + 1, part, _, [] => [part.reverse]
  | n + 1, part, column, c :: more =>
    let next := columnAfter bytes column c
    if next > width && !part.isEmpty then
      let behind := part.takeWhile fun d => d ≠ ' ' && d ≠ '\t'
      if atBlanks && behind.length < part.length then
        (part.drop behind.length).reverse
          :: foldLine width bytes atBlanks n behind (columnBehind bytes behind.reverse) (c :: more)
      else part.reverse :: foldLine width bytes atBlanks n [] 0 (c :: more)
    else foldLine width bytes atBlanks n (c :: part) next more

/-- Breaks long lines. -/
def fold : Utility := do
  let args := (← get).args.map fun word =>
    match word with
    | '-' :: d :: more => if d.isDigit then '-' :: 'w' :: d :: more else word
    | _ => word
  match sortArguments [.named 'b' "bytes", .named 's' "spaces", .namedValue 'w' "width"] false
      args with
  | .error e => Act.misused e
  | .ok a =>
    let width ← match a.value? 'w' with
      | none => pure 80
      | some word => match Chars.decimal? word with
        | some n =>
          if n = 0 then Act.die ("invalid number of columns: ".toList ++ word.shown) else pure n
        | none => Act.die ("invalid number of columns: ".toList ++ word.shown)
    let failed ← Act.forSources a.sources Act.usualComplaint fun _ text =>
      Act.write <| Chars.joined Chars.newline <| (Chars.splitAt '\n' text).flatMap fun line =>
        foldLine width (a.has 'b') (a.has 's') (2 * line.length + 2) [] 0 line
    return statusOf failed

/-! ## Tabs -/

/-- The places of tabs: every so many columns, or at some columns. -/
def tabStops (a : Arguments) : Act (List Nat) := do
  match a.value? 't' with
  | none => return [8]
  | some word =>
    let parts := Chars.fields (fun c => c = ',' || c = ' ') word
    match parts.mapM Chars.decimal? with
    | some stops => return stops
    | none =>
      let bad : Chars := word.dropWhile fun c => c.isDigit || c = ',' || c = ' '
      Act.die ("tab size contains invalid character(s): ".toList ++ bad.shown)

/-- The next place of a tab behind a column, if there is one. -/
def nextStop (stops : List Nat) (column : Nat) : Option Nat :=
  match stops with
  | [] => some (column + 1)
  | [n] => if n = 0 then none else some (column + n - column % n)
  | _ => stops.find? (· > column)

/-- A line with its tabs turned into blanks, all of them or only those at the beginning. -/
def expandLine (stops : List Nat) (onlyInitial : Bool) : Nat → Bool → Chars → Chars
  | _, _, [] => []
  | column, initial, c :: more =>
    if c = '\t' && (initial || !onlyInitial) then
      let next := (nextStop stops column).getD (column + 1)
      List.replicate (next - column) ' ' ++ expandLine stops onlyInitial next initial more
    else
      let next := if c = '\x08' then column - 1 else column + 1
      c :: expandLine stops onlyInitial next (initial && c = ' ') more

/-- Turns tabs into blanks. -/
def expand : Utility := do
  let a ← Act.arguments [.named 'i' "initial", .namedValue 't' "tabs"]
  let stops ← tabStops a
  let failed ← Act.forSources a.sources Act.usualComplaint fun _ text =>
    Act.write <| Chars.joined Chars.newline <|
      (Chars.splitAt '\n' text).map (expandLine stops (a.has 'i') 0 true)
  return statusOf failed

/-- A line with its blanks turned into tabs. The blanks that were read last are given by the columns
where they begin and end; a tab replaces two blanks or more, or one at the very beginning. -/
def unexpandLine (stops : List Nat) (all : Bool) : Nat → Nat → Bool → Chars → Chars
  | start, column, _, [] => List.replicate (column - start) ' '
  | start, column, active, c :: more =>
    if active && (c = ' ' || c = '\t') then
      match nextStop stops column with
      | none => List.replicate (column - start) ' ' ++ c :: more
      | some next =>
        if c = '\t' then '\t' :: unexpandLine stops all next next active more
        else if column + 1 = next then
          (if start = column && start > 0 && more.head? ≠ some ' ' && more.head? ≠ some '\t'
            then [' '] else ['\t']) ++ unexpandLine stops all next next active more
        else unexpandLine stops all start (column + 1) active more
    else
      List.replicate (column - start) ' '
        ++ c :: unexpandLine stops all (column + 1) (column + 1) (active && all) more

/-- Turns blanks into tabs. -/
def unexpand : Utility := do
  let a ← Act.arguments [.named 'a' "all", .long 'f' "first-only", .namedValue 't' "tabs"]
  let stops ← tabStops a
  let all := (a.has 'a' || a.has 't') && !a.has 'f'
  let failed ← Act.forSources a.sources Act.usualComplaint fun _ text =>
    Act.write <| Chars.joined Chars.newline <|
      (Chars.splitAt '\n' text).map (unexpandLine stops all 0 0 true)
  return statusOf failed

end Shakedown.Utility
