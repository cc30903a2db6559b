import Shakedown.Text.Moment
import Shakedown.Utility.Input
import Shakedown.Utility.Operation

/-!
# Telling the time

The utility `date`, which writes a point of time as a format asks for it.
-/

set_option autoImplicit false

namespace Shakedown.Utility.Clock

/-- A part of a point of time before it is brought to its width. -/
structure Part where
  /-- The text. -/
  text : Chars
  /-- The width that it has at least. -/
  width : Nat := 0
  /-- What fills the width. -/
  filling : Char := ' '
  /-- Whether the letters are capitals where the other case is asked for. -/
  swapsUp : Bool := true

/-- A number with leading zeros. -/
def Part.number (n width : Nat) : Part :=
  { text := Chars.ofNat n, width, filling := '0' }

/-- A number with leading blanks. -/
def Part.blankNumber (n width : Nat) : Part :=
  { text := Chars.ofNat n, width }

/-- The names of the days of the week. -/
def weekdayNames : List String :=
  ["Sunday", "Monday", "Tuesday", "Wednesday", "Thursday", "Friday", "Saturday"]

/-- The names of the months in full. -/
def fullMonthNames : List String :=
  ["January", "February", "March", "April", "May", "June", "July", "August", "September",
    "October", "November", "December"]

/-- The year and the number of the week that has most days of the seven around a date, weeks
beginning with Mondays. -/
def weekOf (m : Moment) : Nat × Nat :=
  let thursday : Moment :=
    { m with seconds := m.seconds + (3 - ((m.weekday + 6) % 7 : Nat) : Int) * 86400 }
  (thursday.date.1, (thursday.dayOfYear - 1) / 7 + 1)

/-- The offset of the zone. -/
def zoneText (colons : Nat) : Chars :=
  (["+0000", "+00:00", "+00:00:00", "+00"].getD colons "").toList

/-- The formats that letters stand for. -/
def compounds : List (Char × String) :=
  [('c', "%a %b %e %H:%M:%S %Y"), ('D', "%m/%d/%y"), ('F', "%Y-%m-%d"), ('r', "%I:%M:%S %p"),
    ('R', "%H:%M"), ('T', "%H:%M:%S"), ('x', "%m/%d/%y"), ('X', "%H:%M:%S")]

/-- The part that a letter asks for. -/
def part? (m : Moment) (colons : Nat) (letter : Char) : Option Part :=
  let (year, month, day) := m.date
  let (hour, minute, second) := m.time
  let half := if hour % 12 = 0 then 12 else hour % 12
  let weekday := (weekdayNames.getD m.weekday "").toList
  let monthName := (fullMonthNames.getD (month - 1) "").toList
  let plain := fun (text : Chars) => some { text : Part }
  if colons > 0 && letter ≠ 'z' then none
  else match letter with
  | 'a' => plain (weekday.take 3)
  | 'A' => plain weekday
  | 'b' | 'h' => plain (monthName.take 3)
  | 'B' => plain monthName
  | 'C' => some (.number (year / 100) 2)
  | 'd' => some (.number day 2)
  | 'e' => some (.blankNumber day 2)
  | 'g' => some (.number ((weekOf m).1 % 100) 2)
  | 'G' => some (.number (weekOf m).1 4)
  | 'H' => some (.number hour 2)
  | 'I' => some (.number half 2)
  | 'j' => some (.number m.dayOfYear 3)
  | 'k' => some (.blankNumber hour 2)
  | 'l' => some (.blankNumber half 2)
  | 'm' => some (.number month 2)
  | 'M' => some (.number minute 2)
  | 'n' => plain Chars.newline
  | 'p' => some { text := (if hour < 12 then "AM" else "PM").toList, swapsUp := false }
  | 'P' => plain (if hour < 12 then "am" else "pm").toList
  | 'q' => some (.number ((month + 2) / 3) 1)
  | 's' => some { text := Chars.ofInt m.seconds, width := 1, filling := '0' }
  | 'S' => some (.number second 2)
  | 't' => plain ['\t']
  | 'u' => some (.number ((m.weekday + 6) % 7 + 1) 1)
  | 'U' => some (.number ((m.dayOfYear + 6 - m.weekday) / 7) 2)
  | 'V' => some (.number (weekOf m).2 2)
  | 'w' => some (.number m.weekday 1)
  | 'W' => some (.number ((m.dayOfYear + 6 - (m.weekday + 6) % 7) / 7) 2)
  | 'y' => some (.number (year % 100) 2)
  | 'Y' => some (.number year 4)
  | 'z' => some { text := zoneText colons, filling := '0' }
  | 'Z' => some { text := "UTC".toList, swapsUp := false }
  | '%' => plain ['%']
  | _ => none

/-- How a part is to be written. -/
structure Manner where
  /-- The last of the letters that say what fills the width. -/
  filling? : Option Char := none
  /-- Whether letters are to be capitals. -/
  isUpper : Bool := false
  /-- Whether letters are to have the other case. -/
  swaps : Bool := false
  /-- The width. -/
  width? : Option Nat := none

/-- A part as it is written. -/
def Part.written (p : Part) (manner : Manner) : Chars :=
  let text := if manner.isUpper || (manner.swaps && p.swapsUp) then p.text.map Char.toUpper
    else if manner.swaps then p.text.map Char.toLower else p.text
  let filling := match manner.filling? with
    | some '_' => ' '
    | some '0' | some '+' => '0'
    | _ => p.filling
  if manner.filling? = some '-' then text
  else List.replicate (manner.width?.getD p.width - text.length) filling ++ text

/-- The billionths of a second, as many digits as the width says. -/
def nanosText (m : Moment) (manner : Manner) : Chars :=
  let digits := (Part.number m.nanos 9).written {}
  match manner.width? with
  | some n => digits.take n ++ List.replicate (n - 9) '0'
  | none => digits

/-- A point of time as a format asks for it. -/
def formatted (m : Moment) : Nat → Chars → Chars
  | 0, _ => []
  | _ + 1, [] => []
  | n + 1, '%' :: more =>
    let flags := more.takeWhile "-_0+^#".toList.contains
    let rest := more.drop flags.length
    let digits := rest.takeWhile Char.isDigit
    let rest := rest.drop digits.length
    let modifier := rest.takeWhile fun c => c = 'E' || c = 'O'
    let behind := rest.drop modifier.length
    let colons := behind.takeWhile (· = ':')
    let manner : Manner :=
      { filling? := (flags.filter "-_0+".toList.contains).getLast?
        isUpper := flags.contains '^', swaps := flags.contains '#'
        width? := if digits.isEmpty then none else Chars.decimal? digits }
    let asIs := fun (behind : Chars) =>
      '%' :: more.take (more.length - behind.length) ++ formatted m n behind
    match behind.drop colons.length with
    | [] => '%' :: more
    | letter :: behind =>
      match compounds.lookup letter, part? m colons.length letter with
      | some inner, _ =>
        let part : Part := { text := formatted m n inner.toList }
        part.written manner ++ formatted m n behind
      | none, some part => part.written manner ++ formatted m n behind
      | none, none =>
        if letter = 'N' then nanosText m manner ++ formatted m n behind else asIs behind
  | n + 1, c :: more => c :: formatted m n more

/-- How deep formats stand in one another, at most. -/
def formatDepth : Nat := 4

/-- A point of time as a format asks for it. -/
def text (m : Moment) (format : Chars) : Chars :=
  formatted m (format.length + formatDepth * 32) format

/-- The options of `date`. -/
def options : List OptionKind :=
  [.namedValue 'd' "date", .namedValue 'f' "file", .namedValue 'r' "reference",
    .namedValue 's' "set", { key := 'R', names := ["rfc-email", "rfc-822", "rfc-2822"] },
    { key := 'I', names := ["iso-8601"], takes := .perhaps }, .long '3' "rfc-3339" .value,
    { key := 'u', names := ["utc", "universal", "uct"] }, .long 'D' "debug"]

/-- How exactly a time is to be told. -/
def exactnessFormats : List (String × String) :=
  [("hours", "%Y-%m-%dT%H%:z"), ("minutes", "%Y-%m-%dT%H:%M%:z"), ("date", "%Y-%m-%d"),
    ("seconds", "%Y-%m-%dT%H:%M:%S%:z"), ("ns", "%Y-%m-%dT%H:%M:%S,%N%:z")]

/-- The same with blanks. -/
def spacedFormats : List (String × String) :=
  [("date", "%Y-%m-%d"), ("seconds", "%Y-%m-%d %H:%M:%S%:z"),
    ("ns", "%Y-%m-%d %H:%M:%S.%N%:z")]

/-- The format that a word chooses among others. -/
def chosen (name : String) (formats : List (String × String)) (word : Chars) : Act Chars := do
  match formats.filter fun (n, _) => word.isPrefixOf n.toList with
  | [(_, format)] => return format.toList
  | _ =>
    Act.grumble <| "invalid argument ".toList ++ word.shown ++ " for '--".toList ++ name.toList
      ++ "'\nValid arguments are:".toList
      ++ formats.flatMap fun (n, _) => "\n  - '".toList ++ n.toList ++ ['\'']
    Act.referToHelp

/-- The formats that options ask for. -/
def wantedFormats (a : Arguments) : Act (List Chars) :=
  a.options.filterMapM fun (key, value) => do
    match key with
    | 'R' => return some "%a, %d %b %Y %H:%M:%S %z".toList
    | 'I' => some <$> chosen "iso-8601" exactnessFormats (value.getD "date".toList)
    | '3' => some <$> chosen "rfc-3339" spacedFormats (value.getD [])
    | _ => return none

/-- The point of time that a text means. -/
def momentOf (word : Chars) : Act Moment := do
  match Moment.read? { seconds := (← get).world.clock } word with
  | some m => return m
  | none => Act.die ("invalid date ".toList ++ word.shown)

/-- Writes the points of time of the lines of a text. -/
def writeLines (format path : Chars) : Act UInt8 := do
  let now : Moment := { seconds := (← get).world.clock }
  let mut failed := false
  for line in (← Act.demandSource path).lines do
    match Moment.read? now line with
    | some m => Act.writeLine (text m format)
    | none =>
      Act.grumble ("invalid date ".toList ++ line.shown)
      failed := true
  return statusOf failed

/-- Tells the time. -/
def date : Utility := do
  let a ← Act.arguments options
  let formats ← wantedFormats a
  if let some word := a.operands[1]? then Act.extraOperand word
  if formats.length > 1 then Act.die "multiple output formats specified".toList
  if (['d', 'f', 'r'].filter a.has).length > 1 then
    Act.misused "the options to specify dates for printing are mutually exclusive".toList
  let operand? := a.operands.head?
  if let some word := operand? then
    if word.head? = some '+' then
      if !formats.isEmpty then Act.die "multiple output formats specified".toList
    else if a.has 'd' || a.has 'f' || a.has 'r' || a.has 's' then
      Act.misused <| "the argument ".toList ++ word.shown ++ " lacks a leading '+';\n".toList
        ++ "when using an option to specify date(s), any non-option\n".toList
        ++ "argument must be a format string beginning with '+'".toList
    else Act.die ("invalid date ".toList ++ word.shown)
  let format := match operand?, formats with
    | some word, _ => word.drop 1
    | none, f :: _ => f
    | none, [] => "%a %b %e %H:%M:%S %Z %Y".toList
  match a.value? 'f' with
  | some path => writeLines format path
  | none =>
    let m ← match a.value? 'r', (a.value? 'd').or (a.value? 's') with
      | some path, _ =>
        match ← Act.stat path with
        | .ok (_, n) => pure { seconds := (← get).world.tree.timeOf n : Moment }
        | .error e => Act.die (path.fileLabel ++ ": ".toList ++ Act.reason e)
      | none, some word => momentOf word
      | none, none => pure { seconds := (← get).world.clock : Moment }
    Act.writeLine (text m format)
    return 0

end Shakedown.Utility.Clock
