import Shakedown.Text.Numeral

/-!
# Points of time

Points of time as a count of seconds and as a date with a time of the day, and how people write
them: dates in several orders, times of the day, zones, and steps such as `2 days ago`.
-/

set_option autoImplicit false

namespace Shakedown

/-- The names of the months. -/
def monthNames : List String :=
  ["Jan", "Feb", "Mar", "Apr", "May", "Jun", "Jul", "Aug", "Sep", "Oct", "Nov", "Dec"]

/-- The year, the month and the day of a number of days from the beginning of time. -/
def dateOfDays (days : Nat) : Nat × Nat × Nat :=
  let z := days + 719468
  let era := z / 146097
  let dayOfEra := z % 146097
  let yearOfEra := (dayOfEra - dayOfEra / 1460 + dayOfEra / 36524 - dayOfEra / 146096) / 365
  let dayOfYear := dayOfEra - (365 * yearOfEra + yearOfEra / 4 - yearOfEra / 100)
  let m := (5 * dayOfYear + 2) / 153
  let day := dayOfYear - (153 * m + 2) / 5 + 1
  let month := if m < 10 then m + 3 else m - 9
  (400 * era + yearOfEra + (if month ≤ 2 then 1 else 0), month, day)

/-- The number of days from the beginning of time to a date. -/
def daysTo (year month day : Nat) : Nat :=
  let y := if month ≤ 2 then year - 1 else year
  let m := if month ≤ 2 then month + 9 else month - 3
  365 * y + y / 4 - y / 100 + y / 400 + (153 * m + 2) / 5 + (day - 1) - 719468

/-- The seconds of a time of a day. -/
def secondsOf (hour minute second : Nat) : Nat :=
  3600 * hour + 60 * minute + second

/-- A number with two digits. -/
def twoDigits (n : Nat) : Chars :=
  if n < 10 then '0' :: Chars.ofNat n else Chars.ofNat n

/-- A point of time. -/
structure Moment where
  /-- The seconds from the beginning of 1970. -/
  seconds : Int
  /-- The billionths of a second behind them. -/
  nanos : Nat := 0
  deriving DecidableEq, Repr

namespace Moment

/-- How many seconds a day has. -/
def secondsOfDay : Nat := 86400

/-- Years and days after which the calendar repeats itself, so often that all dates before the
beginning of time are covered. -/
def cycle : Nat × Nat := (2000, 730485)

/-- The days from the beginning of time. -/
def days (m : Moment) : Int :=
  m.seconds / secondsOfDay

/-- The seconds of the day that have passed. -/
def secondOfDay (m : Moment) : Nat :=
  (m.seconds % secondsOfDay).toNat

/-- The year, the month and the day. -/
def date (m : Moment) : Nat × Nat × Nat :=
  let (year, month, day) := dateOfDays (m.days + cycle.2).toNat
  (year - cycle.1, month, day)

/-- The days from the beginning of time to a date. -/
def daysBefore (year month day : Nat) : Int :=
  (daysTo (year + cycle.1) month day : Int) - cycle.2

/-- The hours, minutes and seconds of the time of the day. -/
def time (m : Moment) : Nat × Nat × Nat :=
  let s := m.secondOfDay
  (s / 3600, s / 60 % 60, s % 60)

/-- The day of the week, Sunday being 0. -/
def weekday (m : Moment) : Nat :=
  ((m.days + 4) % 7).toNat

/-- The day of the year, the first being 1. -/
def dayOfYear (m : Moment) : Nat :=
  let (year, _, _) := m.date
  (m.days - daysBefore year 1 1).toNat + 1

/-- Whether a date stands in the calendar. -/
def isDate (year month day : Nat) : Bool :=
  month ≥ 1 && month ≤ 12 && day ≥ 1 && day ≤ 31
    && ({ seconds := daysBefore year month day * secondsOfDay } : Moment).date = (year, month, day)

/-! ## Reading -/

/-- What has been read of a point of time. -/
structure Draft where
  /-- The year, if the date has one, the month and the day. -/
  date? : Option (Option Nat × Nat × Nat) := none
  /-- The seconds of the day and the billionths behind them. -/
  time? : Option (Nat × Nat) := none
  /-- How many seconds the zone is ahead. -/
  zone? : Option Int := none
  /-- How many weeks on, and which day of the week. -/
  weekday? : Option (Int × Nat) := none
  /-- Steps by months. -/
  months : Int := 0
  /-- Steps by days. -/
  days : Int := 0
  /-- Steps by seconds. -/
  seconds : Int := 0
  /-- Whether there were steps. -/
  hasSteps : Bool := false

namespace Draft

/-- The units of steps: how many months, days and seconds each has. -/
def units : List (String × Int × Int × Int) :=
  [("year", 12, 0, 0), ("month", 1, 0, 0), ("fortnight", 0, 14, 0), ("week", 0, 7, 0),
    ("day", 0, 1, 0), ("hour", 0, 0, 3600), ("minute", 0, 0, 60), ("min", 0, 0, 60),
    ("second", 0, 0, 1), ("sec", 0, 0, 1)]

/-- The unit that a word names, perhaps in the plural. -/
def unit? (word : Chars) : Option (Int × Int × Int) :=
  let find := fun (w : Chars) => units.lookup (String.ofList w)
  (find word).or (if word.getLast? = some 's' then find word.dropLast else none)

/-- The words that count, with their numbers. -/
def ordinals : List (String × Int) :=
  [("last", -1), ("this", 0), ("next", 1), ("first", 1), ("third", 3), ("fourth", 4), ("fifth", 5),
    ("sixth", 6), ("seventh", 7), ("eighth", 8), ("ninth", 9), ("tenth", 10), ("eleventh", 11),
    ("twelfth", 12)]

/-- The days of the week. -/
def weekdays : List String :=
  ["sunday", "monday", "tuesday", "wednesday", "thursday", "friday", "saturday"]

/-- The months. -/
def monthWords : List String :=
  ["january", "february", "march", "april", "may", "june", "july", "august", "september",
    "october", "november", "december"]

/-- The place of a name that a word gives in full or by its first three letters. -/
def placeOf? (names : List String) (word : Chars) : Option Nat :=
  names.findIdx? fun name =>
    let letters := name.toList
    word = letters || word = letters.take 3
      || ((word.length = 4 || word.length = 5) && word.isPrefixOf letters
        && (name = "tuesday" || name = "wednesday" || name = "thursday" || name = "september"))

/-- The number of the month that a word names. -/
def month? (word : Chars) : Option Nat :=
  (placeOf? monthWords word).map (· + 1)

/-- Zones by their names, with the hours that they are ahead. -/
def zones : List (String × Int) :=
  [("utc", 0), ("gmt", 0), ("ut", 0), ("z", 0), ("wet", 0), ("bst", 1), ("cet", 1), ("met", 1),
    ("cest", 2), ("eet", 2), ("est", -5), ("edt", -4), ("cst", -6), ("cdt", -5), ("mst", -7),
    ("mdt", -6), ("pst", -8), ("pdt", -7)]

/-- A year of two digits in its century. -/
def fullYear (digits : Chars) : Nat :=
  let n := Numeral.numberOf 10 digits
  if digits.length > 2 then n else if n < 69 then 2000 + n else 1900 + n

/-- The number at the beginning of a text, and the rest. -/
def number (text : Chars) : Chars × Chars :=
  (text.takeWhile Char.isDigit, text.dropWhile Char.isDigit)

/-- The word at the beginning of a text in small letters, and the rest. -/
def word (text : Chars) : Chars × Chars :=
  ((text.takeWhile Char.isAlpha).map Char.toLower, text.dropWhile Char.isAlpha)

/-- A text without the blanks at its beginning. -/
def trimmed (text : Chars) : Chars :=
  text.dropWhile Chars.isSpace

/-- The value of digits. -/
def value (digits : Chars) : Nat :=
  Numeral.numberOf 10 digits

/-- The billionths that digits behind a point stand for. -/
def billionths (digits : Chars) : Nat :=
  value (digits.take 9 ++ List.replicate (9 - digits.length) '0')

/-- With a date, if there was none. -/
def withDate? (d : Draft) (year? : Option Nat) (month day : Nat) : Option Draft :=
  if d.date?.isSome then none else some { d with date? := some (year?, month, day) }

/-- With steps of a unit. -/
def stepped (d : Draft) (count : Int) (unit : Int × Int × Int) : Draft :=
  { d with
    months := d.months + count * unit.1, days := d.days + count * unit.2.1,
    seconds := d.seconds + count * unit.2.2, hasSteps := true }

/-- Reads `ago`, which turns steps round, behind them. -/
def stepsBehind (d : Draft) (count : Int) (unit : Int × Int × Int) (rest : Chars) :
    Draft × Chars :=
  let (next, behind) := word (trimmed rest)
  if next = "ago".toList then (d.stepped (-count) unit, behind) else (d.stepped count unit, rest)

/-- Reads a zone as an offset with its sign. -/
def offset? (text : Chars) : Option (Int × Chars) :=
  match trimmed text with
  | sign :: more =>
    if sign ≠ '+' && sign ≠ '-' then none
    else
      let (digits, rest) := number more
      let (hours, minutes, rest) : Nat × Nat × Chars :=
        match digits.length, rest with
        | 4, _ => (value (digits.take 2), value (digits.drop 2), rest)
        | 3, _ => (value (digits.take 1), value (digits.drop 1), rest)
        | _, ':' :: behind => (value digits, value (number behind).1, (number behind).2)
        | _, _ => (value digits, 0, rest)
      if digits.isEmpty || digits.length > 4 || hours > 24 || minutes > 59 then none
      else some (Numeral.signed (sign = '-') (secondsOf hours minutes 0), rest)
  | [] => none

/-- Reads what stands behind a time of the day: the half of the day, and the zone. -/
def withTime? (d : Draft) (hour minute second nanos : Nat) (rest : Chars) :
    Option (Draft × Chars) :=
  let (half, behind) := word (trimmed rest)
  let isHalf := half = "am".toList || half = "pm".toList
  let isRight := if isHalf then hour ≥ 1 && hour ≤ 12 else hour < 24
  if !isRight || minute > 59 || second > 59 || d.time?.isSome then none
  else
    let hour := if !isHalf then hour
      else hour % 12 + (if half = "pm".toList then 12 else 0)
    let d := { d with time? := some (secondsOf hour minute second, nanos) }
    let rest := if isHalf then behind else rest
    match offset? rest with
    | some (ahead, rest) => some ({ d with zone? := some ahead }, rest)
    | none => some (d, rest)

/-- Reads a time of the day behind its hours. -/
def clock? (d : Draft) (hour : Nat) (text : Chars) : Option (Draft × Chars) :=
  let (minutes, rest) := number text
  match minutes.isEmpty, rest with
  | true, _ => none
  | false, ':' :: more =>
    let (seconds, rest) := number more
    let (fraction, rest) := match rest with
      | '.' :: behind => number behind
      | _ => ([], rest)
    if seconds.isEmpty then none
    else withTime? d hour (value minutes) (value seconds) (billionths fraction) rest
  | false, _ => withTime? d hour (value minutes) 0 0 rest

/-- Reads a number that stands for itself: the year of a date that has none, a date or a time. -/
def alone? (d : Draft) (digits rest : Chars) : Option (Draft × Chars) :=
  match d.date? with
  | some (none, month, day) =>
    if d.time?.isSome || digits.length > 2 then
      some ({ d with date? := some (some (fullYear digits), month, day) }, rest)
    else none
  | _ =>
    if digits.length > 4 then
      let year := digits.take (digits.length - 4)
      let monthDay := digits.drop year.length
      (withDate? d (some (fullYear year)) (value (monthDay.take 2)) (value (monthDay.drop 2))).map
        (·, rest)
    else if digits.length ≤ 2 then withTime? d (value digits) 0 0 0 rest
    else
      let n := value digits
      withTime? d (n / 100) (n % 100) 0 0 rest

/-- Reads the year behind a day and a month. -/
def yearBehind (text : Chars) : Option Nat × Chars :=
  let inner := match text with
    | '-' :: more => more
    | ',' :: more => trimmed more
    | _ => trimmed text
  let (digits, rest) := number inner
  if digits.length ≥ 2 && rest.head? ≠ some ':' && (unit? (word (trimmed rest)).1).isNone then
    (some (fullYear digits), rest)
  else (none, text)

/-- Reads what begins with digits. -/
def numeric? (d : Draft) (text : Chars) : Option (Draft × Chars) :=
  let (digits, rest) := number text
  match rest with
  | ':' :: more => clock? d (value digits) more
  | '-' :: c :: more =>
    if c.isDigit then
      let (second, rest) := number (c :: more)
      match rest with
      | '-' :: behind =>
        let (third, rest) := number behind
        let rest := match rest with
          | 'T' :: c :: more => if c.isDigit then ' ' :: c :: more else rest
          | _ => rest
        if third.isEmpty then none
        else (withDate? d (some (fullYear digits)) (value second) (value third)).map (·, rest)
      | _ => none
    else
      let (name, rest) := word (c :: more)
      (month? name).bind fun month =>
        let (year?, rest) := yearBehind rest
        (withDate? d year? month (value digits)).map (·, rest)
  | '/' :: more =>
    let (second, rest) := number more
    match second.isEmpty, rest with
    | true, _ => none
    | false, '/' :: behind =>
      let (third, rest) := number behind
      if third.isEmpty then none
      else if digits.length ≥ 4 then
        (withDate? d (some (fullYear digits)) (value second) (value third)).map (·, rest)
      else (withDate? d (some (fullYear third)) (value digits) (value second)).map (·, rest)
    | false, _ => (withDate? d none (value digits) (value second)).map (·, rest)
  | _ =>
    let (name, behind) := word (trimmed rest)
    match unit? name, month? name with
    | some unit, _ => some (stepsBehind d (value digits) unit behind)
    | none, some month =>
      let (year?, rest) := yearBehind behind
      (withDate? d year? month (value digits)).map (·, rest)
    | none, none =>
      if name = "am".toList || name = "pm".toList then withTime? d (value digits) 0 0 0 rest
      else alone? d digits rest

/-- Reads what begins with a letter. -/
def verbal? (d : Draft) (text : Chars) : Option (Draft × Chars) :=
  let (name, rest) := word text
  let known := String.ofList name
  let day := (units.lookup "day").getD (0, 1, 0)
  if known = "now" || known = "today" then some ({ d with hasSteps := true }, rest)
  else if known = "yesterday" then some (d.stepped (-1) day, rest)
  else if known = "tomorrow" then some (d.stepped 1 day, rest)
  else match month? name, placeOf? weekdays name, ordinals.lookup known, unit? name with
    | some month, _, _, _ =>
      let (digits, rest) := number (trimmed rest)
      if digits.isEmpty then none
      else
        let (year?, rest) := match rest with
          | ',' :: _ => yearBehind rest
          | _ => (none, rest)
        (withDate? d year? month (value digits)).map (·, rest)
    | none, some place, _, _ =>
      if d.weekday?.isSome then none else some ({ d with weekday? := some (0, place) }, rest)
    | none, none, some count, _ =>
      let (next, behind) := word (trimmed rest)
      match unit? next, placeOf? weekdays next with
      | some unit, _ => some (stepsBehind d count unit behind)
      | none, some place => some ({ d with weekday? := some (count, place) }, behind)
      | none, none => none
    | none, none, none, some unit => some (stepsBehind d 1 unit rest)
    | none, none, none, none =>
      match zones.lookup known with
      | some hours =>
        let (ahead, rest) := if rest.head?.any Chars.isSpace then (0, rest)
          else (offset? rest).getD (0, rest)
        if d.zone?.isSome then none
        else some ({ d with zone? := some (3600 * hours + ahead) }, rest)
      | none => none

/-- Reads steps with a sign. -/
def signed? (d : Draft) (negative : Bool) (text : Chars) : Option (Draft × Chars) :=
  let (digits, rest) := number (trimmed text)
  let (name, behind) := word (trimmed rest)
  match digits.isEmpty, unit? name with
  | false, some unit => some (stepsBehind d (Numeral.signed negative (value digits)) unit behind)
  | _, _ => none

/-- Reads all parts of a text. -/
def read? : Nat → Draft → Chars → Option Draft
  | 0, _, _ => none
  | n + 1, d, text =>
    match text.dropWhile fun c => Chars.isSpace c || c = ',' with
    | [] => some d
    | c :: more =>
      let part? :=
        if c.isDigit then numeric? d (c :: more)
        else if c = '+' || c = '-' then signed? d (c = '-') more
        else verbal? d (c :: more)
      part?.bind fun (d, rest) => read? n d rest

/-- The point of time that is meant, seen from the present. -/
def moment? (d : Draft) (now : Moment) : Option Moment :=
  let (year, month, day) := now.date
  let (year, month, day) := d.date?.elim (year, month, day) fun (y?, m, dd) => (y?.getD year, m, dd)
  if !isDate year month day then none
  else
    let stays := d.hasSteps && d.date?.isNone && d.weekday?.isNone
    let (second, nanos) := d.time?.getD (if stays then (now.secondOfDay, now.nanos) else (0, 0))
    let dayShift : Int := match d.date?, d.weekday? with
      | none, some (weeks, wanted) =>
        let today := now.weekday
        (((wanted + 7 - today) % 7 : Nat) : Int)
          + 7 * (if weeks > 0 && today ≠ wanted then weeks - 1 else weeks)
      | _, _ => 0
    let months : Int := (year : Int) * 12 + month - 1 + d.months
    let first := daysBefore (months / 12).toNat ((months % 12).toNat + 1) 1
    let days := first + (day - 1 : Nat) + d.days + dayShift
    some { seconds := days * secondsOfDay + second + d.seconds - d.zone?.getD 0, nanos }

end Draft

/-- The point of time of seconds, perhaps with a sign and a fraction. -/
def ofSeconds? (text : Chars) : Option Moment :=
  let (negative, digits) := match text with
    | '-' :: more => (true, more)
    | '+' :: more => (false, more)
    | _ => (false, text)
  let (whole, rest) := Draft.number digits
  let (fraction, rest) := match rest with
    | '.' :: more => Draft.number more
    | _ => ([], rest)
  if whole.isEmpty || !rest.isEmpty then none
  else
    let seconds := Numeral.signed negative (Draft.value whole)
    let nanos := Draft.billionths fraction
    if negative && nanos > 0 then some { seconds := seconds - 1, nanos := 1000000000 - nanos }
    else some { seconds, nanos }

/-- The point of time that a text means, seen from the present. -/
def read? (now : Moment) (text : Chars) : Option Moment :=
  match Draft.trimmed text with
  | '@' :: more => ofSeconds? (more.reverse.dropWhile Chars.isSpace).reverse
  | s => (Draft.read? (s.length + 1) {} s).bind fun d => d.moment? now

end Moment

end Shakedown
