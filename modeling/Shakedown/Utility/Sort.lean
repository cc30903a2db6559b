import Shakedown.Utility.Excerpt

/-!
# Sorting

`sort` orders lines by keys that are cut out of them, and `uniq` drops lines that are repeated.

A key is compared by the rules of its own options or, if it has none, by those of all keys. Lines
with equal keys are compared as a whole, unless the order is to be stable.
-/

set_option autoImplicit false

namespace Shakedown.Utility

/-! ## Comparing -/

/-- The order of two texts byte by byte. -/
def textOrder (a b : Chars) : Ordering :=
  if a = b then .eq else if Chars.before a b then .lt else .gt

/-- Whether a character is a blank. -/
def isBlank (c : Char) : Bool :=
  c = ' ' || c = '\t' || c = '\n'

/-- The decimal fraction at the beginning of a text: its sign, the digits in front of the point and
those behind it, and the rest. -/
def leadingFraction (s : Chars) : Bool × Chars × Chars × Chars :=
  let s := s.dropWhile isBlank
  let negative := s.head? = some '-'
  let s := if negative then s.tail else s
  let (whole, part, rest) := Numeral.leadingDigits 10 s
  (negative, whole, part, rest)

/-- The order of two decimal fractions at the beginning of texts; what is no number counts as
zero. -/
def numberOrder (a b : Chars) : Ordering :=
  let (m, w, p, _) := leadingFraction a
  let (n, v, q, _) := leadingFraction b
  let places := max p.length q.length
  let scaled := fun (negative : Bool) (whole part : Chars) =>
    Numeral.signed negative
      (Numeral.numberOf 10 (whole ++ part) * tenTo (places - part.length))
  compare (scaled m w p) (scaled n v q)

/-- The size of a letter behind a number. -/
def unitOf (rest : Chars) : Nat :=
  match rest.head? with
  | none => 0
  | some c => ("KMGTPEZY".toList.findIdx? (· = c.toUpper)).elim 0 (· + 1)

/-- How a number with a letter for a unit counts by its sign and its unit. -/
def unitRank (s : Chars) : Int :=
  let (negative, whole, part, rest) := leadingFraction s
  let unit : Int := unitOf rest
  if (whole ++ part).all (· = '0') then 0 else if negative then -(unit + 1) else unit + 1

/-- The order of two numbers with letters for units. -/
def unitOrder (a b : Chars) : Ordering :=
  (compare (unitRank a) (unitRank b)).then (numberOrder a b)

/-- The number at the beginning of a text in any notation, as a fraction. Infinities are large
numbers, and what is undefined is larger still on the other side. -/
def readingFraction (s : Chars) : Option (Int × Nat) :=
  match Numeral.leadingReading? s with
  | some (.finite negative base digits power, _) =>
    let p : Int := power
    let big := (if base = 2 then twoTo else tenTo)
    let num := digits * (if p > 0 then big (min p.toNat 400) else 1)
    let den := if p < 0 then big (min (-p).toNat 400) else 1
    some (Numeral.signed negative num, den)
  | some (.infinite negative, _) => some (Numeral.signed negative (tenTo 500), 1)
  | some (.undefined _, _) => some (-(tenTo 600 : Int), 1)
  | none => none

/-- The order of two numbers in any notation. What is none comes first. -/
def generalOrder (a b : Chars) : Ordering :=
  match readingFraction a, readingFraction b with
  | none, none => .eq
  | none, some _ => .lt
  | some _, none => .gt
  | some (n, d), some (m, e) => compare (n * e) (m * d)

/-- The number of the month at the beginning of a text, zero if there is none. -/
def monthOf (s : Chars) : Nat :=
  let word := ((s.dropWhile isBlank).take 3).map Char.toUpper
  ((["JAN", "FEB", "MAR", "APR", "MAY", "JUN", "JUL", "AUG", "SEP", "OCT", "NOV", "DEC"].findIdx?
    (·.toList = word))).elim 0 (· + 1)

/-- How a character that is no digit counts in the order of versions. -/
def versionRank (c : Char) : Nat :=
  if c = '~' then 0 else if c.isAlpha then c.toNat + 2 else c.toNat + 258

/-- How the text in front of the first digit of a version counts. -/
def frontRanks (s : Chars) : List Nat :=
  (s.takeWhile fun c => !c.isDigit).map versionRank ++ [1]

/-- The first number of a version. -/
def frontNumber (s : Chars) : Nat :=
  Numeral.numberOf 10 ((s.dropWhile fun c => !c.isDigit).takeWhile Char.isDigit)

/-- What is behind the first number of a version. -/
def behindNumber (s : Chars) : Chars :=
  (s.dropWhile fun c => !c.isDigit).dropWhile Char.isDigit

/-- The order of two versions: runs of digits are compared as numbers, and the text between them
letter by letter. -/
def versionOrderWithin : Nat → Chars → Chars → Ordering
  | 0, _, _ => .eq
  | n + 1, a, b =>
    if a.isEmpty && b.isEmpty then .eq
    else (compare (frontRanks a) (frontRanks b)).then <|
      (compare (frontNumber a) (frontNumber b)).then <|
        versionOrderWithin n (behindNumber a) (behindNumber b)

/-- The order of two versions. -/
def versionOrder (a b : Chars) : Ordering :=
  versionOrderWithin (a.length + b.length + 2) a b

/-- A rule by which keys are compared. -/
inductive SortRule where
  /-- As text. -/
  | text
  /-- As decimal fractions. -/
  | number
  /-- As numbers with letters for units. -/
  | unit
  /-- As numbers in any notation. -/
  | general
  /-- As months. -/
  | month
  /-- As versions. -/
  | version
  deriving DecidableEq, Repr

/-- How keys are compared. -/
structure SortStyle where
  /-- The rule. -/
  rule : SortRule := .text
  /-- Whether the order is turned around. -/
  reverse : Bool := false
  /-- Whether blanks in front are passed over. -/
  skipsBlanks : Bool := false
  /-- Whether only letters, digits and blanks count. -/
  dictionary : Bool := false
  /-- Whether only characters that can be shown count. -/
  shownOnly : Bool := false
  /-- Whether small letters count as capital ones. -/
  folds : Bool := false
  deriving DecidableEq, Repr

/-- Whether nothing is said about how keys are compared. -/
def SortStyle.isPlain (s : SortStyle) : Bool :=
  s = {}

/-- The style with a letter for an option taken in. -/
def SortStyle.with (s : SortStyle) (c : Char) : SortStyle :=
  match c with
  | 'b' => { s with skipsBlanks := true }
  | 'd' => { s with dictionary := true }
  | 'f' => { s with folds := true }
  | 'i' => { s with shownOnly := true }
  | 'r' => { s with reverse := true }
  | 'n' => { s with rule := .number }
  | 'h' => { s with rule := .unit }
  | 'g' => { s with rule := .general }
  | 'M' => { s with rule := .month }
  | 'V' => { s with rule := .version }
  | _ => s

/-- What is compared of a key. -/
def SortStyle.clean (s : SortStyle) (k : Chars) : Chars :=
  let k := if s.dictionary then k.filter fun c => c.isAlphanum || isBlank c else k
  let k := if s.shownOnly then k.filter Chars.isShowable else k
  if s.folds then k.map Char.toUpper else k

/-- The order of two keys before it is turned around. -/
def SortStyle.byRule (s : SortStyle) (a b : Chars) : Ordering :=
  match s.rule with
  | .text => textOrder (s.clean a) (s.clean b)
  | .number => numberOrder a b
  | .unit => unitOrder a b
  | .general => generalOrder a b
  | .month => compare (monthOf a) (monthOf b)
  | .version => versionOrder (s.clean a) (s.clean b)

/-- The order of two keys. -/
def SortStyle.order (s : SortStyle) (a b : Chars) : Ordering :=
  if s.reverse then (s.byRule a b).swap else s.byRule a b

/-! ## Keys -/

/-- A key of a line: from a character of a field to the end of a field, or to a character of it. -/
structure SortKey where
  /-- How many fields are passed over. -/
  startField : Nat
  /-- How many characters of the first field are passed over. -/
  startChar : Nat
  /-- How many fields come before the last one, if there is a last one. -/
  endField : Option Nat
  /-- How many characters of the last field belong to the key; zero stands for all. -/
  endChar : Nat
  /-- Whether blanks in front of the last field are passed over. -/
  endSkips : Bool
  /-- How it is compared. -/
  style : SortStyle

/-- The length of so many fields at the beginning of a text, the ends of fields being characters of
a kind or blanks. Where `open_`, the end of the last field is not counted. -/
def fieldsLength (separator : Option Char) (open_ : Bool) : Nat → Chars → Nat
  | 0, _ => 0
  | n + 1, s =>
    match separator with
    | some c =>
      let field := (s.takeWhile (· ≠ c)).length
      if field = s.length then field
      else if n = 0 && open_ then field
      else field + 1 + fieldsLength separator open_ n (s.drop (field + 1))
    | none =>
      let blanks := (s.takeWhile isBlank).length
      let field := blanks + ((s.drop blanks).takeWhile (!isBlank ·)).length
      if field = 0 then 0 else field + fieldsLength separator open_ n (s.drop field)

/-- Where blanks that are passed over end. -/
def pastBlanks (skips : Bool) (line : Chars) (at_ : Nat) : Nat :=
  if skips then at_ + ((line.drop at_).takeWhile isBlank).length else at_

/-- The key of a line. -/
def SortKey.cut (k : SortKey) (separator : Option Char) (line : Chars) : Chars :=
  let start := pastBlanks k.style.skipsBlanks line (fieldsLength separator false k.startField line)
  let start := min line.length (start + k.startChar)
  let stop := match k.endField with
    | none => line.length
    | some n =>
      if k.endChar = 0 then fieldsLength separator true (n + 1) line
      else min line.length
        (pastBlanks k.endSkips line (fieldsLength separator false n line) + k.endChar)
  (line.take stop).drop start

/-- A count at the beginning of a text that describes a key, and the rest. -/
def keyCount (what : String) (s : Chars) : Except Chars (Nat × Chars) :=
  let digits := s.takeWhile Char.isDigit
  if digits.isEmpty then
    .error ("invalid number ".toList ++ what.toList ++ ": invalid count at start of ".toList
      ++ s.shown)
  else .ok (Numeral.numberOf 10 digits, s.drop digits.length)

/-- Complains about the description of a key. -/
def badKey {α : Type} (what : String) (text : Chars) : Except Chars α :=
  .error (what.toList ++ ": invalid field specification ".toList ++ text.shown)

/-- The letters of options at the beginning of a text, and the rest. -/
def keyLetters (s : Chars) : Chars × Chars :=
  let isLetter := fun c => "bdfinrghMVR".toList.contains c
  (s.takeWhile isLetter, s.dropWhile isLetter)

/-- The character behind a point at the beginning of a text, and the rest. -/
def keyCharacter (what : String) (s : Chars) : Except Chars (Option Nat × Chars) :=
  match s with
  | '.' :: more => (keyCount what more).map fun (n, rest) => (some n, rest)
  | _ => .ok (none, s)

/-- The key that a text describes. -/
def readKey (text : Chars) : Except Chars SortKey := do
  let (field, rest) ← keyCount "at field start" text
  if field = 0 then badKey "field number is zero" text
  let (char?, rest) ← keyCharacter "after '.'" rest
  if char? = some 0 then badKey "character offset is zero" text
  let (letters, rest) := keyLetters rest
  let style := letters.foldl SortStyle.with {}
  let key : SortKey :=
    { startField := field - 1, startChar := char?.getD 1 - 1, endField := none, endChar := 0
      endSkips := false, style }
  match rest with
  | [] => return key
  | ',' :: more =>
    let (last, rest) ← keyCount "after ','" more
    if last = 0 then badKey "field number is zero" text
    let (char?, rest) ← keyCharacter "after '.'" rest
    let (letters, rest) := keyLetters rest
    if !rest.isEmpty then badKey "stray character in field spec" text
    return { key with
      endField := some (last - 1)
      endChar := char?.getD 0
      endSkips := letters.contains 'b'
      style := (letters.filter (· ≠ 'b')).foldl SortStyle.with style }
  | _ => badKey "stray character in field spec" text

/-! ## The utility -/

/-- The options of `sort`. -/
def sortOptions : List OptionKind :=
  [.named 'b' "ignore-leading-blanks", .named 'd' "dictionary-order", .named 'f' "ignore-case",
    .named 'g' "general-numeric-sort", .named 'i' "ignore-nonprinting", .named 'M' "month-sort",
    .named 'h' "human-numeric-sort", .named 'n' "numeric-sort", .named 'R' "random-sort",
    .named 'r' "reverse", .named 'V' "version-sort", { key := 'c', names := ["check"] },
    { key := 'C' }, .namedValue 'k' "key", .named 'm' "merge", .namedValue 'o' "output",
    .named 's' "stable", .namedValue 'S' "buffer-size", .namedValue 't' "field-separator",
    .namedValue 'T' "temporary-directory", .named 'u' "unique", .named 'z' "zero-terminated",
    .long 'p' "parallel" .value]

/-- How lines are put in order. -/
structure LineOrder where
  /-- The keys. -/
  keys : List SortKey
  /-- How whole lines are compared where there is no key. -/
  style : SortStyle
  /-- What separates fields. -/
  separator : Option Char
  /-- Whether lines with equal keys count as equal. -/
  stable : Bool
  /-- Whether whole lines are compared the other way round. -/
  reverse : Bool

/-- The order of two lines by their keys. -/
def LineOrder.byKeys (o : LineOrder) (a b : Chars) : Ordering :=
  let whole := fun s : Chars => s.drop (pastBlanks o.style.skipsBlanks s 0)
  match o.keys with
  | [] => o.style.order (whole a) (whole b)
  | keys => keys.foldl
      (fun found k =>
        match found with
        | .eq => k.style.order (k.cut o.separator a) (k.cut o.separator b)
        | found => found)
      .eq

/-- The order of two lines with equal keys. -/
def LineOrder.byLine (o : LineOrder) (a b : Chars) : Ordering :=
  if o.stable then .eq else if o.reverse then textOrder b a else textOrder a b

/-- The order of two lines. -/
def LineOrder.order (o : LineOrder) (a b : Chars) : Ordering :=
  (o.byKeys a b).then (o.byLine a b)

/-- Complains about options that cannot be used together. -/
def checkStyle (letters : Chars) : Act Unit := do
  let rules := "ghnMV".toList.filter letters.contains
  let plain := "di".toList.filter letters.contains
  let both := rules.length > 1 || (!rules.isEmpty && !(plain.filter fun _ =>
    !(rules = ['V'])).isEmpty)
  if both then
    let used := "dfghinMRV".toList.filter fun c => c ≠ 'f' && letters.contains c
    Act.die ("options '-".toList ++ used ++ "' are incompatible".toList) 2

/-- The order that options ask for. -/
def lineOrder (a : Arguments) : Act LineOrder := do
  let letters := (a.options.map (·.1)).filter "bdfghiMnrRV".toList.contains
  checkStyle letters
  let style := letters.foldl SortStyle.with {}
  let keys ← (a.values 'k').mapM fun text =>
    match readKey text with
    | .ok key => pure (if key.style.isPlain && !key.endSkips then
        { key with style, endSkips := style.skipsBlanks } else key)
    | .error e => Act.die e 2
  let separator ← match a.value? 't' with
    | none => pure none
    | some [] => Act.die "empty tab".toList 2
    | some [c] => pure (some c)
    | some ['\\', '0'] => pure (some '\x00')
    | some text => Act.die ("multi-character tab ".toList ++ text.shown) 2
  return { keys, style, separator, stable := a.has 's' || a.has 'u', reverse := style.reverse }

/-- Lines without those that are equal to the one before. -/
def withoutRepeats (same : Chars → Chars → Bool) : List Chars → List Chars
  | [] => []
  | line :: more =>
    match withoutRepeats same more with
    | [] => [line]
    | next :: rest => if same line next then line :: rest else line :: next :: rest

/-- The first line that is out of order, with its number. -/
def firstDisorder (o : LineOrder) (unique : Bool) : Nat → List Chars → Option (Nat × Chars)
  | n, line :: next :: more =>
    let found := o.order line next
    if found = .gt || (unique && found = .eq) then some (n + 1, next)
    else firstDisorder o unique (n + 1) (next :: more)
  | _, _ => none

/-- Sorts lines. -/
def sort : Utility := do
  let a ← Act.arguments sortOptions false 2
  let o ← lineOrder a
  let ending := if a.has 'z' then '\x00' else '\n'
  let checks := a.has 'c' || a.has 'C'
  if checks then
    if let some extra := a.operands[1]? then
      let key := (a.lastOf? ['c', 'C']).toList
      Act.die ("extra operand ".toList ++ extra.shown ++ " not allowed with -".toList ++ key) 2
  let mut files := []
  for operand in a.sources do
    match ← Act.readSource operand with
    | .ok text => files := text.records ending :: files
    | .error e =>
      let what := if e.opening then "cannot read: " else "read failed: "
      Act.die (what.toList ++ operand.fileLabel ++ ": ".toList ++ Act.reason e.fault) 2
  if checks then
    match firstDisorder o (a.has 'u') 1 files.reverse.flatten with
    | none => return 0
    | some (n, line) =>
      if !a.has 'C' then
        let operand := a.sources.headD []
        Act.grumble (operand ++ ':' :: Chars.ofNat n ++ ": disorder: ".toList ++ line)
      return 1
  let inOrder := fun x y : Chars => o.order x y != .gt
  let sorted := if a.has 'm' then files.foldl (fun all lines => List.merge lines all inOrder) []
    else files.reverse.flatten.mergeSort inOrder
  let kept := if a.has 'u' then withoutRepeats (fun x y => o.byKeys x y = .eq) sorted else sorted
  let text := kept.flatMap (· ++ [ending])
  match a.value? 'o' with
  | none => Act.write text
  | some path =>
    if let some e ← Act.writePath path text then
      Act.die ("open failed: ".toList ++ Chars.fileLabel path ++ ": ".toList ++ Act.reason e) 2
  return 0

/-! ## Repeated lines -/

/-- Lines in groups of equal ones that stand together. -/
def groupsOfEqual (same : Chars → Chars → Bool) : List Chars → List (List Chars)
  | [] => []
  | line :: more =>
    match groupsOfEqual same more with
    | [] => [[line]]
    | group :: rest =>
      if same line (group.headD []) then (line :: group) :: rest else [line] :: group :: rest

/-- The options of `uniq`. -/
def uniqOptions : List OptionKind :=
  [.named 'c' "count", .named 'd' "repeated", { key := 'D', names := [] },
    .long 'A' "all-repeated" .perhaps, .namedValue 'f' "skip-fields", .named 'i' "ignore-case",
    .namedValue 's' "skip-chars", .named 'u' "unique", .named 'z' "zero-terminated",
    .namedValue 'w' "check-chars"]

/-- A count that belongs to an option. -/
def uniqCount (a : Arguments) (key : Char) (what : String) : Act (Option Nat) := do
  match a.value? key with
  | none => return none
  | some word =>
    match Chars.decimal? word with
    | some n => return some n
    | none => Act.die (word ++ ": invalid number of ".toList ++ what.toList)

/-- A line without so many fields at its beginning. -/
def withoutFields : Nat → Chars → Chars
  | 0, s => s
  | n + 1, s => withoutFields n ((s.dropWhile isBlank).dropWhile (!isBlank ·))

/-- Drops lines that are repeated. -/
def uniq : Utility := do
  let a ← Act.arguments uniqOptions
  a.operands[2]?.forM fun extra => Act.extraOperand extra
  let fields ← uniqCount a 'f' "fields to skip"
  let skipped ← uniqCount a 's' "bytes to skip"
  let checked ← uniqCount a 'w' "bytes to compare"
  let ending := if a.has 'z' then '\x00' else '\n'
  let operand := a.operands.headD ['-']
  let text ← match ← Act.readSource operand with
    | .ok text => pure text
    | .error e =>
      if e.opening then Act.die (operand.fileLabel ++ ": ".toList ++ Act.reason e.fault)
      else Act.die ("error reading ".toList ++ operand.shown ++ ": ".toList ++ Act.reason e.fault)
  let part := fun (line : Chars) =>
    let s := (withoutFields (fields.getD 0) line).drop (skipped.getD 0)
    let s := checked.elim s s.take
    if a.has 'i' then s.map Char.toLower else s
  let groups := groupsOfEqual (fun x y => part x = part y) (text.records ending)
  let all := a.has 'D' || a.has 'A'
  let kept := groups.filter fun g =>
    let repeated := g.length > 1
    !((a.has 'u' && repeated) || ((a.has 'd' || all) && !repeated))
  let shown := kept.flatMap fun g =>
    if all then g.flatMap (· ++ [ending])
    else
      let count := if a.has 'c' then Chars.padLeft 7 (Chars.ofNat g.length) ++ [' '] else []
      count ++ g.headD [] ++ [ending]
  match a.operands[1]? with
  | none => Act.write shown
  | some path =>
    if path = ['-'] then Act.write shown
    else if let some e ← Act.writePath path shown then
      Act.die (Chars.fileLabel path ++ ": ".toList ++ Act.reason e)
  return 0

end Shakedown.Utility
