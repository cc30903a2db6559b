import Shakedown.Utility.Sort

/-!
# Utilities for parts of lines

`cut` takes parts out of lines, `paste` puts lines side by side, `comm` and `join` compare files
that are in order.
-/

set_option autoImplicit false

namespace Shakedown.Utility

/-! ## Cutting -/

/-- A range of positions that count from one; the last one may be missing. -/
structure PositionRange where
  /-- The first position. -/
  first : Nat
  /-- The last position. -/
  last : Option Nat
  deriving DecidableEq, Repr

/-- Whether a range has a position. -/
def PositionRange.has (r : PositionRange) (n : Nat) : Bool :=
  r.first ≤ n && r.last.all (n ≤ ·)

/-- A range that a text describes. -/
def readRange (fields : Bool) (text : Chars) : Except Chars PositionRange :=
  let invalid : Except Chars PositionRange :=
    .error ((if fields then "invalid field value " else "invalid byte/character position ").toList
      ++ text.shown)
  let zero : Except Chars PositionRange :=
    .error ((if fields then "fields are numbered from 1"
      else "byte/character positions are numbered from 1").toList)
  match Chars.splitAt '-' text with
  | [[]] => zero
  | [one] =>
    match Chars.decimal? one with
    | some 0 => zero
    | some n => .ok { first := n, last := some n }
    | none => invalid
  | [[], []] => .error "invalid range with no endpoint: -".toList
  | [one, two] =>
    let first? := if one.isEmpty then some 1 else Chars.decimal? one
    let last? := if two.isEmpty then some none else (Chars.decimal? two).map some
    match first?, last? with
    | some 0, _ => zero
    | some first, some last =>
      if last.any (· < first) then .error "invalid decreasing range".toList
      else .ok { first, last }
    | _, _ => invalid
  | _ => .error (if fields then "invalid field range" else "invalid byte or character range").toList

/-- The ranges that a text describes. -/
def readRanges (fields : Bool) (text : Chars) : Except Chars (List PositionRange) :=
  ((Chars.splitAt ',' text).flatMap (Chars.splitAt ' ')).mapM (readRange fields)

/-- The options of `cut`. -/
def cutOptions : List OptionKind :=
  [.namedValue 'b' "bytes", .namedValue 'c' "characters", .namedValue 'd' "delimiter",
    .namedValue 'f' "fields", { key := 'n' }, .named 's' "only-delimited",
    .named 'z' "zero-terminated", .long 'C' "complement", .long 'o' "output-delimiter" .value]

/-- The items of a list whose positions are chosen. -/
def chosenItems {α : Type} (isChosen : Nat → Bool) (items : List α) : List α :=
  (items.zipIdx 1).filterMap fun (x, n) => if isChosen n then some x else none

/-- The chosen characters of a line, a text standing between those that do not touch. -/
def cutCharacters (isChosen : Nat → Bool) (ranges : List PositionRange) (between : Chars)
    (line : Chars) : Chars :=
  if between.isEmpty then chosenItems isChosen line
  else
    let chosen := (line.zipIdx 1).filter fun (_, n) => isChosen n
    let starts := fun n => n > 1 && ranges.any (·.first = n) && !(ranges.any fun r =>
      r.first < n && r.has n)
    ((chosen.zipIdx).flatMap fun ((c, n), k) =>
      (if k > 0 && (starts n || !isChosen (n - 1)) then between else []) ++ [c])

/-- The chosen fields of a line; a line without any separator stays whole, or goes. -/
def cutFields (isChosen : Nat → Bool) (separator : Char) (onlySeparated : Bool) (between : Chars)
    (line : Chars) : Option Chars :=
  if !line.contains separator then (if onlySeparated then none else some line)
  else some (Chars.joined between (chosenItems isChosen (Chars.splitAt separator line)))

/-- Takes parts out of lines. -/
def cut : Utility := do
  let a ← Act.arguments cutOptions
  let lists := a.options.filter fun (key, _) => key = 'b' || key = 'c' || key = 'f'
  if lists.length > 1 then Act.misused "only one list may be specified".toList
  match lists with
  | [(key, some text)] =>
    let fields := key = 'f'
    if !fields && a.has 'd' then
      Act.misused
        "an input delimiter may be specified only when operating on fields".toList
    if !fields && a.has 's' then
      Act.misused
        "suppressing non-delimited lines makes sense\n\tonly when operating on fields".toList
    let separator ← match a.value? 'd' with
      | none => pure '\t'
      | some [] => pure '\x00'
      | some [c] => pure c
      | some _ => Act.misused "the delimiter must be a single character".toList
    match readRanges fields text with
    | .error e => Act.misused e
    | .ok ranges =>
      let ending := if a.has 'z' then '\x00' else '\n'
      let isChosen := fun n => (ranges.any (·.has n)) != a.has 'C'
      let part := fun line : Chars =>
        if fields then
          cutFields isChosen separator (a.has 's') ((a.value? 'o').getD [separator]) line
        else some (cutCharacters isChosen ranges ((a.value? 'o').getD []) line)
      let failed ← Act.forSources a.sources Act.usualComplaint fun _ text =>
        Act.write (((text.records ending).filterMap part).flatMap (· ++ [ending]))
      return statusOf failed
  | _ => Act.misused "you must specify a list of bytes, characters, or fields".toList

/-! ## Pasting -/

/-- The separators that a list of characters gives; an escaped zero is none at all. -/
def pasteSeparators : Chars → List Chars
  | '\\' :: c :: more =>
    (match c with
      | 'n' => ['\n']
      | 't' => ['\t']
      | '0' => []
      | c => [c]) :: pasteSeparators more
  | c :: more => [c] :: pasteSeparators more
  | [] => []

/-- Parts with separators between them, used in turn. -/
def pasted (separators : List Chars) (parts : List Chars) : Chars :=
  (parts.zipIdx).flatMap fun (part, n) =>
    (if n = 0 then [] else separators.getD ((n - 1) % max 1 separators.length) []) ++ part

/-- Rows of columns of different lengths. -/
def rowsOf (columns : List (List Chars)) : List (List Chars) :=
  let height := (columns.map List.length).foldl max 0
  (List.range height).map fun n => columns.map fun column => column.getD n []

/-- The columns for operands of which several may be the input, whose lines are dealt out. -/
def dealtColumns (operands : List Chars) (texts : List (List Chars)) : List (List Chars) :=
  let hyphens := (operands.filter (· = ['-'])).length
  let dealt := fun (lines : List Chars) (k : Nat) =>
    (lines.zipIdx).filterMap fun (line, n) => if n % max 1 hyphens = k then some line else none
  let input := ((operands.zip texts).find? fun (o, _) => o = ['-']).elim [] (·.2)
  ((operands.zip texts).zipIdx).map fun ((o, lines), n) =>
    if o = ['-'] then dealt input ((operands.take n).filter (· = ['-'])).length else lines

/-- Puts lines side by side. -/
def paste : Utility := do
  let a ← Act.arguments [.namedValue 'd' "delimiters", .named 's' "serial",
    .named 'z' "zero-terminated"]
  let ending := if a.has 'z' then '\x00' else '\n'
  let separators := match a.value? 'd' with
    | none => [['\t']]
    | some [] => [[]]
    | some text => pasteSeparators text
  if a.has 's' then
    let failed ← Act.forSources a.sources Act.usualComplaint fun _ text =>
      let lines := if text.isEmpty then [[]] else text.records ending
      Act.write (pasted separators lines ++ [ending])
    return statusOf failed
  let mut texts := []
  for operand in a.sources do
    match ← Act.readSource operand with
    | .ok text => texts := text.records ending :: texts
    | .error e => Act.die (Act.usualComplaint operand e)
  let columns := dealtColumns a.sources texts.reverse
  Act.write ((rowsOf columns).flatMap fun row => pasted separators row ++ [ending])
  return 0

/-! ## Comparing files that are in order -/

/-- The options of `comm`. -/
def commOptions : List OptionKind :=
  [.long 'c' "check-order", .long 'n' "nocheck-order", .long 'o' "output-delimiter" .value,
    .long 't' "total", .named 'z' "zero-terminated"] ++ OptionKind.letters "123"

/-- What happens when two files are compared line by line. -/
inductive CommEvent where
  /-- A line that is only in one file, or in both. -/
  | line (column : Nat) (text : Chars)
  /-- A file is out of order. -/
  | disorder (file : Nat)

/-- Compares lines of two files. It is noted of each file what line came last and whether it was
found out of order; order is looked at only once a line without a partner was found. -/
def commEvents : Nat → Bool → Option Chars × Bool → Option Chars × Bool → List Chars → List Chars →
    List CommEvent
  | 0, _, _, _, _, _ => []
  | n + 1, unpaired, one, two, a, b =>
    let check := fun (file : Nat) (known : Option Chars × Bool) (next : List Chars)
        (unpaired : Bool) =>
      match known.1, next with
      | some last, line :: _ =>
        if unpaired && !known.2 && Chars.before line last then
          ([CommEvent.disorder file], (some last, true))
        else ([], known)
      | _, _ => (([] : List CommEvent), known)
    let (warnings, one) := check 1 one a unpaired
    let (moreWarnings, two) := check 2 two b unpaired
    let step : List CommEvent := match a, b with
      | [], [] => []
      | x :: more, [] => .line 1 x :: commEvents n true (some x, one.2) two more []
      | [], y :: more => .line 2 y :: commEvents n true one (some y, two.2) [] more
      | x :: moreA, y :: moreB =>
        if x = y then
          .line 3 x :: commEvents n unpaired (some x, one.2) (some y, two.2) moreA moreB
        else if Chars.before x y then
          .line 1 x :: commEvents n true (some x, one.2) two moreA (y :: moreB)
        else .line 2 y :: commEvents n true one (some y, two.2) (x :: moreA) moreB
    warnings ++ moreWarnings ++ step

/-- Compares two files that are in order. -/
def comm : Utility := do
  let a ← Act.arguments commOptions
  match a.operands with
  | [] => Act.missingOperand
  | [one] => Act.misused ("missing operand after ".toList ++ one.shown)
  | [one, two] =>
    let ending := if a.has 'z' then '\x00' else '\n'
    let first ← Act.demandSource one
    let second ← Act.demandSource two
    let between := (a.value? 'o').getD ['\t']
    let tabs := fun keys : List Char =>
      ((keys.filter (!a.has ·)).map fun _ => between).flatten
    let linesA := first.records ending
    let linesB := second.records ending
    let events :=
      commEvents (linesA.length + linesB.length + 1) (a.has 'c') (none, false) (none, false)
        linesA linesB
    let mut disordered := []
    let mut counts := [(0 : Nat), 0, 0]
    for event in events do
      match event with
      | .disorder file =>
        if !a.has 'n' && !disordered.contains file then
          Act.grumble ("file ".toList ++ Chars.ofNat file ++ " is not in sorted order".toList)
          disordered := file :: disordered
          if a.has 'c' then Act.exit 1
      | .line column text =>
        counts := counts.modify (column - 1) (· + 1)
        let (key, front) := match column with
          | 1 => ('1', ([] : Chars))
          | 2 => ('2', tabs ['1'])
          | _ => ('3', tabs ['1', '2'])
        if !a.has key then Act.write (front ++ text ++ [ending])
    if a.has 't' then
      Act.write (Chars.joined between (counts.map Chars.ofNat ++ ["total".toList]) ++ [ending])
    if !disordered.isEmpty then Act.die "input is not in sorted order".toList
    return 0
  | _ :: _ :: extra :: _ => Act.extraOperand extra

/-! ## Joining -/

/-- A line of a file that is joined. -/
structure JoinLine where
  /-- The field that has to agree. -/
  key : Chars
  /-- All fields. -/
  fields : List Chars

/-- The options of `join`. -/
def joinOptions : List OptionKind :=
  [.named 'i' "ignore-case", .named 'z' "zero-terminated", .long 'H' "header",
    .long 'c' "check-order", .long 'n' "nocheck-order"] ++ OptionKind.valued "aevot12j"

/-- The lines of a text that is joined by a field. -/
def joinLines (separator : Option Char) (field : Nat) (text : Chars) : List JoinLine :=
  text.lines.map fun line =>
    let fields := match separator with
      | some c => Chars.splitAt c line
      | none => Chars.fields isBlank line
    { key := fields.getD field [], fields }

/-- The pairs of lines that agree, and lines without a partner, in order. -/
def joinPairs (before : Chars → Chars → Bool) : Nat → List JoinLine → List JoinLine →
    List (Option JoinLine × Option JoinLine)
  | 0, _, _ => []
  | _ + 1, [], b => b.map fun y => (none, some y)
  | _ + 1, x :: a, [] => (x :: a).map fun z => (some z, none)
  | n + 1, x :: a, y :: b =>
    if before x.key y.key then (some x, none) :: joinPairs before n a (y :: b)
    else if before y.key x.key then (none, some y) :: joinPairs before n (x :: a) b
    else
      let same := fun z : JoinLine => !before x.key z.key && !before z.key x.key
      let left := (x :: a).takeWhile same
      let right := (y :: b).takeWhile same
      (left.flatMap fun l => right.map fun r => (some l, some r))
        ++ joinPairs before n ((x :: a).dropWhile same) ((y :: b).dropWhile same)

/-- Joins the lines of two files that agree in a field. -/
def join : Utility := do
  let a ← Act.arguments joinOptions
  match a.operands with
  | [] => Act.missingOperand
  | [one] => Act.misused ("missing operand after ".toList ++ one.shown)
  | [one, two] =>
    let field := fun key =>
      (((a.value? key).or (a.value? 'j')).bind Chars.decimal?).getD 1 - 1
    let separator := (a.value? 't').bind List.head?
    let first := joinLines separator (field '1') (← Act.demandSource one)
    let second := joinLines separator (field '2') (← Act.demandSource two)
    let fold := fun s : Chars => if a.has 'i' then s.map Char.toLower else s
    let pairs := joinPairs (fun s t => Chars.before (fold s) (fold t))
      (first.length + second.length + 1) first second
    let empty := (a.value? 'e').getD []
    let others := fun (l : JoinLine) n =>
      (l.fields.zipIdx).filterMap fun (f, k) => if k = n then none else some f
    let shown := fun (x y : Option JoinLine) =>
      match a.value? 'o' with
      | some format =>
        (Chars.fields (fun c => c = ',' || c = ' ') format).map fun part =>
          let taken := match part with
            | '1' :: '.' :: n => x.bind fun l => l.fields[(Chars.decimal? n).getD 1 - 1]?
            | '2' :: '.' :: n => y.bind fun l => l.fields[(Chars.decimal? n).getD 1 - 1]?
            | _ => (x.or y).map JoinLine.key
          taken.getD empty
      | none =>
        ((x.or y).map JoinLine.key).getD []
          :: (x.elim [] (others · (field '1')) ++ y.elim [] (others · (field '2')))
    let wanted := fun key => (a.values 'a').contains [key] || (a.values 'v').contains [key]
    for (x, y) in pairs do
      let isShown := match x, y with
        | some _, some _ => (a.values 'v').isEmpty
        | some _, none => wanted '1'
        | _, _ => wanted '2'
      if isShown then
        Act.writeLine (Chars.joined [separator.getD ' '] (shown x y))
    return 0
  | _ :: _ :: extra :: _ => Act.extraOperand extra

end Shakedown.Utility
