import Shakedown.Number.Binary64
import Shakedown.Regex.Read
import Shakedown.Shell.Pattern
import Shakedown.Utility.Input
import Shakedown.Utility.Operation

/-!
# Finding lines

The utility `grep` writes the lines of files in which a pattern occurs, perhaps with those around
them, or tells where there are any.
-/

set_option autoImplicit false

namespace Shakedown.Utility.Grep

/-- The options of `grep`. -/
def options : List OptionKind :=
  [.named 'E' "extended-regexp", .named 'F' "fixed-strings", .named 'G' "basic-regexp",
    .named 'P' "perl-regexp", .namedValue 'e' "regexp", .namedValue 'f' "file",
    .named 'i' "ignore-case", .long 'j' "no-ignore-case", { key := 'y' },
    .named 'v' "invert-match", .named 'w' "word-regexp", .named 'x' "line-regexp",
    .named 'c' "count", .long 'k' "color" .perhaps, .long 'k' "colour" .perhaps,
    .named 'L' "files-without-match", .named 'l' "files-with-matches", .namedValue 'm' "max-count",
    .named 'o' "only-matching", { key := 'q', names := ["quiet", "silent"] },
    .named 's' "no-messages", .named 'b' "byte-offset", .named 'H' "with-filename",
    .named 'h' "no-filename", .long 'J' "label" .value, .named 'n' "line-number",
    .named 'T' "initial-tab", .named 'Z' "null", .namedValue 'A' "after-context",
    .namedValue 'B' "before-context", .namedValue 'C' "context", .named 'a' "text",
    .long 'K' "binary-files" .value, { key := 'I' }, .namedValue 'd' "directories",
    .namedValue 'D' "devices", .named 'r' "recursive", .named 'R' "dereference-recursive",
    .long 'M' "include" .value, .long 'N' "exclude" .value, .long 'O' "exclude-dir" .value,
    .named 'z' "null-data", .named 'U' "binary", .long 'W' "line-buffered"]

/-- What is looked for. -/
structure Search where
  /-- The patterns. -/
  regex : Regex
  /-- How they are matched. -/
  style : MatchStyle
  /-- Whether a match has to be a whole word. -/
  words : Bool
  /-- Whether a match has to be a whole line. -/
  lines : Bool

/-- Where a match may begin. -/
def Search.mayBegin (s : Search) (p : Place) : Bool :=
  (!s.lines || p.before.isNone) && (!s.words || !p.before.any Place.isWordChar)

/-- Where a match may end. -/
def Search.mayEnd (s : Search) (p : Place) : Bool :=
  (!s.lines || p.rest.isEmpty) && (!s.words || !p.rest.head?.any Place.isWordChar)

/-- The first match at a place or behind it. -/
def Search.next (s : Search) (p : Place) : Option Match :=
  s.regex.searchFrom s.style s.mayBegin s.mayEnd (p.rest.length + 1) { p with captures := [] }

/-- Whether there is a match on a line. -/
def Search.holds (s : Search) (line : Chars) : Bool :=
  (s.next { rest := line }).isSome

/-- The parts of a line that match and have something in them, with their offsets. -/
def Search.parts (s : Search) : Nat → Place → List (Nat × Chars)
  | 0, _ => []
  | n + 1, p =>
    match s.next p with
    | none => []
    | some m =>
      let length := m.stop.offset - m.start
      if length = 0 then
        match m.stop.rest with
        | [] => []
        | c :: rest => s.parts n (m.stop.advance c rest)
      else
        (m.start, (p.rest.drop (m.start - p.offset)).take length) :: s.parts n m.stop

/-- How lines are written. -/
structure Layout where
  /-- The name of the file, if it is written. -/
  name : Option Chars
  /-- Whether the numbers of lines are written. -/
  numbers : Bool
  /-- Whether the offsets of lines are written. -/
  offsets : Bool
  /-- What stands between a name and what follows, if not the usual sign. -/
  nameEnd : Option Char

/-- What stands in front of a line. -/
def Layout.front (l : Layout) (sign : Char) (number offset : Nat) : Chars :=
  let name := l.name.elim [] fun n => n ++ [l.nameEnd.getD sign]
  let numbered := if l.numbers then Chars.ofNat number ++ [sign] else []
  let placed := if l.offsets then Chars.ofNat offset ++ [sign] else []
  name ++ numbered ++ placed

/-- A line of a file. -/
structure Line where
  /-- Its number. -/
  number : Nat
  /-- Where it begins. -/
  offset : Nat
  /-- What stands on it. -/
  text : Chars
  /-- Whether it was looked for. -/
  selected : Bool

/-- The lines of a text, of which only so many are selected. -/
def linesOf (isSelected : Chars → Bool) : Nat → Nat → Nat → List Chars → List Line
  | _, _, _, [] => []
  | number, offset, most, text :: more =>
    let selected := most > 0 && isSelected text
    { number, offset, text, selected }
      :: linesOf isSelected (number + 1) (offset + text.length + 1)
        (if selected then most - 1 else most) more

/-- The lines that are written: those that are selected, with so many before and behind each. -/
def withContext (before after : Nat) (lines : List Line) : List Line :=
  let near := fun (l : Line) =>
    lines.any fun m => m.selected && l.number ≤ m.number + after && m.number ≤ l.number + before
  if before = 0 && after = 0 then lines.filter (·.selected) else lines.filter near

/-- The options for one run. -/
structure Run where
  /-- What is looked for. -/
  search : Search
  /-- The options. -/
  args : Arguments
  /-- How many lines are selected of each file at most. -/
  most : Nat
  /-- How many lines are written before each. -/
  before : Nat
  /-- How many lines are written behind each. -/
  after : Nat

/-- What is known after some files. -/
structure Outcome where
  /-- Whether a line was selected. -/
  found : Bool := false
  /-- Whether something was wrong. -/
  failed : Bool := false
  /-- Whether lines have been written. -/
  written : Bool := false

/-- Writes lines with those around them. -/
def writeLines (r : Run) (l : Layout) (ending : Char) (written : Bool) (lines : List Line) :
    Act Unit := do
  let hasContext := r.before > 0 || r.after > 0
  let mut last : Option Nat := if written then some 0 else none
  for line in withContext r.before r.after lines do
    if hasContext && last.any fun n => n + 1 ≠ line.number || n = 0 then
      Act.write "--\n".toList
    last := some line.number
    let sign := if line.selected then ':' else '-'
    if r.args.has 'o' then
      if !r.args.has 'v' && line.selected then
        for (offset, part) in r.search.parts (line.text.length + 1) { rest := line.text } do
          Act.write (l.front sign line.number (line.offset + offset) ++ part ++ [ending])
    else Act.write (l.front sign line.number line.offset ++ line.text ++ [ending])

/-- Searches a text. -/
def searchText (r : Run) (shownName : Bool) (name text : Chars) (o : Outcome) : Act Outcome := do
  let a := r.args
  let ending := if a.has 'z' then '\x00' else '\n'
  let isSelected := fun line => r.search.holds line != a.has 'v'
  let lines := linesOf isSelected 1 0 r.most (text.records ending)
  let count := (lines.filter (·.selected)).length
  let nameEnd := if a.has 'Z' then some '\x00' else none
  let layout : Layout :=
    { name := if shownName then some name else none, numbers := a.has 'n', offsets := a.has 'b'
      nameEnd }
  let found := o.found || count > 0
  if a.has 'q' then return { o with found }
  if a.has 'l' || a.has 'L' then
    let listed := (count > 0) != a.has 'L'
    if listed then Act.write (name ++ [nameEnd.getD '\n'])
    return { o with found }
  if a.has 'c' then
    Act.write ((layout.name.elim [] fun n => n ++ [nameEnd.getD ':']) ++ Chars.ofNat count
      ++ Chars.newline)
    return { o with found }
  let isText := a.has 'a' || a.has 'z' || a.value? 'K' = some "text".toList
  if !isText && text.contains '\x00' then
    if count > 0 then Act.grumble (name ++ ": binary file matches".toList)
    return { o with found }
  writeLines r layout ending o.written lines
  return { o with found, written := o.written || count > 0 }

/-- Complains about a file, unless that is not wanted. -/
def complain (r : Run) (name : Chars) (e : Fault) : Act Unit := do
  if !r.args.has 's' then Act.grumble (name ++ ": ".toList ++ Act.reason e)

/-- Whether a name is like one of some patterns. -/
def isLike (patterns : List Chars) (name : Chars) : Bool :=
  patterns.any fun text => (Shell.Pattern.ofLetters (text.map fun c => (c, false))).holds name

/-- Searches a file or, where that is asked for, all files in a directory. -/
def searchPath (r : Run) (shownName : Bool) : Nat → Bool → Chars → Outcome → Act Outcome
  | 0, _, _, o => return o
  | depth + 1, isTop, path, o => do
    let a := r.args
    if o.found && a.has 'q' then return o
    let deep := a.has 'r' || a.has 'R' || a.value? 'd' = some "recurse".toList
    let name := if path = ['-'] then (a.value? 'J').getD "(standard input)".toList else path
    let isDirectory := path ≠ ['-'] && (← Act.isDirectoryAt path)
    if isDirectory && deep then
      let mut outcome := o
      for entry in ← Act.entriesAt path do
        let inner := if path = ['.'] && a.operands.length < 2 && isTop && !a.operands.contains ['.']
          then entry else nameIn path entry
        let isLink := (← Act.nodeAt inner false).any FileTree.isLink
        let isInner ← Act.isDirectoryAt inner
        let skipped := (isLink && !a.has 'R')
          || (isInner && isLike (a.values 'O') entry)
          || (!isInner && (isLike (a.values 'N') entry
            || (!(a.values 'M').isEmpty && !isLike (a.values 'M') entry)))
        if !skipped then outcome ← searchPath r shownName depth false inner outcome
      return outcome
    if isDirectory && a.value? 'd' = some "skip".toList then return o
    match ← Act.readSource path with
    | .ok text => searchText r shownName name text o
    | .error e =>
      complain r name e.fault
      return { o with failed := true }

/-- Says how the program is used, and ends it. -/
def misused {α : Type} (message? : Option Chars) : Act α := do
  message?.forM Act.grumble
  Act.complain ("Usage: ".toList ++ (← get).name ++ " [OPTION]... PATTERNS [FILE]...".toList)
  Act.referToHelp 2

/-- A number that belongs to an option. -/
def number (a : Arguments) (key : Char) (complaint : Chars → Chars) : Act (Option Nat) := do
  match a.value? key with
  | none => return none
  | some word =>
    match Numeral.integer? word with
    | some i =>
      if i < 0 && key ≠ 'm' then Act.die (complaint word) 2
      return some (if i < 0 then tenTo 9 else i.toNat)
    | none => Act.die (complaint word) 2

/-- The expression of a pattern. -/
def readPattern (a : Arguments) (text : Chars) : Act Regex := do
  let kind := a.lastOf? ['E', 'F', 'G', 'P']
  if kind = some 'F' then
    return text.foldr (fun c r => .seq (.char (.single c)) r) .empty
  if text.length > 2 && text.take 2 = ['[', ':'] && text.drop (text.length - 2) = [':', ']'] then
    Act.die "character class syntax is [[:space:]], not [:space:]".toList 2
  let extended := kind = some 'E' || kind = some 'P'
  match Regex.read { extended, looseClosing := extended } text with
  | .error e => Act.die e.toList 2
  | .ok c =>
    for sign in c.dangling do
      Act.grumble ("warning: ".toList ++ sign.toList ++ " at start of expression".toList)
    return c.regex

/-- The patterns that options ask for, and the other operands. -/
def patternsOf (a : Arguments) : Act (List Chars × List Chars) := do
  let mut texts := []
  for (key, value?) in a.options do
    match key, value? with
    | 'e', some text => texts := texts ++ Chars.splitAt '\n' text
    | 'f', some path =>
      match ← Act.readSource path with
      | .ok text => texts := texts ++ text.lines
      | .error e => Act.die (path ++ ": ".toList ++ Act.reason e.fault) 2
    | _, _ => pure ()
  if a.has 'e' || a.has 'f' then return (texts, a.operands)
  match a.operands with
  | [] => misused none
  | text :: more => return (Chars.splitAt '\n' text, more)

/-- A number of lines that is an option itself, written out. -/
def spelledOut (word : Chars) : List Chars :=
  match word with
  | '-' :: d :: more => if d.isDigit && more.all Char.isDigit then [['-', 'C'], d :: more] else [word]
  | _ => [word]

/-- Whether a word is an option that takes the next word for its value. -/
def takesNext (word : Chars) : Bool :=
  word.head? = some '-' && word.length > 1 && word[1]? ≠ some '-'
    && word.getLast?.any "ABCmef".toList.contains

/-- Arguments with numbers of lines written out. -/
def allSpelledOut : List Chars → List Chars
  | word :: next :: more =>
    if takesNext word then word :: next :: allSpelledOut more
    else spelledOut word ++ allSpelledOut (next :: more)
  | words => words.flatMap spelledOut

/-- Finds lines. -/
def grep (kind : List Chars) : Utility := do
  modify fun p =>
    let name := if kind.isEmpty then p.name else "grep".toList
    { p with words := name :: (kind ++ allSpelledOut p.args) }
  let a ← match sortArguments options false (← get).args with
    | .ok a => pure a
    | .error e => misused (some e)
  let (texts, operands) ← patternsOf a
  let most ← number a 'm' fun _ => "invalid max count".toList
  let context := fun word => word ++ ": invalid context length argument".toList
  let around ← number a 'C' context
  let before ← number a 'B' context
  let after ← number a 'A' context
  let regexes ← texts.mapM (readPattern a)
  let regex := match regexes with
    | [] => Regex.boundary .noWordEdge |>.seq (.boundary .wordEdge)
    | r :: more => more.foldl .either r
  let folds := (a.lastOf? ['i', 'y', 'j']).any (· ≠ 'j')
  let search : Search := { regex, style := { folds }, words := a.has 'w', lines := a.has 'x' }
  let r : Run :=
    { search, args := { a with operands }, most := most.getD (tenTo 9)
      before := (before.or around).getD 0, after := (after.or around).getD 0 }
  let deep := a.has 'r' || a.has 'R'
  let paths := if operands.isEmpty then (if deep then [['.']] else [['-']]) else operands
  let severalInside ← if deep then paths.anyM fun path => Act.isDirectoryAt path else pure false
  let shownName := match a.lastOf? ['h', 'H'] with
    | some key => key = 'H'
    | none => paths.length > 1 || severalInside
  let mut o : Outcome := {}
  for path in paths do
    o ← searchPath r shownName Act.treeDepth true path o
  return if o.found && a.has 'q' then 0 else if o.failed then 2 else statusOf !o.found

end Shakedown.Utility.Grep
