import Shakedown.Text.Difference
import Shakedown.Utility.Input
import Shakedown.Utility.Listing

/-!
# Comparing files

The utilities `cmp`, which tells where two files differ first, and `diff`, which tells how one is
changed into the other.
-/

set_option autoImplicit false

namespace Shakedown.Utility.Difference

/-- Complains about how a program is used, and ends it. -/
def misused {α : Type} (message : Chars) : Act α := do
  Act.grumble message
  let name := (← get).name
  Act.grumble ("Try '".toList ++ name ++ " --help' for more information.".toList)
  Act.exit 2

/-- The arguments of a program. -/
def argumentsOf (options : List OptionKind) : Act Arguments := do
  match sortArguments options false (← get).args with
  | .ok a => return a
  | .error e => misused e

/-- The text of a file without which the program ends. -/
def demandText (path : Chars) : Act Chars := do
  match ← Act.readSource path with
  | .ok text => return text
  | .error e => Act.die (path ++ ": ".toList ++ Act.reason e.fault) 2

/-! ## The first difference -/

/-- The options of `cmp`. -/
def cmpOptions : List OptionKind :=
  [.named 'b' "print-bytes", .namedValue 'i' "ignore-initial", .named 'l' "verbose",
    .namedValue 'n' "bytes", { key := 's', names := ["quiet", "silent"] }]

/-- The number that a word of `cmp` gives. -/
def cmpNumber (name : String) (word : Chars) : Act Nat := do
  match Chars.decimal? word with
  | some n => return n
  | none => misused ("invalid --".toList ++ name.toList ++ " value ".toList ++ Chars.quoted word)

/-- How much of two files is passed over. -/
def passedOver (a : Arguments) : Act (Nat × Nat) := do
  match a.value? 'i' with
  | some word =>
    let parts := Chars.splitAt ':' word
    let first ← cmpNumber "ignore-initial" (parts.headD [])
    match parts[1]? with
    | some second => return (first, ← cmpNumber "ignore-initial" second)
    | none => return (first, first)
  | none =>
    let number := fun (i : Nat) => match a.operands[i]? with
      | some word => cmpNumber "ignore-initial" word
      | none => pure 0
    return (← number 2, ← number 3)

/-- A byte in octal digits. -/
def octal (c : Char) : Chars :=
  Chars.padLeft 3 (Nat.toDigits 8 c.toNat)

/-- A byte as it is shown beside its digits. -/
def shownByte (c : Char) : Chars :=
  let n := c.toNat
  let high : Chars := if n ≥ 128 then ['M', '-'] else []
  let low := n % 128
  high ++ if low < 32 then ['^', Char.ofNat (low + 64)] else if low = 127 then ['^', '?']
    else [Char.ofNat low]

/-- Tells about all differences of two texts. -/
def tellAll (showsBytes : Bool) (s t : Chars) : Act Unit := do
  let width := (Chars.ofNat (min s.length t.length)).length
  for ((x, y), i) in (s.zip t).zipIdx do
    if x ≠ y then
      Act.write (Chars.padLeft width (Chars.ofNat (i + 1)) ++ ' ' :: octal x)
      if showsBytes then
        Act.write (' ' :: Chars.padRight 4 (shownByte x) ++ ' ' :: octal y ++ ' ' :: shownByte y)
      else Act.write (' ' :: octal y)
      Act.write Chars.newline

/-- Tells which of two files ends first, and where. -/
def tellEnd (showsLine : Bool) (path common : Chars) : Act Unit :=
  let newlines := common.count '\n'
  let line : Chars :=
    if !showsLine then []
    else if common.getLast? = some '\n' then ", line ".toList ++ Chars.ofNat newlines
    else ", in line ".toList ++ Chars.ofNat (newlines + 1)
  Act.complain <| "cmp: EOF on ".toList ++ path ++ if common.isEmpty then " which is empty".toList
    else " after byte ".toList ++ Chars.ofNat common.length ++ line

/-- Compares two files. -/
def cmp : Utility := do
  let a ← argumentsOf cmpOptions
  if a.has 'l' && a.has 's' then misused "options -l and -s are incompatible".toList
  match a.operands with
  | [] => misused ("missing operand after ".toList ++ Chars.quoted (← get).name)
  | first :: more =>
    if let some word := a.operands[4]? then misused ("extra operand ".toList ++ Chars.quoted word)
    let second := more.headD ['-']
    let (skip, skipOther) ← passedOver a
    let limit? ← (a.value? 'n').mapM (cmpNumber "bytes")
    if first = second && first ≠ ['-'] && skip = skipOther then
      let _ ← demandText first
      return 0
    let s := (← demandText first).drop skip
    let t := (← demandText second).drop skipOther
    let s := limit?.elim s s.take
    let t := limit?.elim t t.take
    if s = t then return 0
    if a.has 's' then return 1
    let common := ((s.zip t).takeWhile fun (x, y) => x = y).map (·.1)
    let n := common.length
    if a.has 'l' then
      tellAll (a.has 'b') s t
      if s.length ≠ t.length then
        tellEnd false (if s.length < t.length then first else second)
          (s.take (min s.length t.length))
    else match s[n]?, t[n]? with
      | some x, some y =>
        Act.write (first ++ ' ' :: second ++ " differ: ".toList
          ++ (if a.has 'b' then "byte " else "char ").toList ++ Chars.ofNat (n + 1)
          ++ ", line ".toList ++ Chars.ofNat (common.count '\n' + 1))
        if a.has 'b' then
          Act.write (" is ".toList ++ octal x ++ ' ' :: shownByte x ++ ' ' :: octal y ++ ' ' ::
            shownByte y)
        Act.write Chars.newline
      | none, _ => tellEnd true first common
      | _, none => tellEnd true second common
    return 1

/-! ## All changes -/

/-- The options of `diff`. -/
def diffOptions : List OptionKind :=
  [.named 'a' "text", .named 'b' "ignore-space-change", .named 'B' "ignore-blank-lines",
    .named 'd' "minimal", .named 'i' "ignore-case", .named 'N' "new-file", .named 'q' "brief",
    .named 'r' "recursive", .named 's' "report-identical-files", .named 't' "expand-tabs",
    .named 'w' "ignore-all-space", { key := 'u' }, .namedValue 'U' "unified",
    .long 'L' "label" .value, .long 'n' "normal", .long 'K' "strip-trailing-cr",
    .long 'C' "color" .perhaps]

/-- What a line counts as, depending on what is ignored. -/
def essence (a : Arguments) (line : Chars) : Chars :=
  let line := if a.has 'K' && line.getLast? = some '\n' && line.dropLast.getLast? = some '\r' then
    line.dropLast.dropLast ++ ['\n'] else line
  let line := if a.has 'i' then line.map Char.toLower else line
  if a.has 'w' then line.filter (!Chars.isSpace ·)
  else if a.has 'b' then
    let parts := line.splitBy fun x y => Chars.isSpace x = Chars.isSpace y
    let joined := parts.flatMap fun part => if part.any Chars.isSpace then [' '] else part
    if joined.getLast? = some ' ' then joined.dropLast else joined
  else line

/-- A line behind a mark; one that is not ended is marked, too. -/
def marked (mark : Chars) (line : Chars) : Chars :=
  if line.getLast? = some '\n' then mark ++ line
  else mark ++ line ++ "\n\\ No newline at end of file\n".toList

/-- Places of lines: the first one and the last one, or the one before if there are none. -/
def placesText (start count : Nat) : Chars :=
  if count ≤ 1 then Chars.ofNat (start + count)
  else Chars.ofNat (start + 1) ++ ',' :: Chars.ofNat (start + count)

/-- A change. -/
def changeText (xs ys : List Chars) (c : Change) : Chars :=
  let removed := (xs.drop c.left).take c.leftCount
  let inserted := (ys.drop c.right).take c.rightCount
  let letter := if removed.isEmpty then 'a' else if inserted.isEmpty then 'd' else 'c'
  placesText c.left c.leftCount ++ letter :: placesText c.right c.rightCount ++ Chars.newline
    ++ removed.flatMap (marked "< ".toList)
    ++ (if removed.isEmpty || inserted.isEmpty then [] else "---\n".toList)
    ++ inserted.flatMap (marked "> ".toList)

/-- Changes in groups, between which so many lines or more stay. -/
def groups (distance : Nat) : List Change → List (List Change)
  | [] => []
  | c :: more =>
    match groups distance more with
    | (d :: rest) :: others =>
      if d.left - (c.left + c.leftCount) ≤ distance then (c :: d :: rest) :: others
      else [c] :: (d :: rest) :: others
    | others => [c] :: others

/-- Places of lines at the head of a group: the first one and how many there are. -/
def rangeText (start count : Nat) : Chars :=
  if count = 1 then Chars.ofNat (start + 1)
  else Chars.ofNat (if count = 0 then start else start + 1) ++ ',' :: Chars.ofNat count

/-- The lines of a group of changes from a place on. -/
def groupLines (xs ys : List Chars) (start stop : Nat) : List Change → Chars
  | [] => ((xs.drop start).take (stop - start)).flatMap (marked [' '])
  | c :: more =>
    ((xs.drop start).take (c.left - start)).flatMap (marked [' '])
      ++ ((xs.drop c.left).take c.leftCount).flatMap (marked ['-'])
      ++ ((ys.drop c.right).take c.rightCount).flatMap (marked ['+'])
      ++ groupLines xs ys (c.left + c.leftCount) stop more

/-- A group of changes with lines around it. -/
def groupText (around : Nat) (xs ys : List Chars) (group : List Change) : Chars :=
  match group, group.getLast? with
  | first :: _, some last =>
    let before := min around first.left
    let start := first.left - before
    let stop := min xs.length (last.left + last.leftCount + around)
    let otherStart := first.right - before
    let otherStop := min ys.length (last.right + last.rightCount + around)
    "@@ -".toList ++ rangeText start (stop - start) ++ " +".toList
      ++ rangeText otherStart (otherStop - otherStart) ++ " @@\n".toList
      ++ groupLines xs ys start stop group
  | _, _ => []

/-- A time with its date. -/
def stampText (time : Nat) : Chars :=
  let (year, month, day) := dateOfDays (time / 86400)
  let second := time % 86400
  Chars.ofNat year ++ '-' :: twoDigits month ++ '-' :: twoDigits day ++ ' ' ::
    twoDigits (second / 3600) ++ ':' :: twoDigits (second / 60 % 60) ++ ':' ::
    twoDigits (second % 60) ++ ".000000000 +0000".toList

/-- The heading of a file. -/
def fileHeading (mark path : Chars) (label? : Option Chars) : Act Chars := do
  match label? with
  | some label => return mark ++ ' ' :: label ++ Chars.newline
  | none =>
    let time := (← Act.nodeAt path).elim 0 (← get).world.tree.timeOf
    return mark ++ ' ' :: path ++ '\t' :: stampText time ++ Chars.newline

/-- How many lines are shown around changes; nothing where changes stand by themselves. -/
def aroundOf (a : Arguments) : Act (Option Nat) := do
  match a.value? 'U' with
  | some word =>
    match Chars.decimal? word with
    | some n => return some n
    | none => misused ("invalid context length ".toList ++ Chars.quoted word)
  | none => return if a.has 'u' then some 3 else none

/-- Whether a change only has blank lines. -/
def isBlankChange (xs ys : List Chars) (c : Change) : Bool :=
  ((xs.drop c.left).take c.leftCount ++ (ys.drop c.right).take c.rightCount).all
    (· = Chars.newline)

/-- Whether a text cannot be shown line by line. -/
def isBinary (s : Chars) : Bool :=
  s.contains '\x00'

/-- Tells about two files with their texts; answers the status. -/
def tellFiles (a : Arguments) (heading first second s t : Chars) : Act UInt8 := do
  let xs := s.pieces '\n'
  let ys := t.pieces '\n'
  let all := if s = t then []
    else Difference.changes (xs.map (essence a)) (ys.map (essence a))
  let all := if a.has 'B' then all.filter (!isBlankChange xs ys ·) else all
  if all.isEmpty then
    if a.has 's' then
      Act.write ("Files ".toList ++ first ++ " and ".toList ++ second
        ++ " are identical\n".toList)
    return 0
  if a.has 'q' then
    Act.write ("Files ".toList ++ first ++ " and ".toList ++ second ++ " differ\n".toList)
    return 1
  if !a.has 'a' && (isBinary s || isBinary t) then
    Act.write ("Binary files ".toList ++ first ++ " and ".toList ++ second ++ " differ\n".toList)
    return 1
  Act.write heading
  match ← aroundOf a with
  | none => all.forM fun c => Act.write (changeText xs ys c)
  | some around =>
    let labels := a.values 'L'
    Act.write (← fileHeading "---".toList first labels[0]?)
    Act.write (← fileHeading "+++".toList second labels[1]?)
    (groups (2 * around) all).forM fun g => Act.write (groupText around xs ys g)
  return 1

/-- The text of a file; one that is missing counts as empty if `lenient`. Complains otherwise. -/
def textOf (lenient : Bool) (path : Chars) : Act (Option Chars) := do
  match ← Act.readSource path with
  | .ok text => return some text
  | .error e =>
    if lenient && e.fault = .notFound then return some []
    else
      Act.grumble (path ++ ": ".toList ++ Act.reason e.fault)
      return none

/-- Compares two files; answers the status. -/
def diffFiles (a : Arguments) (heading first second : Chars) : Act UInt8 := do
  let isThere := fun (path : Chars) => do
    return path = ['-'] || (← Act.nodeAt path).isSome
  let lenient := a.has 'N' && ((← isThere first) || (← isThere second))
  let s? ← textOf lenient first
  let t? ← textOf lenient second
  match s?, t? with
  | some s, some t => tellFiles a heading first second s t
  | _, _ => return 2

/-- The words of options as they are repeated. -/
def optionWords : Act Chars := do
  let words := (← get).args.filter fun w => w.head? = some '-' && w.length > 1
  return "diff".toList ++ words.flatMap (' ' :: ·)

/-- What stands at a path, in words. -/
def kindAt (path : Chars) : Act Chars := do
  let t := (← get).world.tree
  return (← Act.nodeAt path).elim [] fun n => (kindText t n).toList

/-- Whether two paths lead to the same place. -/
def areSame (first second : Chars) : Act Bool := do
  match ← Act.stat first, ← Act.stat second with
  | .ok (l, _), .ok (m, _) => return l = m
  | _, _ => return false

/-- Compares what stands at two paths in directories that were already entered; answers the
status. -/
def diffDirectories (a : Arguments) : Nat → Chars → Chars → Act UInt8
  | 0, _, _ => return 2
  | n + 1, first, second => do
    let names ← Act.entriesAt first
    let others ← Act.entriesAt second
    let all := names ++ others.filter (!names.contains ·)
    let mut status := 0
    for name in all.mergeSort fun x y => !Chars.before y x do
      let p := nameIn first name
      let q := nameIn second name
      let inFirst := names.contains name
      let inSecond := others.contains name
      if (inFirst && inSecond) || a.has 'N' then
        let isDirectory ← Act.isDirectoryAt p
        let isOther ← Act.isDirectoryAt q
        if isDirectory && isOther then
          if a.has 'r' then status := max status (← diffDirectories a n p q)
          else Act.write ("Common subdirectories: ".toList ++ p ++ " and ".toList ++ q ++ ['\n'])
        else if isDirectory != isOther && inFirst && inSecond then
          Act.write ("File ".toList ++ p ++ " is a ".toList ++ (← kindAt p)
            ++ " while file ".toList ++ q ++ " is a ".toList ++ (← kindAt q) ++ ['\n'])
          status := max status 1
        else
          let heading := (← optionWords) ++ ' ' :: p ++ ' ' :: q ++ ['\n']
          status := max status (← diffFiles a heading p q)
      else
        let directory := if inFirst then first else second
        Act.write ("Only in ".toList ++ directory ++ ": ".toList ++ name ++ ['\n'])
        status := max status 1
    return status

/-- Tells how files differ. -/
def diff : Utility := do
  let a ← argumentsOf diffOptions
  match a.operands with
  | [] => misused ("missing operand after ".toList ++ Chars.quoted (← get).name)
  | [word] => misused ("missing operand after ".toList ++ Chars.quoted word)
  | [first, second] =>
    let isDirectory ← Act.isDirectoryAt first
    let isOther ← Act.isDirectoryAt second
    if isDirectory && isOther then
      if ← areSame first second then return 0
      else diffDirectories a Act.treeDepth first second
    else
      let p := if isDirectory then nameIn first (lastPart second) else first
      let q := if isOther then nameIn second (lastPart first) else second
      diffFiles a [] p q
  | _ => misused ("extra operand ".toList ++ Chars.quoted (a.operands.getD 2 []))

end Shakedown.Utility.Difference
