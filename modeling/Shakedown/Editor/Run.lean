import Shakedown.Editor.Script
import Shakedown.Process.Basic

/-!
# Editing

A script is carried out for every line in turn. `step` carries out one command and tells how it goes
on; `cycle` carries out the script for a line.
-/

set_option autoImplicit false

namespace Shakedown.Editor

/-- A line without its end. -/
structure Space where
  /-- The text. -/
  text : Chars := []
  /-- Whether the line was ended. -/
  ended : Bool := true

/-- A line of the input. -/
structure InputLine where
  /-- The file it comes from. -/
  file : Chars
  /-- The line. -/
  space : Space

/-- Something that is written behind a line. -/
inductive Queued where
  /-- A text. -/
  | text (s : Chars)
  /-- A file. -/
  | file (path : Chars)
  /-- The next line of a file. -/
  | line (path : Chars)

/-- Where a range of lines is. -/
inductive RangeState where
  /-- Before its first line. -/
  | before
  /-- Inside; it may end with a known line. -/
  | inside (stop : Option Nat)
  deriving DecidableEq

/-- A place that is written to. -/
structure Sink where
  /-- The number of the open file; the output has none. -/
  opened : Option Nat := none
  /-- Whether the line that was written last was not ended. -/
  unfinished : Bool := false

/-- The state of editing. -/
structure Editing where
  /-- The commands. -/
  commands : Array Command
  /-- Whether lines are written only if a command says so. -/
  quiet : Bool
  /-- What ends a line. -/
  ending : Char
  /-- The width of lines that are shown. -/
  width : Nat
  /-- The pattern space. -/
  pattern : Space := {}
  /-- The hold space. -/
  held : Space := {}
  /-- The number of the line. -/
  line : Nat := 0
  /-- The file the line comes from. -/
  file : Chars := []
  /-- The lines to come. -/
  input : List InputLine
  /-- Where the ranges are. -/
  ranges : Array RangeState
  /-- What is written behind the line, latest first. -/
  queue : List Queued := []
  /-- Whether something was replaced. -/
  replaced : Bool := false
  /-- The expression that was used last. -/
  recent : Option (Regex × MatchStyle) := none
  /-- The output. -/
  output : Sink := {}
  /-- The files that are written. -/
  sinks : List (Chars × Sink) := []
  /-- The lines that are left of files that are read line by line. -/
  readers : List (Chars × List Chars) := []

/-- A step of editing. -/
abbrev Edit := StateT Editing Act

/-- How it goes on after a command. -/
inductive Flow where
  /-- With the next command. -/
  | on
  /-- With a certain command. -/
  | at (place : Nat)
  /-- With the next line, perhaps after the pattern space was written. -/
  | done (prints : Bool)
  /-- With the script for what is left of the pattern space. -/
  | again
  /-- Not at all. -/
  | stop (status : Nat) (prints : Bool)

namespace Edit

/-! ## Writing -/

/-- Ends the run since the output cannot be written. -/
def writeFailed {α : Type} (e : Fault) : Act α := do
  Act.complain ((← get).name ++ ": couldn't flush stdout: ".toList ++ Act.reason e)
  Act.exit 4

/-- Writes a text to a sink. A line before that was not ended is ended first. -/
def Sink.write (s : Sink) (ending : Char) (text : Chars) (ended : Bool) : Act Sink := do
  let all := (if s.unfinished then [ending] else []) ++ text ++ if ended then [ending] else []
  let fault ← match s.opened with
    | some number => Act.putTo number all
    | none => Act.put 1 all
  fault.forM writeFailed
  return { s with unfinished := !ended && !text.isEmpty }

/-- Writes a text to the output. -/
def write (text : Chars) (ended : Bool) : Edit Unit := do
  let s ← get
  let output ← Sink.write s.output s.ending text ended
  set { s with output }

/-- Writes a text that ends its lines itself. -/
def writeWhole (text : Chars) : Edit Unit := do
  let s ← get
  let output ← Sink.write s.output s.ending text false
  set { s with output := { output with unfinished := false } }

/-- Writes the pattern space. -/
def printPattern : Edit Unit := do
  let p := (← get).pattern
  write p.text p.ended

/-- Writes a text to a file of the script. -/
def writeTo (path text : Chars) (ended : Bool) : Edit Unit := do
  if path = "/dev/stdout".toList then write text ended
  else
    let s ← get
    match s.sinks.lookup path with
    | none => return ()
    | some sink =>
      let sink ← Sink.write sink s.ending text ended
      set { s with sinks := s.sinks.map fun (p, old) => (p, if p = path then sink else old) }

/-- The text of a file, nothing if it cannot be read. -/
def textOf (path : Chars) : Act Chars := do
  let path := if path = "/dev/stdin".toList then ['-'] else path
  return (← Act.readOperand path).toOption.getD []

/-- Writes what is due behind the line. -/
def flushQueue : Edit Unit := do
  let queue := (← get).queue.reverse
  modify ({ · with queue := [] })
  for q in queue do
    match q with
    | .text s => writeWhole s
    | .file path => writeWhole (← textOf path)
    | .line path =>
      let left ← match (← get).readers.lookup path with
        | some left => pure left
        | none => pure (← textOf path).lines
      modify fun s => { s with
        readers := (path, left.tail) :: s.readers.filter (·.1 ≠ path) }
      left.head?.forM fun line => write line true

/-! ## Reading -/

/-- Takes the next line of the input, if there is one. -/
def nextLine : Edit (Option Space) := do
  flushQueue
  match (← get).input with
  | [] => return none
  | line :: input =>
    modify fun s => { s with input, line := s.line + 1, file := line.file, replaced := false }
    return some line.space

/-- Whether there are no more lines. -/
def isLast : Edit Bool := do
  return (← get).input.isEmpty

/-! ## Selecting -/

/-- The expression that is meant. -/
def meant (e : Expression) : Edit (Regex × MatchStyle) := do
  match e.own? with
  | some (r, _) =>
    modify ({ · with recent := some (r, e.style) })
    return (r, e.style)
  | none =>
    match (← get).recent with
    | some found => return found
    | none =>
      let name := (← getThe Process).name
      (Act.complain (name
        ++ ": -e expression #1, char 0: no previous regular expression".toList) : Act Unit)
      (Act.exit 1 : Act _)

/-- Whether an address is that of the line. -/
def isAt (a : Address) : Edit Bool := do
  let s ← get
  match a with
  | .line n => return s.line = n
  | .last => isLast
  | .holds e =>
    let (r, style) ← meant e
    return r.occursIn style s.pattern.text
  | .every first step => return s.line ≥ first && (s.line - first) % step = 0
  | .further _ => return false
  | .multiple step => return step = 0 || s.line % step = 0

/-- Where a range is. -/
def rangeOf (place : Nat) : Edit RangeState := do
  return (← get).ranges.getD place .before

/-- Notes where a range is. -/
def setRange (place : Nat) (r : RangeState) : Edit Unit :=
  modify fun s => { s with ranges := s.ranges.setIfInBounds place r }

/-- Whether the line is in the range of a command. -/
def isInRange (place : Nat) (first second : Address) : Edit Bool := do
  let line := (← get).line
  match ← rangeOf place with
  | .before =>
    if !(← isAt first) then return false
    let stop := match second with
      | .line n => some n
      | .further n => some (line + n)
      | .multiple n => some (if n = 0 then line else (line + n - 1) / n * n)
      | _ => none
    if !stop.any (· ≤ line) then setRange place (.inside stop)
    return true
  | .inside (some stop) =>
    if line ≥ stop then setRange place .before
    return line ≤ stop
  | .inside none =>
    if ← isAt second then setRange place .before
    return true

/-- Whether a command is carried out for the line. -/
def isSelected (place : Nat) (s : Selection) : Edit Bool := do
  let found ← match s.first, s.last with
    | none, _ => pure true
    | some first, none => isAt first
    | some first, some second => isInRange place first second
  return found != s.negated

/-! ## Replacing -/

/-- How the case of letters is changed: always, and for the next letter. -/
abbrev CaseState := CaseChange × CaseChange

/-- A character with its case changed. -/
def changed (c : Char) : CaseChange → Char
  | .keep => c
  | .upper => c.toUpper
  | .lower => c.toLower

/-- A text with the case of its letters changed. -/
def recased (state : CaseState) (s : Chars) : Chars × CaseState :=
  match s with
  | [] => ([], state)
  | c :: more =>
    let first := if state.2 = .keep then changed c state.1 else changed c state.2
    (first :: more.map (changed · state.1), (state.1, .keep))

/-- What takes the place of a match. -/
def replacement (whole : Chars) (m : Match) : CaseState → List Part → Chars
  | _, [] => []
  | state, part :: more =>
    match part with
    | .text s =>
      let (text, state) := recased state s
      text ++ replacement whole m state more
    | .group n =>
      let (text, state) := recased state ((m.group? whole n).getD [])
      text ++ replacement whole m state more
    | .change c => replacement whole m (c, if c = .keep then .keep else state.2) more
    | .changeNext c => replacement whole m (state.1, c) more

/-- A text with matches replaced. -/
def replaceMatches (whole : Chars) (parts : List Part) : Nat → Chars → List Match → Chars
  | _, rest, [] => rest
  | at_, rest, m :: more =>
    rest.take (m.start - at_) ++ replacement whole m (.keep, .keep) parts
      ++ replaceMatches whole parts m.stop.offset m.stop.rest more

/-- The matches that a substitution replaces. -/
def chosenMatches (s : Substitution) (all : List Match) : List Match :=
  let fromNumber := all.drop (s.number - 1)
  if s.all then fromNumber else fromNumber.take 1

/-- Carries out a substitution. -/
def substitute (s : Substitution) : Edit Unit := do
  let (r, style) ← meant s.expression
  let text := (← get).pattern.text
  let found := if s.all || s.number > 1 then r.allMatches style text
    else (r.find style text).toList
  let chosen := chosenMatches s found
  if !chosen.isEmpty then
    let new := replaceMatches text s.parts 0 text chosen
    modify fun e => { e with pattern := { e.pattern with text := new }, replaced := true }
    if s.prints then printPattern
    s.file.forM fun path => do
      let p := (← get).pattern
      writeTo path p.text p.ended

/-! ## Showing -/

/-- The letters for characters that cannot be shown. -/
def shownLetters : List (Char × Char) :=
  [('\\', '\\'), ('\x07', 'a'), ('\x08', 'b'), ('\x0c', 'f'), ('\n', 'n'), ('\r', 'r'),
    ('\t', 't'), ('\x0b', 'v')]

/-- A character as it is shown. -/
def shownChar (c : Char) : Chars :=
  match shownLetters.lookup c with
  | some letter => ['\\', letter]
  | none =>
    if ' ' ≤ c && c ≤ '~' then [c]
    else
      let digits := Nat.toDigits 8 c.toNat
      '\\' :: (List.replicate (3 - digits.length) '0' ++ digits)

/-- A text as it is shown, on lines of a width. -/
def shownText (width : Nat) (s : Chars) : Chars :=
  let (text, _) := s.foldl
    (fun (found, column) c =>
      let part := shownChar c
      if width > 0 && column + part.length > width - 1 then
        (part.reverse ++ '\n' :: '\\' :: found, part.length)
      else (part.reverse ++ found, column + part.length))
    (([] : Chars), (0 : Nat))
  text.reverse ++ ['$', '\n']

/-! ## Commands -/

/-- Changes the text of the pattern space. -/
def modifyText (change : Chars → Chars) : Edit Unit :=
  modify fun s => { s with pattern := { s.pattern with text := change s.pattern.text } }

/-- One space behind another. -/
def joined (a b : Space) (ending : Char) : Space :=
  { text := a.text ++ ending :: b.text, ended := a.ended || b.ended }

/-- The first line of a text. -/
def firstLine (text : Chars) (ending : Char) : Chars :=
  text.takeWhile (· ≠ ending)

/-- Adds something to what is written behind the line. -/
def enqueue (q : Queued) : Edit Unit :=
  modify fun s => { s with queue := q :: s.queue }

/-- Carries out a command. -/
def act (place : Nat) (c : Command) : Edit Flow := do
  let s ← get
  match c.action with
  | .block _ => return .on
  | .none => return .on
  | .number =>
    writeWhole (Chars.ofNat s.line ++ ['\n'])
    return .on
  | .append text =>
    enqueue (.text text)
    return .on
  | .insert text =>
    writeWhole text
    return .on
  | .replace text =>
    let isInside := c.selection.last.isSome && !c.selection.negated
      && (← rangeOf place) ≠ .before
    if !isInside then writeWhole text
    return .done false
  | .jump target => return .at target
  | .jumpIf target =>
    modify ({ · with replaced := false })
    return if s.replaced then .at target else .on
  | .jumpUnless target =>
    modify ({ · with replaced := false })
    return if s.replaced then .on else .at target
  | .delete => return .done false
  | .deleteLine =>
    if s.pattern.text.contains s.ending then
      modifyText fun text => text.drop ((firstLine text s.ending).length + 1)
      return .again
    else return .done false
  | .fileName =>
    writeWhole (s.file ++ ['\n'])
    return .on
  | .get =>
    modify fun s => { s with pattern := s.held }
    return .on
  | .getAppend =>
    modify fun s => { s with pattern := joined s.pattern s.held s.ending }
    return .on
  | .hold =>
    modify fun s => { s with held := s.pattern }
    return .on
  | .holdAppend =>
    modify fun s => { s with held := joined s.held s.pattern s.ending }
    return .on
  | .exchange =>
    modify fun s => { s with pattern := s.held, held := s.pattern }
    return .on
  | .list width =>
    writeWhole (shownText (width.getD s.width) s.pattern.text)
    return .on
  | .next =>
    if ← isLast then return .stop 0 true
    if !s.quiet then printPattern
    match ← nextLine with
    | none => return .stop 0 false
    | some line =>
      modify ({ · with pattern := line })
      return .on
  | .nextAppend =>
    match ← if ← isLast then pure none else nextLine with
    | none => return .stop 0 true
    | some line =>
      modify fun s => { s with
        pattern := { text := s.pattern.text ++ s.ending :: line.text, ended := line.ended } }
      return .on
  | .print =>
    printPattern
    return .on
  | .printLine =>
    write (firstLine s.pattern.text s.ending) true
    return .on
  | .quit status silent => return .stop status !silent
  | .readFile path =>
    enqueue (.file path)
    return .on
  | .readLine path =>
    enqueue (.line path)
    return .on
  | .substitute sub =>
    substitute sub
    return .on
  | .writeFile path first =>
    if first then writeTo path (firstLine s.pattern.text s.ending) true
    else writeTo path s.pattern.text s.pattern.ended
    return .on
  | .translate pairs =>
    modifyText (·.map fun c => (pairs.lookup c).getD c)
    return .on
  | .empty =>
    modifyText fun _ => []
    return .on

/-- Carries out a command if the line is selected; another place is where it goes on if not. -/
def step (place : Nat) (c : Command) : Edit Flow := do
  if ← isSelected place c.selection then act place c
  else match c.action with
    | .block finish => return .at finish
    | _ => return .on

/-- Carries out commands from a place on, so many at most. -/
def runFrom : Nat → Nat → Edit Flow
  | 0, _ => return .stop 4 false
  | fuel + 1, place => do
    match (← get).commands[place]? with
    | none => return .done true
    | some c =>
      match ← step place c with
      | .on => runFrom fuel (place + 1)
      | .at target => runFrom fuel target
      | flow => return flow

/-- How many commands may be carried out for a line. -/
def commandLimit : Nat := 10000000

/-- Writes the pattern space at the end of a cycle, and what is due behind it. -/
def finishCycle (prints : Bool) : Edit Unit := do
  if prints && !(← get).quiet then printPattern
  flushQueue

/-- Carries out the script for line after line; answers the status if a command ends it. -/
def cycles : Nat → Bool → Edit (Option Nat)
  | 0, _ => return none
  | n + 1, again => do
    if !again then
      match ← nextLine with
      | none => return none
      | some line => modify ({ · with pattern := line })
    match ← runFrom commandLimit 0 with
    | .stop status prints =>
      finishCycle prints
      return some status
    | .again =>
      finishCycle false
      cycles n true
    | .done prints =>
      finishCycle prints
      cycles n false
    | _ => return none

/-- The state in which ranges begin: those that begin before the first line are inside. -/
def initialRanges (commands : Array Command) : Array RangeState :=
  commands.map fun c =>
    match c.selection.first, c.selection.last with
    | some (.line 0), some _ => .inside none
    | _, _ => .before

end Edit

end Shakedown.Editor
