import Shakedown.Process.Property
import Shakedown.Utility.Input

/-!
# Counting

The utility `wc`, which counts lines, words and bytes.
-/

set_option autoImplicit false

namespace Shakedown.Utility

/-- What is counted of a text. -/
structure Tally where
  /-- The ends of lines. -/
  lines : Nat := 0
  /-- The words. -/
  words : Nat := 0
  /-- The bytes. -/
  bytes : Nat := 0
  /-- The width of the longest line. -/
  longest : Nat := 0
  deriving DecidableEq, Repr

/-- How many words there are: runs without blanks in which something can be shown. -/
def wordCount (text : Chars) : Nat :=
  ((Chars.fields Chars.isSpace text).filter (·.any Chars.isShowable)).length

/-- The width of a line, where a tab leads to the next multiple of eight. -/
def lineWidth (line : Chars) : Nat :=
  line.foldl
    (fun (widest, at_) c =>
      let next := if c = '\t' then at_ + 8 - at_ % 8
        else if c = '\r' || c = '\x0c' then 0
        else if Chars.isShowable c then at_ + 1 else at_
      (max widest next, next))
    ((0 : Nat), (0 : Nat)) |>.1

/-- What is counted of a text. -/
def tally (text : Chars) : Tally where
  lines := text.count '\n'
  words := wordCount text
  bytes := text.length
  longest := ((Chars.splitAt '\n' text).map lineWidth).foldl max 0

/-- The sums of two tallies. -/
def Tally.plus (s t : Tally) : Tally where
  lines := s.lines + t.lines
  words := s.words + t.words
  bytes := s.bytes + t.bytes
  longest := max s.longest t.longest

/-- The options of `wc`. -/
def wcOptions : List OptionKind :=
  [.named 'c' "bytes", .named 'm' "chars", .named 'l' "lines", .named 'w' "words",
    .named 'L' "max-line-length"]

/-- The numbers of a tally that options ask for. -/
def Tally.chosen (a : Arguments) (t : Tally) : List Nat :=
  let wanted := fun key => a.has key || (a.options.isEmpty && key ≠ 'm' && key ≠ 'L')
  [('l', t.lines), ('w', t.words), ('m', t.bytes), ('c', t.bytes), ('L', t.longest)].filterMap
    fun (key, n) => if wanted key then some n else none

/-- Numbers in columns, with a name behind them. -/
def columns (width : Nat) (numbers : List Nat) (name : Chars) : Chars :=
  Chars.spaced (numbers.map fun n => Chars.padLeft width (Chars.ofNat n))
    ++ (if name.isEmpty then [] else ' ' :: name) ++ Chars.newline

/-- The size of what an operand names, if it is there; its own answer is none if nobody knows. -/
def sizeOfSource (p : Process) (operand : Chars) : Option (Option Nat) :=
  let ofFile := fun number : Nat =>
    if p.world.tree.isPlainFile (.file number) then some (p.world.tree.sizeOf (.file number))
    else none
  if operand = ['-'] then
    match p.open? 0 with
    | some (_, { channel := .file number, .. }) => some (ofFile number)
    | some _ => some none
    | none => none
  else match p.node? operand true with
    | some (_, .file number) => some (ofFile number)
    | some _ => some none
    | none => none

/-- The width of columns for files of some sizes. -/
def columnWidth (sizes : List (Option Nat)) : Nat :=
  let total := (sizes.filterMap (·)).foldl (· + ·) 0
  max (Chars.ofNat total).length (if sizes.contains none then 7 else 1)

/-- Counts what is in files. -/
def wc : Utility := do
  let a ← Act.arguments wcOptions
  let sources := a.sources
  let sizes := sources.filterMap (sizeOfSource (← get))
  let width := if sources.length = 1 && ((({} : Tally).chosen a).length = 1) then 1
    else columnWidth sizes
  let mut failed := false
  let mut total : Tally := {}
  for operand in sources do
    let name := if a.operands.isEmpty then [] else operand
    match ← Act.readSource operand with
    | .ok text =>
      let t := tally text
      total := total.plus t
      Act.write (columns width (t.chosen a) name)
    | .error e =>
      let label := if operand = ['-'] && a.operands.isEmpty then "standard input".toList
        else operand.fileLabel
      Act.grumble (label ++ ": ".toList ++ Act.reason e.fault)
      failed := true
      if !e.opening then Act.write (columns width (({} : Tally).chosen a) name)
  if sources.length > 1 then Act.write (columns width (total.chosen a) "total".toList)
  return statusOf failed

end Shakedown.Utility
