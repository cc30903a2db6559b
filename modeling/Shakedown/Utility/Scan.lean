import Shakedown.Scan.Run
import Shakedown.Utility.Input

/-!
# Scanning files

The utility `mawk`, which carries out a scanning script for the records of files.
-/

set_option autoImplicit false

namespace Shakedown.Utility.Scan

open Shakedown.Scan

/-- What the words of a call say. -/
structure Call where
  /-- The files that the script is read from, and the texts that it is given by. -/
  sources : List Chars := []
  /-- The separator of fields. -/
  separator : Option Chars := none
  /-- The assignments before the script starts. -/
  assignments : List Chars := []
  /-- The other words. -/
  operands : List Chars := []

/-- The letters of options, each of which takes a value. -/
def valueLetters : List Char := ['F', 'f', 'v', 'W']

/-- Reads the words of a call, or tells what is wrong with one. -/
def readCall (c : Call) : Nat → List Chars → Except Chars Call
  | 0, words => .ok { c with operands := words }
  | _ + 1, [] => .ok c
  | n + 1, word :: more =>
    if word = ['-', '-'] then .ok { c with operands := more }
    else match word with
      | '-' :: letter :: inside =>
        if !valueLetters.contains letter then .error ("not an option: ".toList ++ word)
        else
          let (value?, rest) : Option Chars × List Chars :=
            if inside.isEmpty then (more.head?, more.tail) else (some inside, more)
          match value? with
          | none => .error ("option -".toList ++ letter :: " lacks argument".toList)
          | some value =>
            match letter with
            | 'F' => readCall { c with separator := some value } n rest
            | 'f' => readCall { c with sources := c.sources ++ [value] } n rest
            | 'v' => readCall { c with assignments := c.assignments ++ [value] } n rest
            | _ => readCall c n rest
      | _ => .ok { c with operands := word :: more }

/-- Says how the program is used, and ends it. -/
def tellUsage {α : Type} : Act α := do
  Act.writeLine "Usage: mawk [Options] [Program] [file ...]".toList
  Act.exit 0

/-- The text of a script file. -/
def scriptText (path : Chars) : Act Chars := do
  match ← Act.readOperand path with
  | .ok text => return text
  | .error e =>
    Act.die ("cannot open \"".toList ++ path ++ "\" (".toList ++ Act.reason e ++ [')'])
      Run.failureStatus

/-- The names that have a value from the start. -/
def usualValues : List (String × Value) :=
  [("FS", .text [' ']), ("OFS", .text [' ']), ("ORS", .text ['\n']), ("RS", .text ['\n']),
    ("SUBSEP", .text ['\x1c']), ("CONVFMT", .text "%.6g".toList),
    ("OFMT", .text "%.6g".toList), ("NR", .number 0.0), ("FNR", .number 0.0),
    ("RSTART", .number 0.0), ("RLENGTH", .number (-1.0)), ("FILENAME", .text [])]

/-- Prepares the names and tables that a script finds. -/
def prepare (c : Call) (files : List Chars) : Run Unit := do
  for (name, v) in usualValues do Run.setName name.toList v
  let args ← Run.tableOf "ARGV".toList
  let t := ((← getThe Process).name :: files).zipIdx.foldl
    (fun (t : Table) (word, i) => t.set (.whole i) (.input word)) {}
  Run.setTable args t
  Run.setName "ARGC".toList (.ofNat (files.length + 1))
  let surroundings ← Run.tableOf "ENVIRON".toList
  let t := (← getThe Process).env.foldl
    (fun (t : Table) (name, v) => t.set (.text (Chars.ofBytes name)) (.input (Chars.ofBytes v)))
    {}
  Run.setTable surroundings t
  c.separator.forM fun s => Run.setName "FS".toList (.text (unescape s))
  for word in c.assignments do
    match Run.assignment? word with
    | some (name, text) => Run.assignArgument name text
    | none =>
      Act.die ("improper assignment: -v ".toList ++ word) Run.failureStatus

/-- Scans files. -/
def mawk : Program := fun host => do
  let words := (← get).args
  let c ← match readCall {} (words.length + 1) words with
    | .ok c => pure c
    | .error e => Act.die e Run.failureStatus
  let (text, files) ← match c.sources, c.operands with
    | [], [] => tellUsage
    | [], text :: files => pure (text, files)
    | sources, files => do
      let texts ← sources.mapM scriptText
      pure (Chars.joined ['\n'] texts, files)
  match readScript text with
  | .error message => Act.die message Run.failureStatus
  | .ok s =>
    let all : Run Unit := do
      prepare c files
      Run.run s
    let (_, state) ← StateT.run (ExceptT.run all) { host, functions := s.functions }
    Act.exit (.ofNat state.status)

end Shakedown.Utility.Scan
