import Shakedown.Utility.Operation
import Shakedown.Utility.Input

/-!
# Compiling

The utility `gcc`, as far as it can be told from outside: which options it takes, which source files
it finds, and which directives in them say that something is wrong. Source text is taken for correct
apart from that, and an object file holds nothing that could be run.
-/

set_option autoImplicit false

namespace Shakedown.Utility.Compile

/-- What is asked of the compiler. -/
structure Task where
  /-- The files. -/
  inputs : List Chars := []
  /-- Where the result goes. -/
  output? : Option Chars := none
  /-- Whether the result is not linked. -/
  separate : Bool := false
  /-- Whether sources are only checked. -/
  checksOnly : Bool := false
  /-- The names that are defined. -/
  defined : List Chars := []
  /-- What is said about options before anything is read. -/
  complaints : List Chars := []
  /-- What the compiler says about options that it is handed. -/
  refusals : List Chars := []

/-- Options that have their value in the next word. -/
def valued : List String :=
  ["-I", "-L", "-l", "-x", "-include", "-isystem", "-MF", "-MT", "-MQ", "-T", "-u", "-Xlinker",
    "--param"]

/-- Whether a word is a level of optimisation. -/
def isLevel (word : Chars) : Bool :=
  word.all Char.isDigit || ["g", "s", "z", "fast"].any (·.toList = word)

/-- What is said about an option that is not known. -/
def unknownOption (word : Chars) : Chars :=
  "error: unrecognized command-line option ".toList ++ Chars.quoted word

/-- The long options that are known, up to their values. -/
def longOptions : List String :=
  ["--std=", "--optimize", "--sysroot", "--coverage", "--debug", "--verbose", "--pedantic"]

/-- What words ask for. -/
def readTask : Task → List Chars → Task
  | t, [] => t
  | t, ['-', 'o'] :: [] => { t with complaints := "error: missing filename after '-o'".toList
      :: t.complaints }
  | t, ['-', 'o'] :: path :: more => readTask { t with output? := some path } more
  | t, word :: more =>
    if word = ['-', 'c'] || word = ['-', 'S'] then readTask { t with separate := true } more
    else if word = "-fsyntax-only".toList then
      readTask { t with separate := true, checksOnly := true } more
    else if valued.any (·.toList = word) then
      match more with
      | _ :: rest => readTask t rest
      | [] => { t with complaints := ("error: missing argument to ".toList ++ Chars.quoted word)
          :: t.complaints }
    else if ['-', 'D'].isPrefixOf word then
      readTask { t with defined := (word.drop 2).takeWhile (· ≠ '=') :: t.defined } more
    else if ['-', 'O'].isPrefixOf word then
      if isLevel (word.drop 2) then readTask t more
      else readTask { t with refusals := ("error: argument to '-O' should be a non-negative " ++
        "integer, 'g', 's', 'z' or 'fast'").toList :: t.refusals } more
    else if "--dump-".toList.isPrefixOf word then
      readTask { t with refusals := unknownOption ("-f".toList ++ word.drop 2) :: t.refusals } more
    else if ['-', '-'].isPrefixOf word then
      if longOptions.any (·.toList.isPrefixOf word) then readTask t more
      else readTask { t with complaints := unknownOption word :: t.complaints } more
    else if word.head? = some '-' && word.length > 1 then readTask t more
    else readTask { t with inputs := t.inputs ++ [word] } more

/-! ## Directives -/

/-- A part of a source that is there only under a condition. -/
structure Section where
  /-- Whether its lines count. -/
  counts : Bool
  /-- Whether one of its cases counted already. -/
  counted : Bool

/-- A directive that says something. -/
structure Remark where
  /-- The line. -/
  line : Nat
  /-- Where its word begins, counted from one. -/
  column : Nat
  /-- Whether it is a mistake. -/
  isError : Bool
  /-- What it says. -/
  text : Chars
  /-- The line as it is written. -/
  source : Chars

/-- The word and the text of a directive, and where the word begins. -/
def directive? (line : Chars) : Option (Chars × Chars × Nat) :=
  let front := line.takeWhile fun c => c = ' ' || c = '\t'
  match line.drop front.length with
  | '#' :: rest =>
    let gap := rest.takeWhile fun c => c = ' ' || c = '\t'
    let word := (rest.drop gap.length).takeWhile Char.isAlpha
    let text := (rest.drop (gap.length + word.length)).dropWhile Chars.isSpace
    some (word, text, front.length + gap.length + 2)
  | _ => none

/-- The first word of a text. -/
def firstWord (s : Chars) : Chars :=
  s.takeWhile fun c => c.isAlphanum || c = '_'

/-- Whether the condition of a directive holds. -/
def holds (defined : List Chars) (word : String) (text : Chars) : Bool :=
  match word with
  | "ifdef" => defined.contains (firstWord text)
  | "ifndef" => !defined.contains (firstWord text)
  | _ => (Chars.decimal? (firstWord text)).any (· ≠ 0)

/-- The remarks of lines, of which so many stand before them. -/
def remarksOf : List Chars → List Section → Nat → List Chars → List Remark
  | _, _, _, [] => []
  | defined, sections, number, line :: more =>
    let active := sections.all Section.counts
    match directive? line with
    | none => remarksOf defined sections (number + 1) more
    | some (word, text, column) =>
      match String.ofList word with
      | "error" =>
        let rest := remarksOf defined sections (number + 1) more
        if active then
          { line := number + 1, column, isError := true, text, source := line } :: rest
        else rest
      | "warning" =>
        let rest := remarksOf defined sections (number + 1) more
        if active then
          { line := number + 1, column, isError := false, text, source := line } :: rest
        else rest
      | "define" =>
        remarksOf (if active then firstWord text :: defined else defined) sections (number + 1) more
      | "undef" =>
        remarksOf (if active then defined.erase (firstWord text) else defined) sections
          (number + 1) more
      | "endif" => remarksOf defined sections.tail (number + 1) more
      | "else" =>
        match sections with
        | [] => remarksOf defined sections (number + 1) more
        | s :: outer =>
          remarksOf defined ({ counts := !s.counted, counted := true } :: outer) (number + 1) more
      | "elif" =>
        match sections with
        | [] => remarksOf defined sections (number + 1) more
        | s :: outer =>
          let counts := !s.counted && holds defined "if" text
          remarksOf defined ({ counts, counted := s.counted || counts } :: outer) (number + 1) more
      | word =>
        if ["if", "ifdef", "ifndef"].contains word then
          let counts := holds defined word text
          remarksOf defined ({ counts, counted := counts } :: sections) (number + 1) more
        else remarksOf defined sections (number + 1) more

/-- A remark as it is told. -/
def Remark.report (path : Chars) (r : Remark) : Chars :=
  let word := if r.isError then "error" else "warning"
  let front := Chars.padLeft 5 (Chars.ofNat r.line) ++ " | ".toList
  let said := '#' :: word.toList ++ if r.text.isEmpty then [] else ' ' :: r.text
  path ++ ':' :: Chars.ofNat r.line ++ ':' :: Chars.ofNat r.column ++ ": ".toList ++ word.toList
    ++ ": ".toList ++ said ++ (if r.isError then [] else " [-Wcpp]".toList)
    ++ '\n' :: front ++ r.source
    ++ "\n      | ".toList ++ List.replicate (r.column - 1) ' ' ++ '^' ::
      List.replicate (word.length - 1) '~'

/-! ## Compiling -/

/-- The endings of names of sources. -/
def sourceEndings : List String := [".c", ".i", ".h", ".s", ".S", ".cc", ".cpp", ".C", ".cxx"]

/-- Whether a file is a source. -/
def isSource (path : Chars) : Bool :=
  sourceEndings.any (·.toList.isSuffixOf path)

/-- Where the object file of a source goes. -/
def objectPath (t : Task) (path : Chars) : Chars :=
  let name := lastPart path
  let stem := (name.reverse.dropWhile (· ≠ '.')).drop 1
  (if t.separate then t.output? else none).getD (stem.reverse ++ ".o".toList)

/-- Writes a result; tells whether that worked. -/
def writeResult (path : Chars) (mode : Nat) : Act Bool := do
  match ← Act.writePath path (Chars.ofBytes FileTree.machineCode) with
  | some e =>
    Act.complain "Assembler messages:".toList
    Act.complain ("Fatal error: can't create ".toList ++ path ++ ": ".toList ++ Act.reason e)
    return false
  | none =>
    let _ ← Act.setMode path mode
    return true

/-- Compiles a source; tells whether that worked. -/
def compile (t : Task) (path : Chars) : Act Bool := do
  match ← Act.readSource path with
  | .error e =>
    Act.complain ("cc1: fatal error: ".toList ++ path ++ ": ".toList ++ Act.reason e.fault)
    Act.complain "compilation terminated.".toList
    return false
  | .ok text =>
    for refusal in t.refusals.reverse do
      Act.complain ("cc1: ".toList ++ refusal)
    if !t.refusals.isEmpty then return false
    let remarks := remarksOf t.defined [] 0 (Chars.lines text)
    for r in remarks do
      Act.complain (r.report path)
    if remarks.any Remark.isError then return false
    if t.checksOnly || !t.separate then return true
    writeResult (objectPath t path) 0o644

/-- Compiles sources. -/
def gcc : Utility := do
  let name := (← get).name
  let args := (← get).args
  if args.contains "--version".toList then
    Act.writeLine (name ++ " (Debian 12.2.0-14) 12.2.0".toList)
    return 0
  let t := readTask {} args
  for complaint in t.complaints.reverse do Act.grumble complaint
  if !t.complaints.isEmpty then return 1
  if t.inputs.isEmpty then
    Act.grumble "fatal error: no input files".toList
    Act.complain "compilation terminated.".toList
    return 1
  let sources := t.inputs.filter isSource
  if t.separate && t.output?.isSome && sources.length > 1 then
    Act.grumble ("fatal error: cannot specify '-o' with '-c', '-S' or '-E' with multiple " ++
      "files").toList
    Act.complain "compilation terminated.".toList
    return 1
  let mut failed := false
  for path in sources do
    if !(← compile t path) then failed := true
  let others := t.inputs.filter (!isSource ·)
  for path in others do
    let isThere := (← Act.nodeAt path).isSome
    if t.separate && !failed then
      Act.grumble ("warning: ".toList ++ path
        ++ ": linker input file unused because linking not done".toList)
    if !isThere && !failed then
      Act.grumble ("error: ".toList ++ path
        ++ ": linker input file not found: No such file or directory".toList)
      failed := true
  if failed then return 1
  if !t.separate then
    return statusOf !(← writeResult (t.output?.getD "a.out".toList) 0o755)
  return 0

end Shakedown.Utility.Compile
