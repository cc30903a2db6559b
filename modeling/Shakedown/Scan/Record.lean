import Shakedown.Scan.State

/-!
# Records and fields

How input is cut into records and records into fields, and the names and fields that scripts read
and change.
-/

set_option autoImplicit false

namespace Shakedown.Scan

/-! ## Cutting -/

/-- What stands between two parts of a text. -/
inductive Separator where
  /-- Blanks, which may also stand at both ends. -/
  | blanks
  /-- Nothing: each character is a part. -/
  | nothing
  /-- A character. -/
  | char (c : Char)
  /-- What a regular expression says. -/
  | regex (r : Regex)

/-- The parts of a text between matches, the first of which begins at a place. -/
def between : Nat → Chars → List Match → List Chars
  | _, rest, [] => [rest]
  | at_, rest, m :: more =>
    rest.take (m.start - at_) :: between m.stop.offset m.stop.rest more

/-- Whether a match is more than nothing. -/
def isProper (m : Match) : Bool :=
  m.start < m.stop.offset

/-- Whether a character is one that stands between words. -/
def isBlank (c : Char) : Bool :=
  c = ' ' || c = '\t' || c = '\n'

/-- The words of a text. -/
def wordsOf (s : Chars) : List Chars :=
  (s.splitBy fun a b => isBlank a = isBlank b).filter fun part => !part.any isBlank

/-- The parts of a text. -/
def Separator.cut (sep : Separator) (s : Chars) : List Chars :=
  if s.isEmpty then []
  else match sep with
    | .blanks => wordsOf s
    | .nothing => s.map ([·])
    | .char c => Chars.splitAt c s
    | .regex r => between 0 s ((r.allMatches {} s).filter isProper)

/-- The first part of a text that ends at a newline before another one, and the rest behind them. -/
def paragraph : Chars → Chars × Chars
  | [] => ([], [])
  | c :: more =>
    if c = '\n' && more.head? = some '\n' then ([], more.dropWhile (· = '\n'))
    else
      let (found, rest) := paragraph more
      (if c = '\n' && more.isEmpty then found else c :: found, rest)

/-- The first record of a text, and the rest. Nothing stands between paragraphs. -/
def Separator.takeRecord (sep : Separator) (s : Chars) : Option (Chars × Chars) :=
  if s.isEmpty then none
  else match sep with
    | .char c =>
      let found := s.takeWhile (· ≠ c)
      some (found, s.drop (found.length + 1))
    | .regex r =>
      match ((r.allMatches {} s).filter isProper).head? with
      | some m => some (s.take m.start, m.stop.rest)
      | none => some (s, [])
    | _ =>
      let s := s.dropWhile (· = '\n')
      if s.isEmpty then none else some (paragraph s)

namespace Run

/-! ## Values and mistakes -/

/-- The value of a name that holds no table. -/
def slotValue : Slot → Value
  | .value v => v
  | .table _ => .unset

/-- The value of a name that has nothing to do with fields. -/
def plainValue (name : Chars) : Run Value := do
  let s ← get
  match s.locals.lookup name with
  | some slot => return slotValue slot
  | none => return (s.globals.get? name).elim .unset slotValue

/-- The value of a name as text. -/
def plainText (name : String) : Run Chars := do
  return (← plainValue name.toList).toChars "%.6g".toList

/-- Complains in the name of the program. -/
def grumble (message : Chars) : Run Unit := do
  Act.complain ((← getThe Process).name ++ ": ".toList ++ message)

/-- Complains about a mistake while the script is run, and ends the program. -/
def fail {α : Type} (message : Chars) : Run α := do
  let file ← plainText "FILENAME"
  let fileNumber ← plainText "FNR"
  let number ← plainText "NR"
  grumble ("run time error: ".toList ++ message ++ "\n\tFILENAME=\"".toList ++ file
    ++ "\" FNR=".toList ++ fileNumber ++ " NR=".toList ++ number)
  flushAll
  Act.exit failureStatus

/-- The format of numbers as text. -/
def format : Run Chars :=
  plainText "CONVFMT"

/-- A value as text. -/
def textOf (v : Value) : Run Chars := do
  match v with
  | .number _ => return v.toChars (← format)
  | _ => return v.toChars []

/-- The regular expression of a text. -/
def patternOf (s : Chars) : Run Regex := do
  match (← get).patterns.get? s with
  | some r => return r
  | none =>
    match regexOf 0 s with
    | .ok r =>
      modify fun st => { st with patterns := st.patterns.insert s r }
      return r
    | .error _ => fail ("regular expression compile failed (bad expression)\n".toList ++ s)

/-- The separator that a text is. -/
def separatorOf (s : Chars) : Run Separator := do
  match s with
  | [] => return .nothing
  | [c] => return if c = ' ' then .blanks else .char c
  | _ => return .regex (← patternOf s)

/-! ## Fields -/

/-- Splits the record unless that was done. -/
def split : Run Unit := do
  let s ← get
  if !s.isSplit then
    let sep ← separatorOf (← plainText "FS")
    let text := s.record.toChars []
    modify ({ · with fields := ((sep.cut text).map Value.input).toArray, isSplit := true })

/-- The record. -/
def record : Run Value := do
  let s ← get
  if s.isStale then
    let texts ← s.fields.toList.mapM textOf
    let text := Chars.joined (← plainText "OFS") texts
    modify ({ · with record := .input text, isStale := false })
    return .input text
  else return s.record

/-- Sets the record. -/
def setRecord (text : Chars) : Run Unit :=
  modify ({ · with record := .input text, isSplit := false, isStale := false })

/-- The value of a field. -/
def field (n : Nat) : Run Value := do
  if n = 0 then record
  else
    split
    return ((← get).fields[n - 1]?).getD .unset

/-- Gives the record so many fields. -/
def setCount (n : Nat) : Run Unit := do
  split
  modify fun s => { s with
    fields := (s.fields ++ Array.replicate (n - s.fields.size) Value.unset).take n
    isStale := true }

/-- Sets a field. -/
def setField (n : Nat) (v : Value) : Run Unit := do
  if n = 0 then setRecord (← textOf v)
  else
    split
    if (← get).fields.size < n then setCount n
    modify fun s => { s with fields := s.fields.setIfInBounds (n - 1) v, isStale := true }

/-! ## Names -/

/-- The name of the number of fields. -/
def countName : Chars := "NF".toList

/-- The value of a name. -/
def valueOf (name : Chars) : Run Value := do
  if name = countName then
    split
    return .ofNat (← get).fields.size
  else plainValue name

/-- The largest number of fields. -/
def countLimit : Int := 32767

/-- Notes what a name stands for. -/
def setSlot (name : Chars) (slot : Slot) : Run Unit :=
  modify fun s =>
    if (s.locals.lookup name).isSome then
      { s with locals := s.locals.map fun (n, old) => (n, if n = name then slot else old) }
    else { s with globals := s.globals.insert name slot }

/-- Sets a name. What fields are split by counts from the next record on. -/
def setName (name : Chars) (v : Value) : Run Unit := do
  if name = countName then
    let n := wholePart v.toFloat
    if n < 0 || n > countLimit then fail "bad number of fields".toList
    setCount n.toNat
  else
    if name = "FS".toList then split
    setSlot name (.value v)

/-- Adds a table without keys, and answers its number. -/
def newTable : Run Nat := do
  let s ← get
  set { s with tables := s.tables.insert s.nextTable {}, nextTable := s.nextTable + 1 }
  return s.nextTable

/-- What a name stands for in a call: a table if it has no value. -/
def slotOf (name : Chars) : Run Slot := do
  let s ← get
  let found := (s.locals.lookup name).or (s.globals.get? name)
  match found.getD (.value .unset) with
  | .value .unset =>
    let slot := Slot.table (← newTable)
    setSlot name slot
    return slot
  | slot => return slot

/-- The number of the table of a name. -/
def tableOf (name : Chars) : Run Nat := do
  match ← slotOf name with
  | .table number => return number
  | .value _ => fail ("type error: \"".toList ++ name ++ "\" is no table".toList)

/-- A table. -/
def tableAt (number : Nat) : Run Table := do
  return ((← get).tables.get? number).getD {}

/-- Sets a table. -/
def setTable (number : Nat) (t : Table) : Run Unit :=
  modify fun s => { s with tables := s.tables.insert number t }

/-- The key that some values are. -/
def keyOf (values : List Value) : Run Key := do
  match values with
  | [.number x] =>
    let i := wholePart x
    if Float.ofInt i == x && i.natAbs < wholeLimit then return .whole i
    else return .text (← textOf (.number x))
  | [v] => return .text (← textOf v)
  | _ =>
    let texts ← values.mapM textOf
    return .text (Chars.joined (← plainText "SUBSEP") texts)

/-- The value of a cell, which is there from then on. -/
def cell (number : Nat) (k : Key) : Run Value := do
  match (← tableAt number).get? k with
  | (some v, t) =>
    setTable number t
    return v
  | (none, t) =>
    setTable number (t.set k .unset)
    return .unset

/-- Makes a table of texts that are counted from one. -/
def fill (number : Nat) (parts : List Chars) : Run Unit := do
  let (t, _) := parts.foldl
    (fun (t, i) part => (t.set (.whole i) (.input part), i + 1)) (({} : Table), (1 : Int))
  setTable number t

/-! ## Reading -/

/-- The separator of records. -/
def recordSeparator : Run Separator := do
  match ← separatorOf (← plainText "RS") with
  | .blanks => return .char ' '
  | sep => return sep

/-- Adds one to a name. -/
def countUp (name : String) : Run Unit := do
  let v ← plainValue name.toList
  setSlot name.toList (.value (.number (v.toFloat + 1.0)))

/-- The assignment that an argument is, if it is one. -/
def assignment? (word : Chars) : Option (Chars × Chars) :=
  let name := word.takeWhile (· ≠ '=')
  if isName name && name.length < word.length then some (name, word.drop (name.length + 1))
  else none

/-- Carries out an assignment of an argument. -/
def assignArgument (name text : Chars) : Run Unit :=
  setName name (.input (unescape text))

/-- Begins to read a file of the arguments. -/
def openMain (path : Chars) : Run Unit := do
  setName "FILENAME".toList (.text (if path = ['-'] then [] else path))
  setSlot "FNR".toList (.value (.number 0.0))
  let refuse := fun (message : Chars) (e : Fault) => do
    grumble (message ++ " (".toList ++ Act.reason e ++ [')'])
    flushAll
    (Act.exit failureStatus : Run Unit)
  let path := if path = "/dev/stdin".toList then ['-'] else path
  match ← Act.readOperand path with
  | .ok text => modify ({ · with main? := some text, hadFile := true })
  | .error e =>
    refuse (if e = .isADirectory then "read error".toList
      else "cannot open \"".toList ++ path ++ ['"']) e

/-- Goes on to the next file among so many arguments at most; tells whether there is one. -/
def nextMain : Nat → Run Bool
  | 0 => return false
  | n + 1 => do
    let s ← get
    let count := wholePart (← plainValue "ARGC".toList).toFloat
    if (s.argument : Int) ≥ count then
      if s.hadFile then return false
      openMain ['-']
      return true
    modify ({ · with argument := s.argument + 1 })
    let args ← tableOf "ARGV".toList
    let (word?, _) := (← tableAt args).get? (.whole s.argument)
    let word ← textOf (word?.getD .unset)
    if word.isEmpty then nextMain n
    else match assignment? word with
      | some (name, text) =>
        assignArgument name text
        nextMain n
      | none =>
        openMain word
        return true

/-- How many arguments are looked at. -/
def argumentLimit : Nat := 100000

/-- The next record of the files among so many at most, if there is one. -/
def nextRecordOf : Nat → Run (Option Chars)
  | 0 => return none
  | n + 1 => do
    match (← get).main? with
    | none => if ← nextMain argumentLimit then nextRecordOf n else return none
    | some text =>
      match (← recordSeparator).takeRecord text with
      | some (found, rest) =>
        modify ({ · with main? := some rest })
        countUp "NR"
        countUp "FNR"
        return some found
      | none => if ← nextMain argumentLimit then nextRecordOf n else return none

/-- The next record of the files, if there is one. -/
def nextRecord : Run (Option Chars) :=
  nextRecordOf argumentLimit

/-- Passes over what is left of a file. -/
def skipFile : Run Unit :=
  modify ({ · with main? := some [] })

/-- What is read beside the records under a name, which is opened if it was not yet; nothing if
that cannot be done. -/
def sourceOf (isCommand : Bool) (name : Chars) : Run (Option Source) := do
  match (← get).sources.lookup (isCommand, name) with
  | some source => return some source
  | none =>
    if isCommand then
      let (rest, status) ← outputOf name
      return some { rest, status }
    else
      let path := if name = "/dev/stdin".toList then ['-'] else name
      match ← Act.readOperand path with
      | .ok rest => return some { rest }
      | .error _ => return none

/-- The next record of what is read beside the records; nothing if it cannot be read, otherwise
perhaps nothing if there are no more. -/
def nextOf (isCommand : Bool) (name : Chars) : Run (Option (Option Chars)) := do
  match ← sourceOf isCommand name with
  | none => return none
  | some source =>
    let (found?, rest) := match (← recordSeparator).takeRecord source.rest with
      | some (found, rest) => (some found, rest)
      | none => (none, [])
    let key := (isCommand, name)
    modify fun s => { s with
      sources := (key, { source with rest }) :: s.sources.filter (·.1 ≠ key) }
    return some found?

/-! ## Writing -/

/-- Opens something to write to. -/
def openOutput (outlet : Outlet) (name : Chars) : Run Output := do
  match outlet with
  | .command => return { sink := .command }
  | _ =>
    if name = "/dev/stderr".toList then return { sink := .descriptor 2 }
    match ← Act.openPath (if outlet = .file then .write else .append) name with
    | .ok number => return { sink := .file number }
    | .error e =>
      grumble ("cannot open \"".toList ++ name ++ "\" for output (".toList ++ Act.reason e
        ++ [')'])
      flushAll
      Act.exit failureStatus

/-- Writes a text to something that is opened if it was not yet. -/
def writeTo (outlet : Outlet) (name text : Chars) : Run Unit := do
  if name = "/dev/stdout".toList || name = ['-'] then write text
  else
    let output ← match (← get).outputs.lookup name with
      | some o => pure o
      | none => openOutput outlet name
    let output ← match output.sink with
      | .command => pure { output with chunks := text :: output.chunks }
      | .descriptor _ => do
        let o ← added output text
        flushed o
      | .file _ => added output text
    modify fun s => { s with outputs := (name, output) :: s.outputs.filter (·.1 ≠ name) }

/-- Ends an output; answers its status. -/
def closeOutput (name : Chars) (o : Output) : Run Nat := do
  match o.sink with
  | .command => feed name o.chunks.reverse.flatten
  | _ =>
    let _ ← flushed o
    return 0

/-- Closes what has a name; answers its status, or a negative number if there is nothing. -/
def close (name : Chars) : Run Int := do
  let s ← get
  let sources := s.sources.filter (·.1.2 = name)
  let output? := s.outputs.lookup name
  modify fun s => { s with
    sources := s.sources.filter (·.1.2 ≠ name), outputs := s.outputs.filter (·.1 ≠ name) }
  match output?, sources with
  | some o, _ => return ((← closeOutput name o) : Nat)
  | none, (_, source) :: _ => return source.status
  | none, [] => return -1

/-- Closes everything that is written. -/
def closeAll : Run Unit := do
  for (name, o) in (← get).outputs do
    let _ ← closeOutput name o
  modify ({ · with outputs := [] })
  flushAll

end Run

end Shakedown.Scan
