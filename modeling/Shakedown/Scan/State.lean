import Shakedown.Process.Basic
import Shakedown.Regex.Read
import Shakedown.Scan.Read
import Shakedown.Scan.Table
import Std.Data.HashMap

/-!
# The state of scanning

What a running script knows: its variables and tables, the record with its fields, and what it reads
and writes. `Run` is the type of what a script does: it changes the state and goes on, or jumps.

A record is split into fields when one of them is needed, and put together again when the whole of
it is needed after a field was changed. What is written to a file or to the output is kept until
there is enough of it, or until another program is started; what is written to a command is kept
until the command is started, which is when its input is closed.
-/

set_option autoImplicit false

namespace Shakedown.Scan

/-- What a name stands for. -/
inductive Slot where
  /-- A value. -/
  | value (v : Value)
  /-- A table by its number, or nothing yet if it is only used as a value. -/
  | table (number : Nat)
  deriving Inhabited

/-- Where output goes. -/
inductive Sink where
  /-- To a descriptor. -/
  | descriptor (d : Nat)
  /-- To an open file. -/
  | file (number : Nat)
  /-- To a command that is started when there is no more. -/
  | command

/-- Something that is written. -/
structure Output where
  /-- Where it goes. -/
  sink : Sink
  /-- What was kept so far, latest first. -/
  chunks : List Chars := []
  /-- How much was kept. -/
  size : Nat := 0

/-- Something that is read beside the records. -/
structure Source where
  /-- What is left. -/
  rest : Chars
  /-- The status of the command it comes from; zero for a file. -/
  status : Nat := 0

/-- The state of scanning. -/
structure State where
  /-- Starts other programs. -/
  host : Host
  /-- The functions. -/
  functions : List (Chars × Function)
  /-- The names everywhere. -/
  globals : Std.HashMap Chars Slot := {}
  /-- The names in the function that is run. -/
  locals : List (Chars × Slot) := []
  /-- How many arguments the functions hold that are being called. -/
  held : Nat := 0
  /-- The tables by their numbers. -/
  tables : Std.HashMap Nat Table := {}
  /-- The number of the next table. -/
  nextTable : Nat := 0
  /-- The record. -/
  record : Value := .input []
  /-- The fields. -/
  fields : Array Value := #[]
  /-- Whether the fields are those of the record. -/
  isSplit : Bool := true
  /-- Whether the record is to be put together from the fields. -/
  isStale : Bool := false
  /-- What is left of the file whose records are read. -/
  main? : Option Chars := none
  /-- The number of the argument that is looked at next. -/
  argument : Nat := 1
  /-- Whether there was a file among the arguments. -/
  hadFile : Bool := false
  /-- Other things that are read, by whether they come from a command and by name. -/
  sources : List ((Bool × Chars) × Source) := []
  /-- What is written to files and commands, latest first. -/
  outputs : List (Chars × Output) := []
  /-- The output. -/
  console : Output := { sink := .descriptor 1 }
  /-- Which rules for ranges are inside their range. -/
  inside : Array Bool := #[]
  /-- The regular expressions of texts. -/
  patterns : Std.HashMap Chars Regex := {}
  /-- From where random numbers started. -/
  seed : Value := .number 0.0
  /-- The last random number. -/
  random : UInt64 := 0
  /-- The status with which the script ends. -/
  status : Nat := 0

/-- Why a script does not go on with the next statement. -/
inductive Jump where
  /-- To the next record. -/
  | nextRecord
  /-- To the next file. -/
  | nextFile
  /-- Out of a loop. -/
  | leave
  /-- To the next round of a loop. -/
  | again
  /-- To the end. -/
  | exit
  /-- Out of a function. -/
  | answer (v : Value)

/-- What a script does. -/
abbrev Run := ExceptT Jump (StateT State Act)

namespace Run

/-- Does something and answers how it went, wherever it jumped. -/
def attempt {α : Type} (a : Run α) : Run (Except Jump α) :=
  ExceptT.lift a.run

/-- Does something again and again as long as it says so, so many times at most. -/
def iterating (round : Run Bool) : Nat → Run Unit
  | 0 => pure ()
  | n + 1 => fun s p =>
    match round s p with
    | (.ok (.ok true, s), p) => iterating round n s p
    | (.ok (.ok false, s), p) => (.ok (.ok (), s), p)
    | (.ok (.error j, s), p) => (.ok (.error j, s), p)
    | (.error e, p) => (.error e, p)

/-! ## Output -/

/-- The status after a mistake. -/
def failureStatus : UInt8 := 2

/-- How much is kept before it is written. -/
def chunkLimit : Nat := 4096

/-- Ends the program since something cannot be written. -/
def writeFailed {α : Type} (e : Fault) : Act α := do
  Act.complain ((← get).name ++ ": write failure (".toList ++ Act.reason e ++ [')'])
  Act.exit failureStatus

/-- Writes what was kept of an output. -/
def flushed (o : Output) : Act Output := do
  let text := o.chunks.reverse.flatten
  match o.sink with
  | .command => return o
  | .descriptor d =>
    if !text.isEmpty then (← Act.put d text).forM writeFailed
    return { o with chunks := [], size := 0 }
  | .file number =>
    if !text.isEmpty then (← Act.putTo number text).forM writeFailed
    return { o with chunks := [], size := 0 }

/-- Adds a text to an output. -/
def added (o : Output) (text : Chars) : Act Output := do
  let o := { o with chunks := text :: o.chunks, size := o.size + text.length }
  if o.size > chunkLimit then flushed o else return o

/-- Writes what was kept of all outputs. -/
def flushAll : Run Unit := do
  let s ← get
  let console ← flushed s.console
  let outputs ← s.outputs.mapM fun (name, o) => do return (name, ← flushed o)
  set { s with console, outputs }

/-- Writes to the output. -/
def write (text : Chars) : Run Unit := do
  let s ← get
  let console ← added s.console text
  set { s with console }

/-! ## Other programs -/

/-- The path of the program that carries out commands. -/
def shellPath : Chars := "/bin/sh".toList

/-- The number that a status has for scripts. -/
def endingNumber : Ending → Nat
  | .exited status => status.toNat
  | .killed signal => 256 + signal

/-- Carries out a command in a new process that is prepared. -/
def runCommand (name command : Chars) (prepare : Process → Process) : Run Nat := do
  let host := (← get).host
  let ending ← Act.child do
    modify prepare
    let p ← get
    let words := [['-', 'c'], command].map Chars.toBytes
    match p.world.tree.launchReadable p.cwd p.env (Chars.toBytes shellPath) words with
    | .ok l => host.become { l with words := Chars.toBytes name :: l.words.tail }
    | .error _ => Act.exit 127
  return endingNumber ending

/-- Carries out a command, all output before which is written. -/
def system (command : Chars) : Run Nat := do
  flushAll
  runCommand "sh".toList command (fun p => p)

/-- Carries out a command that reads a text. -/
def feed (command text : Chars) : Run Nat := do
  let p ← getThe Process
  let (world, number, writer) := p.world.addCollector none
  let (world, reader) := world.addOpen { channel := .buffer number, readable := true }
  modifyThe Process ({ · with world })
  let _ ← Act.putTo writer text
  runCommand shellPath command (·.withDescriptor 0 reader)

/-- What a command writes, and its status. -/
def outputOf (command : Chars) : Run (Chars × Nat) := do
  flushAll
  let p ← getThe Process
  let (world, number, writer) := p.world.addCollector none
  modifyThe Process ({ · with world })
  let status ← runCommand shellPath command (·.withDescriptor 1 writer)
  return (Chars.ofBytes ((← getThe Process).world.written number), status)

end Run

end Shakedown.Scan
