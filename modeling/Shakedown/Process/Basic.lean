import Shakedown.Process.Launch
import Shakedown.Process.World

/-!
# Processes

A `Process` is what belongs to one process alone, with the world that it shares with others. `Act`
is the type of what a process does: it changes the process and goes on, or ends it.

A process that starts another one hands its world over and takes it back when the other one has
ended, in whatever way.
-/

set_option autoImplicit false

namespace Shakedown

/-- How a process ends. -/
inductive Ending where
  /-- With an exit status. -/
  | exited (status : UInt8)
  /-- By a signal. -/
  | killed (signal : Nat)
  deriving DecidableEq, Repr

/-- The status under which a process is known to have ended to the one that waits for it. -/
def Ending.status : Ending → Nat
  | .exited status => status.toNat
  | .killed signal => 128 + signal

/-- The number of the signal that ends a writer whom nobody reads. -/
def pipeSignal : Nat := 13

/-- A process. -/
structure Process where
  /-- What it shares with others. -/
  world : World
  /-- Its working directory. -/
  cwd : Location
  /-- Its environment. -/
  env : Environment
  /-- The name it was started under, then its arguments. -/
  words : List Chars
  /-- The name of the file that it runs. -/
  file : Chars := []
  /-- The open files by the numbers it has for them. -/
  descriptors : List (Nat × Nat)
  /-- Its number. -/
  number : Nat
  /-- The number of the process that started it. -/
  parent : Nat := 0
  /-- The permission bits that new files do not get. -/
  mask : Nat := 0o022
  /-- The signals that it ignores. -/
  ignored : List Nat := []
  /-- The signals that it does something about. -/
  caught : List Nat := []
  /-- The first fault of writing to the output. -/
  fault : Option Fault := none

namespace Process

/-- A process that is started on a world. -/
def start (w : World) (cwd : Location) (env : Environment) (descriptors : List (Nat × Nat)) :
    Process :=
  let number := w.started + 1
  { world := w.withProcess number
    cwd, env, descriptors, number
    words := []
    parent := 1 }

/-- The name a process was started under. -/
def name (p : Process) : Chars :=
  p.words.headD []

/-- The arguments of a process. -/
def args (p : Process) : List Chars :=
  p.words.tail

/-- A new process that is a copy of another one but for its number. -/
def fork (p : Process) (number : Nat) : Process :=
  { p with
    world := p.world.withProcess number
    number
    parent := p.number
    fault := none }

/-- The value of an environment variable. -/
def getEnv? (p : Process) (name : String) : Option Chars :=
  (p.env.get? (Utf8.bytes name)).map Chars.ofBytes

/-- The open file of a descriptor, with its number. -/
def open? (p : Process) (descriptor : Nat) : Option (Nat × OpenFile) :=
  match p.descriptors.lookup descriptor with
  | none => none
  | some number => (p.world.opened[number]?).map fun f => (number, f)

/-- What a process finds when it reads about itself. -/
def portrait (p : Process) : SelfPortrait → Bytes
  | .name => Chars.toBytes (p.file.take 15) ++ [0x0A]
  | .words => p.words.flatMap fun w => Chars.toBytes w ++ [0]
  | .environment => p.env.flatMap fun (name, value) => name ++ 0x3D :: value ++ [0]

/-- The process with a descriptor for an open file. -/
def withDescriptor (p : Process) (descriptor number : Nat) : Process :=
  { p with descriptors := (descriptor, number) :: p.descriptors.filter (·.1 ≠ descriptor) }

/-- The process without a descriptor. -/
def withoutDescriptor (p : Process) (descriptor : Nat) : Process :=
  { p with descriptors := p.descriptors.filter (·.1 ≠ descriptor) }

end Process

/-- What a process does. -/
abbrev Act := ExceptT Ending (StateM Process)

namespace Act

/-- Ends the process. -/
def exit {α : Type} (status : UInt8) : Act α :=
  throw (.exited status)

/-- Carries out an act on behalf of the process `p`, whatever becomes of it. An act that comes to
its end exits with success. -/
def runOn (act : Act Unit) (p : Process) : Ending × World :=
  match act p with
  | (.ok (), q) => (.exited 0, q.world)
  | (.error e, q) => (e, q.world)

/-- Carries out an act in a new process that starts as a copy of this one. -/
def child (act : Act Unit) : Act Ending := fun p =>
  let number := p.world.started + 1
  let (ending, world) := runOn act (p.fork number)
  (.ok ending, { p with world := { world with alive := world.alive.erase number } })

/-! ## Reading and writing -/

/-- Changes the shared world. -/
def modifyWorld (change : World → World) : Act Unit :=
  modify fun p => { p with world := change p.world }

/-- Writes through an open file. Whoever writes to a pipe that nobody reads is ended, unless it
ignores the signal. -/
def putTo (number : Nat) (text : Chars) : Act (Option Fault) := do
  let p ← get
  match p.world.write number (Chars.toBytes text) with
  | .ok world =>
    set { p with world }
    return none
  | .error .brokenPipe =>
    if p.ignored.contains pipeSignal then return some .brokenPipe
    else throw (.killed pipeSignal)
  | .error e => return some e

/-- Writes to a descriptor. -/
def put (descriptor : Nat) (text : Chars) : Act (Option Fault) := do
  match (← get).descriptors.lookup descriptor with
  | none => return some .badDescriptor
  | some number => putTo number text

/-- Writes to the output; a first fault is noted. -/
def write (text : Chars) : Act Unit := do
  match ← put 1 text with
  | none => return ()
  | some e => modify fun p => { p with fault := p.fault.or e }

/-- Writes a line to the output. -/
def writeLine (text : Chars) : Act Unit :=
  write (text ++ Chars.newline)

/-- Writes a line to the error output. -/
def complain (text : Chars) : Act Unit := do
  let _ ← put 2 (text ++ Chars.newline)

/-- All that is left to read at a descriptor. -/
def remaining (descriptor : Nat) : Act (Except Fault Chars) := do
  let p ← get
  match p.open? descriptor with
  | none => return .error .badDescriptor
  | some (_, f) => return (p.world.remaining p.portrait f).map Chars.ofBytes

/-- Passes over so many bytes at a descriptor. -/
def pass (descriptor count : Nat) : Act Unit := do
  let p ← get
  match p.descriptors.lookup descriptor with
  | none => return ()
  | some number => set { p with world := p.world.passed number count }

/-- Reads all that is left at a descriptor. -/
def readAll (descriptor : Nat) : Act (Except Fault Chars) := do
  let text ← remaining descriptor
  pass descriptor (text.toOption.elim 0 List.length)
  return text

/-! ## Opening files -/

/-- What a file is opened for. -/
inductive Purpose where
  /-- Reading. -/
  | read
  /-- Writing from the start; what was in the file goes. -/
  | write
  /-- Writing behind its end. -/
  | append
  /-- Reading and writing. -/
  | update
  deriving DecidableEq, Repr

/-- Whether a purpose changes the file. -/
def Purpose.writes : Purpose → Bool
  | .read => false
  | _ => true

/-- A file that is opened for a purpose. -/
def openedFor (purpose : Purpose) (channel : Channel) : OpenFile :=
  { channel
    readable := purpose = .read || purpose = .update
    writable := purpose.writes
    append := purpose = .append }

/-- Notes an open file. -/
def note (f : OpenFile) : Act Nat := fun p =>
  let (world, number) := p.world.addOpen f
  (.ok number, { p with world })

/-- The permission bits of a new file. -/
def newFileMode : Nat := 0o666

/-- Permission bits without those that a mask takes away. -/
def masked (mode mask : Nat) : Nat :=
  mode - (mode &&& mask)

/-- Makes a file at a location. -/
def create (l : Location) (content : Bytes) (mode : Nat) : Act Unit :=
  modifyWorld fun w =>
    { w.tick with
      tree := (w.tree.putFile l
        { mode, content := .data content, modified := w.clock }).stamped l w.clock }

/-- Empties a file. -/
def truncate (number : Nat) : Act Unit :=
  modifyWorld fun w =>
    { w.tick with
      tree := w.tree.modifyFile number fun f =>
        match f.content with
        | .data _ => { f with content := .data [], modified := w.clock }
        | .program _ => { f with content := .data [], modified := w.clock }
        | _ => f }

/-- Opens a file that is there. -/
def openExisting (purpose : Purpose) (number : Nat) : Act (Except Fault Nat) := do
  let p ← get
  match p.world.tree.content? number with
  | some (.device .terminal) => return .error .noDevice
  | some (.device (.descriptor d)) =>
    match p.descriptors.lookup d with
    | some opened => return .ok opened
    | none => return .error .notFound
  | _ =>
    if purpose = .write then truncate number
    return .ok (← note (openedFor purpose (.file number)))

/-- Opens the file that a path names. One that is opened for writing is made if it is missing. -/
def openPath (purpose : Purpose) (path : Chars) : Act (Except Fault Nat) := do
  let p ← get
  match p.world.tree.resolve p.cwd ⟨Chars.toBytes path⟩ with
  | .error e => return .error e
  | .ok l =>
    match p.world.tree.node? l with
    | some (.file number) => openExisting purpose number
    | some (.directory ..) =>
      if purpose.writes then return .error .isADirectory
      else return .ok (← note (openedFor purpose (.directory l)))
    | _ =>
      if purpose.writes then
        create l [] (masked newFileMode p.mask)
        match (← get).world.tree.node? l with
        | some (.file number) => return .ok (← note (openedFor purpose (.file number)))
        | _ => return .error .notFound
      else return .error .notFound

/-- The contents of the file that a path names, or of the input where the path is a hyphen. -/
def readPath (path : Chars) : Act (Except Fault Chars) := do
  match ← openPath .read path with
  | .error e => return .error e
  | .ok number =>
    let p ← get
    match p.world.opened[number]? with
    | none => return .error .badDescriptor
    | some f =>
      let text := (p.world.remaining p.portrait f).map Chars.ofBytes
      set { p with world := p.world.passed number (text.toOption.elim 0 List.length) }
      return text

/-- The contents of an operand: those of the input where it is a hyphen. -/
def readOperand (operand : Chars) : Act (Except Fault Chars) :=
  if operand = ['-'] then readAll 0 else readPath operand

/-- Makes a file of a path with some contents, or replaces its contents. -/
def writePath (path content : Chars) : Act (Option Fault) := do
  match ← openPath .write path with
  | .error e => return some e
  | .ok number =>
    let p ← get
    match p.world.write number (Chars.toBytes content) with
    | .error e => return some e
    | .ok world =>
      set { p with world }
      return none

/-- Changes the file tree at the present time, unless that is refused. -/
def changeTree (change : FileTree → Location → Nat → Except Fault FileTree) :
    Act (Option Fault) := do
  let p ← get
  match change p.world.tree p.cwd p.world.clock with
  | .error e => return some e
  | .ok tree =>
    set { p with world := { p.world.tick with tree } }
    return none

/-- What a path leads to. -/
def stat (path : Chars) (follow : Bool := true) : Act (Except Fault (Location × Node)) := do
  let p ← get
  return p.world.tree.stat p.cwd ⟨Chars.toBytes path⟩ follow

/-- The fault of a result, in words. -/
def reason (e : Fault) : Chars :=
  e.reason.toList

end Act

/-! ## Programs -/

/-- What a program needs of its surroundings to start others. -/
structure Host where
  /-- Goes on as another program. -/
  become : Launch → Act Unit

/-- A program: what a process does that was started with it. -/
abbrev Program := Host → Act Unit

namespace Act

/-- Goes on as the program of a name, taking a file in no known format for a script; answers why
that cannot be done. -/
def become (host : Host) (words : List Chars) : Act Fault := do
  let p ← get
  let words := words.map Chars.toBytes
  match p.world.tree.launchReadable p.cwd p.env (words.headD []) words.tail with
  | .error e => return e
  | .ok l =>
    host.become l
    exit 0

end Act

end Shakedown
