import Shakedown.Machine.Basic
import Shakedown.Text.Octet

/-!
# What processes share

Processes run one after the other on one file tree. What they write to pipes and to collected output
is kept in buffers, and what they open is noted with the place up to which it was read or written,
so that processes that share an open file go on where the other one stopped.

A pipe is written first and read afterwards. Its buffer has a limit, beyond which a writer is taken
to write to a pipe that nobody reads any more.
-/

set_option autoImplicit false

namespace Shakedown

/-- A buffer of what was written and not read yet. -/
structure Buffer where
  /-- What was written, latest first. -/
  chunks : List Bytes := []
  /-- How many bytes were ever written. -/
  written : Nat := 0
  /-- How many bytes may be written. -/
  limit : Option Nat := none

/-- What is in a buffer. -/
def Buffer.bytes (b : Buffer) : Bytes :=
  b.chunks.reverse.flatten

/-- The buffer after bytes were written. -/
def Buffer.push (b : Buffer) (bytes : Bytes) : Buffer :=
  { b with chunks := bytes :: b.chunks, written := b.written + bytes.length }

/-- What an open file gives access to. -/
inductive Channel where
  /-- A buffer. -/
  | buffer (number : Nat)
  /-- A file. -/
  | file (number : Nat)
  /-- A directory. -/
  | directory (place : Location)
  deriving DecidableEq, Repr

/-- An open file. -/
structure OpenFile where
  /-- What it gives access to. -/
  channel : Channel
  /-- Up to where it was read or written. -/
  offset : Nat := 0
  /-- Whether it may be read. -/
  readable : Bool := false
  /-- Whether it may be written. -/
  writable : Bool := false
  /-- Whether everything is written to the end. -/
  append : Bool := false

/-- What processes share. -/
structure World where
  /-- The files. -/
  tree : FileTree
  /-- The buffers. What the harness writes goes to the first, what it complains to the second; its
  input is the third. -/
  buffers : Array Buffer := #[{}, {}, {}]
  /-- The open files; the first three are those of the harness. -/
  opened : Array OpenFile :=
    #[{ channel := .buffer 2, readable := true }, { channel := .buffer 0, writable := true },
      { channel := .buffer 1, writable := true }]
  /-- The number of the process that was started last. -/
  started : Nat := 1
  /-- The numbers of the processes that have not ended. -/
  alive : List Nat := [1]
  /-- Signals that wait for a process to run again. -/
  signals : List (Nat × Nat) := []
  /-- A clock that goes on with every change of a file. -/
  clock : Nat := beginning + 1

namespace World

/-- The world with a process of a number. -/
def withProcess (w : World) (number : Nat) : World :=
  { w with
    started := max w.started number
    alive := if w.alive.contains number then w.alive else number :: w.alive }

/-- What was written to a buffer. -/
def written (w : World) (number : Nat) : Bytes :=
  (w.buffers[number]?).elim [] Buffer.bytes

/-- How much a pipe takes that nobody reads. -/
def pipeLimit : Nat := 1048576

/-- The world with one more buffer, and its number. -/
def addBuffer (w : World) (limit : Option Nat) : World × Nat :=
  ({ w with buffers := w.buffers.push { limit } }, w.buffers.size)

/-- The world with one more open file, and its number. -/
def addOpen (w : World) (f : OpenFile) : World × Nat :=
  ({ w with opened := w.opened.push f }, w.opened.size)

/-- A new buffer with an open file to write it. -/
def addCollector (w : World) (limit : Option Nat) : World × Nat × Nat :=
  let (w, number) := w.addBuffer limit
  let (w, writer) := w.addOpen { channel := .buffer number, writable := true }
  (w, number, writer)

/-- The world with an open file changed. -/
def modifyOpen (w : World) (number : Nat) (change : OpenFile → OpenFile) : World :=
  { w with opened := w.opened.modify number change }

/-- The world with the clock one step further. -/
def tick (w : World) : World :=
  { w with clock := w.clock + 1 }

/-- Bytes with others written over them from an offset on; a gap is filled with zeros. -/
def overwrite (old : Bytes) (offset : Nat) (new : Bytes) : Bytes :=
  old.take offset ++ List.replicate (offset - old.length) 0 ++ new ++ old.drop (offset + new.length)

/-- The world after bytes were written to a buffer, unless its limit is reached. -/
def writeBuffer (w : World) (number : Nat) (bytes : Bytes) : Except Fault World :=
  match w.buffers[number]? with
  | none => .error .badDescriptor
  | some b =>
    if b.limit.any (b.written + bytes.length > ·) then .error .brokenPipe
    else .ok { w with buffers := w.buffers.modify number (·.push bytes) }

/-- The world after bytes were written to a file through an open file. -/
def writeFile (w : World) (opened number : Nat) (f : OpenFile) (bytes : Bytes) :
    Except Fault World :=
  match w.tree.content? number with
  | some (.data old) =>
    let offset := if f.append then old.length else f.offset
    let changed := w.modifyOpen opened ({ · with offset := offset + bytes.length })
    .ok { changed with
      tree := w.tree.modifyFile number fun g =>
        { g with content := .data (overwrite old offset bytes), modified := w.clock } }
  | some (.device .full) => .error .noSpace
  | some (.device _) => .ok w
  | _ => .error .badDescriptor

/-- The world after bytes were written through an open file. -/
def write (w : World) (opened : Nat) (bytes : Bytes) : Except Fault World :=
  match w.opened[opened]? with
  | none => .error .badDescriptor
  | some f =>
    if !f.writable then .error .badDescriptor
    else if bytes = [] then .ok w
    else match f.channel with
      | .buffer number => w.writeBuffer number bytes
      | .file number => w.writeFile opened number f bytes
      | .directory _ => .error .badDescriptor

/-- All that is left to read through an open file of a buffer or a file. The reader's own view of a
file that is about the reader is given. -/
def remaining (w : World) (view : SelfPortrait → Bytes) (f : OpenFile) : Except Fault Bytes :=
  if !f.readable then .error .badDescriptor
  else match f.channel with
    | .buffer number => .ok ((w.written number).drop f.offset)
    | .directory _ => .error .isADirectory
    | .file number =>
      match w.tree.content? number with
      | none => .error .badDescriptor
      | some (.portrait p) => .ok ((view p).drop f.offset)
      | some (.device d) => .ok (FileTree.contentBytes (.device d))
      | some content => .ok ((FileTree.contentBytes content).drop f.offset)

/-- The world after so many bytes were read through an open file. -/
def passed (w : World) (opened count : Nat) : World :=
  w.modifyOpen opened fun f => { f with offset := f.offset + count }

end World

end Shakedown
