import Shakedown.Machine.Basic
import Shakedown.Machine.Change
import Shakedown.Stage.Basic

/-!
# Starting programs

How the system finds the program of a process. A name with a slash is a path from the directory of
the process; any other name is looked for in every directory of the search path of the process,
where a relative directory is taken from the directory of the process too. A script names the
program that reads it in its first line; only the beginning of a file is looked at for that line.

`Invocation.childEnvironment` is the environment of the process of an invocation.
-/

set_option autoImplicit false

namespace Shakedown

/-- What a started process runs. -/
structure Launch where
  /-- The program of the system, once scripts are followed to what reads them. -/
  program : String
  /-- The name of the file that was started. -/
  file : Bytes
  /-- The name of the process, then its arguments. -/
  words : List Bytes

/-! ## The first line of a script -/

/-- How much of a file is looked at for its first line. -/
def interpreterLimit : Nat := 256

/-- Whether a byte is a space or a tab. -/
def isSpaceOrTab (b : UInt8) : Bool :=
  b = 0x20 || b = 0x09

/-- Bytes without the blanks at their end. -/
def trimmedEnd (b : Bytes) : Bytes :=
  (b.reverse.dropWhile isSpaceOrTab).reverse

/-- The program and its first argument on a line without blanks around it. A zero byte ends either
of them. -/
def interpreterWords (line : Bytes) : Bytes × List Bytes :=
  let ends (b : UInt8) : Bool := isSpaceOrTab b || b = 0
  let program := line.takeWhile (!ends ·)
  match line.dropWhile (!ends ·) with
  | [] => (program, [])
  | b :: rest =>
    if b = 0 then (program, [])
    else (program, [(rest.dropWhile isSpaceOrTab).takeWhile (· ≠ 0)])

/-- The program that reads a script, and the argument it is given first, as the first line of the
script says: `#!`, the program, and the rest of the line. Where the line does not end within what is
looked at, the name of the program has to. -/
def interpreter? (data : Bytes) : Option (Bytes × List Bytes) :=
  match data.take interpreterLimit with
  | 0x23 :: 0x21 :: more =>
    let line := more.takeWhile fun b => b ≠ 0x0A && b ≠ 0
    if (more.drop line.length).head? = some 0x0A then
      let text := (trimmedEnd line).dropWhile isSpaceOrTab
      if text = [] then none else some (interpreterWords text)
    else
      let padded := more ++ List.replicate (interpreterLimit - 2 - more.length) 0
      let text := padded.dropWhile isSpaceOrTab
      if text.any fun b => isSpaceOrTab b || b = 0 then
        some (interpreterWords ((trimmedEnd padded.dropLast).dropWhile isSpaceOrTab))
      else none
  | _ => none

namespace FileTree

/-- How many files in a row may have to be started until one is no script. -/
def scriptDepth : Nat := 6

/-- What is started for the program at a path, given the words of the process. -/
def launch (t : FileTree) (cwd : Location) (depth : Nat) (p : Path) (words : List Bytes) :
    Except Fault Launch :=
  match t.stat cwd p with
  | .error e => .error e
  | .ok (_, n) =>
    match n with
    | .file number =>
      match t.file? number with
      | none => .error .notFound
      | some f =>
        if isExecutableMode f.mode then
          match depth with
          | 0 => .error .tooManyLinks
          | depth + 1 =>
            match f.content with
            | .program name => .ok ⟨name, lastSegment p, words⟩
            | .data bytes =>
              match interpreter? bytes with
              | none => .error .execFormat
              | some (program, args) =>
                (launch t cwd depth ⟨program⟩ (program :: args ++ p.bytes :: words.tail)).map
                  ({ · with file := lastSegment p })
            | _ => .error .permissionDenied
        else .error .permissionDenied
    | _ => .error .permissionDenied

/-- The program that reads a file in no known format, for those who fall back on it. -/
def formatReader : Bytes := Utf8.bytes "/bin/sh"

/-- What is started for a program at a path where a file in no known format is taken for a
script. -/
def launchOrRead (t : FileTree) (cwd : Location) (p : Path) (words : List Bytes) :
    Except Fault Launch :=
  match t.launch cwd scriptDepth p words with
  | .error .execFormat =>
    t.launch cwd scriptDepth ⟨formatReader⟩ (formatReader :: p.bytes :: words.tail)
  | result => result

/-- The directories that are searched when there is no search path. -/
def usualSearchPath : Bytes := Utf8.bytes "/bin:/usr/bin"

/-- Whether a program name is a path, which is not searched for. -/
def isProgramPath (program : Bytes) : Bool :=
  program = [] || program.contains PathLetter.slash

/-- The paths that a program name may stand for in an environment. -/
def programPaths (env : Environment) (program : Bytes) : List Path :=
  if isProgramPath program then [⟨program⟩]
  else (Machine.searchPath ((env.get? (Utf8.bytes "PATH")).getD usualSearchPath)).map fun d =>
    if d = [] then ⟨program⟩ else ⟨d ++ PathLetter.slash :: program⟩

/-- Whether the search for a program goes on after a fault. -/
def continuesSearch : Fault → Bool
  | .notFound => true
  | .notADirectory => true
  | .permissionDenied => true
  | _ => false

/-- The fault that a search ends with when a fault follows others: a refused permission is not
forgotten. -/
def worseFault (before now : Fault) : Fault :=
  if before = .permissionDenied then before else now

/-- The first of several paths from which a program can be started. -/
def launchFirst (attempt : Path → Except Fault Launch) : Fault → List Path → Except Fault Launch
  | fault, [] => .error fault
  | fault, p :: more =>
    match attempt p with
    | .ok l => .ok l
    | .error e =>
      if continuesSearch e then launchFirst attempt (worseFault fault e) more else .error e

/-- What is started for a program name. -/
def launchProgram (t : FileTree) (cwd : Location) (env : Environment) (program : Bytes)
    (args : List Bytes) : Except Fault Launch :=
  launchFirst (fun p => t.launch cwd scriptDepth p (program :: args)) .notFound
    (programPaths env program)

/-- What is started for a program name where a file in no known format is taken for a script. -/
def launchReadable (t : FileTree) (cwd : Location) (env : Environment) (program : Bytes)
    (args : List Bytes) : Except Fault Launch :=
  launchFirst (fun p => t.launchOrRead cwd p (program :: args)) .notFound
    (programPaths env program)

/-- The location of a directory that is to be a working directory. A path that leads nowhere else
needs nothing to be there. -/
def enter (t : FileTree) (cwd : Location) (p : Path) : Except Fault Location :=
  if p.bytes = PathLetter.single then .ok cwd
  else match t.stat cwd p with
    | .error e => .error e
    | .ok (l, n) => if isDirectoryNode n then .ok l else .error .notADirectory

end FileTree

namespace Environment

/-- A variable as a process receives it: the entry up to its first equals sign is the name. -/
def entry (name value : Bytes) : Bytes × Bytes :=
  if name.contains 0x3D then
    (name.takeWhile (· ≠ 0x3D), (name.dropWhile (· ≠ 0x3D)).tail ++ 0x3D :: value)
  else (name, value)

/-- An environment as a process receives it, in the order of its entries. -/
def handedOver (e : Environment) : Environment :=
  (e.mergeSort fun a b => !(decide (b.1 < a.1))).map fun (name, value) => entry name value

end Environment

namespace Invocation

/-- The environment of the process of an invocation: what is inherited, with the variables of the
invocation set one after the other. -/
def childEnvironment (i : Invocation) (inherited : Environment) : Environment :=
  i.env.foldl (fun e (key, value) => e.set (Utf8.bytes key) (Utf8.bytes value)) inherited

/-- Whether a text of the invocation holds a character that the system takes for an end. -/
def hasNul (i : Invocation) : Bool :=
  (i.program :: i.args ++ i.env.flatMap fun (key, value) => [key, value]).any
    (·.toList.contains '\x00')

/-- Whether the invocation has a search path of its own. -/
def hasSearchPath (i : Invocation) : Bool :=
  i.env.any (·.1 = "PATH")

/-- What is started for an invocation in a directory. An invocation with a search path of its own
goes the way of the system's library, which takes a file in no known format for a script. -/
def launch (i : Invocation) (t : FileTree) (cwd : Location) (env : Environment) :
    Except Fault Launch :=
  let program := Utf8.bytes i.program
  let args := i.args.map Utf8.bytes
  if i.hasSearchPath && !FileTree.isProgramPath program then t.launchReadable cwd env program args
  else t.launchProgram cwd env program args

end Invocation

end Shakedown
