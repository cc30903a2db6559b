import Shakedown.Machine.Fault
import Shakedown.Path.Basic

/-!
# File trees

A location is the list of names from the root. At a location stands a directory, a symbolic link, or
the number of a file; the files themselves are kept apart, so that several names may share one and a
file outlives its names while it is open.

A path is resolved from a starting location by walking its segments, and every step must start at a
directory. So `..` leads to the parent, a trailing slash demands a directory, and a file in the
middle of a path is an error. A symbolic link on the way is replaced by the path it holds.

The caller is the superuser: reading is always allowed, running a file needs one execute bit.
-/

set_option autoImplicit false

namespace Shakedown

/-- A device: what is read from it is not what was written to it. -/
inductive Device where
  /-- Always at its end; whatever is written is gone. -/
  | null
  /-- Zero bytes without end. -/
  | zero
  /-- Zero bytes without end, and no room for more. -/
  | full
  /-- Bytes that nobody can foresee. -/
  | random
  /-- The terminal, which a process without one cannot open. -/
  | terminal
  /-- The open file of a descriptor of whoever opens it. -/
  | descriptor (number : Nat)
  deriving DecidableEq, Repr

/-- What a process can read about itself. -/
inductive SelfPortrait where
  /-- The name of the program that it runs. -/
  | name
  /-- Its words. -/
  | words
  /-- Its environment. -/
  | environment
  deriving DecidableEq, Repr

/-- The contents of a file. -/
inductive Content where
  /-- Bytes. -/
  | data (bytes : Bytes)
  /-- A program of the system, by its name. -/
  | program (name : String)
  /-- A device. -/
  | device (d : Device)
  /-- Something about the process that reads the file. -/
  | portrait (p : SelfPortrait)
  deriving DecidableEq, Repr

/-- The time when nothing had been changed yet, in seconds. -/
def beginning : Nat := 1700000000

/-- A file. -/
structure File where
  /-- The permission bits. -/
  mode : Nat
  /-- The contents. -/
  content : Content
  /-- When the contents were last changed. -/
  modified : Nat := beginning
  deriving DecidableEq, Repr

/-- What stands at a location. -/
inductive Node where
  /-- A directory with its permission bits and the time when its entries last changed. -/
  | directory (mode modified : Nat)
  /-- The file of a number. -/
  | file (number : Nat)
  /-- A symbolic link to a path. -/
  | link (target : Bytes)
  deriving DecidableEq, Repr

/-- The names that lead from the root to a place. -/
abbrev Location := List Bytes

/-- The path of a location. -/
def Location.path (l : Location) : Path :=
  match l with
  | [] => ⟨[PathLetter.slash]⟩
  | names => ⟨names.flatMap (PathLetter.slash :: ·)⟩

/-- A file tree: what stands where. The root is always a directory. -/
structure FileTree where
  /-- The nodes below the root, latest first. -/
  nodes : List (Location × Node) := []
  /-- The files, by their numbers. -/
  files : List File := []

namespace FileTree

/-- The longest name of a directory entry, in bytes. -/
def nameLimit : Nat := 255

/-- The longest path, in bytes. -/
def pathLimit : Nat := 4095

/-- How many symbolic links a path may lead over. -/
def linkLimit : Nat := 40

/-- The usual permission bits of a directory. -/
def directoryMode : Nat := 0o755

/-- The root, and any directory that nothing more is known of. -/
def plainDirectory : Node :=
  .directory directoryMode beginning

/-- What stands at a location. -/
def node? (t : FileTree) (l : Location) : Option Node :=
  if l = [] then some plainDirectory else t.nodes.lookup l

/-- The file of a number. -/
def file? (t : FileTree) (number : Nat) : Option File :=
  t.files[number]?

/-- The contents of the file of a number. -/
def content? (t : FileTree) (number : Nat) : Option Content :=
  (t.file? number).map File.content

/-- The tree with another node at a location. -/
def put (t : FileTree) (l : Location) (n : Node) : FileTree :=
  { t with nodes := (l, n) :: t.nodes.filter (·.1 ≠ l) }

/-- The tree with a new file at a location. -/
def putFile (t : FileTree) (l : Location) (f : File) : FileTree :=
  { t.put l (.file t.files.length) with files := t.files ++ [f] }

/-- The tree with a file changed. -/
def modifyFile (t : FileTree) (number : Nat) (change : File → File) : FileTree :=
  { t with files := t.files.modify number change }

/-- The tree without a location and all below it. -/
def remove (t : FileTree) (l : Location) : FileTree :=
  { t with nodes := t.nodes.filter fun (place, _) => !l.isPrefixOf place }

/-- Makes the directory at a location, and the directories above it. -/
def putDirectories (t : FileTree) (l : Location) : FileTree :=
  (List.range (l.length + 1)).foldl
    (fun t n => if (t.node? (l.take n)).isSome then t else t.put (l.take n) plainDirectory) t

/-- The names in a directory. -/
def entries (t : FileTree) (l : Location) : List Bytes :=
  t.nodes.filterMap fun (place, _) => if place.dropLast = l then place.getLast? else none

/-! ## Resolving paths -/

/-- How far a path leads before a link has to be followed. -/
inductive Stretch where
  /-- To its end. -/
  | place (l : Location)
  /-- To a link in a directory; further segments follow. -/
  | link (directory : Location) (target : Bytes) (rest : List Bytes)

/-- Walks segments from a location up to the first link that has to be followed. The place reached
need not exist, every place left must be a directory. Where `follow` is false, a link at the very
end is the place itself. -/
def advance (t : FileTree) (follow : Bool) : Location → List Bytes → Except Fault Stretch
  | here, [] => .ok (.place here)
  | here, s :: more =>
    match t.node? here with
    | none => .error .notFound
    | some (.file _) => .error .notADirectory
    | some (.link _) => .error .notADirectory
    | some (.directory ..) =>
      if PathLetter.isTrivial s then advance t follow here more
      else if s = PathLetter.double then advance t follow here.dropLast more
      else if s.length > nameLimit then .error .nameTooLong
      else match t.node? (here ++ [s]) with
        | some (.link target) =>
          if more = [] && !follow then .ok (.place (here ++ [s])) else .ok (.link here target more)
        | _ => advance t follow (here ++ [s]) more

/-- Walks segments from a location over so many links at most. -/
def walk (t : FileTree) (follow : Bool) :
    Nat → Location → List Bytes → Except Fault Location
  | links, here, segments =>
    match t.advance follow here segments with
    | .error e => .error e
    | .ok (.place l) => .ok l
    | .ok (.link directory target rest) =>
      match links with
      | 0 => .error .tooManyLinks
      | links + 1 =>
        walk t follow links (if PathLetter.isAbsolute target then [] else directory)
          (PathLetter.segments target ++ rest)

/-- The location that a path names from a working directory. A link at its end is followed unless
`follow` is false. -/
def resolve (t : FileTree) (cwd : Location) (p : Path) (follow : Bool := true) :
    Except Fault Location :=
  if p.bytes.contains 0 then .error .nulInPath
  else if p.bytes = [] then .error .notFound
  else if p.bytes.length > pathLimit then .error .nameTooLong
  else t.walk follow linkLimit (if p.isAbsolute then [] else cwd) (PathLetter.segments p.bytes)

/-- The node that a path names, with its location. -/
def stat (t : FileTree) (cwd : Location) (p : Path) (follow : Bool := true) :
    Except Fault (Location × Node) :=
  match t.resolve cwd p follow with
  | .error e => .error e
  | .ok l =>
    match t.node? l with
    | none => .error .notFound
    | some n => .ok (l, n)

/-! ## Reading files -/

/-- What is read of a program: it starts with bytes that are no text. -/
def machineCode : Bytes := [0x7F, 0x45, 0x4C, 0x46, 0x02, 0x01, 0x01, 0x00, 0xFF, 0xFE]

/-- How much is read of a device without end. -/
def endlessLength : Nat := 1048577

/-- The bytes that a reader without features of its own finds in a file. -/
def contentBytes : Content → Bytes
  | .data bytes => bytes
  | .program _ => machineCode
  | .device .zero => List.replicate endlessLength 0
  | .device .full => List.replicate endlessLength 0
  | .device _ => []
  | .portrait _ => []

/-- The bytes of the file that a path names. -/
def read (t : FileTree) (cwd : Location) (p : Path) : Except Fault Bytes :=
  match t.stat cwd p with
  | .error e => .error e
  | .ok (_, .file number) =>
    match t.file? number with
    | some f => .ok (contentBytes f.content)
    | none => .error .notFound
  | .ok _ => .error .isADirectory

/-- The text of the file that a path names. -/
def readText (t : FileTree) (cwd : Location) (p : Path) : Except Fault String :=
  match t.read cwd p with
  | .error e => .error e
  | .ok bytes =>
    match Utf8.decode? bytes with
    | none => .error .notText
    | some cs => .ok (String.ofList cs)

/-- Whether permission bits let a file be run. -/
def isExecutableMode (mode : Nat) : Bool :=
  mode &&& 0o111 ≠ 0

/-- Whether a node is a directory. -/
def isDirectoryNode : Node → Bool
  | .directory .. => true
  | _ => false

/-- Whether a node is a file that may be run. -/
def isRunnable (t : FileTree) : Node → Bool
  | .file number => (t.file? number).any fun f => isExecutableMode f.mode
  | _ => false

end FileTree

end Shakedown
