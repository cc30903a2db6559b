import Shakedown.Machine.FileTree

/-!
# The machine on which a run takes place

A file tree, the working directory of the harness, and its environment. `locate` looks a program up
the way a reader of the search path would, before anything is started.
-/

set_option autoImplicit false

namespace Shakedown

/-- Environment variables, an earlier entry of a name hiding a later one. -/
abbrev Environment := List (Bytes × Bytes)

namespace Environment

/-- The value of a variable. -/
def get? (e : Environment) (name : Bytes) : Option Bytes :=
  e.lookup name

/-- The environment with a variable set. -/
def set (e : Environment) (name value : Bytes) : Environment :=
  (name, value) :: e.filter (·.1 ≠ name)

/-- The environment with a variable set where it stands, or at the end. -/
def put (e : Environment) (name value : Bytes) : Environment :=
  if e.any (·.1 = name) then e.map fun v => if v.1 = name then (name, value) else v
  else e ++ [(name, value)]

/-- The environment without a variable. -/
def unset (e : Environment) (name : Bytes) : Environment :=
  e.filter (·.1 ≠ name)

end Environment

/-- What the harness finds around itself. -/
structure Machine where
  /-- The files. -/
  tree : FileTree
  /-- The working directory, which may have been removed. -/
  cwd : Location
  /-- The environment. -/
  env : Environment

namespace Machine

/-- The directories of a search path: the parts between its colons, empty ones included. -/
def searchPath : Bytes → List Bytes
  | [] => [[]]
  | c :: r =>
    if c = 0x3A then [] :: searchPath r
    else match searchPath r with
      | [] => [[c]]
      | d :: more => (c :: d) :: more

/-- The working directory as an absolute path. -/
def currentDir (m : Machine) : Except Fault Path :=
  match m.tree.node? m.cwd with
  | some (.directory ..) => .ok m.cwd.path
  | _ => .error .notFound

/-- Whether a path names something. -/
def pathExists (m : Machine) (p : Path) : Bool :=
  (m.tree.stat m.cwd p).isOk

/-- Whether a path names a directory. -/
def isDirectory (m : Machine) (p : Path) : Bool :=
  match m.tree.stat m.cwd p with
  | .ok (_, n) => FileTree.isDirectoryNode n
  | .error _ => false

/-- Whether a path names a file that may be run. -/
def isExecutable (m : Machine) (p : Path) : Bool :=
  match m.tree.stat m.cwd p with
  | .ok (_, n) => m.tree.isRunnable n
  | .error _ => false

/-- The bytes of a component within a path. -/
def componentBytes : PathLetter.Component UInt8 → Bytes
  | .root => [PathLetter.slash]
  | .here => PathLetter.single
  | .up => PathLetter.double
  | .name n => n

/-- Components put behind a path one by one. -/
def extend (base : Path) (components : List (PathLetter.Component UInt8)) : Path :=
  components.foldl (fun p c => p.join ⟨componentBytes c⟩) base

/-- A relative path made absolute, a leading `.` left out. -/
def absolute (base p : Path) : Path :=
  if p.isAbsolute then p else extend base (p.components.dropWhile (· = .here))

/-- A directory of the search path, with a leading `~` standing for the home directory. -/
def expandHome (m : Machine) (directory : Bytes) : Path :=
  match PathLetter.components directory with
  | .name n :: more =>
    if n = [0x7E] then
      let home := (m.env.get? (Utf8.bytes "HOME")).getD []
      extend ⟨home⟩ more
    else ⟨directory⟩
  | _ => ⟨directory⟩

/-- A program in each directory of the search path. -/
def onSearchPath (m : Machine) (program : Path) : List Path :=
  match m.env.get? (Utf8.bytes "PATH") with
  | none => []
  | some path => (searchPath path).map fun d => (m.expandHome d).join program

/-- The places where a program may be: a path with several components is taken from the working
directory, anything else from every directory of the search path. -/
def candidates (m : Machine) (program : Path) : List Path :=
  match m.currentDir with
  | .ok cwd =>
    if program.components.length > 1 then [absolute cwd program] else m.onSearchPath program
  | .error _ => m.onSearchPath program

/-- The file that a program name stands for: the first candidate that may be run. -/
def locate (m : Machine) (program : String) : Option Path :=
  (m.candidates (.ofString program)).find? m.isExecutable

end Machine

end Shakedown
