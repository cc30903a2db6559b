import Shakedown.Machine.FileTree

/-!
# Changing file trees

Directories, links and names are made, removed and renamed as the system does it on behalf of the
superuser. Every change stamps the directory whose entries it changes with the present time.
-/

set_option autoImplicit false

namespace Shakedown

namespace FileTree

/-- The tree with the directory that holds a location stamped. -/
def stamped (t : FileTree) (l : Location) (time : Nat) : FileTree :=
  match t.nodes.lookup l.dropLast with
  | some (.directory mode _) => t.put l.dropLast (.directory mode time)
  | _ => t

/-- A path without the slashes at its end. -/
def withoutSlashes (p : Path) : Path :=
  match p.bytes.reverse.dropWhile (· = PathLetter.slash) with
  | [] => ⟨p.bytes.take 1⟩
  | reversed => ⟨reversed.reverse⟩

/-- The location of a new name; nothing may be there yet. -/
def newPlace (t : FileTree) (cwd : Location) (p : Path) : Except Fault Location :=
  match t.resolve cwd p false with
  | .error e => .error e
  | .ok l => if (t.node? l).isSome then .error .exists else .ok l

/-- Makes a directory. -/
def makeDirectory (t : FileTree) (cwd : Location) (p : Path) (mode time : Nat) :
    Except Fault FileTree :=
  (t.newPlace cwd (withoutSlashes p)).map fun l =>
    (t.put l (.directory mode time)).stamped l time

/-- Makes a symbolic link. -/
def makeLink (t : FileTree) (cwd : Location) (target : Bytes) (p : Path) (time : Nat) :
    Except Fault FileTree :=
  if target = [] then .error .notFound
  else (t.newPlace cwd p).map fun l => (t.put l (.link target)).stamped l time

/-- Gives a file one more name. -/
def makeName (t : FileTree) (cwd : Location) (old new : Path) (time : Nat) :
    Except Fault FileTree :=
  match t.stat cwd old false with
  | .error e => .error e
  | .ok (_, .directory ..) => .error .notPermitted
  | .ok (_, n) => (t.newPlace cwd new).map fun l => (t.put l n).stamped l time

/-- Removes a name that is not that of a directory. -/
def unlink (t : FileTree) (cwd : Location) (p : Path) (time : Nat) : Except Fault FileTree :=
  match t.stat cwd p false with
  | .error e => .error e
  | .ok (_, .directory ..) => .error .isADirectory
  | .ok (l, _) => .ok ((t.remove l).stamped l time)

/-- The last segment of a path, slashes at its end left off. -/
def lastSegment (p : Path) : Bytes :=
  ((PathLetter.segments (withoutSlashes p).bytes).getLast?).getD []

/-- Removes an empty directory. -/
def removeDirectory (t : FileTree) (cwd : Location) (p : Path) (time : Nat) :
    Except Fault FileTree :=
  match t.stat cwd p false with
  | .error e => .error e
  | .ok (l, .directory ..) =>
    if lastSegment p = PathLetter.single then .error .invalidArgument
    else if l = [] then .error .busy
    else if t.entries l ≠ [] then .error .notEmpty
    else .ok ((t.remove l).stamped l time)
  | .ok _ => .error .notADirectory

/-- Moves a location with all that is below it. -/
def relocate (t : FileTree) (old new : Location) : FileTree :=
  { t with nodes := (t.remove new).nodes.map fun (place, n) =>
      if old.isPrefixOf place then (new ++ place.drop old.length, n) else (place, n) }

/-- Whether the last segment of a path stands for a directory under another name. -/
def endsInDots (p : Path) : Bool :=
  lastSegment p = PathLetter.single || lastSegment p = PathLetter.double

/-- Gives what is under one name another one; what was there before goes, unless it is a directory
with something in it. -/
def rename (t : FileTree) (cwd : Location) (old new : Path) (time : Nat) :
    Except Fault FileTree :=
  match t.stat cwd old false with
  | .error e => .error e
  | .ok (source, n) =>
    let moved := isDirectoryNode n
    match t.resolve cwd (if moved then withoutSlashes new else new) false with
    | .error e => .error e
    | .ok goal =>
      let finished := ((t.relocate source goal).stamped source time).stamped goal time
      if endsInDots old || endsInDots new then .error .busy
      else if source = goal then .ok t
      else if moved && source.isPrefixOf goal then .error .invalidArgument
      else match t.node? goal with
        | none => .ok finished
        | some (.directory ..) =>
          if !moved then .error .isADirectory
          else if t.entries goal ≠ [] then .error .notEmpty
          else .ok finished
        | some m =>
          if moved then .error .notADirectory
          else if m = n then .ok t
          else .ok finished

/-- Sets the permission bits of what a path leads to. -/
def setMode (t : FileTree) (cwd : Location) (p : Path) (mode : Nat) : Except Fault FileTree :=
  match t.stat cwd p with
  | .error e => .error e
  | .ok (_, .file number) => .ok (t.modifyFile number ({ · with mode }))
  | .ok (l, .directory _ modified) =>
    .ok (if l = [] then t else t.put l (.directory mode modified))
  | .ok (_, .link _) => .error .notFound

/-- Sets the time of the last change of what a path leads to. -/
def setTime (t : FileTree) (cwd : Location) (p : Path) (time : Nat) : Except Fault FileTree :=
  match t.stat cwd p with
  | .error e => .error e
  | .ok (_, .file number) => .ok (t.modifyFile number ({ · with modified := time }))
  | .ok (l, .directory mode _) =>
    .ok (if l = [] then t else t.put l (.directory mode time))
  | .ok (_, .link _) => .error .notFound

end FileTree

end Shakedown
