import Shakedown.Process.Property
import Shakedown.Utility.Name

/-!
# Operations on files

What the utilities for files have in common: what stands at a path, the changes of the file tree
that one path is named in, and how paths are put together.
-/

set_option autoImplicit false

namespace Shakedown

namespace Act

/-- What stands at a path, if anything does. -/
def nodeAt (path : Chars) (follow : Bool := true) : Act (Option Node) := do
  return ((← get).node? path follow).map (·.2)

/-- Whether a path leads to a directory. -/
def isDirectoryAt (path : Chars) : Act Bool := do
  return (← nodeAt path).any FileTree.isDirectoryNode

/-- A path for the file tree. -/
def treePath (path : Chars) : Path :=
  ⟨Chars.toBytes path⟩

/-- Makes a directory with permission bits. -/
def makeDirectory (path : Chars) (mode : Nat) : Act (Option Fault) :=
  changeTree fun t cwd time => t.makeDirectory cwd (treePath path) mode time

/-- Removes a name that is not that of a directory. -/
def unlink (path : Chars) : Act (Option Fault) :=
  changeTree fun t cwd time => t.unlink cwd (treePath path) time

/-- Removes an empty directory. -/
def removeDirectory (path : Chars) : Act (Option Fault) :=
  changeTree fun t cwd time => t.removeDirectory cwd (treePath path) time

/-- Makes a symbolic link. -/
def makeLink (target path : Chars) : Act (Option Fault) :=
  changeTree fun t cwd time => t.makeLink cwd (Chars.toBytes target) (treePath path) time

/-- Gives a file one more name. -/
def makeName (old new : Chars) : Act (Option Fault) :=
  changeTree fun t cwd time => t.makeName cwd (treePath old) (treePath new) time

/-- Gives something another name. -/
def rename (old new : Chars) : Act (Option Fault) :=
  changeTree fun t cwd time => t.rename cwd (treePath old) (treePath new) time

/-- Sets permission bits. -/
def setMode (path : Chars) (mode : Nat) : Act (Option Fault) :=
  changeTree fun t cwd _ => t.setMode cwd (treePath path) mode

/-- Sets the time of the last change. -/
def setTime (path : Chars) (time : Nat) : Act (Option Fault) :=
  changeTree fun t cwd _ => t.setTime cwd (treePath path) time

/-- The names in the directory that a path leads to, in the order of their bytes. -/
def entriesAt (path : Chars) : Act (List Chars) := do
  let p ← get
  match p.node? path true with
  | some (l, .directory ..) =>
    return ((p.world.tree.entries l).map Chars.ofBytes).mergeSort fun a b => !Chars.before b a
  | _ => return []

/-- Complains that something cannot be done to a path. -/
def cannot (action : String) (path : Chars) (e : Fault) : Act Unit :=
  grumble (action.toList ++ ' ' :: path.shown ++ ": ".toList ++ reason e)

/-- Makes the directories of a path that are missing. -/
def makeWay (path : Chars) (mode : Nat) : Act Unit := do
  for n in List.range (path.length + 1) do
    if n > 0 && (path[n]?.isNone || path[n]? = some '/') then
      let _ ← makeDirectory (path.take n) mode

/-- How deep directories may lie in one another. -/
def treeDepth : Nat := 200

end Act

namespace Utility

/-- What a node is called. -/
def kindText (t : FileTree) (n : Node) : String :=
  match n with
  | .directory .. => "directory"
  | .link _ => "symbolic link"
  | _ =>
    if t.isDevice n then "character special file"
    else if t.sizeOf n = 0 then "regular empty file" else "regular file"

/-- A name in a directory. -/
def nameIn (directory name : Chars) : Chars :=
  if directory.getLast? = some '/' then directory ++ name else directory ++ '/' :: name

/-- Where something goes that is copied, moved or linked. -/
structure Transfer where
  /-- What goes. -/
  source : Chars
  /-- Where it goes. -/
  goal : Chars
  deriving DecidableEq, Repr

/-- Why a path is no directory. -/
def noDirectoryReason (path : Chars) : Act Fault := do
  match ← Act.stat path with
  | .ok _ => return .notADirectory
  | .error e => return e

/-- Complains if a file stands where a directory is needed on the way to a goal. -/
def checkGoal (goal : Chars) : Act Unit := do
  match ← Act.stat goal with
  | .error .notADirectory =>
    Act.die ("cannot stat ".toList ++ goal.shown ++ ": Not a directory".toList)
  | _ => pure ()

/-- What goes where: to a directory that is given by an option or comes last, or one thing to one
place. -/
def transfers (a : Arguments) : Act (List Transfer) := do
  if a.operands.isEmpty then Act.misused "missing file operand".toList
  let into := fun (directory : Chars) (sources : List Chars) =>
    sources.map fun source => { source, goal := nameIn directory (lastPart source) : Transfer }
  match a.value? 't' with
  | some directory =>
    if ← Act.isDirectoryAt directory then return into directory a.operands
    else
      let e ← noDirectoryReason directory
      Act.die ("target directory ".toList ++ directory.shown ++ ": ".toList ++ Act.reason e)
  | none =>
    match a.operands with
    | [source] =>
      Act.misused ("missing destination file operand after ".toList ++ source.shown)
    | [source, goal] =>
      if !a.has 'T' && (← Act.isDirectoryAt goal) then return into goal [source]
      else return [{ source, goal }]
    | _ =>
      let goal := a.operands.getLast?.getD []
      if a.has 'T' then
        Act.misused ("extra operand ".toList ++ (a.operands.getD 2 []).shown)
      else if ← Act.isDirectoryAt goal then return into goal a.operands.dropLast
      else
        let e ← noDirectoryReason goal
        Act.die ("target ".toList ++ goal.shown ++ ": ".toList ++ Act.reason e)

/-- The options for where things go. -/
def transferOptions : List OptionKind :=
  [.namedValue 't' "target-directory", .named 'T' "no-target-directory", .named 'v' "verbose"]

/-- An arrow between what goes and where it goes. -/
def Transfer.text (t : Transfer) : Chars :=
  t.source.shown ++ " -> ".toList ++ t.goal.shown

end Utility

end Shakedown
