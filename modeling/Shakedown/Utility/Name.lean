import Shakedown.Process.Property
import Shakedown.Utility.Option

/-!
# Utilities for names of files

`basename` and `dirname` cut names apart without looking at any file; `pwd`, `readlink` and
`realpath` tell where names lead.
-/

set_option autoImplicit false

namespace Shakedown.Utility

/-- A name without the slashes at its end. -/
def withoutEndSlashes (name : Chars) : Chars :=
  (name.reverse.dropWhile (· = '/')).reverse

/-- The part of a name behind its last slash, slashes at the end left off. -/
def lastPart (name : Chars) : Chars :=
  match withoutEndSlashes name with
  | [] => name.take 1
  | short => (short.reverse.takeWhile (· ≠ '/')).reverse

/-- The directory part of a name. -/
def directoryPart (name : Chars) : Chars :=
  let front := (withoutEndSlashes name).reverse.dropWhile (· ≠ '/')
  match withoutEndSlashes front.reverse with
  | [] => if name.head? = some '/' then ['/'] else ['.']
  | short => short

/-- A name without an ending, which must not be all of it. -/
def withoutEnding (ending name : Chars) : Chars :=
  if ending.isSuffixOf name && ending ≠ name then name.take (name.length - ending.length)
  else name

/-- What ends an item of output. -/
def itemEnd (a : Arguments) : Chars :=
  if a.has 'z' then ['\x00'] else Chars.newline

/-- Writes the last parts of names. -/
def basename : Utility := do
  let a ← Act.arguments [.named 'a' "multiple", .namedValue 's' "suffix", .named 'z' "zero"] true
  if a.operands.isEmpty then Act.missingOperand
  let ending := itemEnd a
  if a.has 'a' || a.has 's' then
    for name in a.operands do
      Act.write (withoutEnding ((a.value? 's').getD []) (lastPart name) ++ ending)
  else
    match a.operands with
    | _ :: _ :: extra :: _ => Act.extraOperand extra
    | name :: more => Act.write (withoutEnding (more.headD []) (lastPart name) ++ ending)
    | [] => return 0
  return 0

/-- Writes the directory parts of names. -/
def dirname : Utility := do
  let a ← Act.arguments [.named 'z' "zero"]
  if a.operands.isEmpty then Act.missingOperand
  for name in a.operands do
    Act.write (directoryPart name ++ itemEnd a)
  return 0

/-- Whether a path from the root goes without dots and names a location. -/
def namesPlace (p : Process) (path : Chars) (l : Location) : Bool :=
  path.head? = some '/'
    && (Chars.splitAt '/' path).all (fun s => s ≠ ['.'] && s ≠ ['.', '.'])
    && (p.node? path true).any (·.1 = l)

/-- A location as a path. -/
def pathOf (l : Location) : Chars :=
  Chars.ofBytes l.path.bytes

/-- Writes the working directory. -/
def pwd : Utility := do
  let a ← Act.arguments [.named 'L' "logical", .named 'P' "physical"] true
  if !a.operands.isEmpty then Act.grumble "ignoring non-option arguments".toList
  let p ← get
  let known := (p.getEnv? "PWD").getD []
  if a.lastOf? ['L', 'P'] = some 'L' && namesPlace p known p.cwd then Act.writeLine known
  else if (p.world.tree.node? p.cwd).isNone then
    Act.die "couldn't find directory entry in '..' with matching i-node".toList
  else Act.writeLine (pathOf p.cwd)
  return 0

/-! ## Where names lead -/

/-- How much of a path has to exist. -/
inductive Existence where
  /-- All of it. -/
  | all
  /-- All but the last part. -/
  | directory
  /-- Nothing. -/
  | nothing
  deriving DecidableEq, Repr

/-- The location that a path leads to if missing parts are taken for directories. -/
def boldly (t : FileTree) (cwd : Location) (path : Chars) : Location :=
  (PathLetter.segments (Chars.toBytes path)).foldl
    (fun here s =>
      match t.resolve here ⟨s⟩ with
      | .ok l => l
      | .error _ =>
        if s = PathLetter.double then here.dropLast
        else if PathLetter.isTrivial s then here
        else here ++ [s])
    (if path.head? = some '/' then [] else cwd)

/-- The location that a path leads to without links being followed. -/
def plainly (cwd : Location) (path : Chars) : Location :=
  (PathLetter.segments (Chars.toBytes path)).foldl
    (fun here s =>
      if s = PathLetter.double then here.dropLast
      else if PathLetter.isTrivial s then here
      else here ++ [s])
    (if path.head? = some '/' then [] else cwd)

/-- The location that a path leads to. -/
def canonical (p : Process) (existence : Existence) (path : Chars) : Except Fault Location :=
  match existence with
  | .all => (p.world.tree.stat p.cwd ⟨Chars.toBytes path⟩).map (·.1)
  | .nothing => if path.isEmpty then .error .notFound else .ok (boldly p.world.tree p.cwd path)
  | .directory =>
    match p.world.tree.resolve p.cwd (FileTree.withoutSlashes ⟨Chars.toBytes path⟩) with
    | .error e => .error e
    | .ok l =>
      if path.getLast? = some '/' && (p.world.tree.node? l).any (!FileTree.isDirectoryNode ·) then
        .error .notADirectory
      else .ok l

/-- What the last of some options tells about existence. -/
def existenceOf (a : Arguments) (usual : Existence) : Existence :=
  match a.lastOf? ['e', 'f', 'm', 'E'] with
  | some 'e' => .all
  | some 'm' => .nothing
  | some _ => .directory
  | none => usual

/-- The options of `readlink`. -/
def readlinkOptions : List OptionKind :=
  [.named 'f' "canonicalize", .named 'e' "canonicalize-existing", .named 'm' "canonicalize-missing",
    .named 'n' "no-newline", .named 'q' "quiet", .named 's' "silent", .named 'v' "verbose",
    .named 'z' "zero"]

/-- What `readlink` writes for a path. -/
def linkText (p : Process) (a : Arguments) (path : Chars) : Except Fault Chars :=
  if (a.lastOf? ['e', 'f', 'm']).isSome then
    (canonical p (existenceOf a .directory) path).map pathOf
  else
    match p.world.tree.stat p.cwd ⟨Chars.toBytes path⟩ false with
    | .ok (_, .link target) => .ok (Chars.ofBytes target)
    | .ok _ => .error .invalidArgument
    | .error e => .error e

/-- Writes where links lead. -/
def readlink : Utility := do
  let a ← Act.arguments readlinkOptions
  if a.operands.isEmpty then Act.missingOperand
  let several := a.operands.length > 1
  if several && a.has 'n' then
    Act.grumble "ignoring --no-newline with multiple arguments".toList
  let mut failed := false
  for path in a.operands do
    match linkText (← get) a path with
    | .ok text => Act.write (text ++ if a.has 'n' && !several then [] else itemEnd a)
    | .error e =>
      if a.lastOf? ['v', 'q', 's'] = some 'v' then Act.grumbleAbout path e
      failed := true
  return statusOf failed

/-- A location as seen from another one. -/
def relativePath (base goal : Location) : Chars :=
  let common := ((base.zip goal).takeWhile fun (x, y) => x = y).length
  let parts := List.replicate (base.length - common) ['.', '.']
    ++ (goal.drop common).map Chars.ofBytes
  if parts.isEmpty then ['.'] else Chars.joined ['/'] parts

/-- The options of `realpath`. -/
def realpathOptions : List OptionKind :=
  [.named 'E' "canonicalize", .named 'e' "canonicalize-existing", .named 'm' "canonicalize-missing",
    .named 'L' "logical", .named 'P' "physical", .named 'q' "quiet",
    { key := 's', names := ["strip", "no-symlinks"] }, .named 'z' "zero",
    .long 'R' "relative-to" .value]

/-- Writes where paths lead. -/
def realpath : Utility := do
  let a ← Act.arguments realpathOptions
  if a.operands.isEmpty then Act.missingOperand
  let existence := existenceOf a .directory
  let find := fun p path =>
    if a.has 's' then (canonical p existence path).map fun _ => plainly p.cwd path
    else canonical p existence path
  let base? ← match a.value? 'R' with
    | none => pure none
    | some base =>
      match find (← get) base with
      | .ok l => pure (some l)
      | .error e => Act.die (base.fileLabel ++ ": ".toList ++ Act.reason e)
  let mut failed := false
  for path in a.operands do
    match find (← get) path with
    | .ok l => Act.write (base?.elim (pathOf l) (relativePath · l) ++ itemEnd a)
    | .error e =>
      if !a.has 'q' then Act.grumbleAbout path e
      failed := true
  return statusOf failed

end Shakedown.Utility
