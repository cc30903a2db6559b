import Shakedown.Process.Basic

/-!
# Properties of files

What a process can find out about the file that a path names: the conditions that have a letter of
their own, and the comparisons of two files.
-/

set_option autoImplicit false

namespace Shakedown

namespace FileTree

/-- The permission bits of a node. -/
def modeOf (t : FileTree) : Node → Nat
  | .directory mode _ => mode
  | .file number => (t.file? number).elim 0 File.mode
  | .link _ => 0o777

/-- When a node was last changed. -/
def timeOf (t : FileTree) : Node → Nat
  | .directory _ modified => modified
  | .file number => (t.file? number).elim 0 File.modified
  | .link _ => beginning

/-- The size that is told of a directory. -/
def directorySize : Nat := 4096

/-- The size that is told of a program. -/
def programSize : Nat := 65536

/-- The size of a node. -/
def sizeOf (t : FileTree) : Node → Nat
  | .directory .. => directorySize
  | .link target => target.length
  | .file number =>
    match t.content? number with
    | some (.data bytes) => bytes.length
    | some (.program _) => programSize
    | _ => 0

/-- Whether a node is a device. -/
def isDevice (t : FileTree) : Node → Bool
  | .file number =>
    match t.content? number with
    | some (.device _) => true
    | _ => false
  | _ => false

/-- Whether a node is a file that is no device. -/
def isPlainFile (t : FileTree) : Node → Bool
  | .file number => !t.isDevice (.file number)
  | _ => false

/-- Whether a node is a symbolic link. -/
def isLink : Node → Bool
  | .link _ => true
  | _ => false

/-- Whether permission bits have a bit set. -/
def hasMode (mode bit : Nat) : Bool :=
  mode &&& bit ≠ 0

/-- The properties of nodes by their letters. -/
def properties (t : FileTree) : List (Char × (Node → Bool)) :=
  [('e', fun _ => true), ('f', t.isPlainFile), ('d', isDirectoryNode), ('c', t.isDevice),
    ('b', fun _ => false), ('p', fun _ => false), ('S', fun _ => false),
    ('s', fun n => t.sizeOf n ≠ 0), ('r', fun _ => true), ('w', fun _ => true),
    ('x', fun n => isDirectoryNode n || t.isRunnable n), ('O', fun _ => true), ('G', fun _ => true),
    ('N', fun _ => false), ('u', fun n => hasMode (t.modeOf n) 0o4000),
    ('g', fun n => hasMode (t.modeOf n) 0o2000), ('k', fun n => hasMode (t.modeOf n) 0o1000)]

end FileTree

namespace Process

/-- The node that a path names for a process. -/
def node? (p : Process) (path : Chars) (follow : Bool) : Option (Location × Node) :=
  (p.world.tree.stat p.cwd ⟨Chars.toBytes path⟩ follow).toOption

/-- Whether a path names something with the property of a letter. -/
def fileHas (p : Process) (letter : Char) (path : Chars) : Bool :=
  if letter = 'h' || letter = 'L' then (p.node? path false).any fun (_, n) => FileTree.isLink n
  else (p.node? path true).any fun (_, n) => ((p.world.tree.properties).lookup letter).any (· n)

/-- Whether two paths name things of which the times are as they should be. -/
def timesHold (p : Process) (a b : Chars) (holds : Nat → Nat → Bool) : Bool :=
  match p.node? a true, p.node? b true with
  | some (_, x), some (_, y) => holds (p.world.tree.timeOf x) (p.world.tree.timeOf y)
  | _, _ => false

/-- Whether two paths name the same thing. -/
def isSame (p : Process) (a b : Chars) : Bool :=
  match p.node? a true, p.node? b true with
  | some (_, .file x), some (_, .file y) => x = y
  | some (x, _), some (y, _) => x = y
  | _, _ => false

end Process

end Shakedown
