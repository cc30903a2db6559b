import Shakedown.Machine.ModeChange
import Shakedown.Process.Launch
import Shakedown.Shell.Option

/-!
# The working directory

The shell remembers the path on which it came to its working directory, and `..` goes back on that
path. `pathFrom` works out where a relative path leads to from there without looking at any file.
-/

set_option autoImplicit false

namespace Shakedown.Shell

/-- A path without its last segment. -/
def withoutLast (floor : Nat) (path : Chars) : Chars :=
  let shorter := (path.dropLast.reverse.dropWhile (· ≠ '/')).reverse
  if path.length ≤ floor then path else if shorter.length < floor then path.take floor else shorter

/-- A path with a segment behind it; paths end with a slash here. -/
def walkSegment (floor : Nat) (path segment : Chars) : Chars :=
  if segment.isEmpty || segment = ['.'] then path
  else if segment = ['.', '.'] then withoutLast floor path
  else path ++ segment ++ ['/']

/-- Where a path leads to from a place. Two slashes in front are kept. -/
def pathFrom (place path : Chars) : Chars :=
  let double (s : Chars) : Bool :=
    match s with
    | '/' :: '/' :: '/' :: _ => false
    | '/' :: '/' :: _ => true
    | _ => false
  let start : Chars := if path.head? = some '/' then (if double path then ['/', '/'] else ['/'])
    else if place.getLast? = some '/' then place else place ++ ['/']
  let floor := if start.take 2 = ['/', '/'] then 2 else 1
  let reached := (Chars.splitAt '/' path).foldl (walkSegment floor) start
  if floor < reached.length then reached.dropLast else reached

/-- The path of the working directory as the file tree has it. -/
def physicalPlace (s : Shell) : Except Fault Chars :=
  match s.process.world.tree.node? s.process.cwd with
  | some (.directory ..) => .ok (Chars.ofBytes s.process.cwd.path.bytes)
  | _ => .error .notFound

/-- Notes a path of the working directory, and makes it known to processes. -/
def notePlace (place : Chars) : Sh Unit := do
  modify ({ · with place })
  Sh.assign "PWD".toList place
  modify (·.modifyVariable "PWD".toList ({ · with exported := true }))

/-- Finds out the path of the working directory. -/
def findPlace : Sh Unit := do
  match physicalPlace (← get) with
  | .ok place => notePlace place
  | .error e =>
    Sh.complain ("getcwd() failed: ".toList ++ Act.reason e)
    notePlace []

/-- Goes to a directory, and tells whether that was possible. -/
def enterDirectory (physical : Bool) (path : Chars) : Sh Bool := do
  let s ← get
  let place? := if physical || (path.head? ≠ some '/' && s.place.isEmpty) then none
    else some (pathFrom s.place path)
  match s.process.world.tree.enter s.process.cwd ⟨Chars.toBytes (place?.getD path)⟩ with
  | .error _ => return false
  | .ok cwd =>
    Sh.assign "OLDPWD".toList s.place
    modify fun s =>
      { s.modifyVariable "OLDPWD".toList ({ · with exported := true }) with
        process := { s.process with cwd } }
    match place? with
    | some place => notePlace place
    | none => findPlace
    return true

/-- Whether a path is looked for in other directories, too. -/
def isSearched (path : Chars) : Bool :=
  match Chars.splitAt '/' path with
  | first :: _ => first ≠ [] && first ≠ ['.'] && first ≠ ['.', '.']
  | [] => true

/-- A path behind a directory; an empty one is the working directory. -/
def behind (directory path : Chars) : Chars :=
  if directory.isEmpty then path else directory ++ '/' :: path

/-- The directory that a path means, and whether it was found elsewhere. -/
def searchedDirectory (s : Shell) (path : Chars) : Chars × Bool :=
  match s.get? "CDPATH".toList with
  | none => (path, false)
  | some directories =>
    let isThere (p : Chars) : Bool :=
      match s.process.world.tree.stat s.process.cwd ⟨Chars.toBytes p⟩ with
      | .ok (_, n) => FileTree.isDirectoryNode n
      | .error _ => false
    match (Chars.splitAt ':' directories).find? fun d => isThere (behind d path) with
    | some d => (behind d path, !d.isEmpty)
    | none => (path, false)

/-- Changes the working directory. -/
def changeDirectory (args : List Chars) : Sh Nat := do
  let (options, words) ← readOptions ['L', 'P'] args
  let physical := (options.getLast?).any (·.1 = 'P')
  let s ← get
  let back := words.head? = some ['-']
  let wanted := match words with
    | [] => s.getD "HOME"
    | word :: _ => if back then s.getD "OLDPWD" else word
  let path := if wanted.isEmpty then ['.'] else wanted
  let (goal, elsewhere) :=
    if wanted.isEmpty || isSearched path then searchedDirectory s path else (path, false)
  if ← enterDirectory physical goal then
    if back || elsewhere then Sh.writeLine (← get).place
    return 0
  else Sh.fail ("can't cd to ".toList ++ wanted)

/-- Writes the working directory. -/
def showDirectory (args : List Chars) : Sh Nat := do
  let (options, _) ← readOptions ['L', 'P'] args
  let s ← get
  let physical := (options.getLast?).any (·.1 = 'P')
  Sh.writeLine (if physical then (physicalPlace s).toOption.getD s.place else s.place)
  return 0

/-! ## The mask of new files -/

/-- The octal form of permission bits. -/
def octalText (n : Nat) : Chars :=
  let digits := Nat.toDigits 8 n
  List.replicate (4 - digits.length) '0' ++ digits

/-- Permission bits in letters, class by class. -/
def symbolicText (mode : Nat) : Chars :=
  let letters (bits : Nat) : Chars :=
    [(4, 'r'), (2, 'w'), (1, 'x')].filterMap fun (bit, c) => if bits &&& bit = 0 then none else c
  Chars.joined [',']
    [['u', '='] ++ letters (mode / 64 % 8), ['g', '='] ++ letters (mode / 8 % 8),
      ['o', '='] ++ letters (mode % 8)]

/-- The permissions that clauses may name here. -/
def maskLetters : Chars := ['r', 'w', 'x', 'X', 'u', 'g', 'o']

/-- The mask that clauses make of another one; a comma may be left at the end. -/
def changedMask? (mask : Nat) (text : Chars) : Option Nat :=
  let text := if text.getLast? = some ',' then text.dropLast else text
  let allowed := 0o777 - mask
  let steps? := ModeChange.readClauses maskLetters false text
  steps?.map fun steps => 0o777 - (ModeChange.apply false 0 steps allowed &&& 0o777)

/-- Shows or changes the permission bits that new files do not get. -/
def maskCommand (args : List Chars) : Sh Nat := do
  let (options, words) ← readOptions ['S'] args
  let mask := (← get).process.mask
  let change (mask : Nat) : Sh Unit :=
    modify fun s => { s with process := { s.process with mask } }
  match words with
  | [] =>
    Sh.writeLine (if options.isEmpty then octalText mask else symbolicText (0o777 - mask))
  | word :: _ =>
    if word.isEmpty then return 0
    else if word.head?.any Char.isDigit then
      match ModeChange.octal? word with
      | some n => change (n % 0o1000)
      | none => failNumber word
    else match changedMask? mask word with
      | some changed => change changed
      | none => Sh.fail ("Illegal mode: ".toList ++ word)
  return 0

end Shakedown.Shell
