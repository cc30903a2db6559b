import Shakedown.Shell.Expansion

/-!
# Redirections

A redirection makes a descriptor stand for another open file. What its word stands for is found out
first, then the redirections of a command are carried out in their order. What the descriptors stood
for before is noted, so that it can be given back after the command.
-/

set_option autoImplicit false

namespace Shakedown.Shell

/-- What a redirection leads to. -/
inductive Target where
  /-- A file. -/
  | path (path : Chars)
  /-- What another descriptor stands for. -/
  | descriptor (number : Nat)
  /-- Nothing. -/
  | closed
  /-- A text to read. -/
  | text (text : Chars)

/-- The descriptor that a word names, or its closing. -/
def descriptorTarget (word : Chars) : Sh Target :=
  match word with
  | ['-'] => return .closed
  | [c] =>
    match Chars.digit? c with
    | some n => return .descriptor n
    | none => Sh.fail "Syntax error: Bad fd number".toList
  | _ => Sh.fail "Syntax error: Bad fd number".toList

/-- What a redirection leads to. -/
def targetOf (capture : Command → Sh Chars) (r : Redirection (List Piece)) : Sh Target := do
  match r.kind with
  | .document number =>
    let pieces := ((← get).documents.lookup number).getD []
    return .text (← expandText capture {} pieces)
  | .duplicate => descriptorTarget (← expandText capture Mode.single r.target)
  | _ => return .path (← expandText capture Mode.single r.target)

/-- Redirections with what they lead to. -/
def targetsOf (capture : Command → Sh Chars) (l : List (Redirection (List Piece))) :
    Sh (List (Redirection Target)) :=
  l.mapM fun r => do return ⟨r.descriptor, r.kind, ← targetOf capture r⟩

/-- Why a file cannot be opened, as the shell words it. -/
def openReason (creates : Bool) (e : Fault) : Chars :=
  if e = .notFound || e = .notADirectory then
    (if creates then "Directory nonexistent" else "No such file").toList
  else Act.reason e

/-- Complains about a file that cannot be opened. -/
def failToOpen {α : Type} (creates : Bool) (path : Chars) (e : Fault) : Sh α :=
  Sh.fail <| (if creates then "cannot create " else "cannot open ").toList ++ path ++ ": ".toList
    ++ openReason creates e

/-- What a redirection opens a file for. -/
def purposeOf : RedirectionKind → Act.Purpose
  | .write => .write
  | .clobber => .write
  | .append => .append
  | .update => .update
  | _ => .read

/-- The letter of the option under which files are not overwritten. -/
def keepFilesOption : Char := 'C'

/-- Whether a path leads to a file that keeps what is written to it. -/
def isRegular (t : FileTree) (cwd : Location) (path : Chars) : Bool :=
  match t.stat cwd ⟨Chars.toBytes path⟩ with
  | .ok (_, .file number) =>
    match t.content? number with
    | some (.data _) => true
    | some (.program _) => true
    | _ => false
  | _ => false

/-- Opens the file of a redirection. -/
def openTarget (kind : RedirectionKind) (path : Chars) : Sh Nat := do
  let s ← get
  if kind = .write && s.has keepFilesOption
      && isRegular s.process.world.tree s.process.cwd path then
    failToOpen true path .exists
  else
    let purpose := purposeOf kind
    match ← Sh.act (Act.openPath purpose path) with
    | .ok number => return number
    | .error e => failToOpen purpose.writes path e

/-- Opens a text for reading. -/
def openText (text : Chars) : Sh Nat :=
  Sh.act do
    let number := (← get).world.buffers.size
    Act.modifyWorld fun w =>
      let (w, _) := w.addBuffer none
      { w with buffers := w.buffers.modify number (·.push (Chars.toBytes text)) }
    Act.note { channel := .buffer number, readable := true }

/-- Changes the process of the shell. -/
def modifyProcess (change : Process → Process) : Sh Unit :=
  modify fun s => { s with process := change s.process }

/-- Carries out a redirection. -/
def redirect (r : Redirection Target) : Sh Unit := do
  match r.target with
  | .path path =>
    let number ← openTarget r.kind path
    modifyProcess (·.withDescriptor r.descriptor number)
  | .text text =>
    let number ← openText text
    modifyProcess (·.withDescriptor r.descriptor number)
  | .closed => modifyProcess (·.withoutDescriptor r.descriptor)
  | .descriptor n =>
    match (← get).process.descriptors.lookup n with
    | some number => modifyProcess (·.withDescriptor r.descriptor number)
    | none =>
      Sh.fail (Chars.ofNat n ++ ": ".toList ++ Act.reason .badDescriptor)

/-- What descriptors stand for, nothing for those that are closed. -/
abbrev SavedDescriptors := List (Nat × Option Nat)

/-- What the descriptors of redirections stand for. -/
def savedDescriptors (s : Shell) (l : List (Redirection Target)) : SavedDescriptors :=
  l.map fun r => (r.descriptor, s.process.descriptors.lookup r.descriptor)

/-- Makes descriptors stand for what they stood for before. -/
def giveBack (saved : SavedDescriptors) : Sh Unit :=
  modifyProcess fun p =>
    saved.foldr
      (fun (d, before) p =>
        match before with
        | some number => p.withDescriptor d number
        | none => p.withoutDescriptor d)
      p

/-- Carries out redirections, and tells whether there was no mistake that the script survives. -/
def redirectAll (l : List (Redirection Target)) : Sh Bool := do
  match ← Sh.attempt (l.forM redirect) with
  | .ok () => return true
  | .error .fails => return false
  | .error e => throw e

/-- Does something with descriptors redirected. -/
def redirectedWith (l : List (Redirection Target)) (a : Sh Unit) : Sh Unit := do
  let saved := savedDescriptors (← get) l
  Sh.always (do if ← redirectAll l then a else Sh.leave 2) (giveBack saved)

end Shakedown.Shell
