import Shakedown.Text.Numeral

/-!
# Changes of permission bits

Permission bits are given as an octal number, or as clauses such as `u+x,go=r` that change the ones
that are there. A clause names classes of users, and what they are given, lose, or have.
-/

set_option autoImplicit false

namespace Shakedown.ModeChange

/-- What a clause does. -/
inductive Action where
  /-- Bits are set. -/
  | add
  /-- Bits are taken away. -/
  | remove
  /-- Bits are set, and all others of the classes are taken away. -/
  | assign
  deriving DecidableEq, Repr

/-- One step of a change. -/
structure Step where
  /-- The bits of the classes that are named; nothing if none is. -/
  classes : Nat
  /-- What is done. -/
  action : Action
  /-- The letters of the permissions. -/
  letters : Chars

/-- The bits that belong to a class of users. -/
def classBits (c : Char) : Option Nat :=
  match c with
  | 'u' => some 0o4700
  | 'g' => some 0o2070
  | 'o' => some 0o1007
  | 'a' => some 0o7777
  | _ => none

/-- The action of a sign. -/
def actionOf (c : Char) : Option Action :=
  match c with
  | '+' => some .add
  | '-' => some .remove
  | '=' => some .assign
  | _ => none

/-- The letters of permissions. -/
def permissionLetters : Chars := ['r', 'w', 'x', 'X', 's', 't', 'u', 'g', 'o']

/-- The steps at the beginning of a text behind the classes, so many at most, and the rest. -/
def readSteps (allowed : Chars) (classes : Nat) : Nat → Chars → List Step × Chars
  | 0, s => ([], s)
  | _ + 1, [] => ([], [])
  | n + 1, c :: more =>
    match actionOf c with
    | none => ([], c :: more)
    | some action =>
      let letters := more.takeWhile allowed.contains
      let (steps, rest) := readSteps allowed classes n (more.dropWhile allowed.contains)
      ({ classes, action, letters } :: steps, rest)

/-- The steps of a clause. Where `demanding`, there is at least one. -/
def readClause (allowed : Chars) (demanding : Bool) (clause : Chars) : Option (List Step) :=
  let isClass (c : Char) : Bool := (classBits c).isSome
  let classes := (clause.takeWhile isClass).foldl (fun n c => n ||| (classBits c).getD 0) 0
  match readSteps allowed classes (clause.length + 1) (clause.dropWhile isClass) with
  | (steps, []) => if clause.isEmpty || (demanding && steps.isEmpty) then none else some steps
  | _ => none

/-- The steps of clauses with commas between them. -/
def readClauses (allowed : Chars) (demanding : Bool) (text : Chars) : Option (List Step) :=
  ((Chars.splitAt ',' text).mapM (readClause allowed demanding)).map List.flatten

/-- The bits of a class for all classes at once. -/
def spread (bits : Nat) : Nat :=
  bits * 0o111

/-- The bits that a letter stands for, given the bits that are there. -/
def letterBits (isDirectory : Bool) (mode : Nat) (c : Char) : Nat :=
  match c with
  | 'r' => 0o444
  | 'w' => 0o222
  | 'x' => 0o111
  | 'X' => if isDirectory || mode &&& 0o111 ≠ 0 then 0o111 else 0
  | 's' => 0o6000
  | 't' => 0o1000
  | 'u' => spread (mode / 0o100 % 8)
  | 'g' => spread (mode / 0o10 % 8)
  | 'o' => spread (mode % 8)
  | _ => 0

/-- Bits without others. -/
def without (bits others : Nat) : Nat :=
  bits - (bits &&& others)

/-- The bits after a step. Where no class is named, all are meant, but bits of the mask stay as they
are. -/
def Step.apply (isDirectory : Bool) (mask mode : Nat) (s : Step) : Nat :=
  let wanted := s.letters.foldl (fun n c => n ||| letterBits isDirectory mode c) 0
  let classes := if s.classes = 0 then without 0o7777 mask else s.classes
  let bits := wanted &&& classes
  match s.action with
  | .add => mode ||| bits
  | .remove => without mode bits
  | .assign =>
    let kept := if isDirectory then 0o6000 else 0
    without mode (without (if s.classes = 0 then 0o7777 else s.classes) kept) ||| bits

/-- The bits after steps. -/
def apply (isDirectory : Bool) (mask : Nat) (steps : List Step) (mode : Nat) : Nat :=
  steps.foldl (Step.apply isDirectory mask) mode

/-- The octal number that a text is. -/
def octal? (text : Chars) : Option Nat :=
  if !text.isEmpty && text.all (Numeral.isDigitOf 8) then some (Numeral.numberOf 8 text) else none

/-- The change that a text describes: from the bits that are there, and whether they are those of a
directory, to new ones. -/
def read? (mask : Nat) (text : Chars) : Option (Bool → Nat → Nat) :=
  match octal? text with
  | some n => if n ≤ 0o7777 then some fun _ _ => n else none
  | none =>
    (readClauses permissionLetters true text).map fun steps isDirectory mode =>
      apply isDirectory mask steps mode

end Shakedown.ModeChange
