import Shakedown.Utility.Option

/-!
# The input of utilities

A utility reads the files that its operands name, one after the other, and the input for a hyphen
and where there is no operand at all. What cannot be read is complained about, and the next one is
tried.
-/

set_option autoImplicit false

namespace Shakedown

/-- Why an operand cannot be read. -/
structure ReadFault where
  /-- Whether it could not even be opened. -/
  opening : Bool
  /-- What is wrong. -/
  fault : Fault

/-- The operands of a utility that reads its input if there are none. -/
def Arguments.sources (a : Arguments) : List Chars :=
  if a.operands.isEmpty then [['-']] else a.operands

namespace Act

/-- All that an operand gives to read. -/
def readSource (operand : Chars) : Act (Except ReadFault Chars) := do
  if operand = ['-'] then return (← readAll 0).mapError ({ opening := false, fault := · })
  match ← openPath .read operand with
  | .error fault => return .error { opening := true, fault }
  | .ok number =>
    let p ← get
    match p.world.opened[number]? with
    | none => return .error { opening := true, fault := .badDescriptor }
    | some f =>
      let text := (p.world.remaining p.portrait f).map Chars.ofBytes
      set { p with world := p.world.passed number (text.toOption.elim 0 List.length) }
      return text.mapError ({ opening := false, fault := · })

/-- Does something with each operand that can be read, and complains about the others. Tells whether
there were any. -/
def forSources (operands : List Chars) (complaint : Chars → ReadFault → Chars)
    (use : Chars → Chars → Act Unit) : Act Bool := do
  let mut failed := false
  for operand in operands do
    match ← readSource operand with
    | .ok text => use operand text
    | .error e =>
      grumble (complaint operand e)
      failed := true
  return failed

/-- The usual complaint about an operand that cannot be read. -/
def usualComplaint (operand : Chars) (e : ReadFault) : Chars :=
  operand.fileLabel ++ ": ".toList ++ reason e.fault

/-- The texts of all operands that can be read, and whether there were others. -/
def gatherSources (operands : List Chars)
    (complaint : Chars → ReadFault → Chars := usualComplaint) : Act (List Chars × Bool) := do
  let mut texts := []
  let mut failed := false
  for operand in operands do
    match ← readSource operand with
    | .ok text => texts := text :: texts
    | .error e =>
      grumble (complaint operand e)
      failed := true
  return (texts.reverse, failed)

/-- The text of an operand without which the program ends. -/
def demandSource (operand : Chars) (complaint : Chars → ReadFault → Chars := usualComplaint)
    (status : UInt8 := 1) : Act Chars := do
  match ← readSource operand with
  | .ok text => return text
  | .error e => die (complaint operand e) status

/-- How much a program reads at a time from a pipe. -/
def pieceSize : Nat := 8192

/-- Reads at a descriptor what `count` tells to be needed of all that is left; more is taken from a
pipe, which cannot be given anything back. -/
def readPart (descriptor : Nat) (count : Chars → Nat) : Act (Except Fault Chars) := do
  match ← remaining descriptor with
  | .error e => return .error e
  | .ok text =>
    let needed := count text
    let isFile := match (← get).open? descriptor with
      | some (_, f) => match f.channel with
        | .file _ => true
        | _ => false
      | none => false
    pass descriptor <| if isFile then needed
      else min text.length ((needed + pieceSize - 1) / pieceSize * pieceSize)
    return .ok (text.take needed)

end Act

namespace Chars

/-- Texts that each end where a character of a kind ends them; the end stays with them. -/
def pieces (ending : Char) (s : Chars) : List Chars :=
  let cut := splitAt ending s
  cut.dropLast.map (· ++ [ending]) ++ (cut.getLast?.toList.filter (!·.isEmpty))

/-- The lines of a text that are ended by a character of a kind. -/
def records (ending : Char) (s : Chars) : List Chars :=
  if s.isEmpty then []
  else splitAt ending (if s.getLast? = some ending then s.dropLast else s)

end Chars

end Shakedown
