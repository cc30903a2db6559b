import Shakedown.Machine.ModeChange
import Shakedown.Utility.Listing

/-!
# Utilities for permissions

`chmod` changes permission bits, and `chown` owners, of whom there is only one.
-/

set_option autoImplicit false

namespace Shakedown.Utility

/-- The options of `chmod`. -/
def chmodOptions : List OptionKind :=
  [.named 'c' "changes", { key := 'f', names := ["silent", "quiet"] }, .named 'v' "verbose",
    .named 'R' "recursive", .long 'r' "reference" .value]

/-- Whether a word that looks like options is a change of permission bits. -/
def isModeWord (word : Chars) : Bool :=
  word.head? = some '-' && word.length > 1
    && (word[1]?).any fun c => ModeChange.permissionLetters.contains c || Numeral.isDigitOf 8 c

/-- Permission bits in both forms. -/
def modePair (mode : Nat) : Chars :=
  let digits := octalText mode
  List.replicate (4 - digits.length) '0' ++ digits ++ " (".toList ++ modeText mode ++ [')']

/-- Changes the permission bits of something and, where that is asked for, of all that is in it;
tells whether that failed. -/
def changeMode (a : Arguments) (surprising : Bool) (change naive : Bool → Nat → Nat) :
    Nat → Bool → Chars → Act Bool
  | 0, _, _ => return true
  | depth + 1, isTop, path => do
    match ← Act.stat path isTop with
    | .error e =>
      if !a.has 'f' then
        if (← Act.nodeAt path false).isSome then
          Act.grumble ("cannot operate on dangling symlink ".toList ++ path.shown)
        else Act.cannot "cannot access" path e
      return true
    | .ok (_, .link _) => return false
    | .ok (_, n) =>
      let old := (← get).world.tree.modeOf n
      let isDirectory := FileTree.isDirectoryNode n
      let new := change isDirectory old
      let _ ← Act.setMode path new
      if a.has 'v' || (a.has 'c' && new ≠ old) then
        Act.writeLine <| "mode of ".toList ++ path.shown ++
          if new = old then " retained as ".toList ++ modePair new
          else " changed from ".toList ++ modePair old ++ " to ".toList ++ modePair new
      let expected := naive isDirectory old
      let mut failed := false
      if surprising && Act.masked new expected ≠ 0 then
        Act.grumble (path.fileLabel ++ ": new permissions are ".toList ++ modeText new
          ++ ", not ".toList ++ modeText expected)
        failed := true
      if a.has 'R' && isDirectory then
        for name in ← Act.entriesAt path do
          if ← changeMode a surprising change naive depth false (nameIn path name) then
            failed := true
      return failed

/-- Changes permission bits. -/
def chmod : Utility := do
  let args := (← get).args
  let early := args.takeWhile (· ≠ ['-', '-'])
  let modes := early.filter isModeWord
  let rest := early.filter (!isModeWord ·) ++ args.drop early.length
  match sortArguments chmodOptions false rest with
  | .error e => Act.misused e
  | .ok a =>
    let operands := modes ++ a.operands
    let mask := (← get).mask
    match a.value? 'r', operands with
    | some path, paths =>
      match ← Act.stat path with
      | .error e =>
        Act.die ("failed to get attributes of ".toList ++ path.shown ++ ": ".toList
          ++ Act.reason e)
      | .ok (_, n) =>
        let mode := (← get).world.tree.modeOf n
        let mut failed := false
        for goal in paths do
          if ← changeMode a false (fun _ _ => mode) (fun _ _ => mode) Act.treeDepth true goal then
            failed := true
        return statusOf failed
    | none, [] => Act.missingOperand
    | none, [mode] => Act.misused ("missing operand after ".toList ++ mode.shown)
    | none, mode :: paths =>
      match ModeChange.read? mask mode, ModeChange.read? 0 mode with
      | some change, some naive =>
        let mut failed := false
        for path in paths do
          if ← changeMode a (!modes.isEmpty) change naive Act.treeDepth true path then
            failed := true
        return statusOf failed
      | _, _ => Act.misused ("invalid mode: ".toList ++ mode.shown)

/-- The options of `chown`. -/
def chownOptions : List OptionKind :=
  [.named 'c' "changes", { key := 'f', names := ["silent", "quiet"] }, .named 'v' "verbose",
    .named 'R' "recursive", .named 'h' "no-dereference", .long 'r' "reference" .value]

/-- Changes owners. -/
def chown : Utility := do
  let a ← Act.arguments chownOptions
  match a.operands with
  | [] => Act.missingOperand
  | [owner] => Act.misused ("missing operand after ".toList ++ owner.shown)
  | owner :: paths =>
    let user := owner.takeWhile fun c => c ≠ ':' && c ≠ '.'
    if !user.isEmpty && user ≠ "root".toList && (Chars.decimal? user).isNone then
      Act.die ("invalid user: ".toList ++ owner.shown)
    let mut failed := false
    for path in paths do
      match ← Act.stat path with
      | .ok _ => pure ()
      | .error e =>
        if !a.has 'f' then Act.cannot "cannot access" path e
        failed := true
    return statusOf failed

end Shakedown.Utility
