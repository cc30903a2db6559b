import Shakedown.Editor.Read
import Shakedown.Editor.Run
import Shakedown.Number.Binary64
import Shakedown.Utility.Input
import Shakedown.Utility.Operation

/-!
# Editing files

The utility `sed`, which carries out an editing script for all files one behind the other, for each
by itself, or in place.
-/

set_option autoImplicit false

namespace Shakedown.Utility.Edit

open Editor

/-- The options of `sed`. -/
def options : List OptionKind :=
  [{ key := 'n', names := ["quiet", "silent"] }, .namedValue 'e' "expression",
    .namedValue 'f' "file", .named 'E' "regexp-extended", { key := 'r' },
    { key := 'i', names := ["in-place"], takes := .perhaps }, .namedValue 'l' "line-length",
    .named 's' "separate", .named 'u' "unbuffered", .named 'z' "null-data",
    .long 'p' "posix", .long 'd' "debug", .long 'b' "sandbox", .long 'F' "follow-symlinks"]

/-- A part of a script. -/
structure Source where
  /-- Where it comes from: a file, or an argument by its number. -/
  origin : Chars ⊕ Nat
  /-- The text. -/
  text : Chars

/-- Says how the program is used, and ends it. -/
def misused {α : Type} (message? : Option Chars) : Act α := do
  message?.forM Act.grumble
  Act.complain ("Usage: ".toList ++ (← get).name
    ++ " [OPTION]... \x7bscript-only-if-no-other-script\x7d [input-file]...\n".toList)
  Act.exit 1

/-- The text of a script file. -/
def scriptFile (path : Chars) : Act Chars := do
  match ← Act.readSource path with
  | .ok text => return if text.getLast? = some '\n' then text.dropLast else text
  | .error e =>
    Act.die ("couldn't open file ".toList ++ path ++ ": ".toList ++ Act.reason e.fault) 4

/-- The parts of the script, and the files to edit. -/
def sourcesOf (a : Arguments) : Act (List Source × List Chars) := do
  let mut found := []
  let mut count := 0
  for (key, value?) in a.options do
    match key, value? with
    | 'e', some text =>
      count := count + 1
      found := { origin := .inr count, text := text : Source } :: found
    | 'f', some path => found := { origin := .inl path, text := ← scriptFile path } :: found
    | _, _ => pure ()
  if !found.isEmpty then return (found.reverse, a.operands)
  match a.operands with
  | [] => misused none
  | text :: files => return ([{ origin := .inr 1, text }], files)

/-- The place of a mistake behind so many characters. -/
def placeText : Nat → List Source → Chars
  | _, [] => "-e expression #1, char 0".toList
  | n, s :: more =>
    if n ≤ s.text.length || more.isEmpty then
      match s.origin with
      | .inr k =>
        "-e expression #".toList ++ Chars.ofNat k ++ ", char ".toList ++ Chars.ofNat n
      | .inl path =>
        let line := ((s.text.take (n - 1)).filter (· = '\n')).length + 1
        "file ".toList ++ path ++ " line ".toList ++ Chars.ofNat line
    else placeText (n - s.text.length - 1) more

/-- The script of some parts. -/
def scriptOf (extended : Bool) (sources : List Source) : Act Editor.Script := do
  let text := Chars.joined ['\n'] (sources.map Source.text)
  match readScript extended text with
  | .ok s => return s
  | .error m =>
    if m.isJump then Act.die m.message 4
    let place := match m.left with
      | some left => placeText (text.length - left) sources
      | none => "-e expression #1, char 0".toList
    Act.die (place ++ ": ".toList ++ m.message) 1

/-- The lines of a file. -/
def linesOf (ending : Char) (file text : Chars) : List InputLine :=
  (text.pieces ending).map fun piece =>
    let ended := piece.getLast? = some ending
    { file, space := { text := if ended then piece.dropLast else piece, ended } }

/-- Opens the files that a script writes. -/
def openSinks (paths : List Chars) : Act (List (Chars × Sink)) := do
  let mut found := []
  for path in paths do
    if path = "/dev/stdout".toList then pure ()
    else match ← Act.openPath .write path with
      | .ok number => found := (path, { opened := some number : Sink }) :: found
      | .error e =>
        Act.die ("couldn't open file ".toList ++ path ++ ": ".toList ++ Act.reason e) 4
  return found.reverse

/-- Complains about a file that cannot be read; answers the status. -/
def unreadable (path : Chars) (e : ReadFault) : Act Nat := do
  if e.opening then
    Act.grumble ("can't read ".toList ++ path ++ ": ".toList ++ Act.reason e.fault)
    return 2
  else
    Act.grumble ("couldn't edit ".toList ++ path ++ ": not a regular file".toList)
    return 4

/-- The lines of all files, and the status so far. -/
def gather (ending : Char) (paths : List Chars) : Act (List (List InputLine) × Nat) := do
  let mut all := []
  let mut status := 0
  for path in paths do
    match ← Act.readSource path with
    | .ok text => all := linesOf ending path text :: all
    | .error e =>
      if e.opening then status ← unreadable path e
      else
        Act.grumble ("read error on ".toList ++ path ++ ": ".toList ++ Act.reason e.fault)
        status := 2
  return (all.reverse, status)

/-- Carries out a script for some lines; answers the status if a command ends it, and the state. -/
def edit (e : Editing) : Act (Option Nat × Editing) :=
  (Edit.cycles (2 * tenTo 9) false).run e

/-- The name of the copy that is kept of a file that is edited in place. -/
def backupName (suffix path : Chars) : Chars :=
  if suffix.contains '*' then
    let name := suffix.flatMap fun c => if c = '*' then lastPart path else [c]
    if suffix.contains '/' then name else nameIn (directoryPart path) name
  else path ++ suffix

/-- Edits a file in place; answers the status if a command ends it, and the state. -/
def editInPlace (suffix? : Option Chars) (e : Editing) (path : Chars) :
    Act (Option Nat × Editing × Nat) := do
  let isFile ← match ← Act.nodeAt path with
    | some n => pure ((← get).world.tree.isPlainFile n)
    | none => pure true
  if !isFile then
    return (none, e, ← unreadable path { opening := false, fault := .isADirectory })
  match ← Act.readSource path with
  | .error fault => return (none, e, ← unreadable path fault)
  | .ok text =>
    let mode := ((← Act.nodeAt path).map (← get).world.tree.modeOf).getD 0o644
    suffix?.forM fun suffix => do
      if !suffix.isEmpty then
        let _ ← Act.writePath (backupName suffix path) text
        let _ ← Act.setMode (backupName suffix path) mode
    let _ ← Act.unlink path
    match ← Act.openPath .write path with
    | .error _ => return (none, e, 4)
    | .ok number =>
      let _ ← Act.setMode path mode
      let start : Editing :=
        { e with input := linesOf e.ending path text, line := 0, output := { opened := some number } }
      let (status, after) ← edit start
      return (status, after, 0)

/-- Edits files. -/
def sed : Program := fun _ => do
  let a ← match sortArguments options false (← get).args with
    | .ok a => pure a
    | .error e => misused (some e)
  let (sources, files) ← sourcesOf a
  let firstText := (sources.headD { origin := .inr 1, text := [] }).text
  let silent := firstText.take 2 = ['#', 'n'] && (firstText.length = 2 || firstText[2]? = some '\n')
  let script ← scriptOf (a.has 'E' || a.has 'r') sources
  let sinks ← openSinks script.files
  let ending := if a.has 'z' then '\x00' else '\n'
  let start : Editing :=
    { commands := script.commands, quiet := a.has 'n' || silent, ending
      width := ((a.value? 'l').bind Chars.decimal?).getD 70
      input := [], ranges := Edit.initialRanges script.commands, sinks }
  let paths := if files.isEmpty then [['-']] else files
  let mut state := start
  let mut status := 0
  if a.has 'i' then
    let suffix? := a.value? 'i'
    for path in files do
      let (ended, after, failure) ← editInPlace suffix? state path
      state := { after with ranges := start.ranges }
      if failure ≠ 0 then status := failure
      if let some n := ended then Act.exit (.ofNat n)
  else
    let (all, failure) ← gather ending paths
    status := failure
    let groups := if a.has 's' then all else [all.flatten]
    for lines in groups do
      let (ended, after) ← edit { state with input := lines, line := 0 }
      state := after
      if let some n := ended then
        Act.exit (if n = 0 then .ofNat status else .ofNat n)
  Act.exit (.ofNat status)

end Shakedown.Utility.Edit
