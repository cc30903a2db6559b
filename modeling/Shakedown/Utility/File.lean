import Shakedown.Machine.ModeChange
import Shakedown.Text.Moment
import Shakedown.Utility.Input
import Shakedown.Utility.Operation

/-!
# Utilities that make and remove

`mkdir`, `rmdir`, `touch`, `rm`, `unlink`, `ln` and `mktemp`.
-/

set_option autoImplicit false

namespace Shakedown.Utility

/-! ## Directories -/

/-- The permission bits of a new directory, before any are taken away. -/
def newDirectoryMode : Nat := 0o777

/-- The paths that lead to a path, shortest first, and the path itself. -/
def pathsTo (path : Chars) : List Chars :=
  let bare := withoutEndSlashes path
  let cuts := (List.range bare.length).filter fun n =>
    bare[n]? = some '/' && n > 0 && bare[n - 1]? ≠ some '/'
  cuts.map bare.take ++ (if path.isEmpty then [] else [path])

/-- Makes a directory and tells of it. -/
def makeOne (tell : Bool) (mode : Nat) (path : Chars) : Act (Option Fault) := do
  match ← Act.makeDirectory path mode with
  | some e => return some e
  | none =>
    if tell then Act.write (("mkdir: created directory ".toList ++ path.shown) ++ Chars.newline)
    return none

/-- Makes a directory and those above it that are missing; tells whether that failed. -/
def makeAll (tell : Bool) (mode mask : Nat) (path : Chars) : Act Bool := do
  if path.isEmpty then
    Act.cannot "cannot create directory" path .notFound
    return true
  let paths := pathsTo path
  for (step, n) in paths.zipIdx do
    let last := n + 1 = paths.length
    if !(← Act.isDirectoryAt step) then
      let isThere := (← Act.nodeAt step).isSome
      if isThere then
        Act.cannot "cannot create directory" step (if last then .exists else .notADirectory)
        return true
      let bits := if last then mode else Act.masked newDirectoryMode mask ||| 0o300
      if let some e ← makeOne tell bits step then
        Act.cannot "cannot create directory" step e
        return true
  return false

/-- The options of `mkdir`. -/
def mkdirOptions : List OptionKind :=
  [.namedValue 'm' "mode", .named 'p' "parents", .named 'v' "verbose", { key := 'Z' }]

/-- Makes directories. -/
def mkdir : Utility := do
  let a ← Act.arguments mkdirOptions
  if a.operands.isEmpty then Act.missingOperand
  let mask := (← get).mask
  let mode ← match a.value? 'm' with
    | none => pure (Act.masked newDirectoryMode mask)
    | some text => match ModeChange.read? mask text with
      | some change => pure (change true newDirectoryMode)
      | none => Act.die ("invalid mode ".toList ++ text.shown)
  let mut failed := false
  for path in a.operands do
    if a.has 'p' then
      if ← makeAll (a.has 'v') mode mask path then failed := true
    else if let some e ← makeOne (a.has 'v') mode path then
      Act.cannot "cannot create directory" path e
      failed := true
  return statusOf failed

/-- The options of `rmdir`. -/
def rmdirOptions : List OptionKind :=
  [.named 'p' "parents", .named 'v' "verbose", .long 'i' "ignore-fail-on-non-empty"]

/-- Removes empty directories. -/
def rmdir : Utility := do
  let a ← Act.arguments rmdirOptions
  if a.operands.isEmpty then Act.missingOperand
  let mut failed := false
  for path in a.operands do
    let paths := if a.has 'p' then (pathsTo path).reverse else [path]
    let mut stopped := false
    for (step, n) in paths.zipIdx do
      if !stopped then
        if a.has 'v' then
          Act.write ("rmdir: removing directory, ".toList ++ step.shown ++ Chars.newline)
        if let some e ← Act.removeDirectory step then
          stopped := true
          if !(a.has 'i' && e = .notEmpty) then
            Act.cannot (if n = 0 then "failed to remove" else "failed to remove directory") step e
            failed := true
  return statusOf failed

/-! ## Touching -/

/-- The time of a stamp `[[CC]YY]MMDDhhmm[.ss]`. -/
def stampTime? (stamp : Chars) : Option Nat :=
  let digits := stamp.takeWhile Char.isDigit
  let second? := match stamp.drop digits.length with
    | [] => some 0
    | ['.', a, b] => Chars.decimal? [a, b]
    | _ => none
  let part := fun first count => Numeral.numberOf 10 ((digits.drop first).take count)
  let year? : Option (Nat × Nat) := match digits.length with
    | 12 => some (part 0 4, 4)
    | 10 => some ((if part 0 2 < 69 then 2000 else 1900) + part 0 2, 2)
    | 8 => some (2024, 0)
    | _ => none
  match second?, year? with
  | some second, some (year, n) =>
    let month := part n 2
    let day := part (n + 2) 2
    let hour := part (n + 4) 2
    let minute := part (n + 6) 2
    if month ≥ 1 && month ≤ 12 && day ≥ 1 && day ≤ 31 && hour < 24 && minute < 60 && second < 61
    then some (daysTo year month day * 86400 + secondsOf hour minute second)
    else none
  | _, _ => none

/-- The options of `touch`. -/
def touchOptions : List OptionKind :=
  [.named 'a' "time", .named 'c' "no-create", .namedValue 'd' "date", .named 'h' "no-dereference",
    .namedValue 'r' "reference", { key := 't', takes := .value }] ++ OptionKind.letters "fm"

/-- The time that options ask for. -/
def wantedTime (a : Arguments) : Act (Option Nat) := do
  match a.value? 'r', a.value? 't', a.value? 'd' with
  | some path, _, _ =>
    let p ← get
    match ← Act.stat path with
    | .ok (_, n) => return some (p.world.tree.timeOf n)
    | .error e =>
      Act.die ("failed to get attributes of ".toList ++ path.shown ++ ": ".toList ++ Act.reason e)
  | none, some stamp, _ =>
    match stampTime? stamp with
    | some time => return some time
    | none => Act.die ("invalid date format ".toList ++ stamp.shown)
  | none, none, some date =>
    match Moment.read? { seconds := (← get).world.clock } date with
    | some m => return some m.seconds.toNat
    | none => Act.die ("invalid date format ".toList ++ date.shown)
  | none, none, none => return none

/-- Makes a file if it is missing, or sets its time; answers what is wrong, in words. -/
def touchOne (create : Bool) (time : Nat) (path : Chars) : Act (Option (String × Fault)) := do
  let failure ← match ← Act.nodeAt path with
    | some _ => pure none
    | none =>
      if !create then return none
      else if path.length > 1 && path.getLast? = some '/' then
        pure (some ("setting times of", Fault.notFound))
      else match ← Act.openPath .append path with
        | .ok _ => pure none
        | .error e => pure (some ("cannot touch", e))
  match failure with
  | some f => return some f
  | none => return (← Act.setTime path time).map fun e => ("setting times of", e)

/-- Makes files that are missing, and sets the times of others. -/
def touch : Utility := do
  let a ← Act.arguments touchOptions
  if a.operands.isEmpty then Act.misused "missing file operand".toList
  let time? ← wantedTime a
  let mut failed := false
  for path in a.operands do
    if path ≠ ['-'] then
      let time := time?.getD (← get).world.clock
      if let some (what, e) ← touchOne (!a.has 'c' && !a.has 'h') time path then
        Act.cannot what path e
        failed := true
  return statusOf failed

/-! ## Removing -/

/-- The options of `rm`. -/
def rmOptions : List OptionKind :=
  [.named 'f' "force", .named 'r' "recursive", .named 'R' "recursive", .named 'd' "dir",
    .named 'v' "verbose", .named 'i' "interactive", { key := 'I' },
    .long 'p' "preserve-root", .long 'n' "no-preserve-root", .long 'o' "one-file-system"]

/-- Asks a question, and tells whether it is answered with yes. -/
def agreed (question : Chars) : Act Bool := do
  let name := (← get).name
  let _ ← Act.put 2 (name ++ ": ".toList ++ question ++ ['?', ' '])
  match ← Act.readPart 0 fun text => (text.takeWhile (· ≠ '\n')).length + 1 with
  | .ok (c :: _) => return c = 'y' || c = 'Y'
  | _ => return false

/-- How `rm` removes. -/
structure RemovalStyle where
  /-- Whether directories go with all that is in them. -/
  recursive : Bool
  /-- Whether empty directories go. -/
  empty : Bool
  /-- Whether it does not matter if something is missing. -/
  force : Bool
  /-- Whether it is told what goes. -/
  tell : Bool
  /-- Whether every single thing is asked for. -/
  asks : Bool

/-- Tells of a removal. -/
def RemovalStyle.told (s : RemovalStyle) (what : String) (path : Chars) : Act Unit := do
  if s.tell then Act.writeLine (what.toList ++ path.shown)

/-- Removes something; tells whether that failed. -/
def RemovalStyle.remove (s : RemovalStyle) : Nat → Chars → Act Bool
  | 0, _ => return true
  | depth + 1, path => do
    match ← Act.stat path false with
    | .error e =>
      if s.force && (e = .notFound || e = .notADirectory) then return false
      Act.cannot "cannot remove" path e
      return true
    | .ok (_, .directory ..) =>
      let names ← Act.entriesAt path
      if !s.recursive && !s.empty then
        Act.cannot "cannot remove" path .isADirectory
        return true
      let mut failed := false
      if s.recursive then
        if s.asks && !names.isEmpty then
          if !(← agreed ("descend into directory ".toList ++ path.shown)) then return false
        for name in names do
          if ← s.remove depth (nameIn path name) then failed := true
      if failed then return true
      if s.asks then
        if !(← agreed ("remove directory ".toList ++ path.shown)) then return false
      match ← Act.removeDirectory path with
      | none =>
        s.told "removed directory " path
        return false
      | some e =>
        Act.cannot "cannot remove" path e
        return true
    | .ok (_, n) =>
      if s.asks then
        let kind := kindText (← get).world.tree n
        if !(← agreed ("remove ".toList ++ kind.toList ++ ' ' :: path.shown)) then return false
      match ← Act.unlink path with
      | none =>
        s.told "removed " path
        return false
      | some e =>
        Act.cannot "cannot remove" path e
        return true

/-- Whether a path ends in a dot or two. -/
def isDots (path : Chars) : Bool :=
  lastPart path = ['.'] || lastPart path = ['.', '.']

/-- Removes files and directories. -/
def rm : Utility := do
  let a ← Act.arguments rmOptions
  if a.operands.isEmpty then
    if a.has 'f' then return 0
    Act.missingOperand
  let style : RemovalStyle :=
    { recursive := a.has 'r' || a.has 'R', empty := a.has 'd', tell := a.has 'v'
      force := a.lastOf? ['f', 'i'] = some 'f', asks := a.lastOf? ['f', 'i'] = some 'i' }
  let mut failed := false
  for path in a.operands do
    if style.recursive && isDots path then
      Act.grumble ("refusing to remove '.' or '..' directory: skipping ".toList ++ path.shown)
      failed := true
    else if style.recursive && ((← get).node? path true).any (·.1 = []) then
      Act.grumble ("it is dangerous to operate recursively on ".toList ++ path.shown)
      Act.grumble "use --no-preserve-root to override this failsafe".toList
      failed := true
    else if ← style.remove Act.treeDepth path then failed := true
  return statusOf failed

/-- Removes a name. -/
def unlink : Utility := do
  let a ← Act.arguments []
  match a.operands with
  | [] => Act.missingOperand
  | [path] =>
    match ← Act.unlink path with
    | none => return 0
    | some e =>
      Act.cannot "cannot unlink" path e
      return 1
  | _ :: extra :: _ => Act.extraOperand extra

/-! ## Linking -/

/-- The options of `ln`. -/
def lnOptions : List OptionKind :=
  [.named 's' "symbolic", .named 'f' "force", .named 'n' "no-dereference", .named 'L' "logical",
    .named 'P' "physical", .named 'r' "relative", .named 'i' "interactive", .named 'b' "backup"]
    ++ transferOptions

/-- The path from the directory of a link to what it should lead to. -/
def relativeTarget (t : Transfer) : Act Chars := do
  let p ← get
  let base := boldly p.world.tree p.cwd (directoryPart t.goal)
  return relativePath base (boldly p.world.tree p.cwd t.source)

/-- Makes a link; tells whether that failed. -/
def linkOne (a : Arguments) (t : Transfer) : Act Bool := do
  let symbolic := a.has 's'
  if !symbolic then
    match ← Act.stat t.source false with
    | .error e =>
      Act.cannot "failed to access" t.source e
      return true
    | .ok (_, .directory ..) =>
      Act.grumble (t.source.fileLabel ++ ": hard link not allowed for directory".toList)
      return true
    | .ok _ => pure ()
  let target ← if symbolic && a.has 'r' then relativeTarget t else pure t.source
  let make := if symbolic then Act.makeLink target t.goal else Act.makeName t.source t.goal
  if a.has 'f' then
    match ← Act.nodeAt t.goal false with
    | some (.directory ..) =>
      Act.grumble (t.goal.fileLabel ++ ": cannot overwrite directory".toList)
      return true
    | some _ =>
      if !symbolic && (← get).isSame t.source t.goal then
        if t.source = t.goal then
          Act.grumble (t.source.shown ++ " and ".toList ++ t.goal.shown
            ++ " are the same file".toList)
          return true
      else let _ ← Act.unlink t.goal
    | none => pure ()
  match ← make with
  | none =>
    if a.has 'v' then
      let arrow := if symbolic then " -> " else " => "
      Act.writeLine (t.goal.shown ++ arrow.toList ++ target.shown)
    return false
  | some e =>
    if a.has 'f' && e = .exists then return false
    if symbolic then Act.cannot "failed to create symbolic link" t.goal e
    else if e = .exists then Act.cannot "failed to create hard link" t.goal e
    else
      Act.grumble ("failed to create hard link ".toList ++ t.goal.shown ++ " => ".toList
        ++ t.source.shown ++ ": ".toList ++ Act.reason e)
    return true

/-- Makes links. -/
def ln : Utility := do
  let a ← Act.arguments lnOptions
  let isLinkGoal ← match a.operands.getLast? with
    | some goal => pure ((← Act.nodeAt goal false).any FileTree.isLink)
    | none => pure false
  let links ← match a.operands with
    | [source] =>
      if a.has 't' then transfers a
      else pure [{ source, goal := nameIn ['.'] (lastPart source) : Transfer }]
    | [source, goal] =>
      if a.has 'n' && isLinkGoal then pure [{ source, goal : Transfer }] else transfers a
    | _ => transfers a
  let mut failed := false
  for t in links do
    if ← linkOne a t then failed := true
  return statusOf failed

/-! ## Names that are not taken yet -/

/-- The options of `mktemp`. -/
def mktempOptions : List OptionKind :=
  [.named 'd' "directory", .named 'u' "dry-run", .named 'q' "quiet",
    { key := 'p', takes := .value }, .long 'P' "tmpdir" .perhaps, .named 't' "t",
    .long 's' "suffix" .value]

/-- Letters for the place of the letters `X` in a template. -/
def filler (count number : Nat) : Chars :=
  (List.range count).map fun n => Char.ofNat ('a'.toNat + (number + 7 * n) % 26)

/-- Makes a file or a directory under a name that is not taken yet. -/
def mktemp : Utility := do
  let a ← Act.arguments mktempOptions
  let template := a.operands.headD "tmp.XXXXXXXXXX".toList
  a.operands.tail.head?.forM fun _ => Act.misused "too many templates".toList
  let suffix := (a.value? 's').getD ((template.reverse.takeWhile (· ≠ 'X')).reverse)
  let body := if a.has 's' then template else template.take (template.length - suffix.length)
  let count := (body.reverse.takeWhile (· = 'X')).length
  if count < 3 then Act.die ("too few X's in template ".toList ++ template.shown)
  let p ← get
  let usual := (p.getEnv? "TMPDIR").getD "/tmp".toList
  let inDirectory := a.operands.isEmpty || a.has 'p' || a.has 'P' || a.has 't'
  let directory := ((a.value? 'p').or (a.value? 'P')).getD usual
  let name := fun number =>
    let short := body.take (body.length - count) ++ filler count number ++ suffix
    if inDirectory then nameIn directory short else short
  let free := ((List.range 26).map (p.world.clock + ·)).find? fun n => (p.node? (name n) false).isNone
  let path := name (free.getD 0)
  if !a.has 'u' then
    let fault? ← if a.has 'd' then Act.makeDirectory path 0o700
      else do
        match ← Act.openPath .write path with
        | .error e => pure (some e)
        | .ok _ => Act.setMode path 0o600
    fault?.forM fun e => do
      let what := if a.has 'd' then "directory" else "file"
      let shownName := if inDirectory then nameIn directory template else template
      Act.die ("failed to create ".toList ++ what.toList ++ " via template ".toList
        ++ shownName.shown ++ ": ".toList ++ Act.reason e)
  Act.writeLine path
  return 0

end Shakedown.Utility
