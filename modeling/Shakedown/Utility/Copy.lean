import Shakedown.Machine.ModeChange
import Shakedown.Utility.Operation

/-!
# Utilities that copy and move

`cp`, `mv` and `install`. A program of the system that is copied stays a program.
-/

set_option autoImplicit false

namespace Shakedown.Utility

/-- How things are copied. -/
structure CopyStyle where
  /-- Whether directories are copied with all that is in them. -/
  recursive : Bool := false
  /-- Whether links are followed. -/
  follows : Bool := true
  /-- Whether permission bits and times are kept. -/
  keeps : Bool := false
  /-- Whether what is there is left alone. -/
  leaves : Bool := false
  /-- Whether only what is older is replaced. -/
  updates : Bool := false
  /-- Whether what cannot be written is removed first. -/
  force : Bool := false
  /-- Whether links are made instead: to the file or to its name. -/
  links : Option Bool := none
  /-- Whether it is told what is copied. -/
  tell : Bool := false

/-- Tells what was copied. -/
def CopyStyle.told (s : CopyStyle) (t : Transfer) : Act Unit := do
  if s.tell then Act.writeLine t.text

/-- The contents of a copy. -/
def copiedContent : Content → Content
  | .program name => .program name
  | .device d => .data (if d = .null then [] else FileTree.contentBytes (.device d))
  | .portrait _ => .data []
  | .data bytes => .data bytes

/-- Writes the contents of a file to another one. -/
def fillFile (opened number : Nat) : Act Unit := do
  match (← get).world.opened[opened]? with
  | some { channel := .file goal, .. } =>
    Act.modifyWorld fun w =>
      match w.tree.file? number, w.tree.content? goal with
      | some _, some (.device _) => w
      | some f, _ =>
        { w.tick with
          tree := w.tree.modifyFile goal fun g =>
            { g with content := copiedContent f.content, modified := w.clock } }
      | none, _ => w
  | _ => pure ()

/-- Gives a copy the permission bits and, where they are kept, the time of its source. -/
def CopyStyle.dress (s : CopyStyle) (wasThere : Bool) (mode time : Nat) (goal : Chars) :
    Act Unit := do
  if s.keeps then
    let _ ← Act.setMode goal mode
    let _ ← Act.setTime goal time
  else if !wasThere then
    let _ ← Act.setMode goal (Act.masked (mode &&& 0o777) (← get).mask)

/-- Copies a file; tells whether that failed. -/
def CopyStyle.copyFile (s : CopyStyle) (t : Transfer) (number : Nat) : Act Bool := do
  let there ← Act.nodeAt t.goal false
  let leadsTo ← Act.nodeAt t.goal
  if there.isSome && leadsTo.isNone then
    Act.grumble ("not writing through dangling symlink ".toList ++ t.goal.shown)
    return true
  if t.goal.getLast? = some '/' && there.isNone then
    Act.cannot "cannot create regular file" t.goal .notADirectory
    return true
  let tree := (← get).world.tree
  match ← Act.openPath .write t.goal with
  | .error e =>
    Act.cannot "cannot create regular file" t.goal e
    return true
  | .ok opened =>
    fillFile opened number
    let n := Node.file number
    s.dress there.isSome (tree.modeOf n) (tree.timeOf n) t.goal
    s.told t
    return false

/-- Makes a link instead of a copy; tells whether that failed. -/
def CopyStyle.link (s : CopyStyle) (t : Transfer) (byName : Bool) : Act Bool := do
  if s.force then let _ ← Act.unlink t.goal
  match ← if byName then Act.makeLink t.source t.goal else Act.makeName t.source t.goal with
  | none =>
    s.told t
    return false
  | some e =>
    if byName then Act.cannot "cannot create symbolic link" t.goal e
    else
      Act.grumble ("cannot create hard link ".toList ++ t.goal.shown ++ " to ".toList
        ++ t.source.shown ++ ": ".toList ++ Act.reason e)
    return true

/-- Copies something with all that is in it; tells whether that failed. The location of the first
source is known, since it must not be copied into itself. -/
def CopyStyle.copy (s : CopyStyle) (top : Option Location) : Nat → Transfer → Act Bool
  | 0, _ => return true
  | depth + 1, t => do
    let p ← get
    match ← Act.stat t.source s.follows with
    | .error e =>
      Act.cannot "cannot stat" t.source e
      return true
    | .ok (place, n) =>
      let goal := p.node? t.goal true
      let isDirectory := FileTree.isDirectoryNode n
      if isDirectory && !s.recursive then
        Act.grumble ("-r not specified; omitting directory ".toList ++ t.source.shown)
        return true
      if s.leaves && goal.isSome && !isDirectory then return false
      let isOlder := fun g : Location × Node => p.world.tree.timeOf g.2 ≥ p.world.tree.timeOf n
      if s.updates && !isDirectory && goal.any isOlder then return false
      if p.isSame t.source t.goal && !(s.links.isSome && s.force) then
        Act.grumble (t.source.shown ++ " and ".toList ++ t.goal.shown
          ++ " are the same file".toList)
        return true
      match n with
      | .directory mode modified =>
        if goal.any fun g => !FileTree.isDirectoryNode g.2 then
          Act.grumble ("cannot overwrite non-directory ".toList ++ t.goal.shown
            ++ " with directory ".toList ++ t.source.shown)
          return true
        let goalPlace := boldly p.world.tree p.cwd t.goal
        if (top.getD place).isPrefixOf goalPlace && top.isNone then
          Act.grumble ("cannot copy a directory, ".toList ++ t.source.shown
            ++ ", into itself, ".toList ++ t.goal.shown)
          return true
        if goal.isNone then
          if let some e ← Act.makeDirectory t.goal (Act.masked (mode &&& 0o777) p.mask) then
            Act.cannot "cannot create directory" t.goal e
            return true
          s.told t
        let mut failed := false
        for name in ← Act.entriesAt t.source do
          let inner : Transfer := { source := nameIn t.source name, goal := nameIn t.goal name }
          if ← CopyStyle.copy s (some (top.getD place)) depth inner then failed := true
        if s.keeps then
          let _ ← Act.setMode t.goal mode
          let _ ← Act.setTime t.goal modified
        return failed
      | .link target =>
        if s.force || s.recursive then let _ ← Act.unlink t.goal
        match ← Act.makeLink (Chars.ofBytes target) t.goal with
        | none =>
          s.told t
          return false
        | some e =>
          Act.cannot "cannot create symbolic link" t.goal e
          return true
      | .file number =>
        if goal.any fun g => FileTree.isDirectoryNode g.2 then
          Act.grumble ("cannot overwrite directory ".toList ++ t.goal.shown
            ++ " with non-directory".toList)
          return true
        match s.links with
        | some byName => s.link t byName
        | none => s.copyFile t number

/-- The options of `cp`. -/
def cpOptions : List OptionKind :=
  [.named 'a' "archive", .named 'f' "force", .named 'i' "interactive", .named 'l' "link",
    .named 'L' "dereference", .named 'n' "no-clobber", .named 'P' "no-dereference",
    .named 'r' "recursive", .named 's' "symbolic-link", .named 'u' "update",
    .named 'x' "one-file-system", .long 'm' "preserve" .perhaps,
    .long 'y' "parents", .long 'z' "attributes-only"]
    ++ OptionKind.letters "dpRHb" ++ transferOptions

/-- The style that options ask for. -/
def copyStyle (a : Arguments) : CopyStyle :=
  let recursive := a.has 'r' || a.has 'R' || a.has 'a'
  { recursive
    follows := match a.lastOf? ['L', 'P', 'd', 'a', 'H'] with
      | some 'L' => true
      | some 'H' => true
      | some _ => false
      | none => !recursive
    keeps := a.has 'p' || a.has 'a' || a.has 'm'
    leaves := a.has 'n'
    updates := a.has 'u'
    force := a.has 'f'
    links := if a.has 's' then some true else if a.has 'l' then some false else none
    tell := a.has 'v' }

/-- The transfers that keep the whole names of what is copied. -/
def withParents (a : Arguments) : Act (List Transfer) := do
  let goal := (a.value? 't').getD (a.operands.getLast?.getD [])
  let sources := if (a.value? 't').isSome then a.operands else a.operands.dropLast
  if !(← Act.isDirectoryAt goal) then
    Act.misused "with --parents, the destination must be a directory".toList
  for source in sources do
    Act.makeWay (nameIn goal (directoryPart source)) (Act.masked 0o777 (← get).mask)
  return sources.map fun source => { source, goal := nameIn goal source }

/-- Copies files and directories. -/
def cp : Utility := do
  let a ← Act.arguments cpOptions
  if a.operands.length = 2 then checkGoal (a.operands.getD 1 [])
  let all ← if a.has 'y' then withParents a else transfers a
  let style := copyStyle a
  let mut failed := false
  for t in all do
    if ← style.copy none Act.treeDepth t then failed := true
  return statusOf failed

/-! ## Moving -/

/-- The options of `mv`. -/
def mvOptions : List OptionKind :=
  [.named 'f' "force", .named 'i' "interactive", .named 'n' "no-clobber", .named 'u' "update",
    .named 'b' "backup", .long 's' "strip-trailing-slashes"] ++ transferOptions

/-- Moves something; tells whether that failed. -/
def moveOne (a : Arguments) (t : Transfer) : Act Bool := do
  let p ← get
  match ← Act.stat t.source false with
  | .error e =>
    Act.cannot "cannot stat" t.source e
    return true
  | .ok (place, n) =>
    let goal := p.node? t.goal false
    let moved := FileTree.isDirectoryNode n
    let isOlder := fun g : Location × Node => p.world.tree.timeOf g.2 ≥ p.world.tree.timeOf n
    if a.has 'n' && goal.isSome then return false
    if a.has 'u' && goal.any isOlder then return false
    if goal.any (·.1 = place) then
      Act.grumble (t.source.shown ++ " and ".toList ++ t.goal.shown ++ " are the same file".toList)
      return true
    if moved && goal.any fun g => !FileTree.isDirectoryNode g.2 then
      Act.grumble ("cannot overwrite non-directory ".toList ++ t.goal.shown
        ++ " with directory ".toList ++ t.source.shown)
      return true
    if !moved && goal.any fun g => FileTree.isDirectoryNode g.2 then
      Act.grumble ("cannot overwrite directory ".toList ++ t.goal.shown
        ++ " with non-directory".toList)
      return true
    match ← Act.rename t.source t.goal with
    | none =>
      if a.has 'v' then Act.writeLine ("renamed ".toList ++ t.text)
      return false
    | some .invalidArgument =>
      Act.grumble ("cannot move ".toList ++ t.source.shown ++ " to a subdirectory of itself, ".toList
        ++ t.goal.shown)
      return true
    | some .notEmpty =>
      Act.cannot "cannot overwrite" t.goal .notEmpty
      return true
    | some e =>
      Act.grumble ("cannot move ".toList ++ t.source.shown ++ " to ".toList ++ t.goal.shown
        ++ ": ".toList ++ Act.reason e)
      return true

/-- Moves files and directories. -/
def mv : Utility := do
  let a ← Act.arguments mvOptions
  if a.operands.length = 2 then checkGoal (a.operands.getD 1 [])
  let mut failed := false
  for t in ← transfers a do
    if ← moveOne a t then failed := true
  return statusOf failed

/-! ## Installing -/

/-- The options of `install`. -/
def installOptions : List OptionKind :=
  [.named 'd' "directory", .namedValue 'm' "mode", .namedValue 'o' "owner",
    .namedValue 'g' "group", .named 'p' "preserve-timestamps", .named 's' "strip",
    .named 'C' "compare"] ++ OptionKind.letters "cDb" ++ transferOptions

/-- Copies files and sets their permission bits, or makes directories. -/
def install : Utility := do
  let a ← Act.arguments installOptions
  let mode ← match a.value? 'm' with
    | none => pure 0o755
    | some text => match ModeChange.read? 0 text with
      | some change => pure (change false 0)
      | none => Act.die ("invalid mode ".toList ++ text.shown)
  if a.has 'd' then
    if a.operands.isEmpty then Act.misused "missing file operand".toList
    let mut failed := false
    for path in a.operands do
      Act.makeWay path 0o755
      if ← Act.isDirectoryAt path then
        let _ ← Act.setMode path mode
      else
        Act.cannot "cannot create directory" path
          (if (← Act.nodeAt path).isSome then .exists else .notADirectory)
        failed := true
    return statusOf failed
  if a.has 'D' then
    match a.value? 't', a.operands.getLast? with
    | some directory, _ => Act.makeWay directory 0o755
    | none, some goal => if a.operands.length = 2 then Act.makeWay (directoryPart goal) 0o755
    | none, none => pure ()
  let mut failed := false
  for t in ← transfers a do
    if ← Act.isDirectoryAt t.source then
      Act.grumble ("omitting directory ".toList ++ t.source.shown)
      failed := true
    else
      if (← Act.stat t.source).isOk then let _ ← Act.unlink t.goal
      let style : CopyStyle := { tell := a.has 'v' }
      if ← style.copy none Act.treeDepth t then failed := true
      else let _ ← Act.setMode t.goal mode
  return statusOf failed

end Shakedown.Utility
