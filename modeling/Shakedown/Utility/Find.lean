import Shakedown.Search.Read
import Shakedown.Utility.Operation
import Shakedown.Utility.Starter

/-!
# Finding files

The utility `find` visits everything below its starting points, what stands in a directory in the
order of the names, and evaluates a wish for each visit.
-/

set_option autoImplicit false

namespace Shakedown.Utility.Find

open Search

/-- How far a search is. -/
structure Progress where
  /-- Whether something went wrong. -/
  failed : Bool := false
  /-- Whether what is in the directory is not to be visited. -/
  pruned : Bool := false
  /-- Whether the search is over. -/
  ended : Bool := false
  /-- The paths for programs that are run for all together, latest first. -/
  collected : List (Nat × Chars) := []

/-- What a search does. -/
abbrev Searching := StateT Progress Act

/-- Notes that something went wrong. -/
def noteFailure : Searching Unit :=
  modify ({ · with failed := true })

/-- Runs a program; tells whether it succeeded. -/
def runProgram (host : Host) (directory? : Option Chars) (words : List Chars) : Act Bool := do
  match ← Act.child (do
    if let some directory := directory? then
      if let .ok (l, .directory ..) ← Act.stat directory then modify fun p => { p with cwd := l }
    let e ← Act.become host words
    Act.grumble ((words.headD []).shown ++ ": ".toList ++ Act.reason e)
    Act.exit (Act.startFailure e)) with
  | .exited status => return status = 0
  | .killed _ => return false

/-- The words of a program with a path put in. -/
def withPath (path : Chars) (words : List Chars) : List Chars :=
  words.map fun word => replaceAll ['\x7b', '\x7d'] path (word.length + 1) word

/-- Removes what is visited; tells whether that worked. -/
def remove (v : Visit) : Searching Bool := do
  if v.path = ['.'] then return true
  let fault ← if FileTree.isDirectoryNode v.node then Act.removeDirectory v.path
    else Act.unlink v.path
  match fault with
  | none => return true
  | some e =>
    Act.grumble ("cannot delete ".toList ++ v.path.shown ++ ": ".toList ++ Act.reason e)
    noteFailure
    return false

/-- Carries out a deed for a visit; tells whether it counts as success. -/
def perform (host : Host) (v : Visit) : Deed → Searching Bool
  | .print ending => do
    Act.write (v.path ++ [ending])
    return true
  | .format text => do
    Act.write (expandFormat (← getThe Process) v (text.length + 1) text)
    return true
  | .remove => remove v
  | .prune => do
    modify ({ · with pruned := true })
    return true
  | .quit => do
    modify ({ · with ended := true })
    return true
  | .run words inside => do
    if inside then
      runProgram host (some (directoryPart v.path))
        (withPath ("./".toList ++ lastPart v.path) words)
    else runProgram host none (withPath v.path words)
  | .collect number _ => do
    modify fun s => { s with collected := (number, v.path) :: s.collected }
    return true

/-- Evaluates a wish for a visit. Once the search is over, nothing more is done. -/
def evaluate (host : Host) (v : Visit) : Wish → Searching Bool
  | .test c => return c.holds (← getThe Process) v
  | .act d => do
    if (← get).ended then return false
    perform host v d
  | .opposite w => return !(← evaluate host v w)
  | .both first second => do
    if ← evaluate host v first then evaluate host v second else return false
  | .either first second => do
    if ← evaluate host v first then return true else evaluate host v second
  | .after first second => do
    let _ ← evaluate host v first
    evaluate host v second

/-- What stands at a path: where links are followed, those that lead nowhere stand for
themselves. -/
def look (follow : Bool) (path : Chars) : Act (Except Fault (Location × Node)) := do
  match ← Act.stat path follow with
  | .ok found => return .ok found
  | .error _ => Act.stat path false

/-- Complains about a path. -/
def complainAbout (path : Chars) (e : Fault) : Searching Unit := do
  Act.grumble (path.shown ++ ": ".toList ++ Act.reason e)
  noteFailure

/-- Visits a path and what is below it, so many directories deep. -/
def visit (host : Host) (s : Settings) (w : Wish) (start : Chars) :
    Nat → Nat → Chars → Searching Unit
  | 0, _, _ => pure ()
  | n + 1, depth, path => do
    if (← get).ended then return
    match ← look (s.follows || (s.followsStarts && depth = 0)) path with
    | .error e => complainAbout path e
    | .ok (place, node) =>
      let v : Visit := { path, start, depth, place, node }
      let consider : Searching Unit := do
        if depth ≥ s.shallowest then
          let _ ← evaluate host v w
      let enters := FileTree.isDirectoryNode node && s.deepest.all (depth < ·)
      if s.contentsFirst then
        if enters then
          for name in ← Act.entriesAt path do
            visit host s w start n (depth + 1) (nameIn path name)
        if !(← get).ended then consider
      else
        modify ({ · with pruned := false })
        consider
        if enters && !(← get).pruned && !(← get).ended then
          match ← Act.stat path with
          | .error e => complainAbout path e
          | .ok _ =>
            for name in ← Act.entriesAt path do
              visit host s w start n (depth + 1) (nameIn path name)

/-- The programs of a wish that are run for all paths together, by their numbers. -/
def collectors : Wish → List (Nat × List Chars)
  | .act (.collect number words) => [(number, words)]
  | .act _ => []
  | .test _ => []
  | .opposite w => collectors w
  | .both first second => collectors first ++ collectors second
  | .either first second => collectors first ++ collectors second
  | .after first second => collectors first ++ collectors second

/-- The options in front of the starting points, and the words behind them. -/
def leadingOptions (s : Settings) : List Chars → Settings × List Chars
  | [] => (s, [])
  | word :: more =>
    match word with
    | ['-', 'H'] => leadingOptions { s with follows := false, followsStarts := true } more
    | ['-', 'L'] => leadingOptions { s with follows := true, followsStarts := true } more
    | ['-', 'P'] => leadingOptions { s with follows := false, followsStarts := false } more
    | ['-', '-'] => (s, more)
    | '-' :: 'O' :: _ :: _ => leadingOptions s more
    | _ => (s, word :: more)

/-- Finds files. -/
def find : Program := fun host => do
  let (settings, words) := leadingOptions {} (← get).args
  let starts := words.takeWhile fun word => !beginsWish true word
  match Search.read (← get) settings (words.drop starts.length) with
  | .error e => Act.die e
  | .ok (w, settings) =>
    let starts := if starts.isEmpty then [['.']] else starts
    let search : Searching Unit := do
      for start in starts do
        visit host settings w start Act.treeDepth 0 start
    let (_, progress) ← search.run {}
    let mut failed := progress.failed
    for (number, command) in collectors w do
      let paths := (progress.collected.filter (·.1 = number)).map (·.2)
      if !paths.isEmpty then
        if !(← runProgram host none (command ++ paths.reverse)) then failed := true
    Act.finish (statusOf failed) 1

end Shakedown.Utility.Find
