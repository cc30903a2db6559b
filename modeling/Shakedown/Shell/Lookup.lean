import Shakedown.Process.Launch
import Shakedown.Shell.Expansion
import Shakedown.Shell.Option

/-!
# Finding commands

What the name of a command stands for: a function, a builtin command, or a program on the search
path. Programs that were found are remembered until the search path changes.
-/

set_option autoImplicit false

namespace Shakedown.Shell

/-- The directories of a search path. -/
def searchDirectories (s : Shell) : List Chars :=
  match s.get? "PATH".toList with
  | none => []
  | some path => Chars.splitAt ':' path

/-- The usual search path. -/
def usualPath : Chars :=
  "/usr/local/sbin:/usr/local/bin:/usr/sbin:/usr/bin:/sbin:/bin".toList

/-- A name in a directory of the search path. -/
def inDirectory (directory name : Chars) : Chars :=
  if directory.isEmpty then name else directory ++ '/' :: name

/-- Whether a program could be at a path, or why not. -/
def programAt (s : Shell) (path : Chars) : Except Fault Unit :=
  match s.process.world.tree.stat s.process.cwd ⟨Chars.toBytes path⟩ with
  | .error e => .error e
  | .ok (_, n) =>
    if s.process.world.tree.isRunnable n then .ok () else .error .permissionDenied

/-- Whether a fault only says that nothing is there. -/
def isAbsence (e : Fault) : Bool :=
  e = .notFound || e = .notADirectory

/-- The first program of a name in directories, or why there is none. -/
def firstProgram (s : Shell) (name : Chars) : Fault → List Chars → Except Fault Chars
  | fault, [] => .error fault
  | fault, d :: more =>
    let path := inDirectory d name
    match programAt s path with
    | .ok () => .ok path
    | .error e => firstProgram s name (if isAbsence e then fault else e) more

/-- The program of a name on a search path. -/
def findProgram (s : Shell) (directories : List Chars) (name : Chars) : Except Fault Chars :=
  if name.contains '/' then .ok name else firstProgram s name .notFound directories

/-- Why a program cannot be run, as the shell words it. -/
def programReason (e : Fault) : Chars :=
  if isAbsence e then "not found".toList else Act.reason e

/-! ## Aliases -/

/-- Shows an alias. -/
def aliasLine (name text : Chars) : Chars :=
  name ++ '=' :: quoted text

/-- Sets or shows aliases. -/
def setAliases : List Chars → Sh Nat
  | [] => return 0
  | word :: more => do
    let name := word.takeWhile (· ≠ '=')
    let failed ← if name.isEmpty || name.length = word.length then
        match (← get).aliases.lookup word with
        | some text =>
          Sh.writeLine (aliasLine word text)
          pure false
        | none =>
          Sh.act (Act.complain ("alias: ".toList ++ word ++ " not found".toList))
          pure true
      else
        let text := word.drop (name.length + 1)
        modify fun s =>
          { s with aliases := s.aliases.filter (·.1 ≠ name) ++ [(name, text)] }
        pure false
    let status ← setAliases more
    return if failed then 1 else status

/-- Sets or lists aliases. -/
def aliasCommand (args : List Chars) : Sh Nat := do
  if args.isEmpty then
    (← get).aliases.forM fun (name, text) => Sh.writeLine (aliasLine name text)
    return 0
  else setAliases args

/-- Removes aliases. -/
def removeAliases : List Chars → Sh Nat
  | [] => return 0
  | name :: more => do
    let s ← get
    let there := (s.aliases.lookup name).isSome
    if there then set { s with aliases := s.aliases.filter (·.1 ≠ name) }
    else Sh.act (Act.complain ("unalias: ".toList ++ name ++ " not found".toList))
    let status ← removeAliases more
    return if there then status else 1

/-- Removes aliases, or all of them. -/
def unaliasCommand (args : List Chars) : Sh Nat := do
  let (options, names) ← readOptions ['a'] args
  if !options.isEmpty then
    modify ({ · with aliases := [] })
    return 0
  else removeAliases names

/-! ## What a name stands for -/

/-- What a name stands for. -/
inductive Meaning where
  /-- A word of the language. -/
  | keyword
  /-- An alias with its text. -/
  | shorthand (text : Chars)
  /-- A function. -/
  | function
  /-- A builtin command, perhaps a special one. -/
  | builtin (isSpecial : Bool)
  /-- A program at a path, perhaps one that was looked up before. -/
  | program (path : Chars) (known : Bool)
  /-- Nothing. -/
  | missing
  deriving DecidableEq, Repr

/-- What a name stands for, given what a builtin command of that name is. -/
def meaning (s : Shell) (builtin? : Chars → Option Bool) (directories : List Chars)
    (name : Chars) : Meaning :=
  if keywords.any (·.toList = name) then .keyword
  else match s.aliases.lookup name with
    | some text => .shorthand text
    | none =>
      if (s.functions.lookup name).isSome then .function
      else match builtin? name with
        | some isSpecial => .builtin isSpecial
        | none =>
          if name.contains '/' then
            if isThere s.process name then .program name false else .missing
          else match findProgram s directories name with
            | .ok path => .program path (s.known.contains name)
            | .error _ => .missing

/-- Says in a sentence what a name stands for. -/
def describe (name : Chars) : Meaning → Chars
  | .keyword => name ++ " is a shell keyword".toList
  | .shorthand text => name ++ " is an alias for ".toList ++ text
  | .function => name ++ " is a shell function".toList
  | .builtin true => name ++ " is a special shell builtin".toList
  | .builtin false => name ++ " is a shell builtin".toList
  | .program path true => name ++ " is a tracked alias for ".toList ++ path
  | .program path false => name ++ " is ".toList ++ path
  | .missing => name ++ ": not found".toList

/-- What is to be written to use what a name stands for. -/
def usage? (name : Chars) : Meaning → Option Chars
  | .keyword => some name
  | .shorthand text => some ("alias ".toList ++ aliasLine name text)
  | .function => some name
  | .builtin _ => some name
  | .program path _ => some path
  | .missing => none

/-- Says what names stand for. -/
def typeCommand (builtin? : Chars → Option Bool) : List Chars → Sh Nat
  | [] => return 0
  | name :: more => do
    let s ← get
    let m := meaning s builtin? (searchDirectories s) name
    Sh.writeLine (describe name m)
    let status ← typeCommand builtin? more
    return if m = .missing then 127 else status

/-- Remembers programs, or lists those that are remembered. -/
def hashCommand (args : List Chars) : Sh Nat := do
  let (options, names) ← readOptions ['r'] args
  if !options.isEmpty then
    modify ({ · with known := [] })
    return 0
  else if names.isEmpty then
    let s ← get
    s.known.forM fun name => do
      match findProgram s (searchDirectories s) name with
      | .ok path => Sh.writeLine path
      | .error _ => return ()
    return 0
  else
    let found ← names.mapM fun name => do
      let s ← get
      match findProgram s (searchDirectories s) name with
      | .ok _ =>
        set { s with known := name :: s.known.filter (· ≠ name) }
        return true
      | .error e =>
        Sh.complain (name ++ ": ".toList ++ programReason e)
        return false
    return if found.all id then 0 else 1

end Shakedown.Shell
