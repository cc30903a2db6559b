import Shakedown.Path.Segments
import Shakedown.Text.Character

/-!
# The modules of a plan

A plan lists source files of the toolchain project. Each is compiled on its own by the compiler
under test, with at most one kind of extra option, or kept in the list switched off. The object
file of a source is the source with the extension of its name replaced by `.o`.

`ModuleEntry.checkAll` admits a module list before anything runs: every source has a name, and no
two modules that are switched on write the same object path.
-/

set_option autoImplicit false

namespace Shakedown

/-- The extra option of one module: an optimization level or an intermediate-representation dump,
never both. -/
inductive CompileFlags where
  /-- `-O` followed by the level. -/
  | optimize (level : String)
  /-- `--dump-ir` followed by a directory. -/
  | dumpIr (directory : String)
  /-- No option. -/
  | plain
  deriving DecidableEq, Repr

/-- The arguments that an option adds to the command line. -/
def CompileFlags.toArgs : CompileFlags → List String
  | .optimize level => ["-O" ++ level]
  | .dumpIr directory => ["--dump-ir", directory]
  | .plain => []

/-- One line of the module list. -/
structure ModuleEntry where
  /-- Source file, relative to the project. -/
  source : String
  /-- Whether the module is compiled. -/
  enabled : Bool := true
  /-- The extra option. -/
  flags : CompileFlags := .plain
  deriving DecidableEq, Repr

/-- Why a configuration is refused. -/
inductive ConfigError where
  /-- The compiler's name is blank. -/
  | emptyCompiler
  /-- The source of the entry at this position is blank. -/
  | emptySource (index : Nat)
  /-- The source has no name to derive an object file from. -/
  | noObjectName (source : String)
  /-- Two enabled entries write the same object file. -/
  | duplicateObject (first second object : String)
  deriving DecidableEq, Repr

/-- What is said about a refused configuration. -/
def ConfigError.message : ConfigError → String
  | .emptyCompiler => "Compiler must not be empty"
  | .emptySource index => "Module entry #" ++ index.repr ++ " has an empty source name"
  | .noObjectName source =>
    "Module '" ++ source ++ "' has no file stem to derive an object name from"
  | .duplicateObject first second object =>
    "Modules '" ++ first ++ "' and '" ++ second ++ "' both compile to '" ++ object ++ "'"

namespace ModuleEntry

/-- The object file of a module: its source with the name's extension replaced by `.o`. -/
def objectName? (m : ModuleEntry) : Option String :=
  (PathLetter.withSuffix? ['o'] m.source.toList).map String.ofList

/-- The object file, or the reason why there is none. -/
def objectName (m : ModuleEntry) : Except ConfigError String :=
  match m.objectName? with
  | some object => .ok object
  | none => .error (.noObjectName m.source)

/-- The command line of a module after the compiler's name. -/
def compileArgs (m : ModuleEntry) : Except ConfigError (List String) :=
  match m.objectName with
  | .ok object => .ok (["-c", m.source, "-o", object] ++ m.flags.toArgs)
  | .error e => .error e

/-- What an object path amounts to: its components, a leading `.` left out. -/
def objectKey (object : String) : List (PathLetter.Component Char) :=
  (PathLetter.components object.toList).filter (· ≠ .here)

/-- An object path already taken, with the source that took it. -/
abbrev Claimed := List (List (PathLetter.Component Char) × String)

/-- Checks the entries from position `index` on, given the object paths taken by the enabled
entries before. -/
def check (claimed : Claimed) (index : Nat) : List ModuleEntry → Except ConfigError Unit
  | [] => .ok ()
  | m :: more =>
    if isBlank m.source then .error (.emptySource index)
    else match m.objectName with
      | .error e => .error e
      | .ok object =>
        if m.enabled then
          match claimed.lookup (objectKey object) with
          | some first => .error (.duplicateObject first m.source object)
          | none => check ((objectKey object, m.source) :: claimed) (index + 1) more
        else check claimed (index + 1) more

/-- Checks a module list: the first entry that breaks a rule decides the error. -/
def checkAll (modules : List ModuleEntry) : Except ConfigError Unit :=
  check [] 0 modules

end ModuleEntry

end Shakedown
