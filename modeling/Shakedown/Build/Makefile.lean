import Shakedown.Build.Word
import Shakedown.Process.Basic

/-!
# What a makefile tells

Variables, rules and how to carry them out. `Make` is the type of what is done while a makefile is
read and its targets are brought up to date.
-/

set_option autoImplicit false

namespace Shakedown.Build

/-- Where a variable comes from, the weakest first. -/
inductive Origin where
  /-- It is always there. -/
  | builtin
  /-- The environment. -/
  | environment
  /-- A makefile. -/
  | file
  /-- The environment, which takes precedence over makefiles. -/
  | strongEnvironment
  /-- The command line. -/
  | commandLine
  /-- A makefile that insists. -/
  | insisting
  /-- The rule that is carried out. -/
  | automatic
  deriving DecidableEq, Repr

/-- How strong an origin is. -/
def Origin.strength : Origin → Nat
  | .builtin => 0
  | .environment => 1
  | .file => 2
  | .strongEnvironment => 3
  | .commandLine => 4
  | .insisting => 5
  | .automatic => 6

/-- The word for an origin. -/
def Origin.word : Origin → String
  | .builtin => "default"
  | .environment => "environment"
  | .file => "file"
  | .strongEnvironment => "environment override"
  | .commandLine => "command line"
  | .insisting => "override"
  | .automatic => "automatic"

/-- A place in a makefile. -/
structure FilePlace where
  /-- The file. -/
  file : Chars
  /-- The line. -/
  line : Nat

/-- A place as messages tell it. -/
def FilePlace.text (p : FilePlace) : Chars :=
  p.file ++ ':' :: Chars.ofNat p.line

/-- A variable. -/
structure Variable where
  /-- Its text. -/
  text : Chars
  /-- Whether references in it are expanded only when it is used. -/
  late : Bool := true
  /-- Where it comes from. -/
  origin : Origin
  /-- Whether programs find it in their environment. -/
  exported : Bool := false
  /-- Where it was set last. -/
  place? : Option FilePlace := none

/-- How a variable is set. -/
inductive Setting where
  /-- To a text that is expanded when it is used. -/
  | late
  /-- To a text that is expanded now. -/
  | early
  /-- To a text if there is none yet. -/
  | default
  /-- To what it is with a text behind it. -/
  | append
  /-- To the output of a program. -/
  | output
  deriving DecidableEq, Repr

/-- An assignment. -/
structure Assignment where
  /-- The name, which may hold references. -/
  name : Chars
  /-- How it is set. -/
  setting : Setting
  /-- The text. -/
  text : Chars
  /-- Whether it overrides the command line. -/
  insists : Bool := false
  /-- Whether it is exported. -/
  exports : Bool := false

/-- The lines that are run to make a target. -/
abbrev Recipe := List (FilePlace × Chars)

/-- A rule for a target, or for all targets that are as a pattern says. -/
structure Rule where
  /-- The target or the pattern. -/
  target : Chars
  /-- What it depends on. -/
  prerequisites : List Chars := []
  /-- What has to be there first, however old it is. -/
  orderOnly : List Chars := []
  /-- How it is made. -/
  recipe? : Option Recipe := none
  /-- What the percent sign of a pattern stands for. -/
  stem : Chars := []
  /-- Whether the rule is carried out by itself. -/
  isDouble : Bool := false

/-- What became of a target. -/
inductive Standing where
  /-- Nothing had to be done. -/
  | current
  /-- It was made. -/
  | made
  /-- It was made and counts as newer than anything. -/
  | fresh
  /-- It could not be made. -/
  | failed
  deriving DecidableEq, Repr

/-- How targets are brought up to date. -/
structure Options where
  /-- Recipes are not shown. -/
  silent : Bool := false
  /-- Recipes are shown but not run. -/
  dry : Bool := false
  /-- What does not depend on a failure is still made. -/
  persistent : Bool := false
  /-- Failures do not matter. -/
  careless : Bool := false
  /-- Everything is made. -/
  always : Bool := false
  /-- It is only asked whether something had to be made. -/
  asking : Bool := false
  /-- Targets are touched instead of made. -/
  touching : Bool := false
  /-- The environment takes precedence over makefiles. -/
  environmentFirst : Bool := false
  /-- There are no rules but those of makefiles. -/
  bare : Bool := false

/-- How far making is. -/
structure State where
  /-- The options. -/
  options : Options := {}
  /-- How many programs of the same kind are around this one. -/
  level : Nat := 0
  /-- The variables. -/
  bindings : List (Chars × Variable) := []
  /-- Those whose text is being expanded. -/
  expanding : List Chars := []
  /-- The rules for targets, in order. -/
  rules : List Rule := []
  /-- The rules for patterns, in order. -/
  patterns : List Rule := []
  /-- Assignments that hold for a target and what it depends on, in order. -/
  assignments : List (Chars × Assignment) := []
  /-- Whether all variables are exported. -/
  exportsAll : Bool := false
  /-- The first target. -/
  goal? : Option Chars := none
  /-- Where reading is. -/
  place? : Option FilePlace := none
  /-- The targets that were looked at. -/
  finished : List (Chars × Standing) := []
  /-- The targets that are being made, innermost first. -/
  ongoing : List Chars := []
  /-- How many lines were run. -/
  runs : Nat := 0

/-- What is done. -/
abbrev Make := ReaderT Host (StateT State Act)

namespace Make

/-- The name of the program, with how many others of the kind are around it. -/
def programName : Make Chars := do
  let level := (← get).level
  let name := (← getThe Process).name
  return if level = 0 then name else name ++ '[' :: Chars.ofNat level ++ [']']

/-- Complains. -/
def grumble (message : Chars) : Make Unit := do
  Act.complain ((← programName) ++ ": ".toList ++ message)

/-- Tells something. -/
def tell (message : Chars) : Make Unit := do
  Act.writeLine ((← programName) ++ ": ".toList ++ message)

/-- The status of a failure. -/
def failureStatus : UInt8 := 2

/-- Complains, and ends the program. -/
def fail {α : Type} (message : Chars) : Make α := do
  let front ← match (← get).place? with
    | some p => pure p.text
    | none => programName
  Act.complain (front ++ ": *** ".toList ++ message ++ ".  Stop.".toList)
  Act.exit failureStatus

/-- The variable of a name. -/
def lookUp (name : Chars) : Make (Option Variable) := do
  return (← get).bindings.lookup name

/-- Sets a variable, whatever it was before. -/
def put (name : Chars) (v : Variable) : Make Unit :=
  modify fun s => { s with bindings := (name, v) :: s.bindings.filter (·.1 ≠ name) }

end Make

end Shakedown.Build
