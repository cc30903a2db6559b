import Shakedown.Machine.Basic
import Shakedown.Toml.Decode

/-!
# Plan files

A plan file is read, parsed and checked. A plan that comes out of a text has a module list that
keeps the rules, so it can always be laid out as stages.
-/

set_option autoImplicit false

namespace Shakedown

/-- Why a plan file gives no plan. -/
inductive PlanError where
  /-- The file cannot be read. -/
  | unreadable (path : Path) (fault : Fault)
  /-- Its text is not a plan. -/
  | parse (e : Toml.ReadError)
  /-- Its module list breaks a rule. -/
  | invalid (e : ConfigError)
  deriving DecidableEq, Repr

/-- What is said about a plan file without a plan. -/
def PlanError.message : PlanError → String
  | .unreadable path fault =>
    "Failed to read plan file '" ++ path.display ++ "': " ++ fault.message
  | .parse e => "Failed to parse plan file: " ++ e.message
  | .invalid e => "Invalid plan: " ++ e.message

namespace Plan

/-- The plan that a text describes, its modules checked. -/
def ofToml (text : String) : Except PlanError Plan :=
  match readToml text with
  | .error e => .error (.parse e)
  | .ok p =>
    match ModuleEntry.checkAll p.modules with
    | .error e => .error (.invalid e)
    | .ok () => .ok p

/-- The plan in a file. -/
def load (m : Machine) (path : Path) : Except PlanError Plan :=
  match m.tree.readText m.cwd path with
  | .error fault => .error (.unreadable path fault)
  | .ok text => ofToml text

end Plan

end Shakedown
