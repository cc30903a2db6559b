import Shakedown.Document
import Shakedown.Toml.Document

/-!
# Plans in TOML

A plan file is a TOML table with the fields of a plan. Every field may be missing, and fields by
other names are ignored. The text is checked as a whole first, then the shape of its table in the
order of the document, so the first field that has the wrong shape decides the error.
-/

set_option autoImplicit false

namespace Shakedown

namespace Toml

/-- Why a text is not a plan. -/
inductive ReadError where
  /-- The text is malformed. -/
  | malformed
  /-- The table has the wrong shape. A cause without a name is one of alternatives and their
  payloads. -/
  | shape (cause : Option Cause)
  deriving DecidableEq, Repr

/-- The wording of an error. The part after the first line is left out for a malformed text. -/
def ReadError.message : ReadError → String
  | .malformed => "TOML parse error"
  | .shape none => "TOML parse error\nunexpected alternative"
  | .shape (some cause) => "TOML parse error\n" ++ cause.message

/-- A reader of values. -/
abbrev Reader (α : Type) := Value → Except ReadError α

/-- How a value is named in complaints. -/
def Value.found : Value → Found
  | .text s => .text s
  | .integer n => .integer n
  | .real x => .float x.spelling
  | .boolean b => .boolean b
  | .moment => .map
  | .list _ => .sequence
  | .table _ => .map

/-- The complaint about a value where something else is wanted. -/
def Value.wrong (v : Value) (wanted : String) : ReadError :=
  .shape (some (.invalidType v.found wanted))

/-- A text, called `wanted` in complaints. -/
def readTextAs (wanted : String) : Reader String
  | .text s => .ok s
  | v => .error (v.wrong wanted)

/-- A text. -/
def readText : Reader String :=
  readTextAs "a string"

/-- A truth value. -/
def readBool : Reader Bool
  | .boolean b => .ok b
  | v => .error (v.wrong "a boolean")

/-- All items of a list. -/
def readItems {α : Type} (read : Reader α) : List Value → Except ReadError (List α)
  | [] => .ok []
  | v :: more =>
    match read v with
    | .error e => .error e
    | .ok a =>
      match readItems read more with
      | .error e => .error e
      | .ok as => .ok (a :: as)

/-- A list of values. -/
def readList {α : Type} (read : Reader α) : Reader (List α)
  | .list items => readItems read items
  | v => .error (v.wrong "a sequence")

/-- Reads the fields of a table in order into what is known. -/
def readFields {γ : Type} (field : String → γ → Value → Except ReadError γ) :
    γ → List (String × Value) → Except ReadError γ
  | known, [] => .ok known
  | known, (key, v) :: more =>
    match field key known v with
    | .error e => .error e
    | .ok known => readFields field known more

end Toml

open Toml (ReadError Value)

namespace CompileFlags

/-- An option by its name alone. -/
def ofTomlName (name : String) : Except ReadError CompileFlags :=
  if name = "plain" then .ok .plain
  else if name = "optimize" ∨ name = "dump_ir" then
    .error (.shape (some (.invalidType .unitVariant "newtype variant")))
  else .error (.shape (some (.unknownVariant name names)))

/-- An option by its name and a value. -/
def ofTomlEntry (name : String) (v : Value) : Except ReadError CompileFlags :=
  if name = "optimize" then (Toml.readText v).map .optimize
  else if name = "dump_ir" then (Toml.readText v).map .dumpIr
  else if name = "plain" then
    match v with
    | .table [] => .ok .plain
    | .list [] => .ok .plain
    | _ => .error (.shape none)
  else .error (.shape (some (.unknownVariant name names)))

/-- An option: a name, or a table with one entry. -/
def ofToml : Toml.Reader CompileFlags
  | .text name => ofTomlName name
  | .table [(name, v)] => ofTomlEntry name v
  | _ => .error (.shape none)

end CompileFlags

namespace ModuleEntry

/-- Reads a field of a module into what is known of it. -/
def tomlField (key : String) (known : Known) (v : Value) : Except ReadError Known :=
  if key = "source" then (Toml.readText v).map fun s => { known with source := some s }
  else if key = "enabled" then (Toml.readBool v).map fun b => { known with enabled := some b }
  else if key = "flags" then (CompileFlags.ofToml v).map fun f => { known with flags := some f }
  else .ok known

/-- A module from its fields. -/
def ofTomlFields (fields : List (String × Value)) : Except ReadError ModuleEntry :=
  match Toml.readFields tomlField {} fields with
  | .error e => .error e
  | .ok known =>
    match known.source with
    | none => .error (.shape (some (.missingField "source")))
    | some source => .ok (known.toEntry source)

/-- A module from a list of its fields in order. More than those are ignored. -/
def ofTomlItems (items : List Value) : Except ReadError ModuleEntry :=
  match items with
  | [] =>
    .error (.shape (some (.invalidLength 0
      (structureName "ModuleEntry" ++ " with " ++ elementCount 3))))
  | _ => ofTomlFields (["source", "enabled", "flags"].zip items)

/-- A module: a table, or a list of its fields. -/
def ofToml : Toml.Reader ModuleEntry
  | .table fields => ofTomlFields fields
  | .moment => ofTomlFields []
  | .list items => ofTomlItems items
  | v => .error (v.wrong (structureName "ModuleEntry"))

end ModuleEntry

namespace Plan

/-- Reads a field of a plan into what is known of it. -/
def tomlField (key : String) (known : Known) (v : Value) : Except ReadError Known :=
  if key = "project_dir" then
    (Toml.readTextAs "path string" v).map fun s => { known with projectDir := some (.ofString s) }
  else if key = "build_tool" then
    (Toml.readText v).map fun s => { known with buildTool := some s }
  else if key = "reference_compiler" then
    (Toml.readText v).map fun s => { known with referenceCompiler := some s }
  else if key = "modules" then
    (Toml.readList ModuleEntry.ofToml v).map fun ms => { known with modules := some ms }
  else .ok known

/-- A plan from the fields of its table. -/
def ofTomlFields (fields : List (String × Value)) : Except ReadError Plan :=
  (Toml.readFields tomlField {} fields).map Known.toPlan

/-- A plan from its text. Its modules are not checked here. -/
def readToml (text : String) : Except ReadError Plan :=
  match Toml.parse text with
  | none => .error .malformed
  | some fields => ofTomlFields fields

end Plan

end Shakedown
