import Shakedown.Plan.Basic
import Shakedown.Plan.Module
import Shakedown.Text.Character

/-!
# Documents

A document in either format is read into the values of this library field by field, in any order.
Here is what the formats share: the reasons why a document does not have the shape of a value, with
their wording, and what is known of a plan or a module while it is read. In the end every field that
was not given takes its default.
-/

set_option autoImplicit false

namespace Shakedown

/-! ## Causes -/

/-- What stands in a document where something else is wanted. -/
inductive Found where
  /-- An integer. -/
  | integer (n : Int)
  /-- A number with a fraction, as it is spelled. -/
  | float (spelling : String)
  /-- A truth value. -/
  | boolean (b : Bool)
  /-- A text. -/
  | text (s : String)
  /-- The empty value. -/
  | null
  /-- A list. -/
  | sequence
  /-- A table. -/
  | map
  /-- An alternative without a payload. -/
  | unitVariant
  deriving DecidableEq, Repr

/-- How a found thing is named. -/
def Found.message : Found → String
  | .integer n => "integer \x60" ++ n.repr ++ "\x60"
  | .float spelling => "floating point \x60" ++ spelling ++ "\x60"
  | .boolean b => "boolean \x60" ++ (if b then "true" else "false") ++ "\x60"
  | .text s => "string " ++ quoted s
  | .null => "null"
  | .sequence => "sequence"
  | .map => "map"
  | .unitVariant => "unit variant"

/-- Why a document has not the shape of a value. -/
inductive Cause where
  /-- A field that must be there is not. -/
  | missingField (name : String)
  /-- A field is there twice. -/
  | duplicateField (name : String)
  /-- An alternative by no known name. -/
  | unknownVariant (name : String) (known : List String)
  /-- A thing of the wrong kind. -/
  | invalidType (found : Found) (wanted : String)
  /-- An integer out of range. -/
  | invalidValue (n : Int) (wanted : String)
  /-- A list with the wrong number of elements. -/
  | invalidLength (n : Nat) (wanted : String)
  /-- A value that breaks a rule of the configuration. -/
  | config (e : ConfigError)
  deriving DecidableEq, Repr

/-- Names of alternatives in a row. -/
def listAlternatives (names : List String) : String :=
  ", ".intercalate (names.map fun n => "\x60" ++ n ++ "\x60")

/-- Which alternatives there are. -/
def alternatives : List String → String
  | [] => "there are no variants"
  | [a] => "expected " ++ listAlternatives [a]
  | [a, b] => "expected " ++ listAlternatives [a] ++ " or " ++ listAlternatives [b]
  | names => "expected one of " ++ listAlternatives names

/-- The wording of a cause. -/
def Cause.message : Cause → String
  | .missingField name => "missing field \x60" ++ name ++ "\x60"
  | .duplicateField name => "duplicate field \x60" ++ name ++ "\x60"
  | .unknownVariant name known =>
    "unknown variant \x60" ++ name ++ "\x60, " ++ alternatives known
  | .invalidType found wanted => "invalid type: " ++ found.message ++ ", expected " ++ wanted
  | .invalidValue n wanted =>
    "invalid value: integer \x60" ++ n.repr ++ "\x60, expected " ++ wanted
  | .invalidLength n wanted => "invalid length " ++ n.repr ++ ", expected " ++ wanted
  | .config e => e.message

/-- The name of a structure in messages. -/
def structureName (name : String) : String :=
  "struct " ++ name

/-- A number of elements in messages. -/
def elementCount (n : Nat) : String :=
  if n = 1 then "1 element" else n.repr ++ " elements"

/-! ## What is known while reading -/

/-- The names of the compile options. -/
def CompileFlags.names : List String := ["optimize", "dump_ir", "plain"]

namespace ModuleEntry

/-- What is known of a module while it is read. -/
structure Known where
  source : Option String := none
  enabled : Option Bool := none
  flags : Option CompileFlags := none

/-- The module of that source in which every other field that is not known has its default. -/
def Known.toEntry (k : Known) (source : String) : ModuleEntry :=
  { source, enabled := k.enabled.getD true, flags := k.flags.getD .plain }

end ModuleEntry

namespace Plan

/-- What is known of a plan while it is read. -/
structure Known where
  projectDir : Option Path := none
  buildTool : Option String := none
  referenceCompiler : Option String := none
  modules : Option (List ModuleEntry) := none

/-- The plan in which every field that is not known has its default. -/
def Known.toPlan (k : Known) : Plan :=
  { projectDir := k.projectDir.getD (.ofString Defaults.projectDir)
    buildTool := k.buildTool.getD Defaults.buildTool
    referenceCompiler := k.referenceCompiler.getD Defaults.referenceCompiler
    modules := k.modules.getD Defaults.modules }

end Plan

end Shakedown
