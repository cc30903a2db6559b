import Shakedown.Path.Segments
import Shakedown.Text.Utf8

/-!
# Byte paths

A path as the operating system has it: any bytes, not only text. It is shown by the lossy reading.
Documents hold text, so that a path that is not text cannot be written into one.
-/

set_option autoImplicit false

namespace Shakedown

/-- A path, byte for byte. -/
structure Path where
  /-- The bytes of the path. -/
  bytes : Bytes
  deriving DecidableEq, Repr

namespace Path

/-- The path that a text names. -/
def ofString (s : String) : Path :=
  ⟨Utf8.encode s.toList⟩

/-- The path as shown to a reader. -/
def display (p : Path) : String :=
  String.ofList (Utf8.decodeLossy p.bytes)

/-- The path as a text, if it is one. -/
def text? (p : Path) : Option String :=
  (Utf8.decode? p.bytes).map String.ofList

/-- Whether the path starts at the root. -/
def isAbsolute (p : Path) : Bool :=
  PathLetter.isAbsolute p.bytes

/-- `p` taken from `base`. -/
def join (base p : Path) : Path :=
  ⟨PathLetter.join base.bytes p.bytes⟩

/-- The components of the path. -/
def components (p : Path) : List (PathLetter.Component UInt8) :=
  PathLetter.components p.bytes

end Path

/-- Why a value has no written form. -/
inductive WriteError where
  /-- A path is not text. -/
  | pathNotText
  deriving DecidableEq, Repr

/-- The wording of a refusal to write. -/
def WriteError.message : WriteError → String
  | .pathNotText => "path contains invalid UTF-8 characters"

/-- The text of a path, if it can be written. -/
def Path.writable (p : Path) : Except WriteError String :=
  match p.text? with
  | some s => .ok s
  | none => .error .pathNotText

end Shakedown
