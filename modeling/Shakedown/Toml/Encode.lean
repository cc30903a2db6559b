import Shakedown.Path.Basic
import Shakedown.Plan.Basic

/-!
# Writing plans as TOML

A plan is written with its three texts first, then one section for each module. A text is written in
the plainest of the four ways to quote it that shows it without escapes; only if there is none are
escapes used.
-/

set_option autoImplicit false

namespace Shakedown

namespace Toml

/-! ## Texts -/

/-- The ways to quote a text. -/
inductive Quoting where
  /-- `"…"` -/
  | basic
  /-- `'…'` -/
  | literal
  /-- `"""…"""` -/
  | basicLines
  /-- `'''…'''` -/
  | literalLines
  deriving DecidableEq, Repr

/-- The length of the longest run of a character, counting on from a run under way. -/
def longestRun (c : Char) : Nat → List Char → Nat
  | run, [] => run
  | run, x :: more => if x = c then longestRun c (run + 1) more else max run (longestRun c 0 more)

/-- Whether a character shows only as an escape: an ASCII control character other than the tab and
the newline. -/
def needsEscape (c : Char) : Bool :=
  c ≠ '\t' && c ≠ '\n' && (c.toNat < 0x20 || c.toNat = 0x7F)

/-- The way in which a text is quoted. -/
def Quoting.of (s : List Char) : Quoting :=
  let control := s.any needsEscape
  let newline := s.contains '\n'
  let backslash := s.contains '\\'
  let quotes := longestRun '"' 0 s
  let apostrophes := longestRun '\'' 0 s
  if !control && !backslash && quotes = 0 && !newline then .basic
  else if !control && apostrophes = 0 && !newline then .literal
  else if !control && !backslash && quotes ≤ 2 then .basicLines
  else if !control && apostrophes ≤ 2 then .literalLines
  else if newline then .basicLines
  else .basic

/-- The quotes of a way to quote. -/
def Quoting.quotes : Quoting → List Char
  | .basic => ['"']
  | .literal => ['\'']
  | .basicLines => ['"', '"', '"']
  | .literalLines => ['\'', '\'', '\'']

/-- Four hexadecimal digits in capital letters. -/
def capitalHex4 (n : Nat) : List Char :=
  [n / 4096 % 16, n / 256 % 16, n / 16 % 16, n % 16].map fun d => (Nat.digitChar d).toUpper

/-- A character of a basic text that is no quote. -/
def escapeChar (multiline : Bool) (c : Char) : List Char :=
  if c = '\x08' then ['\\', 'b']
  else if c = '\t' then ['\\', 't']
  else if c = '\n' then (if multiline then ['\n'] else ['\\', 'n'])
  else if c = '\x0c' then ['\\', 'f']
  else if c = '\r' then ['\\', 'r']
  else if c = '\\' then ['\\', '\\']
  else if needsEscape c then '\\' :: 'u' :: capitalHex4 c.toNat
  else [c]

/-- A basic text. The quote after `allowed` quotes in a row is escaped. -/
def escapeText (allowed : Nat) : Nat → List Char → List Char
  | _, [] => []
  | run, c :: more =>
    if c = '"' then
      if allowed ≤ run then '\\' :: '"' :: escapeText allowed 0 more
      else '"' :: escapeText allowed (run + 1) more
    else escapeChar (allowed ≠ 0) c ++ escapeText allowed 0 more

/-- The inside of a quoted text. -/
def Quoting.body : Quoting → List Char → List Char
  | .basic, s => escapeText 0 0 s
  | .literal, s => s
  | .basicLines, s => (if s.contains '\n' then ['\n'] else []) ++ escapeText 2 0 s
  | .literalLines, s => (if s.contains '\n' then ['\n'] else []) ++ s

/-- A text quoted in a given way. -/
def Quoting.write (q : Quoting) (s : List Char) : List Char :=
  q.quotes ++ q.body s ++ q.quotes

/-- A quoted text. -/
def writeText (s : String) : List Char :=
  (Quoting.of s.toList).write s.toList

/-! ## Sections -/

/-- A line that gives a key its value. -/
def assignLine (key : String) (written : List Char) : List Char :=
  key.toList ++ [' ', '=', ' '] ++ written ++ ['\n']

/-- A line that gives a key a text. -/
def textLine (key value : String) : List Char :=
  assignLine key (writeText value)

/-- A line with a header, after an empty line. -/
def headerLine (header : String) : List Char :=
  '\n' :: (header.toList ++ ['\n'])

/-- A written truth value. -/
def writeBool (b : Bool) : List Char :=
  if b then ['t', 'r', 'u', 'e'] else ['f', 'a', 'l', 's', 'e']

end Toml

/-- The lines of an option. -/
def CompileFlags.toToml : CompileFlags → List Char
  | .optimize level =>
    Toml.headerLine "[modules.flags]" ++ Toml.textLine "optimize" level
  | .dumpIr directory =>
    Toml.headerLine "[modules.flags]" ++ Toml.textLine "dump_ir" directory
  | .plain => Toml.textLine "flags" "plain"

/-- The section of a module. -/
def ModuleEntry.toToml (m : ModuleEntry) : List Char :=
  Toml.headerLine "[[modules]]" ++ Toml.textLine "source" m.source ++
    Toml.assignLine "enabled" (Toml.writeBool m.enabled) ++ m.flags.toToml

/-- The lines of a module list. -/
def ModuleEntry.listToToml (modules : List ModuleEntry) : List Char :=
  if modules.isEmpty then Toml.assignLine "modules" ['[', ']']
  else modules.flatMap ModuleEntry.toToml

/-- The text of a plan. -/
def Plan.toToml (p : Plan) : Except WriteError String :=
  match p.projectDir.writable with
  | .error e => .error e
  | .ok directory =>
    .ok (String.ofList
      (Toml.textLine "project_dir" directory ++ Toml.textLine "build_tool" p.buildTool ++
        Toml.textLine "reference_compiler" p.referenceCompiler ++
        ModuleEntry.listToToml p.modules))

end Shakedown
