import Shakedown.Path.Basic
import Shakedown.Plan.Module

/-!
# Plans

A plan says which toolchain project is built, with which build tool and reference compiler, and
which of its modules the compiler under test compiles. Every field has a default, so the empty plan
file describes the curated run.
-/

set_option autoImplicit false

namespace Shakedown

/-! ## Values that hold where nothing else is said -/

namespace Defaults

/-- Directory of the toolchain project. -/
def projectDir : String := "chibicc"

/-- Build tool of the project. -/
def buildTool : String := "make"

/-- Compiler of the reference builds. -/
def referenceCompiler : String := "gcc"

/-- Variable from which the build tool takes its compiler. -/
def referenceVariable : String := "CC"

/-- Target that removes what earlier runs left. -/
def cleanTarget : String := "clean"

/-- Target that runs the test suite. -/
def testTarget : String := "test"

/-- Optimization level of the curated modules. -/
def optimizationLevel : String := "1"

/-- Exit code of a run without a usable test outcome. -/
def failureExitCode : Int32 := 1

/-- Bytes kept of each captured stream. -/
def captureLimit : Nat := 65536

/-- The curated modules. `tokenize.c` is not supported yet and stays in the list, switched off. -/
def modules : List ModuleEntry :=
  [⟨"unicode.c", true, .optimize optimizationLevel⟩,
    ⟨"hashmap.c", true, .optimize optimizationLevel⟩,
    ⟨"type.c", true, .optimize optimizationLevel⟩,
    ⟨"strings.c", true, .dumpIr "."⟩,
    ⟨"tokenize.c", false, .plain⟩]

end Defaults

/-! ## Plans and overrides -/

/-- What a run builds, and with what. -/
structure Plan where
  /-- The toolchain project, relative to the starting directory. -/
  projectDir : Path := .ofString Defaults.projectDir
  /-- The build tool. -/
  buildTool : String := Defaults.buildTool
  /-- The compiler pinned for the reference builds. -/
  referenceCompiler : String := Defaults.referenceCompiler
  /-- The modules, in the order in which they are compiled. -/
  modules : List ModuleEntry := Defaults.modules
  deriving DecidableEq, Repr

instance : Inhabited Plan := ⟨{}⟩

/-- Fields of a plan replaced for one run. -/
structure Overrides where
  /-- Another project directory. -/
  projectDir : Option Path := none
  /-- Another build tool. -/
  buildTool : Option String := none
  /-- Another reference compiler. -/
  referenceCompiler : Option String := none
  deriving DecidableEq, Repr

namespace Plan

/-- The plan with every given override in place of its field. -/
def override (p : Plan) (o : Overrides) : Plan :=
  { p with
    projectDir := o.projectDir.getD p.projectDir
    buildTool := o.buildTool.getD p.buildTool
    referenceCompiler := o.referenceCompiler.getD p.referenceCompiler }

/-- The modules that are compiled, in list order. -/
def enabledModules (p : Plan) : List ModuleEntry :=
  p.modules.filter (·.enabled)

end Plan

end Shakedown
