import Shakedown.Run.Event
import Shakedown.Session.Basic

/-!
# The command line

What can be asked for on the command line, why a command line is refused, and the session that an
accepted one stands for.
-/

set_option autoImplicit false

namespace Shakedown

/-- An option that takes a value. -/
inductive Parameter where
  /-- The plan file. -/
  | plan
  /-- The project directory. -/
  | projectDir
  /-- The build tool. -/
  | buildTool
  /-- The reference compiler. -/
  | referenceCompiler
  deriving DecidableEq, Repr

/-- An option without a value. -/
inductive Flag where
  /-- Stop at the first failed stage. -/
  | failFast
  /-- List the stages only. -/
  | dryRun
  /-- More detail. -/
  | verbose
  /-- No summary. -/
  | quiet
  /-- The report as a document. -/
  | json
  /-- The help text. -/
  | help
  /-- The version. -/
  | version
  deriving DecidableEq, Repr

/-- Why a command line gives no session. The last two are no mistakes. -/
inductive UsageError where
  /-- No compiler is named. -/
  | missingCompiler
  /-- An argument that means nothing. -/
  | unknownArgument
  /-- An empty value, or none, where there must be one. -/
  | invalidValue
  /-- Two arguments that exclude each other. -/
  | conflict
  /-- A value for an option that takes none. -/
  | unwantedValue
  /-- A value that must be text and is not. -/
  | notText
  /-- The help text was asked for. -/
  | help
  /-- The version was asked for. -/
  | version
  deriving DecidableEq, Repr

/-- Whether the error is a mistake in the command line. -/
def UsageError.isMistake : UsageError → Bool
  | .help => false
  | .version => false
  | _ => true

/-- The exit code after a command line without a session. -/
def UsageError.exitCode (e : UsageError) : Int32 :=
  if e.isMistake then 2 else 0

/-- An accepted command line. -/
structure CommandLine where
  /-- The compiler under test. -/
  compiler : String
  /-- The plan file. -/
  plan : Option Path := none
  /-- The project directory. -/
  projectDir : Option Path := none
  /-- The build tool. -/
  buildTool : Option String := none
  /-- The reference compiler. -/
  referenceCompiler : Option String := none
  /-- Stop at the first failed stage. -/
  failFast : Bool := false
  /-- List the stages only. -/
  dryRun : Bool := false
  /-- How often more detail is asked for. -/
  verbose : UInt8 := 0
  /-- No summary. -/
  quiet : Bool := false
  /-- The report as a document. -/
  json : Bool := false
  deriving DecidableEq, Repr

namespace CommandLine

/-- How output is shown. -/
def output (c : CommandLine) : OutputSettings :=
  { quiet := c.quiet, json := c.json, verbose := c.verbose }

/-- The session that is asked for. -/
def session (c : CommandLine) : Session :=
  { compiler := c.compiler
    planFile := c.plan
    overrides :=
      { projectDir := c.projectDir
        buildTool := c.buildTool
        referenceCompiler := c.referenceCompiler }
    policy := if c.failFast then .haltOnFailure else .keepGoing
    dryRun := c.dryRun }

end CommandLine

end Shakedown
