import Shakedown.CommandLine.Basic
import Shakedown.Console.Terminal

/-!
# Help, version and usage

The texts are styled; what is written of them depends on the environment, see `Terminal.written`.
-/

set_option autoImplicit false

namespace Shakedown

namespace CommandLine

/-- The usage line. -/
def usage : String :=
  Terminal.heading "Usage:" ++ " " ++ Terminal.bold "ccgauntlet" ++ " [OPTIONS] <COMPILER>\n"

/-- The version line. -/
def versionText : String :=
  "ccgauntlet 0.1.0\n"

/-- Where the descriptions of the options start. -/
def helpColumn : Nat := 30

/-- A text in the column of the descriptions. -/
def inHelpColumn (s : String) : String :=
  String.ofList (s.toList.flatMap fun c =>
    if c = '\n' then '\n' :: List.replicate helpColumn ' ' else [c])

/-- The note on an environment variable and its value. -/
def variableNote (env : Environment) (name : String) : String :=
  let value := (env.get? (Utf8.bytes name)).getD []
  inHelpColumn (" [env: " ++ name ++ "=" ++ (Path.mk value).display ++ "]") ++ "\n"

/-- The line of an option: its spellings, the name of its value or the sign that it may be repeated,
and its description. The letters before the description fill the column. -/
def optionLine (short : Option Char) (long suffix description : String) : String :=
  let first := match short with
    | some c => Terminal.bold (String.ofList ['-', c]) ++ ", "
    | none => "    "
  let width := "  -x, --".length + long.length + suffix.length
  let gap := String.ofList (List.replicate (helpColumn - width) ' ')
  "  " ++ first ++ Terminal.bold ("--" ++ long) ++ suffix ++ gap ++ description

/-- The help text, the environment's values shown in it. -/
def helpText (env : Environment) : String :=
  "Build-and-validate harness that runs a C compiler under test against a toolchain project\n\n"
  ++ usage
  ++ "\n" ++ Terminal.heading "Arguments:" ++ "\n"
  ++ "  <COMPILER>  Compiler under test (name on PATH or path to an executable)\n"
  ++ "\n" ++ Terminal.heading "Options:" ++ "\n"
  ++ optionLine none "plan" " <FILE>" "Plan file describing the project and module list"
  ++ variableNote env "CCGAUNTLET_PLAN"
  ++ optionLine (some 'C') "project-dir" " <DIR>"
    "Toolchain project directory (overrides the plan)\n"
  ++ optionLine none "build-tool" " <PROGRAM>" "Build system executable (overrides the plan)\n"
  ++ optionLine none "reference-cc" " <CC>"
    "Host compiler for the reference builds (overrides the plan)"
  ++ variableNote env "CCGAUNTLET_REFERENCE_CC"
  ++ optionLine none "fail-fast" ""
    "Stop at the first failing stage instead of pressing on to the tests\n"
  ++ optionLine none "dry-run" ""
    "Print the invocations that would run, without running them\n"
  ++ optionLine (some 'v') "verbose" "..."
    "Enable verbose output (-v for info, -vv for debug)\n"
  ++ optionLine (some 'q') "quiet" "" "Suppress the run summary\n"
  ++ optionLine none "json" ""
    "Output the run report as JSON (child output is captured into it)\n"
  ++ optionLine (some 'h') "help" "" "Print help\n"
  ++ optionLine (some 'V') "version" "" "Print version\n"

end CommandLine

namespace UsageError

/-- What is said about a mistake in the command line. -/
def message : UsageError → String
  | .missingCompiler => "error: the compiler under test is missing\n"
  | .unknownArgument => "error: unexpected argument\n"
  | .invalidValue => "error: a value is required\n"
  | .conflict => "error: an argument cannot be used with another\n"
  | .unwantedValue => "error: unexpected value\n"
  | .notText => "error: invalid UTF-8\n"
  | .help => ""
  | .version => ""

/-- Whether the usage line is shown with the error. A bad value has a message that says enough. -/
def showsUsage (e : UsageError) : Bool :=
  e.isMistake && e ≠ .invalidValue

/-- What goes to the error output. -/
def complaint (e : UsageError) : String :=
  e.message ++ (if e.showsUsage then "\n" ++ CommandLine.usage else "")

/-- What goes to the output. -/
def reply (env : Environment) : UsageError → String
  | .help => CommandLine.helpText env
  | .version => CommandLine.versionText
  | _ => ""

end UsageError

end Shakedown
