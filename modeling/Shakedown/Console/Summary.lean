import Shakedown.Json.Encode
import Shakedown.Run.Event

/-!
# What is shown to the reader

The summary of a report, the list of stages of a run that was only planned, and the description of
a failure with its causes. The first two can be shown as status lines or as JSON documents. JSON
wins over quiet, and a plan is shown even when quiet was asked for.
-/

set_option autoImplicit false

namespace Shakedown

/-! ## Status signs -/

namespace Sign

/-- All went well. -/
def success : String := "✓"

/-- Something failed. -/
def failure : String := "✗"

/-- Nothing was attempted. -/
def skipped : String := "–"

/-- The result is good, but something on the way was not. -/
def warning : String := "⚠"

end Sign

/-- A line of output. -/
def line (s : String) : String :=
  s ++ "\n"

/-- A list of lines as one text. -/
def concatLines (lines : List String) : String :=
  (lines.map line).foldr (· ++ ·) ""

/-! ## Reports -/

/-- How long a stage took. -/
def StageRecord.duration (r : StageRecord) : String :=
  "(" ++ r.durationMs.toNat.repr ++ " ms)"

/-- The status line of a stage. -/
def StageRecord.statusLine (r : StageRecord) : String :=
  match r.outcome with
  | .succeeded => Sign.success ++ " " ++ r.stage.render ++ " " ++ r.duration
  | .failed (some code) =>
    Sign.failure ++ " " ++ r.stage.render ++ ": exit code " ++ code.toInt.repr ++ " " ++ r.duration
  | .failed none =>
    Sign.failure ++ " " ++ r.stage.render ++ ": terminated by signal " ++ r.duration
  | .spawnFailed error =>
    Sign.failure ++ " " ++ r.stage.render ++ ": could not run '" ++ r.invocation.program ++ "': "
      ++ error
  | .skipped => Sign.skipped ++ " " ++ r.stage.render ++ ": skipped"

/-- The closing line of a report: whether the tests passed, and whether anything else failed. -/
def Report.closingLine (r : Report) : String :=
  if r.succeeded then
    match r.failedStages.length with
    | 0 => Sign.success ++ " Tests passed with '" ++ r.compiler ++ "'"
    | n + 1 =>
      Sign.warning ++ " Tests passed with '" ++ r.compiler ++ "' (" ++ (n + 1).repr
        ++ " earlier stage(s) failed)"
  else Sign.failure ++ " Tests did not pass with '" ++ r.compiler ++ "'"

/-- The status lines of a report. -/
def Report.summary (r : Report) : String :=
  concatLines (["", "Stages run in " ++ r.projectDir.display ++ ":"]
    ++ r.stages.map (fun s => "  " ++ s.statusLine) ++ [r.closingLine])

/-- What is shown of a report. -/
def Report.shown (r : Report) (settings : OutputSettings) : Except WriteError String :=
  if settings.json then
    match r.toJson with
    | .ok v => .ok (line v.toPretty)
    | .error e => .error e
  else if settings.quiet then .ok ""
  else .ok r.summary

/-! ## Plans -/

/-- A number in a column at least two wide. -/
def columnOfTwo (n : Nat) : String :=
  if n < 10 then " " ++ n.repr else n.repr

/-- Stages in order, numbered from `first`. -/
def numbered (first : Nat) : List PlannedStage → List String
  | [] => []
  | p :: more =>
    ("  " ++ columnOfTwo first ++ ". " ++ p.stage.render ++ ": " ++ p.invocation.render)
      :: numbered (first + 1) more

/-- What is shown of stages that would run in the directory `root`. -/
def showPlanned (stages : List PlannedStage) (root : Path) (settings : OutputSettings) : String :=
  if settings.json then line (PlannedStage.listToJson stages).toPretty
  else concatLines (("Would run in " ++ root.display ++ ":") :: numbered 1 stages)

/-! ## Failures -/

/-- What is shown of a failure: its message, then the messages of its causes. -/
def showFailure : List String → String
  | [] => ""
  | message :: causes =>
    concatLines ((Sign.failure ++ " Error: " ++ message)
      :: causes.map fun c => "  Caused by: " ++ c)

end Shakedown
