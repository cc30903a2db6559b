import Mathlib.Tactic.ByContra
import Shakedown.Proofs.Run.Trial
import Shakedown.Proofs.Stage.Layout
import Shakedown.Session.Execute

/-!
# The verdict of a session

A session ends with an exit code or with an error. Whatever goes wrong before the first stage ends
it with an error and leaves the runner alone. Once stages run their report decides the exit code,
with one exception: a report that goes into a document has to name the project directory there, and
a directory that is not text cannot be named. `error_only_before_stages_iff` says that this is the
only exception, and `unnamed_directory_hides_verdict` shows a session in which every stage succeeds
and the exit code is lost. Both speak of the log of a session, the calls that its stages make;
`execute_logging` ties it to the session itself, as what a runner that keeps a log has in the end.
-/

set_option autoImplicit false

namespace Shakedown

namespace FailurePolicy

/-- No policy keeps a run from its first call. -/
theorem issued_ne_nil {σ : Type} (policy : FailurePolicy) {calls : List (Call σ)}
    (h : calls ≠ []) : policy.issued calls ≠ [] := by
  cases policy with
  | keepGoing => exact h
  | haltOnFailure =>
    cases calls with
    | nil => exact absurd rfl h
    | cons c more => simp [issued]

end FailurePolicy

/-- A trial that starts makes at least one call. -/
theorem Trial.log_ne_nil {σ : Type} {t : Trial} {m : Machine} {c : Compiler}
    {planned : List PlannedStage} (h : t.laidOut m c = .ok planned) (run : Runner σ) (s : σ) :
    t.log m run c s ≠ [] := by
  rw [Trial.log_started h]
  apply FailurePolicy.issued_ne_nil
  obtain ⟨compiles, -, rfl⟩ := Plan.stages_eq_ok.1 (Trial.plannedStages_of_laidOut h)
  simp [Runner.calls]

/-- A report can be written unless it is to name a directory that is not text. -/
theorem Session.conclude_verdict (r : Report) (settings : OutputSettings) :
    (Session.conclude r settings).1 =
      if settings.json = true ∧ r.projectDir.text? = none then .error (.output .pathNotText)
      else .ok r.exitCode := by
  unfold Session.conclude Report.shown Report.toJson Path.writable
  cases settings.json with
  | false => cases settings.quiet <;> simp
  | true => cases r.projectDir.text? <;> simp

namespace Session

variable {σ : Type}

/-- The session gets as far as its stages: `planned`, of the trial `t` with the compiler `c`. -/
structure Starts (s : Session) (m : Machine) (c : Compiler) (t : Trial)
    (planned : List PlannedStage) : Prop where
  /-- The stages are not only listed. -/
  runs : s.dryRun = false
  /-- The starting directory, the compiler and the plan are there. -/
  prepared : s.prepare m = .ok (c, t)
  /-- The project is a directory, and the stages can be laid out. -/
  laidOut : t.laidOut m c = .ok planned

/-- The calls that a session makes, as its runner logs them. -/
def log (s : Session) (m : Machine) (run : Runner σ) (settings : OutputSettings) (state : σ) :
    List (Call σ) :=
  (s.execute m run.logging settings (state, [])).state.2

/-- A session that starts makes the calls of its trial. -/
theorem log_started {s : Session} {m : Machine} {c : Compiler} {t : Trial}
    {planned : List PlannedStage} (h : s.Starts m c t planned) (run : Runner σ)
    (settings : OutputSettings) (state : σ) :
    s.log m run settings state = t.log m run c state := by
  simp [log, execute, h.prepared, h.runs, runStages, Trial.log]

/-- A session that starts ends with what can be said of its report. -/
theorem verdict_started {s : Session} {m : Machine} {c : Compiler} {t : Trial}
    {planned : List PlannedStage} (h : s.Starts m c t planned) {run : Runner σ} {state : σ}
    {r : Report} (hr : (t.run m run c state).verdict = .ok r) (settings : OutputSettings) :
    (s.execute m run settings state).verdict = (conclude r settings).1 := by
  simp [execute, h.prepared, h.runs, runStages, hr]

/-- A session that does not start makes no call. -/
theorem log_not_started {s : Session} {m : Machine} (h : ¬∃ c t planned, s.Starts m c t planned)
    (run : Runner σ) (settings : OutputSettings) (state : σ) :
    s.log m run settings state = [] := by
  unfold log execute
  cases hprepare : s.prepare m with
  | error e => rfl
  | ok prepared =>
    obtain ⟨c, t⟩ := prepared
    cases hdry : s.dryRun with
    | true => rfl
    | false =>
      cases hstart : t.laidOut m c with
      | ok planned => exact absurd ⟨c, t, planned, hdry, hprepare, hstart⟩ h
      | error e => exact Trial.log_refused hstart run state

/-- A session that makes a call has started. -/
theorem starts_of_log_ne_nil {s : Session} {m : Machine} {run : Runner σ}
    {settings : OutputSettings} {state : σ} (h : s.log m run settings state ≠ []) :
    ∃ c t planned, s.Starts m c t planned := by
  by_contra hno
  exact h (log_not_started hno run settings state)

/-- A session that starts attempts a stage. The report of its run decides the exit code, unless the
report has to name a directory that is not text. -/
theorem concludes_of_starts {s : Session} {m : Machine} {c : Compiler} {t : Trial}
    {planned : List PlannedStage} (h : s.Starts m c t planned) (run : Runner σ)
    (settings : OutputSettings) (state : σ) :
    s.log m run settings state ≠ [] ∧
      ∃ report, (t.run m run c state).verdict = .ok report ∧
        (s.execute m run settings state).verdict =
          if settings.json = true ∧ t.projectRoot.text? = none then .error (.output .pathNotText)
          else .ok report.exitCode := by
  have hreport : (t.run m run c state).verdict = .ok
      (t.report c (Shakedown.runStages t.policy run t.projectRoot planned state).1) := by
    rw [Trial.run_started h.laidOut]
  refine ⟨?_, _, hreport, ?_⟩
  · rw [log_started h]
    exact Trial.log_ne_nil h.laidOut run state
  · rw [verdict_started h hreport, conclude_verdict]
    rfl

/-- Keeping a log changes nothing else about a session. -/
theorem execute_logging (s : Session) (m : Machine) (run : Runner σ) (settings : OutputSettings)
    (state : σ) :
    s.execute m run.logging settings (state, []) =
      { verdict := (s.execute m run settings state).verdict
        shown := (s.execute m run settings state).shown
        events := (s.execute m run settings state).events
        state := ((s.execute m run settings state).state, s.log m run settings state) } := by
  unfold log execute
  cases s.prepare m with
  | error e => rfl
  | ok prepared =>
    obtain ⟨c, t⟩ := prepared
    cases s.dryRun with
    | true => rfl
    | false => simp [runStages, Trial.run_logging]

/-- An error means that no stage was attempted, unless a report has to name a project directory that
is not text. Where a stage was attempted, the report of the run decides the exit code, with that one
exception. -/
theorem error_only_before_stages_iff (s : Session) (m : Machine) (run : Runner σ)
    (settings : OutputSettings) (state : σ) :
    (((∃ e, (s.execute m run settings state).verdict = .error e) →
          s.log m run settings state = []) ↔
        ¬(settings.json = true ∧
          ∃ c t planned, s.Starts m c t planned ∧ t.projectRoot.text? = none)) ∧
      (s.log m run settings state ≠ [] →
        ∃ c t planned report, s.Starts m c t planned ∧ (t.run m run c state).verdict = .ok report ∧
          (s.execute m run settings state).verdict =
            if settings.json = true ∧ t.projectRoot.text? = none then .error (.output .pathNotText)
            else .ok report.exitCode) := by
  constructor
  · constructor
    · rintro honly ⟨hjson, c, t, planned, h, htext⟩
      obtain ⟨hlog, report, -, hverdict⟩ := concludes_of_starts h run settings state
      rw [if_pos ⟨hjson, htext⟩] at hverdict
      exact hlog (honly ⟨_, hverdict⟩)
    · rintro hnamed ⟨e, he⟩
      by_contra hlog
      obtain ⟨c, t, planned, h⟩ := starts_of_log_ne_nil hlog
      obtain ⟨-, report, -, hverdict⟩ := concludes_of_starts h run settings state
      have htext : ¬(settings.json = true ∧ t.projectRoot.text? = none) :=
        fun ht => hnamed ⟨ht.1, c, t, planned, h, ht.2⟩
      rw [if_neg htext, he] at hverdict
      cases hverdict
  · intro hlog
    obtain ⟨c, t, planned, h⟩ := starts_of_log_ne_nil hlog
    obtain ⟨-, report, hreport, hverdict⟩ := concludes_of_starts h run settings state
    exact ⟨c, t, planned, report, h, hreport, hverdict⟩

/-! ## A session whose exit code is lost -/

namespace Unnamed

/-- A machine with the directory `/w` and a directory in it whose name is not text. -/
def machine : Machine :=
  { tree :=
      { nodes := [([[0x77]], FileTree.plainDirectory), ([[0x77], [0xFF]], FileTree.plainDirectory)] }
    cwd := [[0x77]]
    env := [] }

/-- A session in that directory. -/
def session : Session :=
  { compiler := "cc", overrides := { projectDir := some ⟨[0xFF]⟩ } }

/-- A runner for which every command succeeds. -/
def runner : Runner Unit :=
  fun _ _ state => ({ answer := .ok (.exited 0) }, state)

end Unnamed

/-- All eight stages of the session succeed. As status lines the run ends with the exit code 0, as a
document it ends with an error. -/
theorem unnamed_directory_hides_verdict :
    (Unnamed.session.log Unnamed.machine Unnamed.runner { json := true } ()).length = 8 ∧
      (∀ call ∈ Unnamed.session.log Unnamed.machine Unnamed.runner { json := true } (),
        call.failed = false) ∧
      (Unnamed.session.execute Unnamed.machine Unnamed.runner {} ()).verdict = .ok 0 ∧
      (Unnamed.session.execute Unnamed.machine Unnamed.runner { json := true } ()).verdict =
        .error (.output .pathNotText) := by
  decide

end Session

end Shakedown
