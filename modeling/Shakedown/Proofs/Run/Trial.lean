import Shakedown.Proofs.Run.Trace

/-!
# Trials that start and trials that do not

A trial either stops before its first stage or hands its stages to the loop. `Trial.laidOut` says
which of the two it is; it looks neither at the runner nor at the policy. `Trial.run_refused` and
`Trial.run_started` are all that is used of `Trial.run` elsewhere.
-/

set_option autoImplicit false

namespace Shakedown

namespace Trial

variable {σ : Type}

/-- The trial under another policy. -/
def withPolicy (t : Trial) (policy : FailurePolicy) : Trial :=
  { t with policy }

/-- The stages that the trial will run, or why it cannot start. -/
def laidOut (t : Trial) (m : Machine) (c : Compiler) : Except TrialError (List PlannedStage) :=
  match checkProjectDir m t.projectRoot, t.plannedStages c with
  | .error e, _ => .error (.run e)
  | .ok (), .error e => .error (.config e)
  | .ok (), .ok planned => .ok planned

/-- The policy has no part in what the stages are and whether they can start. -/
@[simp]
theorem laidOut_withPolicy (t : Trial) (policy : FailurePolicy) (m : Machine) (c : Compiler) :
    (t.withPolicy policy).laidOut m c = t.laidOut m c := rfl

/-- The report on stages that ran to the end of the loop. -/
def report (t : Trial) (c : Compiler) (stages : List StageRecord) : Report :=
  { compiler := (c.anchored t.baseDir).program
    projectDir := t.projectRoot
    policy := t.policy
    stages }

/-- A trial whose project is a directory starts whenever its stages can be laid out. -/
theorem laidOut_of_isDirectory {t : Trial} {m : Machine} {c : Compiler}
    {planned : List PlannedStage} (hdir : m.isDirectory t.projectRoot = true)
    (hplanned : t.plannedStages c = .ok planned) : t.laidOut m c = .ok planned := by
  have hexists : m.pathExists t.projectRoot = true := by
    unfold Machine.isDirectory at hdir
    unfold Machine.pathExists
    cases hstat : m.tree.stat m.cwd t.projectRoot with
    | ok found => rfl
    | error fault => simp [hstat] at hdir
  have hcheck : checkProjectDir m t.projectRoot = .ok () := by
    simp [checkProjectDir, hexists, hdir]
  simp [laidOut, hcheck, hplanned]

/-- The stages of a trial that starts are those of its plan. -/
theorem plannedStages_of_laidOut {t : Trial} {m : Machine} {c : Compiler}
    {planned : List PlannedStage} (h : t.laidOut m c = .ok planned) :
    t.plannedStages c = .ok planned := by
  unfold laidOut at h
  split at h
  · cases h
  · cases h
  · next hplanned =>
    cases h
    exact hplanned

/-- A trial that cannot start says why and leaves the runner alone. -/
theorem run_refused {t : Trial} {m : Machine} {c : Compiler} {e : TrialError}
    (h : t.laidOut m c = .error e) (run : Runner σ) (s : σ) :
    t.run m run c s = ⟨.error e, [], s⟩ := by
  unfold laidOut at h
  unfold Trial.run
  split at h
  · next hcheck =>
    cases h
    simp [hcheck]
  · next hcheck hplanned =>
    cases h
    simp [hcheck, hplanned]
  · cases h

/-- A trial that starts runs its stages and reports on them. -/
theorem run_started {t : Trial} {m : Machine} {c : Compiler} {planned : List PlannedStage}
    (h : t.laidOut m c = .ok planned) (run : Runner σ) (s : σ) :
    t.run m run c s =
      { verdict := .ok (t.report c (runStages t.policy run t.projectRoot planned s).1)
        events := openingEvents m t (c.anchored t.baseDir).program planned.length ++
          (runStages t.policy run t.projectRoot planned s).2.1
        state := (runStages t.policy run t.projectRoot planned s).2.2 } := by
  unfold laidOut at h
  unfold Trial.run
  split at h
  · cases h
  · cases h
  · next hcheck hplanned =>
    cases h
    simp [hcheck, hplanned, report]

/-! ## The log of a trial -/

/-- The calls that a trial makes, as its runner logs them. -/
def log (t : Trial) (m : Machine) (run : Runner σ) (c : Compiler) (s : σ) : List (Call σ) :=
  (t.run m run.logging c (s, [])).state.2

/-- Keeping a log changes nothing else. -/
theorem run_logging (t : Trial) (m : Machine) (run : Runner σ) (c : Compiler) (s : σ) :
    t.run m run.logging c (s, []) =
      { verdict := (t.run m run c s).verdict
        events := (t.run m run c s).events
        state := ((t.run m run c s).state, t.log m run c s) } := by
  unfold log
  cases h : t.laidOut m c with
  | error e => rw [run_refused h, run_refused h]
  | ok planned => rw [run_started h, run_started h, runStages_logging]

/-- A trial that cannot start makes no call. -/
theorem log_refused {t : Trial} {m : Machine} {c : Compiler} {e : TrialError}
    (h : t.laidOut m c = .error e) (run : Runner σ) (s : σ) : t.log m run c s = [] := by
  rw [log, run_refused h]

/-- A trial that starts makes the calls that its policy lets it make. -/
theorem log_started {t : Trial} {m : Machine} {c : Compiler} {planned : List PlannedStage}
    (h : t.laidOut m c = .ok planned) (run : Runner σ) (s : σ) :
    t.log m run c s = t.policy.issued (run.calls t.projectRoot planned s) := by
  rw [log, run_started h, runStages_logging]
  rfl

/-- In the end the runner is where the calls of the trial left it. -/
theorem state_run (t : Trial) (m : Machine) (run : Runner σ) (c : Compiler) (s : σ) :
    (t.run m run c s).state = Call.stateAfter s (t.log m run c s) := by
  cases h : t.laidOut m c with
  | error e =>
    rw [run_refused h, log_refused h]
    rfl
  | ok planned =>
    rw [run_started h, log_started h]
    exact runStages_state planned s

end Trial

end Shakedown
