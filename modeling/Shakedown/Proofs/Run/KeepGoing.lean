import Mathlib.Data.List.Forall2
import Shakedown.Proofs.Run.Trial
import Shakedown.Proofs.Stage.Layout
import Shakedown.Session.Execute

/-!
# Runs that attempt every stage

Under the policy `keepGoing` nothing that a runner answers stops a run or reorders it. `CompleteRun`
says what such a run leaves behind, and `keepGoing_completeRun` that every run which can start
leaves it behind, whatever the runner does.

The proof is short because `Trace` has done the induction: the records are those of the calls, and
the calls are those of the planned stages.
-/

set_option autoImplicit false

namespace Shakedown

/-- A record tells of a planned stage what the runner answered. -/
structure StageRecord.Tells (r : StageRecord) (p : PlannedStage) (a : Answer) : Prop where
  /-- The record is about that stage. -/
  stage : r.stage = p.stage
  /-- It carries the command of that stage. -/
  invocation : r.invocation = p.invocation
  /-- What is called a success is one, whatever the exit code. -/
  succeeded : ∀ done, a = .ok done → done.success = true → r.outcome = .succeeded
  /-- Any other end is a failure with the exit code, if there is one. -/
  failed : ∀ done, a = .ok done → done.success = false → r.outcome = .failed done.code
  /-- Captured output is kept as it came. -/
  captured : ∀ done, a = .ok done → r.stdout = done.stdout ∧ r.stderr = done.stderr
  /-- A command that was not started leaves the reason and no output. -/
  notStarted : ∀ e, a = .error e → r.outcome = .spawnFailed e ∧ r.stdout = none ∧ r.stderr = none

/-- What a run leaves behind that handed all of `planned` to a runner in the state `s`. -/
structure CompleteRun {σ : Type} (root : Path) (planned : List PlannedStage) (run : Runner σ)
    (s : σ) (calls : List (Call σ)) (report : Report) : Prop where
  /-- Every call is answered in the state in which the call before left the runner. -/
  chained : run.Chained s calls
  /-- There is one call for every stage, in order, and each is made in the project. -/
  asked : calls.map (fun c => (c.invocation, c.directory)) =
    planned.map (fun p => (p.invocation, root))
  /-- There is one record for every stage, in order, and each tells what its call answered. -/
  told : List.Forall₂ (fun pc r => StageRecord.Tells r pc.1 pc.2.reply.answer)
    (planned.zip calls) report.stages
  /-- No stage is skipped. -/
  noneSkipped : ∀ r ∈ report.stages, r.outcome ≠ .skipped
  /-- As many stages count as attempted as there were calls. -/
  attempted : report.attemptedCount = calls.length
  /-- The report names the compiler that the compilations were done by. -/
  compiler : ∀ p ∈ planned, ∀ source, p.stage = .compile source →
    p.invocation.program = report.compiler
  /-- The report names the directory of the calls. -/
  projectDir : report.projectDir = root
  /-- The report names the policy. -/
  policy : report.policy = .keepGoing

/-- The record of an attempted stage tells what the runner answered. -/
theorem PlannedStage.tells_record (p : PlannedStage) (r : Reply) :
    (p.record r).Tells p r.answer := by
  constructor
  · rfl
  · rfl
  · intro done hdone hsuccess
    simp [PlannedStage.record, Answer.outcome, hdone, hsuccess]
  · intro done hdone hsuccess
    simp [PlannedStage.record, Answer.outcome, hdone, hsuccess]
  · intro done hdone
    simp [PlannedStage.record, Answer.stdout, Answer.stderr, hdone]
  · intro e he
    simp [PlannedStage.record, Answer.outcome, Answer.stdout, Answer.stderr, he]

/-- An answer never amounts to a skipped stage. -/
theorem Answer.outcome_ne_skipped (a : Answer) : Answer.outcome a ≠ .skipped := by
  cases a with
  | error e => simp [Answer.outcome]
  | ok done =>
    cases hsuccess : done.success <;> simp [Answer.outcome, hsuccess]

section Records

variable {σ : Type}

/-- The records of stages and their calls, pair by pair. -/
theorem forall₂_tells (planned : List PlannedStage) (calls : List (Call σ)) :
    List.Forall₂ (fun pc r => StageRecord.Tells r pc.1 pc.2.reply.answer) (planned.zip calls)
      (Call.records planned calls) := by
  unfold Call.records
  induction planned generalizing calls with
  | nil => simp
  | cons p more ih =>
    cases calls with
    | nil => simp
    | cons c rest =>
      simp only [List.zip_cons_cons, List.zipWith_cons_cons, List.forall₂_cons]
      exact ⟨p.tells_record c.reply, ih rest⟩

/-- The record of an attempted stage is not that of a skipped one. -/
theorem outcome_ne_skipped_of_mem_records {planned : List PlannedStage} {calls : List (Call σ)}
    {r : StageRecord} (h : r ∈ Call.records planned calls) : r.outcome ≠ .skipped := by
  rw [Call.records, ← List.map_uncurry_zip_eq_zipWith] at h
  obtain ⟨pc, -, rfl⟩ := List.mem_map.1 h
  exact Answer.outcome_ne_skipped _

end Records

/-- Records of which none is skipped all count as attempted. -/
theorem Report.attemptedCount_eq_length {report : Report}
    (h : ∀ r ∈ report.stages, r.outcome ≠ .skipped) :
    report.attemptedCount = report.stages.length := by
  unfold Report.attemptedCount
  rw [List.countP_eq_length]
  intro r hr
  simpa using h r hr

namespace Trial

/-- A run that attempts every stage and can start ends with a report. Its log has one call for each
planned stage, in the order in which the stages would be listed, and the report has one record for
each call. -/
theorem keepGoing_completeRun {σ : Type} (t : Trial) (m : Machine) (run : Runner σ) (c : Compiler)
    (s : σ) {planned : List PlannedStage} (hdir : m.isDirectory t.projectRoot = true)
    (hplanned : t.plannedStages c = .ok planned) :
    ∃ report : Report,
      ((t.withPolicy .keepGoing).run m run c s).verdict = .ok report ∧
        CompleteRun t.projectRoot planned run s ((t.withPolicy .keepGoing).log m run c s) report ∧
        ((t.withPolicy .keepGoing).run m run c s).state =
          Call.stateAfter s ((t.withPolicy .keepGoing).log m run c s) ∧
        report.compiler = anchor c.program t.baseDir ∧
        ∀ settings, Session.listStages t c settings =
          (.ok 0, showPlanned planned t.projectRoot settings) := by
  have hstart : (t.withPolicy .keepGoing).laidOut m c = .ok planned := by
    rw [laidOut_withPolicy]
    exact laidOut_of_isDirectory hdir hplanned
  have hlog : (t.withPolicy .keepGoing).log m run c s = run.calls t.projectRoot planned s :=
    log_started hstart run s
  have hrecords : (runStages .keepGoing run t.projectRoot planned s).1 =
      Call.records planned (run.calls t.projectRoot planned s) :=
    runStages_keepGoing_records planned s
  have hnone : ∀ r ∈ (runStages .keepGoing run t.projectRoot planned s).1,
      r.outcome ≠ .skipped := by
    intro r hr
    rw [hrecords] at hr
    exact outcome_ne_skipped_of_mem_records hr
  refine ⟨(t.withPolicy .keepGoing).report c
    (runStages .keepGoing run t.projectRoot planned s).1, ?_, ?_, state_run .., rfl, ?_⟩
  · rw [run_started hstart]
    rfl
  · rw [hlog]
    constructor
    · exact run.chained_calls t.projectRoot planned s
    · exact run.map_calls t.projectRoot planned s
    · simp only [Trial.report, hrecords]
      exact forall₂_tells planned _
    · exact hnone
    · rw [Report.attemptedCount_eq_length hnone]
      simp [Trial.report, hrecords]
    · intro p hp source hsource
      exact Plan.program_of_mem_stages hplanned hp hsource
    · rfl
    · rfl
  · intro settings
    simp [Session.listStages, hplanned]

/-! ## The same at a fixed input -/

namespace Sample

/-- A machine with the directories `/w` and `/w/p`. -/
def machine : Machine :=
  { tree :=
      { nodes := [([[0x77]], FileTree.plainDirectory), ([[0x77], [0x70]], FileTree.plainDirectory)] }
    cwd := [[0x77]]
    env := [] }

/-- A trial of the project `p` from `/w`, with one module switched on and one switched off. -/
def trial : Trial :=
  { plan :=
      { projectDir := ⟨[0x70]⟩
        modules := [⟨"lib/a.c", true, .optimize "1"⟩, ⟨"b.c", false, .plain⟩] }
    baseDir := ⟨[0x2F, 0x77]⟩ }

/-- A compiler named by a relative path. -/
def compiler : Compiler :=
  ⟨"./cc", by decide⟩

/-- The stages of the trial. -/
def planned : List PlannedStage :=
  [⟨.clean, { program := "make", args := ["clean"] }⟩,
    ⟨.referenceBuild 1, { program := "make", env := [("CC", "gcc")] }⟩,
    ⟨.compile "lib/a.c",
      { program := "/w/./cc", args := ["-c", "lib/a.c", "-o", "lib/a.o", "-O1"] }⟩,
    ⟨.referenceBuild 2, { program := "make", env := [("CC", "gcc")] }⟩,
    ⟨.test, { program := "make", args := ["test"] }⟩]

/-- A runner that counts its calls and lets most of them end badly, each in another way. -/
def runner : Runner Nat := fun _ _ count =>
  let answer : Answer := match count with
    | 0 => .ok { success := false, code := some 2 }
    | 1 => .error "not started"
    | 2 => .ok { success := true, code := some 7, stdout := some "odd" }
    | 3 => .ok { success := false, code := none }
    | _ => .ok (.exited 0)
  ({ answer }, count + 1)

end Sample

/-- The run of the sample is complete although a call fails, one is not started, and one is killed
by a signal. -/
theorem keepGoing_completeRun_sample :
    Sample.machine.isDirectory Sample.trial.projectRoot = true ∧
      Sample.trial.plannedStages Sample.compiler = .ok Sample.planned ∧
      ∃ report : Report,
        ((Sample.trial.withPolicy .keepGoing).run Sample.machine Sample.runner Sample.compiler
            0).verdict = .ok report ∧
          CompleteRun Sample.trial.projectRoot Sample.planned Sample.runner 0
            ((Sample.trial.withPolicy .keepGoing).log Sample.machine Sample.runner Sample.compiler 0)
            report := by
  have hdir : Sample.machine.isDirectory Sample.trial.projectRoot = true := by decide
  have hplanned : Sample.trial.plannedStages Sample.compiler = .ok Sample.planned := by decide
  obtain ⟨report, hverdict, hcomplete, -, -, -⟩ :=
    keepGoing_completeRun Sample.trial Sample.machine Sample.runner Sample.compiler 0 hdir hplanned
  exact ⟨hdir, hplanned, report, hverdict, hcomplete⟩

end Trial

end Shakedown
