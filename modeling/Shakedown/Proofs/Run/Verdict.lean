import Shakedown.Console.Summary
import Shakedown.Proofs.Run.Trial
import Shakedown.Proofs.Stage.Layout

/-!
# The verdict of a run

The verdict of a report is in three places: whether it succeeded, its exit code, and the wording of
its closing line. All three are read off the last record of the test stage, whatever else the report
holds, and this is said here for every list of records.

The stages of a run end with the test stage, and it comes only there. So the verdict of a run that
attempts every stage is what its last call was answered, and nothing that the other calls were
answered shows in it. In a run that halts, the test stage is attempted only if everything before it
succeeded.

The shape of the records of a halting run is found by induction on the loop: what succeeded, then
perhaps one failure, then what was skipped.
-/

set_option autoImplicit false

namespace Shakedown

/-! ## What a report says in the end -/

namespace Report

/-- Whether a record is the last one of the test stage. -/
def LastTest (r : Report) (x : StageRecord) : Prop :=
  ∃ before after, r.stages = before ++ x :: after ∧ x.stage = .test ∧
    ∀ y ∈ after, y.stage ≠ .test

/-- Whether the closing line goes on with these words behind its sign. -/
def closesWith (r : Report) (words : String) : Bool :=
  words.toList.isPrefixOf (r.closingLine.toList.drop 2)

/-- The verdict of a report is that of its last test stage. -/
structure JudgedByTest (r : Report) : Prop where
  /-- The exit code is zero for a success and for nothing else. -/
  exitCode_eq_zero : r.exitCode = 0 ↔ r.succeeded = true
  /-- A success is a test stage that succeeded. -/
  succeeded : r.succeeded = true ↔ ∃ x, r.LastTest x ∧ x.outcome = .succeeded
  /-- Any exit code but zero and one is that of the test stage. -/
  ownCode : ∀ code, r.exitCode = code → code ≠ 0 → code ≠ 1 →
    ∃ x, r.LastTest x ∧ x.outcome = .failed (some code)

variable {r : Report}

/-- The outcome that is judged is that of the last test stage. -/
theorem testOutcome?_eq_some {o : StageOutcome} :
    r.testOutcome? = some o ↔ ∃ x, r.LastTest x ∧ x.outcome = o := by
  have hfind (x : StageRecord) :
      r.stages.reverse.find? (·.stage = .test) = some x ↔ r.LastTest x := by
    rw [List.find?_eq_some_iff_append]
    constructor
    · rintro ⟨hx, later, earlier, hstages, hlater⟩
      refine ⟨earlier.reverse, later.reverse, ?_, by simpa using hx, by simpa using hlater⟩
      simpa using congrArg List.reverse hstages
    · rintro ⟨before, after, hstages, hx, hafter⟩
      exact ⟨by simpa using hx, after.reverse, before.reverse, by simp [hstages],
        by simpa using hafter⟩
  simp only [testOutcome?, Option.map_eq_some_iff, hfind]

/-- A report is a success if the outcome that is judged is one. -/
theorem succeeded_iff : r.succeeded = true ↔ r.testOutcome? = some .succeeded := by
  unfold succeeded
  match r.testOutcome? with
  | none => simp
  | some .succeeded => simp [StageOutcome.isSuccess]
  | some (.failed _) => simp [StageOutcome.isSuccess]
  | some (.spawnFailed _) => simp [StageOutcome.isSuccess]
  | some .skipped => simp [StageOutcome.isSuccess]

/-- The exit code of a report, by the outcome of the test stage. -/
theorem exitCode_cases (r : Report) :
    r.testOutcome? = some .succeeded ∧ r.exitCode = 0 ∨
      (∃ code, r.testOutcome? = some (.failed (some code)) ∧ code ≠ 0 ∧ r.exitCode = code) ∨
      r.testOutcome? ≠ some .succeeded ∧ r.exitCode = 1 := by
  unfold exitCode
  match r.testOutcome? with
  | none => exact .inr (.inr ⟨by simp, rfl⟩)
  | some .succeeded => exact .inl ⟨rfl, rfl⟩
  | some (.failed none) => exact .inr (.inr ⟨by simp, rfl⟩)
  | some (.failed (some code)) =>
    by_cases hcode : code = 0
    · exact .inr (.inr ⟨by simp, if_pos hcode⟩)
    · exact .inr (.inl ⟨code, rfl, hcode, if_neg hcode⟩)
  | some (.spawnFailed _) => exact .inr (.inr ⟨by simp, rfl⟩)
  | some .skipped => exact .inr (.inr ⟨by simp, rfl⟩)

/-- The exit code is zero if the outcome that is judged is a success, and only then. -/
theorem exitCode_eq_zero_iff (r : Report) : r.exitCode = 0 ↔ r.testOutcome? = some .succeeded := by
  obtain ⟨htest, hexit⟩ | ⟨code, htest, hcode, hexit⟩ | ⟨htest, hexit⟩ := r.exitCode_cases
  · simp [htest, hexit]
  · simp [htest, hexit, hcode]
  · simp [htest, hexit]

/-- Every report is judged by its last test stage. -/
theorem judgedByTest (r : Report) : r.JudgedByTest where
  exitCode_eq_zero := by rw [exitCode_eq_zero_iff, succeeded_iff]
  succeeded := by rw [succeeded_iff, testOutcome?_eq_some]
  ownCode := by
    rintro code rfl hzero hone
    obtain ⟨-, hexit⟩ | ⟨code, htest, -, hexit⟩ | ⟨-, hexit⟩ := r.exitCode_cases
    · exact absurd hexit hzero
    · rw [hexit]
      exact testOutcome?_eq_some.1 htest
    · exact absurd hexit hone

/-- The closing line says that the tests passed just if they did. -/
theorem closesWith_passed (r : Report) : r.closesWith "Tests passed with '" = r.succeeded := by
  unfold closesWith closingLine
  cases r.succeeded with
  | true =>
    cases r.failedStages.length <;> simp only [if_true, String.toList_append, List.append_assoc] <;>
      rfl
  | false =>
    simp only [Bool.false_eq_true, if_false, String.toList_append, List.append_assoc]
    rfl

/-- And that they did not pass just if they did not. -/
theorem closesWith_notPassed (r : Report) :
    r.closesWith "Tests did not pass with '" = !r.succeeded := by
  unfold closesWith closingLine
  cases r.succeeded with
  | true =>
    cases r.failedStages.length <;> simp only [if_true, String.toList_append, List.append_assoc] <;>
      rfl
  | false =>
    simp only [Bool.false_eq_true, if_false, String.toList_append, List.append_assoc]
    rfl

/-- Reports with the same outcome of the test stage have the same verdict. -/
theorem verdict_congr {r r' : Report} (h : r.testOutcome? = r'.testOutcome?) :
    r.succeeded = r'.succeeded ∧ r.exitCode = r'.exitCode := by
  simp only [succeeded, exitCode, h, and_self]

end Report

/-! ## The last stage -/

/-- The test stage comes last, and only there. -/
theorem Trial.plannedStages_eq_concat {t : Trial} {c : Compiler} {planned : List PlannedStage}
    (h : t.plannedStages c = .ok planned) :
    ∃ front p, planned = front ++ [p] ∧ p.stage = .test ∧ ∀ q ∈ front, q.stage ≠ .test := by
  obtain ⟨compiles, hcompiles, rfl⟩ := Plan.stages_eq_ok.1 h
  refine ⟨[t.anchoredPlan.target .clean Defaults.cleanTarget, t.anchoredPlan.referenceBuild 1] ++
    compiles ++ [t.anchoredPlan.referenceBuild 2],
    t.anchoredPlan.target .test Defaults.testTarget, by simp, rfl, ?_⟩
  intro q hq
  simp only [List.mem_append, List.mem_cons, List.not_mem_nil, or_false] at hq
  rcases hq with ((rfl | rfl) | hq) | rfl
  · rintro ⟨⟩
  · rintro ⟨⟩
  · obtain ⟨m, -, hm⟩ := Plan.exists_module_of_mem hcompiles hq
    obtain ⟨object, -, rfl⟩ := Plan.compileStage_eq_ok.1 hm
    rintro ⟨⟩
  · rintro ⟨⟩

/-- Of a report that ends with a test stage the outcome of that is judged. -/
theorem Report.testOutcome?_concat {r : Report} {front : List StageRecord} {x : StageRecord}
    (h : r.stages = front ++ [x]) (hx : x.stage = .test) : r.testOutcome? = some x.outcome :=
  testOutcome?_eq_some.2 ⟨x, ⟨front, [], h, hx, by simp⟩, rfl⟩

/-- The stage that a record is about, with its command. -/
def StageRecord.planned (r : StageRecord) : PlannedStage :=
  ⟨r.stage, r.invocation⟩

section Loop

variable {σ : Type} {run : Runner σ} {root : Path}

/-- The last call starts where the calls before it have left the runner. -/
theorem Runner.calls_concat (run : Runner σ) (root : Path) (front : List PlannedStage)
    (p : PlannedStage) (s : σ) :
    run.calls root (front ++ [p]) s = run.calls root front s ++
      [run.call root p (Call.stateAfter s (run.calls root front s))] := by
  induction front generalizing s with
  | nil => rfl
  | cons q more ih => rw [List.cons_append, calls, ih, calls, List.cons_append, Call.stateAfter]

/-- The record of the last call is the last record. -/
theorem Call.records_concat {front : List PlannedStage} {calls : List (Call σ)}
    (h : calls.length = front.length) (p : PlannedStage) (call : Call σ) :
    records (front ++ [p]) (calls ++ [call]) = records front calls ++ [p.record call.reply] := by
  rw [records, List.zipWith_append h.symm]
  rfl

/-- Every planned stage has a record with its command, whatever the policy. -/
theorem map_planned_runStages (policy : FailurePolicy) (planned : List PlannedStage) (s : σ) :
    (runStages policy run root planned s).1.map StageRecord.planned = planned := by
  induction planned generalizing s with
  | nil => rfl
  | cons p more ih =>
    by_cases h : (run.call root p s).failed = true ∧ policy = .haltOnFailure
    · obtain ⟨hfail, rfl⟩ := h
      have hskipped : StageRecord.planned ∘ PlannedStage.skipped = id := rfl
      rw [runStages_cons_failed hfail, List.map_cons, List.map_map, hskipped, List.map_id]
      rfl
    · rw [runStages_cons h, List.map_cons, ih]
      rfl

/-- A run has one record for each stage, in order. -/
theorem map_stage_runStages (policy : FailurePolicy) (planned : List PlannedStage) (s : σ) :
    (runStages policy run root planned s).1.map (·.stage) = planned.map (·.stage) := by
  have hplanned : (runStages policy run root planned s).1.map StageRecord.planned = planned :=
    map_planned_runStages policy planned s
  have hstages := congrArg (List.map PlannedStage.stage) hplanned
  rwa [List.map_map] at hstages

/-- A call that does not fail is one that succeeded. -/
theorem Call.outcome_eq_succeeded {call : Call σ} (h : call.failed = false) :
    Answer.outcome call.reply.answer = .succeeded := by
  unfold Call.failed at h
  unfold Answer.outcome at h ⊢
  cases hanswer : call.reply.answer with
  | error e => simp [hanswer, StageOutcome.isFailure] at h
  | ok done => cases hsuccess : done.success <;> simp_all [StageOutcome.isFailure]

/-- The records of a halting run: some that succeeded, then none or a failure and what was
skipped. -/
theorem runStages_haltOnFailure_shape (planned : List PlannedStage) (s : σ) :
    ∃ done rest, (runStages .haltOnFailure run root planned s).1 = done ++ rest ∧
      (∀ x ∈ done, x.outcome = .succeeded) ∧
      (rest = [] ∨ ∃ x skipped, rest = x :: skipped ∧ x.outcome.isFailure = true ∧
        ∀ y ∈ skipped, y.outcome = .skipped) := by
  induction planned generalizing s with
  | nil => exact ⟨[], [], rfl, by simp, .inl rfl⟩
  | cons p more ih =>
    cases hfail : (run.call root p s).failed with
    | true =>
      refine ⟨[], p.record (run.call root p s).reply :: more.map PlannedStage.skipped, ?_, by simp,
        .inr ⟨_, _, rfl, hfail, ?_⟩⟩
      · rw [runStages_cons_failed hfail, List.nil_append]
      intro y hy
      obtain ⟨q, -, rfl⟩ := List.mem_map.1 hy
      rfl
    | false =>
      obtain ⟨done, rest, hrecords, hdone, hrest⟩ := ih (run.call root p s).after
      refine ⟨p.record (run.call root p s).reply :: done, rest, ?_, ?_, hrest⟩
      · rw [runStages_cons (by simp [hfail]), hrecords, List.cons_append]
      · intro x hx
        rcases List.mem_cons.1 hx with rfl | hx
        · exact Call.outcome_eq_succeeded hfail
        · exact hdone x hx

end Loop

namespace Trial

variable {σ : Type}

/-- A report comes from a trial that starts. -/
theorem exists_laidOut {t : Trial} {m : Machine} {run : Runner σ} {c : Compiler} {s : σ}
    {r : Report} (h : (t.run m run c s).verdict = .ok r) :
    ∃ planned, t.laidOut m c = .ok planned ∧
      r.stages = (runStages t.policy run t.projectRoot planned s).1 := by
  cases hstart : t.laidOut m c with
  | error e =>
    rw [run_refused hstart] at h
    cases h
  | ok planned =>
    rw [run_started hstart] at h
    exact ⟨planned, rfl, by rw [← Except.ok.inj h]; rfl⟩

/-- Every call of a trial is made where the call before left the runner. -/
theorem chained_log (t : Trial) (m : Machine) (run : Runner σ) (c : Compiler) (s : σ) :
    run.Chained s (t.log m run c s) := by
  cases hstart : t.laidOut m c with
  | error e =>
    rw [log_refused hstart]
    trivial
  | ok planned =>
    rw [log_started hstart]
    have hcalls := run.chained_calls t.projectRoot planned s
    cases t.policy with
    | keepGoing => exact hcalls
    | haltOnFailure => exact hcalls.take _

/-- The test stage ends as its call was answered, or is skipped if there was no such call. -/
theorem testOutcome?_log {t : Trial} {m : Machine} {run : Runner σ} {c : Compiler} {s : σ}
    {planned : List PlannedStage} {r : Report} (hstart : t.laidOut m c = .ok planned)
    (h : (t.run m run c s).verdict = .ok r) :
    ∃ front p, planned = front ++ [p] ∧ p.stage = .test ∧ (∀ q ∈ front, q.stage ≠ .test) ∧
      r.testOutcome? = some (((t.log m run c s)[front.length]?).elim .skipped
        fun call => Answer.outcome call.reply.answer) := by
  obtain ⟨planned', hstart', hstages⟩ := exists_laidOut h
  obtain rfl : planned' = planned := Except.ok.inj (hstart'.symm.trans hstart)
  obtain ⟨front, p, rfl, hp, hfront⟩ := plannedStages_eq_concat (plannedStages_of_laidOut hstart)
  refine ⟨front, p, rfl, hp, hfront, ?_⟩
  rw [runStages_records, Runner.calls_concat] at hstages
  rw [log_started hstart, Runner.calls_concat]
  set calls := run.calls t.projectRoot front s with hcalls
  set last := run.call t.projectRoot p (Call.stateAfter s calls)
  have hlength : calls.length = front.length := run.length_calls ..
  rw [Call.records_concat hlength] at hstages
  have hfirst := t.policy.issued_eq_take (calls ++ [last])
  by_cases hall : (t.policy.issued (calls ++ [last])).length ≤ front.length
  · -- The policy ended the run before the test stage.
    rw [List.drop_append_of_le_length hall, List.map_append, ← List.append_assoc] at hstages
    rw [Report.testOutcome?_concat hstages hp, List.getElem?_eq_none hall]
    rfl
  · have hwhole : t.policy.issued (calls ++ [last]) = calls ++ [last] := by
      rw [hfirst, List.take_of_length_le]
      simp only [List.length_append, List.length_singleton, hlength]
      omega
    have hlong : (Call.records front calls ++ [p.record last.reply]).length ≤
        (calls ++ [last]).length := by simp [Call.records, hlength]
    rw [hwhole, List.take_of_length_le hlong, List.drop_of_length_le (by simp [hlength])]
      at hstages
    rw [hwhole, Report.testOutcome?_concat (hstages.trans (List.append_nil _)) hp, ← hlength,
      List.getElem?_concat_length]
    rfl

/-- The test stage of a run that attempts every stage ends as the last call was answered. -/
theorem testOutcome?_keepGoing {t : Trial} {m : Machine} {run : Runner σ} {c : Compiler} {s : σ}
    {r : Report} (h : ((t.withPolicy .keepGoing).run m run c s).verdict = .ok r) :
    r.testOutcome? = ((t.withPolicy .keepGoing).log m run c s).getLast?.map
      fun call => Answer.outcome call.reply.answer := by
  obtain ⟨planned, hstart, -⟩ := exists_laidOut h
  obtain ⟨front, p, rfl, -, -, htest⟩ := testOutcome?_log hstart h
  have hlog : (t.withPolicy .keepGoing).log m run c s =
      run.calls t.projectRoot (front ++ [p]) s := log_started hstart run s
  rw [hlog, Runner.calls_concat] at htest ⊢
  rw [htest, List.getLast?_concat, ← run.length_calls t.projectRoot front s,
    List.getElem?_concat_length]
  rfl

/-- Two runs that attempt every stage have one verdict if their last calls were answered alike,
however all else went. -/
theorem verdict_of_last_answer {σ σ' : Type} {t t' : Trial} {m m' : Machine} {run : Runner σ}
    {run' : Runner σ'} {c c' : Compiler} {s : σ} {s' : σ'} {r r' : Report}
    (h : ((t.withPolicy .keepGoing).run m run c s).verdict = .ok r)
    (h' : ((t'.withPolicy .keepGoing).run m' run' c' s').verdict = .ok r')
    (hlast : ((t.withPolicy .keepGoing).log m run c s).getLast?.map (·.reply.answer) =
      ((t'.withPolicy .keepGoing).log m' run' c' s').getLast?.map (·.reply.answer)) :
    r.succeeded = r'.succeeded ∧ r.exitCode = r'.exitCode ∧
      ∀ words ∈ ["Tests passed with '", "Tests did not pass with '"],
        r.closesWith words = r'.closesWith words := by
  have houtcome : r.testOutcome? = r'.testOutcome? := by
    have hmap := congrArg (Option.map Answer.outcome) hlast
    rw [Option.map_map, Option.map_map] at hmap
    rw [testOutcome?_keepGoing h, testOutcome?_keepGoing h']
    exact hmap
  obtain ⟨hsucceeded, hexit⟩ := Report.verdict_congr houtcome
  refine ⟨hsucceeded, hexit, ?_⟩
  simp [Report.closesWith_passed, Report.closesWith_notPassed, hsucceeded]

/-- The last record is that of the test stage. -/
theorem exists_last_record {t : Trial} {m : Machine} {run : Runner σ} {c : Compiler} {s : σ}
    {r : Report} (h : (t.run m run c s).verdict = .ok r) :
    ∃ front x, r.stages = front ++ [x] ∧ x.stage = .test := by
  obtain ⟨planned, hstart, hstages⟩ := exists_laidOut h
  obtain ⟨before, p, rfl, hp, -⟩ := plannedStages_eq_concat (plannedStages_of_laidOut hstart)
  have hmap : r.stages.map (·.stage) = (before ++ [p]).map (·.stage) := by
    rw [hstages, map_stage_runStages]
  rw [List.map_append, List.map_singleton, List.map_eq_append_iff] at hmap
  obtain ⟨front, last, hr, -, hlast⟩ := hmap
  obtain ⟨x, rfl, hx⟩ := List.map_eq_singleton_iff.1 hlast
  exact ⟨front, x, hr, hx.trans hp⟩

/-- A halting run passes just if every stage succeeds, and any exit code but zero and one says that
every stage before the tests did. -/
theorem verdict_haltOnFailure {t : Trial} {m : Machine} {run : Runner σ} {c : Compiler} {s : σ}
    {r : Report} (h : ((t.withPolicy .haltOnFailure).run m run c s).verdict = .ok r) :
    (r.exitCode = 0 ↔ ∀ x ∈ r.stages, x.outcome = .succeeded) ∧
      ∀ code, r.exitCode = code → code ≠ 0 → code ≠ 1 →
        ∃ front x, r.stages = front ++ [x] ∧ x.stage = .test ∧
          x.outcome = .failed (some code) ∧ ∀ y ∈ front, y.outcome = .succeeded := by
  obtain ⟨planned, hstart, hstages⟩ := exists_laidOut h
  obtain ⟨front, x, hconcat, hx⟩ := exists_last_record h
  have htest := Report.testOutcome?_concat hconcat hx
  obtain ⟨done, rest, hshape, hdone, hrest⟩ :=
    @runStages_haltOnFailure_shape σ run t.projectRoot planned s
  have hrecords : front ++ [x] = done ++ rest := hconcat.symm.trans (hstages.trans hshape)
  rw [Report.exitCode_eq_zero_iff, htest]
  rcases hrest with rfl | ⟨y, skipped, rfl, hy, hskipped⟩
  · have hall : ∀ z ∈ r.stages, z.outcome = .succeeded := by
      rw [hconcat, hrecords, List.append_nil]
      exact hdone
    have hx' : x.outcome = .succeeded := hall x (by simp [hconcat])
    refine ⟨⟨fun _ => hall, fun _ => by rw [hx']⟩, fun code hexit hzero => ?_⟩
    rw [(Report.exitCode_eq_zero_iff r).2 (by rw [htest, hx'])] at hexit
    exact absurd hexit.symm hzero
  · -- Something failed. Either that was the test stage, or the test stage was skipped.
    have hne : y.outcome ≠ .succeeded := fun heq => by simp [heq, StageOutcome.isFailure] at hy
    have hmem : y ∈ r.stages := by simp [hconcat, hrecords]
    have hlast : (front = done ∧ x = y) ∨ x.outcome = .skipped := by
      rcases List.eq_nil_or_concat skipped with rfl | ⟨init, z, rfl⟩
      · obtain ⟨hfront, hxy⟩ := List.append_inj' hrecords rfl
        exact .inl ⟨hfront, (List.cons.inj hxy).1⟩
      · have hsplit : front ++ [x] = (done ++ y :: init) ++ [z] := by simpa using hrecords
        obtain ⟨-, hxz⟩ := List.append_inj' hsplit rfl
        rw [(List.cons.inj hxz).1]
        exact .inr (hskipped z (by simp))
    refine ⟨⟨fun hx' => ?_, fun hall => absurd (hall y hmem) hne⟩, fun code hexit hzero hone => ?_⟩
    · rcases hlast with ⟨-, rfl⟩ | hskip
      · exact absurd (Option.some.inj hx') hne
      · rw [hskip] at hx'
        cases hx'
    · obtain ⟨x', hx', houtcome⟩ := (Report.judgedByTest r).ownCode code hexit hzero hone
      have hcode : x.outcome = .failed (some code) := by
        have := Report.testOutcome?_eq_some.2 ⟨x', hx', houtcome⟩
        exact Option.some.inj (htest.symm.trans this)
      rcases hlast with ⟨rfl, -⟩ | hskip
      · exact ⟨front, x, hconcat, hx, hcode, hdone⟩
      · rw [hskip] at hcode
        cases hcode

end Trial

end Shakedown
