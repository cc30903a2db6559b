import Shakedown.Proofs.Run.KeepGoing
import Shakedown.Proofs.Run.Verdict

/-!
# What a run reports and what it records

The loop over the stages leaves two traces behind, the records of the report and the events of the
log. Each record says what must have been reported about its stage: `StageRecord.story`. The events
of the loop are the stories of its records one after the other (`runStages_events`), so events can
be counted by counting records.

Main statement: `Trial.events_tell_report`.
-/

set_option autoImplicit false

namespace Shakedown

namespace Event

/-- Whether an event says that a stage starts. -/
def startsStage : Event → Bool
  | .stageStarted .. => true
  | _ => false

/-- Whether an event says that a stage failed. -/
def warnsOfFailure : Event → Bool
  | .stageFailed .. => true
  | .stageNotStarted .. => true
  | _ => false

/-- Whether an event says that the run is halted. -/
def warnsOfHalt : Event → Bool
  | .halting _ => true
  | _ => false

/-- Whether an event says that the run starts, or a stage. -/
def announces : Event → Bool
  | .runStarted .. => true
  | .stageStarted .. => true
  | _ => false

end Event

namespace StageRecord

/-- What was reported about how a stage ended. -/
def warnings (r : StageRecord) : List Event :=
  match r.outcome with
  | .succeeded => []
  | .failed code => [.stageFailed r.stage code]
  | .spawnFailed error => [.stageNotStarted r.stage r.invocation.program error]
  | .skipped => []

/-- What was reported about a stage while it had its turn. -/
def story (policy : FailurePolicy) (r : StageRecord) : List Event :=
  if r.outcome = .skipped then []
  else
    .stageStarted r.stage r.invocation :: r.warnings ++
      if r.outcome.isFailure ∧ policy = .haltOnFailure then [.halting r.stage] else []

/-! ## Counting the events of a record -/

section Counts

variable (policy : FailurePolicy) (r : StageRecord)

/-- A record tells of one start, or of none if its stage was skipped. -/
theorem countP_startsStage_story :
    (r.story policy).countP Event.startsStage = if r.outcome ≠ .skipped then 1 else 0 := by
  unfold story warnings
  cases r.outcome <;> cases policy <;> rfl

/-- A record tells of one failure, or of none if its stage did not fail. -/
theorem countP_warnsOfFailure_story :
    (r.story policy).countP Event.warnsOfFailure = if r.outcome.isFailure = true then 1 else 0 := by
  unfold story warnings
  cases r.outcome <;> cases policy <;> rfl

/-- A record tells of a halt if its stage failed and the policy is to halt. -/
theorem countP_warnsOfHalt_story :
    (r.story policy).countP Event.warnsOfHalt =
      if r.outcome.isFailure = true ∧ policy = .haltOnFailure then 1 else 0 := by
  unfold story warnings
  cases r.outcome <;> cases policy <;> rfl

/-- What a record tells is information if it announces something, and a warning otherwise. -/
theorem level_of_mem_story {e : Event} (he : e ∈ r.story policy) :
    e.level = if e.announces then .info else .warn := by
  have hall : ∀ e ∈ r.story policy, e.level = if e.announces then .info else .warn := by
    unfold story warnings
    cases r.outcome <;> cases policy <;>
      simp [StageOutcome.isFailure, Event.level, Event.announces]
  exact hall e he

end Counts

/-- Events of which every record has one or none are counted by the records that have one. -/
theorem countP_flatMap_story {policy : FailurePolicy} {kind : Event → Bool}
    {has : StageRecord → Prop} [DecidablePred has]
    (h : ∀ r : StageRecord, (r.story policy).countP kind = if has r then 1 else 0)
    (records : List StageRecord) :
    (records.flatMap (story policy)).countP kind = records.countP has := by
  induction records with
  | nil => rfl
  | cons r more ih =>
    rw [List.flatMap_cons, List.countP_append, ih, h r, List.countP_cons, Nat.add_comm]
    by_cases hr : has r <;> simp [hr]

end StageRecord

namespace PlannedStage

/-- The record of an attempted stage tells the events of its answer, and a halt where one
follows. -/
theorem story_record (policy : FailurePolicy) (p : PlannedStage) (r : Reply) :
    (p.record r).story policy = p.events r.answer ++
      if (p.record r).outcome.isFailure ∧ policy = .haltOnFailure then [.halting p.stage]
      else [] := by
  have hattempted : (p.record r).outcome ≠ .skipped := Answer.outcome_ne_skipped r.answer
  have hwarnings : (p.record r).warnings = p.complaints r.answer := by
    unfold StageRecord.warnings record complaints Answer.outcome
    cases r.answer with
    | error e => rfl
    | ok done => cases hsuccess : done.success <;> simp [hsuccess]
  unfold StageRecord.story
  rw [if_neg hattempted, hwarnings]
  rfl

/-- The record of a skipped stage tells nothing. -/
theorem story_skipped (policy : FailurePolicy) (p : PlannedStage) : p.skipped.story policy = [] :=
  rfl

end PlannedStage

/-! ## The loop -/

section Loop

variable {σ : Type} {policy : FailurePolicy} {run : Runner σ} {root : Path}

/-- The loop reports what its records say, in their order. -/
theorem runStages_events (planned : List PlannedStage) (s : σ) :
    (runStages policy run root planned s).2.1 =
      (runStages policy run root planned s).1.flatMap (StageRecord.story policy) := by
  induction planned generalizing s with
  | nil => rfl
  | cons p more ih =>
    by_cases h : (run.call root p s).failed = true ∧ policy = .haltOnFailure
    · obtain ⟨hfail, rfl⟩ := h
      have hstory := p.story_record .haltOnFailure (run.call root p s).reply
      rw [if_pos ⟨hfail, rfl⟩] at hstory
      -- Nothing is reported about the stages behind a failure.
      have hrest : (more.map PlannedStage.skipped).flatMap
          (StageRecord.story .haltOnFailure) = [] := by
        rw [List.flatMap_eq_nil_iff]
        intro r hr
        obtain ⟨q, -, rfl⟩ := List.mem_map.1 hr
        exact q.story_skipped _
      rw [runStages_cons_failed hfail, List.flatMap_cons, hstory, hrest, List.append_nil]
    · have hgo : ¬((p.record (run.call root p s).reply).outcome.isFailure = true ∧
          policy = .haltOnFailure) := h
      have hstory := p.story_record policy (run.call root p s).reply
      rw [if_neg hgo, List.append_nil] at hstory
      rw [runStages_cons h, List.flatMap_cons, hstory, ih]

/-- A run that halts has at most one failure. -/
theorem countP_isFailure_haltOnFailure_le (planned : List PlannedStage) (s : σ) :
    (runStages .haltOnFailure run root planned s).1.countP (·.outcome.isFailure) ≤ 1 := by
  obtain ⟨done, rest, hrecords, hdone, hrest⟩ := runStages_haltOnFailure_shape planned s
  have hnone : done.countP (·.outcome.isFailure) = 0 := by
    rw [List.countP_eq_zero]
    intro r hr
    simp [hdone r hr, StageOutcome.isFailure]
  rw [hrecords, List.countP_append, hnone, Nat.zero_add]
  obtain rfl | ⟨x, skipped, rfl, hx, hskipped⟩ := hrest
  · simp
  · have hzero : skipped.countP (·.outcome.isFailure) = 0 := by
      rw [List.countP_eq_zero]
      intro r hr
      simp [hskipped r hr, StageOutcome.isFailure]
    simp [hzero, hx]

end Loop

namespace Trial

variable {σ : Type} {t : Trial} {m : Machine} {run : Runner σ} {c : Compiler} {s : σ}
  {report : Report}

/-- An opening event is information if it announces something, and a warning otherwise. -/
theorem level_of_mem_openingEvents {compiler : String} {count : Nat} {e : Event}
    (he : e ∈ openingEvents m t compiler count) :
    e.level = if e.announces then .info else .warn := by
  unfold openingEvents at he
  rcases List.mem_append.1 he with he | he
  · split at he
    · rw [List.mem_singleton.1 he]
      rfl
    · cases he
  · rw [List.mem_singleton.1 he]
    rfl

/-- The opening events are the start of the run and a missing compiler, and none of another kind. -/
theorem countP_openingEvents {kind : Event → Bool} (hlost : ∀ x, kind (.compilerNotFound x) = false)
    (hstart : ∀ x y z, kind (.runStarted x y z) = false) (compiler : String) (count : Nat) :
    (openingEvents m t compiler count).countP kind = 0 := by
  unfold openingEvents
  split <;> simp [hlost, hstart]

/-- The events of a trial that starts: how it opens, and what its records say. -/
theorem events_run {planned : List PlannedStage} (hstart : t.laidOut m c = .ok planned)
    (run : Runner σ) (s : σ) :
    (t.run m run c s).events =
      openingEvents m t (anchor c.program t.baseDir) planned.length ++
        (runStages t.policy run t.projectRoot planned s).1.flatMap (StageRecord.story t.policy) := by
  rw [run_started hstart, ← runStages_events]
  rfl

/-- The log of a run tells what its report says: perhaps that the compiler is not there, then how
many stages there are, then record by record what was started and how it failed, and where the run
was halted. So there are as many warnings of failures as failed stages, as many starts as attempted
stages, and a halt exactly if a stage failed where that halts the run. -/
theorem events_tell_report (h : (t.run m run c s).verdict = .ok report) :
    ∃ planned, t.plannedStages c = .ok planned ∧
      report.stages.map (·.stage) = planned.map (·.stage) ∧
      (t.run m run c s).events =
        (if m.locate (anchor c.program t.baseDir) = none then
            [.compilerNotFound (anchor c.program t.baseDir)] else []) ++
          .runStarted planned.length t.projectRoot (anchor c.program t.baseDir) ::
            report.stages.flatMap (StageRecord.story t.policy) ∧
      (∀ e ∈ (t.run m run c s).events, e.level = if e.announces then .info else .warn) ∧
      (t.run m run c s).events.countP Event.warnsOfFailure = report.failedStages.length ∧
      (t.run m run c s).events.countP Event.startsStage = report.attemptedCount ∧
      (t.run m run c s).events.countP Event.warnsOfHalt =
        if t.policy = .haltOnFailure ∧ report.failedStages ≠ [] then 1 else 0 := by
  obtain ⟨planned, hstart, hstages⟩ := exists_laidOut h
  have hevents : (t.run m run c s).events =
      openingEvents m t (anchor c.program t.baseDir) planned.length ++
        report.stages.flatMap (StageRecord.story t.policy) := by
    rw [hstages]
    exact events_run hstart run s
  have hfailed : report.stages.countP (·.outcome.isFailure) = report.failedStages.length :=
    List.countP_eq_length_filter
  refine ⟨planned, plannedStages_of_laidOut hstart, ?_, ?_, ?_, ?_, ?_, ?_⟩
  · rw [hstages]
    exact map_stage_runStages t.policy planned s
  · rw [hevents, openingEvents, List.append_assoc, List.singleton_append]
    simp only [Option.isNone_iff_eq_none]
  · intro e he
    rw [hevents] at he
    rcases List.mem_append.1 he with he | he
    · exact level_of_mem_openingEvents he
    · obtain ⟨r, -, hr⟩ := List.mem_flatMap.1 he
      exact r.level_of_mem_story t.policy hr
  · rw [hevents, List.countP_append, countP_openingEvents (fun _ => rfl) (fun _ _ _ => rfl),
      StageRecord.countP_flatMap_story (StageRecord.countP_warnsOfFailure_story t.policy),
      Nat.zero_add, ← hfailed]
    simp
  · rw [hevents, List.countP_append, countP_openingEvents (fun _ => rfl) (fun _ _ _ => rfl),
      StageRecord.countP_flatMap_story (StageRecord.countP_startsStage_story t.policy),
      Nat.zero_add]
    rfl
  · rw [hevents, List.countP_append, countP_openingEvents (fun _ => rfl) (fun _ _ _ => rfl),
      StageRecord.countP_flatMap_story (StageRecord.countP_warnsOfHalt_story t.policy),
      Nat.zero_add]
    cases hpolicy : t.policy with
    | keepGoing => simp
    | haltOnFailure =>
      have hone : report.failedStages.length ≤ 1 := by
        rw [← hfailed, hstages, hpolicy]
        exact countP_isFailure_haltOnFailure_le planned s
      have hcount : report.stages.countP
          (fun r => r.outcome.isFailure = true ∧ FailurePolicy.haltOnFailure = .haltOnFailure) =
            report.failedStages.length := by
        rw [← hfailed]
        simp
      rw [hcount]
      cases hlist : report.failedStages with
      | nil => simp
      | cons r more =>
        rw [hlist, List.length_cons] at hone
        simp only [List.length_cons, ne_eq, reduceCtorEq, not_false_eq_true, and_self, if_true]
        omega

/-- The log of a run that its first stage halts. -/
theorem events_tell_report_sample :
    ∃ report, ((Sample.trial.withPolicy .haltOnFailure).run Sample.machine Sample.runner
        Sample.compiler 0).verdict = .ok report ∧
      ((Sample.trial.withPolicy .haltOnFailure).run Sample.machine Sample.runner Sample.compiler
        0).events.countP Event.warnsOfHalt = 1 := by
  have hstart : (Sample.trial.withPolicy .haltOnFailure).laidOut Sample.machine Sample.compiler =
      .ok Sample.planned :=
    laidOut_of_isDirectory (by decide) (by decide)
  have hverdict := congrArg RunResult.verdict (run_started hstart Sample.runner 0)
  obtain ⟨planned, -, -, -, -, -, -, hhalt⟩ := events_tell_report hverdict
  refine ⟨_, hverdict, hhalt.trans (if_pos ⟨rfl, ?_⟩)⟩
  decide

end Trial

end Shakedown
