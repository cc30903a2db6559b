import Mathlib.Data.List.Basic
import Shakedown.Proofs.Run.Trial

/-!
# Runs that halt after a failure

Under the policy `haltOnFailure` a run does what the run that attempts every stage does, up to and
with the first failure, and nothing after it. `CutRun` says how the two leave things behind, and
`haltOnFailure_cutRun` that any two such runs leave them behind so, each with its own clock.

How long a call takes is not the runner's to say. A `Responder` answers without a time, and
`Responder.timed` puts a clock beside it. Two runs of one responder then differ in nothing but
durations: `map_untimed_calls` says so of their calls, `map_untimed_records` of their records.

Both reports are read off the calls of the run that attempts every stage, so the only thing to
compare is where the first failure stands: `findIdx?_records` finds it in the records where it is
in the calls.
-/

set_option autoImplicit false

namespace Shakedown

/-! ## Runners and clocks -/

/-- A runner without a clock. -/
abbrev Responder (σ : Type) := Invocation → Path → σ → Answer × σ

/-- What a clock shows next: the milliseconds that a call took. -/
abbrev Clock (κ : Type) := κ → UInt64 × κ

/-- The runner whose calls are timed by a clock. -/
def Responder.timed {σ κ : Type} (run : Responder σ) (clock : Clock κ) : Runner (σ × κ) :=
  fun invocation directory (state, now) =>
    let (answer, next) := run invocation directory state
    let (elapsedMs, later) := clock now
    ({ answer, elapsedMs }, next, later)

/-- A call of a timed runner but for the time: what was asked, the answer, the state after it. -/
def Call.untimed {σ κ : Type} (c : Call (σ × κ)) : (Invocation × Path) × Answer × σ :=
  ((c.invocation, c.directory), c.reply.answer, c.after.1)

/-- A record but for the time. -/
def StageRecord.untimed (r : StageRecord) : StageRecord :=
  { r with durationMs := 0 }

section Untimed

variable {σ κ κ' : Type}

/-- Timed by any two clocks, a responder gets the same calls and gives the same answers. -/
theorem map_untimed_calls (run : Responder σ) (clock : Clock κ) (clock' : Clock κ') (root : Path)
    (planned : List PlannedStage) (s : σ) (now : κ) (now' : κ') :
    ((run.timed clock).calls root planned (s, now)).map Call.untimed =
      ((run.timed clock').calls root planned (s, now')).map Call.untimed := by
  induction planned generalizing s now now' with
  | nil => rfl
  | cons p more ih =>
    simp only [Runner.calls, List.map_cons]
    congr 1
    exact ih (run p.invocation root s).2 (clock now).2 (clock' now').2

/-- Where the first call stands that did not go well does not depend on the time. -/
theorem findIdx?_failed_of_untimed {calls : List (Call (σ × κ))} {calls' : List (Call (σ × κ'))}
    (h : calls.map Call.untimed = calls'.map Call.untimed) :
    calls.findIdx? Call.failed = calls'.findIdx? Call.failed := by
  have hfailed (l : Type) (cs : List (Call (σ × l))) :
      cs.findIdx? Call.failed =
        (cs.map Call.untimed).findIdx? (fun u => (Answer.outcome u.2.1).isFailure) := by
    rw [List.findIdx?_map]
    rfl
  rw [hfailed, hfailed, h]

/-- Neither do the records of calls, their durations apart. -/
theorem map_untimed_records {calls : List (Call (σ × κ))} {calls' : List (Call (σ × κ'))}
    (h : calls.map Call.untimed = calls'.map Call.untimed) (planned : List PlannedStage) :
    (Call.records planned calls).map StageRecord.untimed =
      (Call.records planned calls').map StageRecord.untimed := by
  have hrecord (l : Type) (cs : List (Call (σ × l))) :
      (Call.records planned cs).map StageRecord.untimed =
        List.zipWith (fun p u => p.record { answer := u.2.1 }) planned (cs.map Call.untimed) := by
    simp only [Call.records, List.map_zipWith, List.zipWith_map_right]
    rfl
  rw [hrecord, hrecord, h]

/-- Neither does the state in which calls leave a responder. -/
theorem stateAfter_untimed {calls : List (Call (σ × κ))} {calls' : List (Call (σ × κ'))}
    (h : calls.map Call.untimed = calls'.map Call.untimed) (s : σ) (now : κ) (now' : κ') :
    (Call.stateAfter (s, now) calls).1 = (Call.stateAfter (s, now') calls').1 := by
  induction calls generalizing calls' s now now' with
  | nil =>
    obtain rfl : calls' = [] := by simpa using h.symm
    rfl
  | cons c more ih =>
    obtain ⟨c', more', rfl⟩ : ∃ c' more', calls' = c' :: more' := by
      cases calls' with
      | nil => simp at h
      | cons c' more' => exact ⟨c', more', rfl⟩
    simp only [List.map_cons, List.cons.injEq] at h
    have hstate : c.after.1 = c'.after.1 := congrArg (fun u => u.2.2) h.1
    show (Call.stateAfter (c.after.1, c.after.2) more).1 = _
    rw [hstate]
    exact ih h.2 c'.after.1 c.after.2 c'.after.2

end Untimed

/-! ## Runs that are cut -/

/-- The place of the first record of a failure. -/
def Report.firstFailure? (r : Report) : Option Nat :=
  r.stages.findIdx? (·.outcome.isFailure)

/-- How a run that halts after a failure, with its report `cut`, its calls and the state in which it
leaves the responder, compares with the run that attempts every stage. -/
structure CutRun {σ κ κ' : Type} (planned : List PlannedStage)
    (whole : Report) (calls : List (Call (σ × κ))) (final : σ)
    (cut : Report) (calls' : List (Call (σ × κ'))) (final' : σ) : Prop where
  /-- The reports are about one compiler in one directory, each under its own policy. -/
  heading : cut.compiler = whole.compiler ∧ cut.projectDir = whole.projectDir ∧
    whole.policy = .keepGoing ∧ cut.policy = .haltOnFailure
  /-- Up to and with the first failure nothing but durations differs: not the calls, not the state
  after them, not the records. -/
  before : ∀ k, whole.firstFailure? = some k →
    calls'.map Call.untimed = (calls.take (k + 1)).map Call.untimed ∧
      (∃ call, calls[k]? = some call ∧ final' = call.after.1) ∧
      (cut.stages.take (k + 1)).map StageRecord.untimed =
        (whole.stages.take (k + 1)).map StageRecord.untimed
  /-- After it every planned stage has a record and was not attempted. -/
  after : ∀ k, whole.firstFailure? = some k →
    cut.stages.drop (k + 1) = (planned.drop (k + 1)).map fun p =>
      { stage := p.stage
        invocation := p.invocation
        outcome := .skipped
        durationMs := 0
        stdout := none
        stderr := none }
  /-- Without a failure nothing but durations and the policy differs at all. -/
  noFailure : whole.firstFailure? = none →
    calls'.map Call.untimed = calls.map Call.untimed ∧ final' = final ∧
      cut.stages.map StageRecord.untimed = whole.stages.map StageRecord.untimed

section Failures

variable {σ : Type}

/-- The first failure stands in the records where it stands in the calls. -/
theorem findIdx?_records {planned : List PlannedStage} {calls : List (Call σ)}
    (h : calls.length = planned.length) :
    (Call.records planned calls).findIdx? (·.outcome.isFailure) = calls.findIdx? Call.failed := by
  induction planned generalizing calls with
  | nil =>
    obtain rfl : calls = [] := by simpa using h
    rfl
  | cons p more ih =>
    cases calls with
    | nil => simp at h
    | cons c rest =>
      have hc : (p.record c.reply).outcome.isFailure = c.failed := rfl
      simp only [Call.records, List.zipWith_cons_cons, List.findIdx?_cons, hc]
      rw [← Call.records, ih (by simpa using h)]

/-- Calls are cut after the first that does not go well. -/
theorem issued_of_findIdx?_eq_some {calls : List (Call σ)} {k : Nat}
    (h : calls.findIdx? Call.failed = some k) :
    FailurePolicy.haltOnFailure.issued calls = calls.take (k + 1) := by
  have hk : calls.findIdx Call.failed = k := (List.findIdx?_eq_some_iff_findIdx_eq.1 h).2
  simp [FailurePolicy.issued, hk]

/-- Calls that all go well are not cut. -/
theorem issued_of_findIdx?_eq_none {calls : List (Call σ)}
    (h : calls.findIdx? Call.failed = none) :
    FailurePolicy.haltOnFailure.issued calls = calls := by
  have hlen : calls.findIdx Call.failed = calls.length := by
    rw [List.findIdx_eq_length]
    exact List.findIdx?_eq_none_iff.1 h
  simp [FailurePolicy.issued, hlen, List.take_of_length_le]

end Failures

/-- The records of a run that halts at the failed call `k`: as many as that, then skipped ones. -/
theorem runStages_haltOnFailure_records {σ : Type} {run : Runner σ} {root : Path}
    {planned : List PlannedStage} {s : σ} {k : Nat}
    (h : (run.calls root planned s).findIdx? Call.failed = some k) :
    (runStages .haltOnFailure run root planned s).1.take (k + 1) =
        (Call.records planned (run.calls root planned s)).take (k + 1) ∧
      (runStages .haltOnFailure run root planned s).1.drop (k + 1) =
        (planned.drop (k + 1)).map PlannedStage.skipped := by
  have hk : k < planned.length := by
    simpa using (List.findIdx?_eq_some_iff_findIdx_eq.1 h).1
  have hissued : (FailurePolicy.haltOnFailure.issued (run.calls root planned s)).length =
      k + 1 := by
    rw [issued_of_findIdx?_eq_some h, List.length_take, Runner.length_calls]
    omega
  have hrecords :
      ((Call.records planned (run.calls root planned s)).take (k + 1)).length = k + 1 := by
    rw [List.length_take, Runner.length_records_calls]
    omega
  rw [runStages_records, hissued]
  exact ⟨List.take_left' hrecords, List.drop_left' hrecords⟩

/-- The records of a halting run whose calls all go well are those of its calls. -/
theorem runStages_haltOnFailure_records_of_none {σ : Type} {run : Runner σ} {root : Path}
    {planned : List PlannedStage} {s : σ}
    (h : (run.calls root planned s).findIdx? Call.failed = none) :
    (runStages .haltOnFailure run root planned s).1 =
      Call.records planned (run.calls root planned s) := by
  rw [runStages_records, issued_of_findIdx?_eq_none h]
  simp [List.take_of_length_le]

namespace Trial

/-- How the reports compare once the stages are laid out. -/
theorem cutRun_of_planned {σ κ κ' : Type} (t : Trial) (c : Compiler)
    (planned : List PlannedStage) (run : Responder σ) (clock : Clock κ) (clock' : Clock κ')
    (s : σ) (now : κ) (now' : κ') :
    CutRun planned
      ((t.withPolicy .keepGoing).report c
        (runStages .keepGoing (run.timed clock) t.projectRoot planned (s, now)).1)
      ((run.timed clock).calls t.projectRoot planned (s, now))
      (Call.stateAfter (s, now) ((run.timed clock).calls t.projectRoot planned (s, now))).1
      ((t.withPolicy .haltOnFailure).report c
        (runStages .haltOnFailure (run.timed clock') t.projectRoot planned (s, now')).1)
      (FailurePolicy.haltOnFailure.issued
        ((run.timed clock').calls t.projectRoot planned (s, now')))
      (Call.stateAfter (s, now') (FailurePolicy.haltOnFailure.issued
        ((run.timed clock').calls t.projectRoot planned (s, now')))).1 := by
  have hcalls := map_untimed_calls run clock clock' t.projectRoot planned s now now'
  have hfirst : ((t.withPolicy .keepGoing).report c
      (runStages .keepGoing (run.timed clock) t.projectRoot planned (s, now)).1).firstFailure? =
        ((run.timed clock').calls t.projectRoot planned (s, now')).findIdx? Call.failed := by
    rw [Report.firstFailure?, Trial.report, runStages_keepGoing_records,
      findIdx?_records (Runner.length_calls ..)]
    exact findIdx?_failed_of_untimed hcalls
  refine ⟨⟨rfl, rfl, rfl, rfl⟩, ?_, ?_, ?_⟩
  · intro k hk
    rw [hfirst] at hk
    have hlt : k < planned.length := by
      simpa using (List.findIdx?_eq_some_iff_findIdx_eq.1 hk).1
    obtain ⟨call, hcall⟩ : ∃ call,
        ((run.timed clock).calls t.projectRoot planned (s, now))[k]? = some call :=
      ⟨_, List.getElem?_eq_getElem (by simpa using hlt)⟩
    obtain ⟨call', hcall'⟩ : ∃ call',
        ((run.timed clock').calls t.projectRoot planned (s, now'))[k]? = some call' :=
      ⟨_, List.getElem?_eq_getElem (by simpa using hlt)⟩
    have hsame : call.untimed = call'.untimed := by
      have := congrArg (fun l => l[k]?) hcalls
      simpa [List.getElem?_map, hcall, hcall'] using this
    refine ⟨?_, ⟨call, hcall, ?_⟩, ?_⟩
    · rw [issued_of_findIdx?_eq_some hk, List.map_take, List.map_take, hcalls]
    · rw [issued_of_findIdx?_eq_some hk, Call.stateAfter_take hcall']
      exact congrArg (fun u => u.2.2) hsame.symm
    · simp only [Trial.report]
      rw [(runStages_haltOnFailure_records hk).1, runStages_keepGoing_records, List.map_take,
        List.map_take, map_untimed_records hcalls]
  · intro k hk
    rw [hfirst] at hk
    exact (runStages_haltOnFailure_records hk).2
  · intro hnone
    rw [hfirst] at hnone
    rw [issued_of_findIdx?_eq_none hnone]
    refine ⟨hcalls.symm, (stateAfter_untimed hcalls s now now').symm, ?_⟩
    simp only [Trial.report]
    rw [runStages_haltOnFailure_records_of_none hnone, runStages_keepGoing_records,
      map_untimed_records hcalls]

/-- A halting run is the run that attempts every stage, cut after its first failure. Two runs of one
responder from one state, one under each policy and each with its own clock, either cannot start for
the same reason and make no call, or both end with a report and compare as `CutRun` says. -/
theorem haltOnFailure_cutRun {σ κ κ' : Type} (t : Trial) (m : Machine) (c : Compiler)
    (run : Responder σ) (clock : Clock κ) (clock' : Clock κ') (s : σ) (now : κ) (now' : κ') :
    (∃ e, ((t.withPolicy .keepGoing).run m (run.timed clock) c (s, now)).verdict = .error e ∧
        ((t.withPolicy .haltOnFailure).run m (run.timed clock') c (s, now')).verdict = .error e ∧
        (t.withPolicy .keepGoing).log m (run.timed clock) c (s, now) = [] ∧
        (t.withPolicy .haltOnFailure).log m (run.timed clock') c (s, now') = []) ∨
      ∃ (planned : List PlannedStage) (whole cut : Report),
        t.plannedStages c = .ok planned ∧
          ((t.withPolicy .keepGoing).run m (run.timed clock) c (s, now)).verdict = .ok whole ∧
          ((t.withPolicy .haltOnFailure).run m (run.timed clock') c (s, now')).verdict = .ok cut ∧
          CutRun planned
            whole ((t.withPolicy .keepGoing).log m (run.timed clock) c (s, now))
            ((t.withPolicy .keepGoing).run m (run.timed clock) c (s, now)).state.1
            cut ((t.withPolicy .haltOnFailure).log m (run.timed clock') c (s, now'))
            ((t.withPolicy .haltOnFailure).run m (run.timed clock') c (s, now')).state.1 := by
  cases hstart : t.laidOut m c with
  | error e =>
    have hgo := (laidOut_withPolicy t .keepGoing m c).trans hstart
    have hhalt := (laidOut_withPolicy t .haltOnFailure m c).trans hstart
    refine Or.inl ⟨e, ?_, ?_, log_refused hgo _ _, log_refused hhalt _ _⟩
    · rw [run_refused hgo]
    · rw [run_refused hhalt]
  | ok planned =>
    have hgo := (laidOut_withPolicy t .keepGoing m c).trans hstart
    have hhalt := (laidOut_withPolicy t .haltOnFailure m c).trans hstart
    refine Or.inr ⟨planned, _, _, plannedStages_of_laidOut hstart, by rw [run_started hgo],
      by rw [run_started hhalt], ?_⟩
    rw [state_run, state_run, log_started hgo, log_started hhalt]
    exact cutRun_of_planned t c planned run clock clock' s now now'

end Trial

end Shakedown
