import Shakedown.Run.Pipeline
import Shakedown.Run.Script

/-!
# The calls of a run

What a run asks of its runner, call by call. `Runner.logging` keeps a log beside the runner's own
state, so the log holds what was really asked, in the order in which it was asked.
`Runner.calls` is the list that the log is compared with: every planned stage handed over once, each
call starting where the one before left the runner. `FailurePolicy.issued` cuts that list where the
policy does.

Everything known about the loop is in three lemmas: `runStages_logging` gives the log,
`runStages_records` the records, and `runStages_state` the state in the end, each for both policies.
-/

set_option autoImplicit false

namespace Shakedown

/-- One call of a runner. -/
structure Call (σ : Type) where
  /-- What was to be carried out. -/
  invocation : Invocation
  /-- The directory in which it was to be carried out. -/
  directory : Path
  /-- What came back. -/
  reply : Reply
  /-- The state in which the call left the runner. -/
  after : σ

namespace Call

variable {σ : Type}

/-- Whether the call did not go well. -/
def failed (c : Call σ) : Bool :=
  (Answer.outcome c.reply.answer).isFailure

/-- The state in which calls leave a runner that was in the state `s`. -/
def stateAfter (s : σ) : List (Call σ) → σ
  | [] => s
  | c :: more => stateAfter c.after more

/-- The records of planned stages whose calls are known. -/
def records (planned : List PlannedStage) (calls : List (Call σ)) : List StageRecord :=
  List.zipWith (fun p c => p.record c.reply) planned calls

/-- After some of the calls the runner is where the last of them left it. -/
theorem stateAfter_take {calls : List (Call σ)} {k : Nat} {c : Call σ} (h : calls[k]? = some c)
    (s : σ) : stateAfter s (calls.take (k + 1)) = c.after := by
  induction calls generalizing s k with
  | nil => simp at h
  | cons d more ih =>
    cases k with
    | zero =>
      obtain rfl : d = c := by simpa using h
      rfl
    | succ k => exact ih (by simpa using h) d.after

end Call

namespace Runner

variable {σ : Type}

/-- The runner that also keeps a log of its calls, earliest first. -/
def logging (run : Runner σ) : Runner (σ × List (Call σ)) :=
  fun invocation directory (state, log) =>
    let (reply, next) := run invocation directory state
    (reply, next, log ++ [⟨invocation, directory, reply, next⟩])

/-- The call that hands a planned stage to a runner. -/
def call (run : Runner σ) (root : Path) (p : PlannedStage) (s : σ) : Call σ :=
  ⟨p.invocation, root, (run p.invocation root s).1, (run p.invocation root s).2⟩

/-- The calls that hand over planned stages one after the other. -/
def calls (run : Runner σ) (root : Path) : List PlannedStage → σ → List (Call σ)
  | [], _ => []
  | p :: more, s => run.call root p s :: run.calls root more (run.call root p s).after

/-- Every call is what the runner does in the state in which the call before left it. -/
def Chained (run : Runner σ) : σ → List (Call σ) → Prop
  | _, [] => True
  | s, c :: more =>
    run c.invocation c.directory s = (c.reply, c.after) ∧ run.Chained c.after more

/-- There is one call for every planned stage. -/
@[simp]
theorem length_calls (run : Runner σ) (root : Path) (planned : List PlannedStage) (s : σ) :
    (run.calls root planned s).length = planned.length := by
  induction planned generalizing s with
  | nil => rfl
  | cons p more ih => simp [calls, ih]

/-- The calls ask for the planned invocations in order, each in the directory of the project. -/
theorem map_calls (run : Runner σ) (root : Path) (planned : List PlannedStage) (s : σ) :
    (run.calls root planned s).map (fun c => (c.invocation, c.directory)) =
      planned.map (fun p => (p.invocation, root)) := by
  induction planned generalizing s with
  | nil => rfl
  | cons p more ih => simp [calls, call, ih]

/-- There is one record for every planned stage. -/
@[simp]
theorem length_records_calls (run : Runner σ) (root : Path) (planned : List PlannedStage) (s : σ) :
    (Call.records planned (run.calls root planned s)).length = planned.length := by
  simp [Call.records]

/-- The calls follow each other. -/
theorem chained_calls (run : Runner σ) (root : Path) (planned : List PlannedStage) (s : σ) :
    run.Chained s (run.calls root planned s) := by
  induction planned generalizing s with
  | nil => trivial
  | cons p more ih => exact ⟨rfl, ih _⟩

/-- Calls that follow each other still do when the later ones are left off. -/
theorem Chained.take {run : Runner σ} {s : σ} {calls : List (Call σ)} (h : run.Chained s calls)
    (n : Nat) : run.Chained s (calls.take n) := by
  induction calls generalizing s n with
  | nil => simpa using h
  | cons c more ih =>
    cases n with
    | zero => trivial
    | succ n => exact ⟨h.1, ih h.2 n⟩

/-- Each call is answered in the state in which those before it left the runner. -/
theorem Chained.answered {run : Runner σ} {s : σ} {calls : List (Call σ)} {k : Nat} {c : Call σ}
    (h : run.Chained s calls) (hk : calls[k]? = some c) :
    run c.invocation c.directory (Call.stateAfter s (calls.take k)) = (c.reply, c.after) := by
  induction calls generalizing s k with
  | nil => simp at hk
  | cons d more ih =>
    cases k with
    | zero =>
      obtain rfl : d = c := by simpa using hk
      exact h.1
    | succ k => exact ih h.2 (by simpa using hk)

/-- A runner that follows a script answers each call by its number and its command line. -/
theorem getElem?_calls_script (script : Script) (root : Path) {planned : List PlannedStage}
    {k : Nat} {p : PlannedStage} (h : planned[k]? = some p) (n : Nat) :
    (script.runner.calls root planned n)[k]? =
      some ⟨p.invocation, root, { answer := script.answer (n + k) p.invocation }, n + k + 1⟩ := by
  induction planned generalizing n k with
  | nil => simp at h
  | cons first more ih =>
    cases k with
    | zero =>
      obtain rfl : first = p := by simpa using h
      rfl
    | succ k =>
      have hmore := ih (by simpa using h) (n + 1)
      rw [Nat.add_right_comm] at hmore
      exact hmore

end Runner

/-! ## Where a policy cuts the calls -/

namespace FailurePolicy

variable {σ : Type}

/-- The calls that a policy lets a run make, out of those of a run that attempts every stage: all of
them, or those up to the first that does not go well. -/
def issued (policy : FailurePolicy) (calls : List (Call σ)) : List (Call σ) :=
  match policy with
  | .keepGoing => calls
  | .haltOnFailure => calls.take (calls.findIdx Call.failed + 1)

/-- Of no calls a policy lets none be made. -/
theorem issued_nil (policy : FailurePolicy) : policy.issued ([] : List (Call σ)) = [] := by
  cases policy <;> rfl

/-- The calls that a policy lets a run make are the first ones. -/
theorem issued_eq_take (policy : FailurePolicy) (calls : List (Call σ)) :
    policy.issued calls = calls.take (policy.issued calls).length := by
  cases policy with
  | keepGoing => simp [issued]
  | haltOnFailure => rw [issued, List.length_take, ← List.take_eq_take_min]

/-- A call that does not go well is the last one where the policy is to halt. -/
theorem issued_cons_failed {c : Call σ} (h : c.failed = true) (more : List (Call σ)) :
    FailurePolicy.haltOnFailure.issued (c :: more) = [c] := by
  simp [issued, List.findIdx_cons, h]

/-- After any other call the rest is cut where it would be cut without it. -/
theorem issued_cons {policy : FailurePolicy} {c : Call σ}
    (h : ¬(c.failed = true ∧ policy = .haltOnFailure)) (more : List (Call σ)) :
    policy.issued (c :: more) = c :: policy.issued more := by
  cases policy with
  | keepGoing => rfl
  | haltOnFailure =>
    have hc : c.failed = false := by simpa using h
    simp [issued, List.findIdx_cons, hc]

end FailurePolicy

/-! ## The loop -/

section Loop

variable {σ : Type} {policy : FailurePolicy} {run : Runner σ} {root : Path}

/-- A stage that fails where the policy is to halt ends the loop. -/
theorem runStages_cons_failed {p : PlannedStage} {s : σ}
    (h : (run.call root p s).failed = true) (more : List PlannedStage) :
    runStages .haltOnFailure run root (p :: more) s =
      (p.record (run.call root p s).reply :: more.map PlannedStage.skipped,
        p.events (run.call root p s).reply.answer ++ [.halting p.stage],
        (run.call root p s).after) := by
  have hfail : (p.record (run p.invocation root s).1).outcome.isFailure = true := h
  simp [runStages, Runner.call, hfail]

/-- After any other stage the loop goes on in the state that the stage left. -/
theorem runStages_cons {p : PlannedStage} {s : σ}
    (h : ¬((run.call root p s).failed = true ∧ policy = .haltOnFailure))
    (more : List PlannedStage) :
    runStages policy run root (p :: more) s =
      (p.record (run.call root p s).reply ::
          (runStages policy run root more (run.call root p s).after).1,
        p.events (run.call root p s).reply.answer ++
          (runStages policy run root more (run.call root p s).after).2.1,
        (runStages policy run root more (run.call root p s).after).2.2) := by
  have hgo : ¬((p.record (run p.invocation root s).1).outcome.isFailure = true ∧
      policy = .haltOnFailure) := h
  simp only [runStages, Runner.call, if_neg hgo]

/-- Each attempted stage has a record of what its call came to, each other stage is skipped. -/
theorem runStages_records (planned : List PlannedStage) (s : σ) :
    (runStages policy run root planned s).1 =
      (Call.records planned (run.calls root planned s)).take
          (policy.issued (run.calls root planned s)).length ++
        (planned.drop (policy.issued (run.calls root planned s)).length).map
          PlannedStage.skipped := by
  induction planned generalizing s with
  | nil => simp [runStages, Runner.calls, Call.records]
  | cons p more ih =>
    by_cases h : (run.call root p s).failed = true ∧ policy = .haltOnFailure
    · obtain ⟨hfail, rfl⟩ := h
      rw [runStages_cons_failed hfail, Runner.calls, FailurePolicy.issued_cons_failed hfail]
      simp [Call.records]
    · rw [runStages_cons h, Runner.calls, FailurePolicy.issued_cons h, ih]
      simp [Call.records]

/-- A run that attempts every stage has a record of every call. -/
theorem runStages_keepGoing_records (planned : List PlannedStage) (s : σ) :
    (runStages .keepGoing run root planned s).1 =
      Call.records planned (run.calls root planned s) := by
  rw [runStages_records]
  simp [FailurePolicy.issued, List.take_of_length_le]

/-- In the end the runner is where the calls left it. -/
theorem runStages_state (planned : List PlannedStage) (s : σ) :
    (runStages policy run root planned s).2.2 =
      Call.stateAfter s (policy.issued (run.calls root planned s)) := by
  induction planned generalizing s with
  | nil => simp [runStages, Runner.calls, Call.stateAfter, FailurePolicy.issued_nil]
  | cons p more ih =>
    by_cases h : (run.call root p s).failed = true ∧ policy = .haltOnFailure
    · obtain ⟨hfail, rfl⟩ := h
      rw [runStages_cons_failed hfail, Runner.calls, FailurePolicy.issued_cons_failed hfail]
      rfl
    · rw [runStages_cons h, Runner.calls, FailurePolicy.issued_cons h]
      exact ih _

/-- The log of a run holds the calls that the policy lets it make, and keeping it changes
nothing else. -/
theorem runStages_logging (planned : List PlannedStage) (s : σ) (log : List (Call σ)) :
    runStages policy run.logging root planned (s, log) =
      ((runStages policy run root planned s).1, (runStages policy run root planned s).2.1,
        (runStages policy run root planned s).2.2,
        log ++ policy.issued (run.calls root planned s)) := by
  induction planned generalizing s log with
  | nil => simp [runStages, Runner.calls, FailurePolicy.issued_nil]
  | cons p more ih =>
    have hcall : (run.logging.call root p (s, log)).failed = (run.call root p s).failed := rfl
    have hafter : (run.logging.call root p (s, log)).after =
        ((run.call root p s).after, log ++ [run.call root p s]) := rfl
    have hreply : (run.logging.call root p (s, log)).reply = (run.call root p s).reply := rfl
    by_cases h : (run.call root p s).failed = true ∧ policy = .haltOnFailure
    · obtain ⟨hfail, rfl⟩ := h
      rw [runStages_cons_failed (hcall.trans hfail), runStages_cons_failed hfail, Runner.calls,
        FailurePolicy.issued_cons_failed hfail, hafter, hreply]
    · rw [runStages_cons (by rwa [hcall]), runStages_cons h, Runner.calls,
        FailurePolicy.issued_cons h, hafter, hreply, ih]
      simp

end Loop

end Shakedown
