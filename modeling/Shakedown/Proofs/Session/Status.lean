import Shakedown.CommandLine.Run
import Shakedown.Proofs.Run.Verdict
import Shakedown.Proofs.Session.Verdict

/-!
# The status that the system sees

Where the stages are processes, the chain from the test process to the status of the program has
three links: what the runner answers is how the process ended, the exit code of the report is what
the call of the test stage was answered, and the status is the exit code. `Trial.testEnding?` stands
at the one end of the chain and `Transcript.status` at the other.

The chain breaks at one place: a report that goes into a document and cannot name its directory ends
the program with a failure, however the tests went. A run with such an end stands at the end of this
module.
-/

set_option autoImplicit false

namespace Shakedown

/-! ## What the runner answers -/

namespace Machine

/-- How the process ends that is started for an invocation; none if none is started. -/
def ending? (m : Machine) (mode : OutputMode) (i : Invocation) (directory : Path) (w : World) :
    Option Ending :=
  match m.prepare w i directory with
  | .error _ => none
  | .ok (cwd, l) =>
    match mode with
    | .inherit => (m.runWith i cwd l [(0, 0), (1, 1), (2, 2)] w).1
    | .capture =>
      let (w, input) := openInput w
      let (w, _, outputs) := w.addCollector none
      let (w, _, complaints) := w.addCollector none
      (m.runWith i cwd l [(0, input), (1, outputs), (2, complaints)] w).1

variable {m : Machine} {mode : OutputMode} {i : Invocation} {directory : Path} {w : World}

/-- The runner answers how the process ended, or that there is none. -/
theorem runner_answer (m : Machine) (mode : OutputMode) (i : Invocation) (directory : Path)
    (w : World) :
    (∃ e, m.ending? mode i directory w = none ∧
        (m.runner mode i directory w).1.answer = .error e) ∨
      ∃ ending done, m.ending? mode i directory w = some ending ∧
        (m.runner mode i directory w).1.answer = .ok done ∧
          done.success = ending.completion.success ∧ done.code = ending.completion.code := by
  unfold ending? runner runInherited runCaptured
  cases m.prepare w i directory with
  | error e => exact .inl ⟨e.message, rfl, rfl⟩
  | ok prepared =>
    cases mode with
    | inherit => exact .inr ⟨_, _, rfl, rfl, rfl, rfl⟩
    | capture =>
      -- Both sides open the same input, and what that is does not matter.
      generalize openInput w = input
      exact .inr ⟨_, _, rfl, rfl, rfl, rfl⟩

/-- A stage succeeds if its process ends with the status zero, and only then. -/
theorem outcome_runner_eq_succeeded :
    Answer.outcome (m.runner mode i directory w).1.answer = .succeeded ↔
      m.ending? mode i directory w = some (.exited 0) := by
  obtain ⟨e, hending, hanswer⟩ | ⟨ending, done, hending, hanswer, hsuccess, -⟩ :=
    m.runner_answer mode i directory w
  · simp [hending, hanswer, Answer.outcome]
  · cases ending with
    | exited status => simp [hending, hanswer, Answer.outcome, hsuccess, Ending.completion]
    | killed signal => simp [hending, hanswer, Answer.outcome, hsuccess, Ending.completion]

/-- The exit code of a failure is the status of a process. -/
theorem exists_status_of_failed {code : Int32}
    (h : Answer.outcome (m.runner mode i directory w).1.answer = .failed (some code)) :
    ∃ status : UInt8, code = .ofNat status.toNat := by
  obtain ⟨e, -, hanswer⟩ | ⟨ending, done, -, hanswer, -, hcode⟩ :=
    m.runner_answer mode i directory w
  · simp [hanswer, Answer.outcome] at h
  · have hfailed : done.code = some code := by
      unfold Answer.outcome at h
      cases hsuccess : done.success <;> simp_all
    cases ending with
    | exited status => exact ⟨status, Option.some.inj (hfailed.symm.trans hcode)⟩
    | killed signal => cases hfailed.symm.trans hcode

end Machine

/-! ## What the report says -/

namespace Trial

/-- How the process of the test stage ends; none if none is started. -/
def testEnding? (t : Trial) (m : Machine) (mode : OutputMode) (c : Compiler) : Option Ending := do
  let planned ← (t.laidOut m c).toOption
  let k ← planned.findIdx? (·.stage = .test)
  let calls := t.log m (m.runner mode) c { tree := m.tree }
  let call ← calls[k]?
  m.ending? mode call.invocation call.directory (Call.stateAfter { tree := m.tree } (calls.take k))

variable {t : Trial} {m : Machine} {mode : OutputMode} {c : Compiler} {r : Report}

/-- The call of the test stage was answered by a process, if there was such a call. -/
theorem exists_testCall (h : (t.run m (m.runner mode) c { tree := m.tree }).verdict = .ok r) :
    (t.testEnding? m mode c = none ∧ r.testOutcome? = some .skipped) ∨
      ∃ i directory w, t.testEnding? m mode c = m.ending? mode i directory w ∧
        r.testOutcome? = some (Answer.outcome (m.runner mode i directory w).1.answer) := by
  obtain ⟨planned, hstart, -⟩ := exists_laidOut h
  obtain ⟨front, p, rfl, hp, hfront, htest⟩ := testOutcome?_log hstart h
  have hk : (front ++ [p]).findIdx? (·.stage = .test) = some front.length := by
    have hnone : front.findIdx? (·.stage = .test) = none := by
      simpa [List.findIdx?_eq_none_iff] using hfront
    simp [List.findIdx?_append, hnone, hp]
  have hending : t.testEnding? m mode c =
      (t.log m (m.runner mode) c { tree := m.tree })[front.length]?.bind fun call =>
        m.ending? mode call.invocation call.directory
          (Call.stateAfter { tree := m.tree }
            ((t.log m (m.runner mode) c { tree := m.tree }).take front.length)) := by
    simp [testEnding?, hstart, hk, Except.toOption]
  cases hcall : (t.log m (m.runner mode) c { tree := m.tree })[front.length]? with
  | none =>
    rw [hcall] at hending htest
    exact .inl ⟨hending, htest⟩
  | some call =>
    have hanswered := (t.chained_log m (m.runner mode) c { tree := m.tree }).answered hcall
    rw [hcall] at hending htest
    refine .inr ⟨_, _, _, hending, ?_⟩
    rw [hanswered]
    exact htest

/-- A run of processes passes just if the test process exits with zero. -/
theorem exitCode_processes (h : (t.run m (m.runner mode) c { tree := m.tree }).verdict = .ok r) :
    r.exitCode = 0 ↔ t.testEnding? m mode c = some (.exited 0) := by
  rw [Report.exitCode_eq_zero_iff]
  obtain ⟨hending, htest⟩ | ⟨i, directory, w, hending, htest⟩ := exists_testCall h
  · simp [hending, htest]
  · rw [hending, htest, Option.some.injEq, Machine.outcome_runner_eq_succeeded]

/-- The exit code of a run of processes is one that a process can have. -/
theorem exists_status (h : (t.run m (m.runner mode) c { tree := m.tree }).verdict = .ok r) :
    ∃ status : UInt8, r.exitCode = .ofNat status.toNat := by
  obtain ⟨-, hexit⟩ | ⟨code, hcode, -, hexit⟩ | ⟨-, hexit⟩ := r.exitCode_cases
  · exact ⟨0, hexit⟩
  · obtain ⟨-, htest⟩ | ⟨i, directory, w, -, htest⟩ := exists_testCall h
    · rw [htest] at hcode
      cases hcode
    · rw [hexit]
      exact Machine.exists_status_of_failed (Option.some.inj (htest.symm.trans hcode))
  · exact ⟨1, hexit⟩

end Trial

/-! ## What the system sees -/

/-- An exit code that a process can have passes through the system unchanged. -/
theorem Transcript.status_eq {x : Transcript} {status : UInt8}
    (h : x.exitCode = .ofNat status.toNat) : x.status = status := by
  have hlt : status.toNat < 256 := status.toNat_lt
  rw [Transcript.status, h, Int32.toInt_ofNat_of_lt (by omega)]
  have hmod : ((status.toNat : Int) % 256).toNat = status.toNat := by omega
  rw [hmod, UInt8.ofNat_toNat]

namespace CommandLine

/-- The status of a program whose session gets to its stages. -/
theorem status_started {m : Machine} {args : List Bytes} {cl : CommandLine} {c : Compiler}
    {t : Trial} {planned : List PlannedStage} (hparse : parse m.env args = .ok cl)
    (hstart : cl.session.Starts m c t planned) :
    (respond m args).status = 0 ↔
      t.testEnding? m (Session.outputMode cl.output) c = some (.exited 0) ∧
        ¬(cl.output.json = true ∧ t.projectRoot.text? = none) := by
  obtain ⟨-, report, hreport, hverdict⟩ :=
    Session.concludes_of_starts hstart (m.runner (Session.outputMode cl.output)) cl.output
      { tree := m.tree }
  have hrun : (cl.run m).verdict =
      if cl.output.json = true ∧ t.projectRoot.text? = none then .error (.output .pathNotText)
      else .ok report.exitCode := hverdict
  have hrespond : (respond m args).exitCode = (cl.run m).transcript.exitCode := by
    rw [respond, hparse]
  rw [SessionResult.transcript, hrun] at hrespond
  by_cases hunnamed : cl.output.json = true ∧ t.projectRoot.text? = none
  · rw [if_pos hunnamed] at hrespond
    have hstatus : (respond m args).status = 1 :=
      @Transcript.status_eq _ 1 hrespond
    simp [hstatus, hunnamed]
  · rw [if_neg hunnamed] at hrespond
    obtain ⟨status, hexit⟩ := Trial.exists_status hreport
    rw [← Trial.exitCode_processes hreport, and_iff_left hunnamed]
    constructor
    · intro hzero
      rw [hexit, ← Transcript.status_eq (hrespond.trans hexit), hzero]
      rfl
    · intro hzero
      exact @Transcript.status_eq _ 0 (hrespond.trans hzero)

end CommandLine

/-- The verdict is that of the tests and of nothing else. Of every report it is the verdict of the
last test stage. Of two runs that attempt every stage it is the same if their last calls are
answered alike. A run that halts passes just if every stage succeeds, and an exit code of its own
means that all went well before the tests. Where the stages are processes, the status of the program
is zero just if the test process exits with zero, unless a document has to name a directory that is
not text. -/
theorem verdict_of_tests (r : Report) (m : Machine) (args : List Bytes) :
    r.JudgedByTest ∧
      (∀ {σ σ' : Type} {t t' : Trial} {m m' : Machine} {run : Runner σ} {run' : Runner σ'}
        {c c' : Compiler} {s : σ} {s' : σ'} {r r' : Report},
        ((t.withPolicy .keepGoing).run m run c s).verdict = .ok r →
        ((t'.withPolicy .keepGoing).run m' run' c' s').verdict = .ok r' →
        ((t.withPolicy .keepGoing).log m run c s).getLast?.map (·.reply.answer) =
          ((t'.withPolicy .keepGoing).log m' run' c' s').getLast?.map (·.reply.answer) →
        r.succeeded = r'.succeeded ∧ r.exitCode = r'.exitCode ∧
          ∀ words ∈ ["Tests passed with '", "Tests did not pass with '"],
            r.closesWith words = r'.closesWith words) ∧
      (∀ {σ : Type} {t : Trial} {m : Machine} {run : Runner σ} {c : Compiler} {s : σ} {r : Report},
        ((t.withPolicy .haltOnFailure).run m run c s).verdict = .ok r →
        (r.exitCode = 0 ↔ ∀ x ∈ r.stages, x.outcome = .succeeded) ∧
          ∀ code : Int32, r.exitCode = code → code ≠ 0 → code ≠ 1 →
            ∃ (front : List StageRecord) (x : StageRecord), r.stages = front ++ [x] ∧
              x.stage = .test ∧
              x.outcome = .failed (some code) ∧ ∀ y ∈ front, y.outcome = .succeeded) ∧
      ∀ {cl : CommandLine} {c : Compiler} {t : Trial} {planned : List PlannedStage},
        CommandLine.parse m.env args = .ok cl → cl.session.Starts m c t planned →
        ((CommandLine.respond m args).status = 0 ↔
          t.testEnding? m (Session.outputMode cl.output) c = some (.exited 0) ∧
            ¬(cl.output.json = true ∧ t.projectRoot.text? = none)) :=
  ⟨r.judgedByTest, Trial.verdict_of_last_answer, Trial.verdict_haltOnFailure,
    CommandLine.status_started⟩

/-! ## A status that hides a success -/

namespace Hidden

/-- A machine with the directory `/w`, a directory in it whose name is not text, and in `/b` a build
tool and a compiler that always succeed. -/
def machine : Machine :=
  { tree :=
      { nodes :=
          [([[0x77]], FileTree.plainDirectory), ([[0x77], [0xFF]], FileTree.plainDirectory),
            ([[0x62]], FileTree.plainDirectory), ([[0x62], Utf8.bytes "make"], .file 0),
            ([[0x62], Utf8.bytes "tcc"], .file 0)]
        files := [{ mode := 0o755, content := .program "true" }] }
    cwd := [[0x77]]
    env := [(Utf8.bytes "PATH", Utf8.bytes "/b")] }

/-- A command line that names the directory, as it was typed. -/
def arguments : List Bytes :=
  [Utf8.bytes "--json", Utf8.bytes "--project-dir", [0xFF], Utf8.bytes "tcc"]

/-- The same as it is read. -/
def commandLine : CommandLine :=
  { compiler := "tcc", projectDir := some ⟨[0xFF]⟩, json := true }

/-- The compiler that it names. -/
def compiler : Compiler :=
  ⟨"tcc", by decide⟩

/-- The trial that it asks for. -/
def trial : Trial :=
  { plan := { projectDir := ⟨[0xFF]⟩ }, baseDir := ⟨[0x2F, 0x77]⟩ }

end Hidden

/-- The test process of this run exits with zero and the status of the program is one. -/
theorem unnamed_directory_hides_success :
    CommandLine.parse Hidden.machine.env Hidden.arguments = .ok Hidden.commandLine ∧
      (∃ planned,
        Hidden.commandLine.session.Starts Hidden.machine Hidden.compiler Hidden.trial planned) ∧
      Hidden.trial.testEnding? Hidden.machine .capture Hidden.compiler = some (.exited 0) ∧
      (CommandLine.respond Hidden.machine Hidden.arguments).status = 1 := by
  have hdirectory : Hidden.machine.currentDir = .ok Hidden.trial.baseDir := by decide
  have hlaidOut : (Hidden.trial.laidOut Hidden.machine Hidden.compiler).isOk = true := by
    decide +kernel
  refine ⟨by decide +kernel, ?_, by decide +kernel, by decide +kernel⟩
  cases hstart : Hidden.trial.laidOut Hidden.machine Hidden.compiler with
  | error e => simp [hstart, Except.isOk, Except.toBool] at hlaidOut
  | ok planned =>
    refine ⟨planned, rfl, ?_, hstart⟩
    rw [Session.prepare, hdirectory]
    rfl

end Shakedown
