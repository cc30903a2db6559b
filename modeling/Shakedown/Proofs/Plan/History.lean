import Shakedown.Proofs.Run.Verdict
import Shakedown.Proofs.Stage.ObjectFile
import Shakedown.Session.Basic

/-!
# Plans with a history

A plan starts as the curated one. Afterwards its fields are overridden and it is replaced by what
texts and files describe, in any order and any number of times; an edit that fails is passed over.
The module list is checked in one place only, where a text is read, and yet no history leads to a
plan that cannot be laid out: `checkAll_edit` is the step and `checkAll_after` the run.

Main statement: `edited_plan_runs`, a trial of a plan with any history has its stages, and all that
can keep it from starting is the project directory. The plan in force in a session has such a
history (`exists_after_of_loadPlan`), so that this holds of every session whose plan is found.
-/

set_option autoImplicit false

namespace Shakedown

namespace Plan

/-- One step in the history of a plan. -/
inductive Edit where
  /-- Some fields are replaced. -/
  | override (o : Overrides)
  /-- The plan is replaced by the one that a text describes. -/
  | text (s : String)
  /-- The plan is replaced by the one in a file. -/
  | file (m : Machine) (path : Path)

/-- What an edit makes of a plan, or why it fails. -/
def edit (p : Plan) : Edit → Except PlanError Plan
  | .override o => .ok (p.override o)
  | .text s => ofToml s
  | .file m path => load m path

/-- The plan after edits in order. One that fails leaves the plan as it was. -/
def after (p : Plan) : List Edit → Plan
  | [] => p
  | e :: more =>
    match p.edit e with
    | .error _ => p.after more
    | .ok q => q.after more

variable {p q : Plan}

/-! ## Every plan with a history is accepted -/

/-- The modules of a plan that was read from a text are accepted. -/
theorem checkAll_ofToml {s : String} (h : ofToml s = .ok q) :
    ModuleEntry.checkAll q.modules = .ok () := by
  unfold ofToml at h
  cases hread : readToml s with
  | error e => simp [hread] at h
  | ok p =>
    cases hcheck : ModuleEntry.checkAll p.modules with
    | error e => simp [hread, hcheck] at h
    | ok _ =>
      have hq : p = q := by simpa [hread, hcheck] using h
      rw [← hq]
      exact hcheck

/-- The modules of a plan that was read from a file are accepted. -/
theorem checkAll_load {m : Machine} {path : Path} (h : load m path = .ok q) :
    ModuleEntry.checkAll q.modules = .ok () := by
  unfold load at h
  cases htext : m.tree.readText m.cwd path with
  | error fault => simp [htext] at h
  | ok s =>
    rw [htext] at h
    exact checkAll_ofToml h

/-- An edit that succeeds keeps the module list accepted, or puts an accepted one in its place. -/
theorem checkAll_edit {e : Edit} (hp : ModuleEntry.checkAll p.modules = .ok ())
    (h : p.edit e = .ok q) : ModuleEntry.checkAll q.modules = .ok () := by
  cases e with
  | override o =>
    have hq : p.override o = q := by simpa [edit] using h
    rw [← hq]
    exact hp
  | text s => exact checkAll_ofToml h
  | file m path => exact checkAll_load h

/-- Edits lead from accepted modules to accepted modules. -/
theorem checkAll_after (hp : ModuleEntry.checkAll p.modules = .ok ()) (edits : List Edit) :
    ModuleEntry.checkAll (p.after edits).modules = .ok () := by
  induction edits generalizing p with
  | nil => exact hp
  | cons e more ih =>
    unfold after
    cases h : p.edit e with
    | error _ => exact ih hp
    | ok q => exact ih (checkAll_edit hp h)

/-- The curated modules are accepted. -/
theorem checkAll_curated : ModuleEntry.checkAll ({} : Plan).modules = .ok () := by
  decide

/-! ## Histories -/

/-- Edits may be made in two parts. -/
theorem after_append (p : Plan) (edits more : List Edit) :
    p.after (edits ++ more) = (p.after edits).after more := by
  induction edits generalizing p with
  | nil => rfl
  | cons e edits ih =>
    rw [List.cons_append, after, after]
    cases p.edit e with
    | error _ => exact ih p
    | ok q => exact ih q

/-- The plan in force in a session is the curated one after at most two edits. -/
theorem exists_after_of_loadPlan {s : Session} {m : Machine} (h : s.loadPlan m = .ok p) :
    ∃ edits, p = ({} : Plan).after edits := by
  unfold Session.loadPlan Session.basePlan at h
  cases hfile : s.planFile with
  | none =>
    have hp : ({} : Plan).override s.overrides = p := by simpa [hfile] using h
    exact ⟨[.override s.overrides], hp.symm⟩
  | some path =>
    cases hload : load m path with
    | error e => simp [hfile, hload] at h
    | ok base =>
      have hp : base.override s.overrides = p := by simpa [hfile, hload] using h
      refine ⟨[.file m path, .override s.overrides], ?_⟩
      simp only [after, edit, hload, hp]

/-! ## The number of stages -/

/-- A plan has four stages more than enabled modules. -/
theorem length_stages {c : Compiler} {planned : List PlannedStage} (h : p.stages c = .ok planned) :
    planned.length = p.enabledModules.length + 4 := by
  obtain ⟨compiles, hcompiles, rfl⟩ := stages_eq_ok.1 h
  have hlength : compiles.length = p.enabledModules.length :=
    (compileStages_eq_ok.1 hcompiles).length_eq.symm
  simp only [List.length_append, List.length_cons, List.length_nil, hlength]
  omega

end Plan

/-! ## Trials -/

namespace Trial

/-- A trial whose stages are known starts if its project is a directory, and otherwise says what is
wrong with the directory. -/
theorem laidOut_cases {t : Trial} {c : Compiler} {planned : List PlannedStage}
    (h : t.plannedStages c = .ok planned) (m : Machine) :
    m.isDirectory t.projectRoot = true ∧ t.laidOut m c = .ok planned ∨
      m.pathExists t.projectRoot = false ∧
          t.laidOut m c = .error (.run (.projectDirNotFound t.projectRoot)) ∨
      m.pathExists t.projectRoot = true ∧ m.isDirectory t.projectRoot = false ∧
          t.laidOut m c = .error (.run (.projectDirNotADirectory t.projectRoot)) := by
  cases hdir : m.isDirectory t.projectRoot with
  | true => exact .inl ⟨rfl, laidOut_of_isDirectory hdir h⟩
  | false =>
    cases hexists : m.pathExists t.projectRoot with
    | false =>
      refine .inr (.inl ⟨rfl, ?_⟩)
      simp [laidOut, checkProjectDir, hexists]
    | true =>
      refine .inr (.inr ⟨rfl, rfl, ?_⟩)
      simp [laidOut, checkProjectDir, hexists, hdir]

/-- The trial of the curated plan after edits. -/
def afterEdits (edits : List Plan.Edit) (baseDir : Path) (policy : FailurePolicy) : Trial :=
  { plan := ({} : Plan).after edits, baseDir, policy }

/-- After any edits of which some may have failed, a plan is accepted and has four stages more than
enabled modules, whatever the compiler and the starting directory are. Its trial reports on all of
them if the project is a directory. The other trials end with one of the two errors about the
project directory, and then the runner was not called. -/
theorem edited_plan_runs (edits : List Plan.Edit) (baseDir : Path) (policy : FailurePolicy)
    (c : Compiler) :
    let t := afterEdits edits baseDir policy
    ModuleEntry.checkAll t.plan.modules = .ok () ∧
      (∀ e fault, t.plan.edit e = .error fault → ({} : Plan).after (edits ++ [e]) = t.plan) ∧
      ∃ planned, t.plannedStages c = .ok planned ∧
        planned.length = t.plan.enabledModules.length + 4 ∧
        ∀ (σ : Type) (m : Machine) (run : Runner σ) (s : σ),
          (m.isDirectory t.projectRoot = true → ∃ report,
            (t.run m run c s).verdict = .ok report ∧
              report.stages.map (·.stage) = planned.map (·.stage)) ∧
          ∀ e, (t.run m run c s).verdict = .error e →
            (e = .run (.projectDirNotFound t.projectRoot) ∧ m.pathExists t.projectRoot = false ∨
              e = .run (.projectDirNotADirectory t.projectRoot) ∧
                m.pathExists t.projectRoot = true ∧ m.isDirectory t.projectRoot = false) ∧
            t.log m run c s = [] ∧ (t.run m run c s).state = s := by
  intro t
  have hcheck : ModuleEntry.checkAll t.plan.modules = .ok () :=
    Plan.checkAll_after Plan.checkAll_curated edits
  refine ⟨hcheck, ?_, ?_⟩
  · intro e fault he
    rw [Plan.after_append]
    change t.plan.after [e] = t.plan
    simp only [Plan.after, he]
  · obtain ⟨planned, hplanned⟩ := Plan.stages_of_checkAll (p := t.anchoredPlan)
      (c.anchored t.baseDir) hcheck
    have hstages : t.plannedStages c = .ok planned := hplanned
    have hlength : planned.length = t.anchoredPlan.enabledModules.length + 4 :=
      Plan.length_stages hplanned
    refine ⟨planned, hstages, hlength, ?_⟩
    intro σ m run s
    constructor
    · intro hdir
      have hlaid := laidOut_of_isDirectory hdir hstages
      refine ⟨_, by rw [run_started hlaid], ?_⟩
      exact map_stage_runStages ..
    · intro e he
      obtain ⟨-, hlaid⟩ | ⟨hexists, hlaid⟩ | ⟨hexists, hdir, hlaid⟩ := laidOut_cases hstages m
      · rw [run_started hlaid] at he
        cases he
      · rw [run_refused hlaid] at he ⊢
        cases he
        exact ⟨.inl ⟨rfl, hexists⟩, log_refused hlaid run s, rfl⟩
      · rw [run_refused hlaid] at he ⊢
        cases he
        exact ⟨.inr ⟨rfl, hexists, hdir⟩, log_refused hlaid run s, rfl⟩

end Trial

end Shakedown
