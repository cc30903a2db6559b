import Mathlib.Data.List.Forall2
import Shakedown.Stage.Planning

/-!
# How a run is laid out

What it means that a plan could be laid out as stages. `Plan.compileStages_eq_ok` pairs every
enabled module with its stage, and `Plan.stages_eq_ok` puts those stages between the reference
builds. Everything else about planned stages is read off these two.
-/

set_option autoImplicit false

namespace Shakedown

namespace Plan

variable {c : Compiler}

/-- A module that can be compiled has an object file, and its stage hands that to the compiler. -/
theorem compileStage_eq_ok {m : ModuleEntry} {p : PlannedStage} :
    compileStage c m = .ok p ↔
      ∃ object, m.objectName? = some object ∧
        p = ⟨.compile m.source,
          { program := c.program
            args := ["-c", m.source, "-o", object] ++ m.flags.toArgs }⟩ := by
  unfold compileStage ModuleEntry.compileArgs ModuleEntry.objectName
  cases m.objectName? with
  | none => simp
  | some object => simp [eq_comm]

/-- Modules can be compiled if each of them can, and then each has its stage. -/
theorem compileStages_eq_ok {modules : List ModuleEntry} {compiles : List PlannedStage} :
    compileStages c modules = .ok compiles ↔
      List.Forall₂ (fun m p => compileStage c m = .ok p) modules compiles := by
  induction modules generalizing compiles with
  | nil => simp [compileStages, eq_comm]
  | cons m more ih =>
    rw [List.forall₂_cons_left_iff]
    unfold compileStages
    cases hm : compileStage c m with
    | error e => simp
    | ok p =>
      cases hmore : compileStages c more with
      | error e =>
        have hno : ∀ rest, ¬List.Forall₂ (fun m p => compileStage c m = .ok p) more rest := by
          intro rest hrest
          rw [ih.2 hrest] at hmore
          cases hmore
        simp [hno]
      | ok rest =>
        constructor
        · intro h
          cases h
          exact ⟨p, rest, rfl, ih.1 hmore, rfl⟩
        · rintro ⟨q, rest', hq, hrest', rfl⟩
          cases hq
          have := ih.2 hrest'
          rw [hmore] at this
          cases this
          rfl

/-- A compilation is the stage of some module. -/
theorem exists_module_of_mem {modules : List ModuleEntry} {compiles : List PlannedStage}
    (h : compileStages c modules = .ok compiles) {p : PlannedStage} (hp : p ∈ compiles) :
    ∃ m ∈ modules, compileStage c m = .ok p := by
  have hpairs := compileStages_eq_ok.1 h
  clear h
  induction hpairs with
  | nil => cases hp
  | cons hm _ ih =>
    rcases List.mem_cons.1 hp with rfl | hp
    · exact ⟨_, List.mem_cons_self, hm⟩
    · obtain ⟨m, hmem, hm⟩ := ih hp
      exact ⟨m, List.mem_cons_of_mem _ hmem, hm⟩

/-- The stages of a plan: the compilations stand between two reference builds. -/
theorem stages_eq_ok {p : Plan} {planned : List PlannedStage} :
    p.stages c = .ok planned ↔
      ∃ compiles, compileStages c p.enabledModules = .ok compiles ∧
        planned = [p.target .clean Defaults.cleanTarget, p.referenceBuild 1] ++ compiles ++
          [p.referenceBuild 2, p.target .test Defaults.testTarget] := by
  unfold stages
  cases compileStages c p.enabledModules with
  | error e => simp
  | ok compiles => simp [eq_comm]

/-- Every compilation of a run is done by the compiler under test. -/
theorem program_of_mem_stages {p : Plan} {planned : List PlannedStage}
    (h : p.stages c = .ok planned) {s : PlannedStage} (hs : s ∈ planned) {source : String}
    (hsource : s.stage = .compile source) : s.invocation.program = c.program := by
  obtain ⟨compiles, hcompiles, rfl⟩ := stages_eq_ok.1 h
  have hmem : s ∈ compiles := by
    simp only [List.mem_append, List.mem_cons, List.not_mem_nil, or_false] at hs
    rcases hs with ((rfl | rfl) | hs) | (rfl | rfl)
    · cases hsource
    · cases hsource
    · exact hs
    · cases hsource
    · cases hsource
  obtain ⟨m, -, hm⟩ := exists_module_of_mem hcompiles hmem
  obtain ⟨object, -, rfl⟩ := compileStage_eq_ok.1 hm
  rfl

end Plan

end Shakedown
