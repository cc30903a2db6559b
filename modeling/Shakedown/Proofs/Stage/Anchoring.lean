import Shakedown.Proofs.Run.Verdict
import Shakedown.Proofs.Stage.Program

/-!
# Programs are anchored once

A relative program is anchored to the directory where the harness was started. What comes out
depends on no directory any more: it is a bare name, or it starts at the root. So it can be anchored
again, to any other directory, and stays as it is (`anchor_anchor`).

The compiler under test and the build tool are the programs that are anchored. A trial that takes
both from its own stages can be planned from anywhere and has the same stages.

Main statement: `Trial.anchoring_settles_programs`.
-/

set_option autoImplicit false

namespace Shakedown

/-! ## One program -/

section Anchor

variable {program : String} {base : Path}

/-- A relative path is anchored to a path that starts at the root. -/
theorem isAbsolute_anchor (hbase : base.isAbsolute = true) (h : IsRelativePath program) :
    PathLetter.isAbsolute (anchor program base).toList = true := by
  have hjoin : (base.join (.ofString program)).isAbsolute = true :=
    PathLetter.isAbsolute_join hbase _
  have hshown : (Path.ofString (anchor program base)).isAbsolute = true := by
    rw [ofString_anchor h]
    exact Path.isAbsolute_shown hjoin
  unfold Path.isAbsolute Path.ofString at hshown
  rwa [Path.isAbsolute_encode] at hshown

/-- No anchored program is a relative path. -/
theorem not_isRelativePath_anchor (program : String) (hbase : base.isAbsolute = true) :
    ¬IsRelativePath (anchor program base) := by
  by_cases h : IsRelativePath program
  · intro hrelative
    have hfalse := hrelative.2
    rw [isAbsolute_anchor hbase h] at hfalse
    cases hfalse
  · rwa [anchor_of_not_isRelativePath h]

/-- A program that is anchored stays as it is, whatever it is anchored to again. -/
theorem anchor_anchor (program : String) (hbase : base.isAbsolute = true) (base' : Path) :
    anchor (anchor program base) base' = anchor program base :=
  anchor_of_not_isRelativePath (not_isRelativePath_anchor program hbase) base'

/-- An anchored program is the one that was typed, which names no directory to be taken from, or
starts at the root. -/
theorem anchor_eq_self_or_isAbsolute (program : String) (hbase : base.isAbsolute = true) :
    (anchor program base = program ∧
        ('/' ∉ program.toList ∨ PathLetter.isAbsolute program.toList = true)) ∨
      PathLetter.isAbsolute (anchor program base).toList = true := by
  by_cases h : IsRelativePath program
  · exact .inr (isAbsolute_anchor hbase h)
  · refine .inl ⟨anchor_of_not_isRelativePath h base, ?_⟩
    unfold IsRelativePath at h
    by_cases hslash : '/' ∈ program.toList
    · exact .inr (by simpa [hslash] using h)
    · exact .inl hslash

end Anchor

/-! ## The programs of stages -/

namespace PlannedStage

variable {program : String} {s : PlannedStage}

/-- A stage keeps its program where its compilation has that program already. -/
theorem withCompiler_eq_self (h : s.stage.isCompile = true → s.invocation.program = program) :
    s.withCompiler program = s := by
  unfold withCompiler
  split
  · next hcompile => rw [← h hcompile]
  · rfl

/-- A stage keeps its program where the build tool is that program already. -/
theorem withBuildTool_eq_self (h : s.stage.isCompile = false → s.invocation.program = program) :
    s.withBuildTool program = s := by
  unfold withBuildTool
  split
  · rfl
  · next hother => rw [← h (by simpa using hother)]

end PlannedStage

namespace Trial

variable {t : Trial} {c : Compiler}

/-- Whether stages run a compiler where they compile a module, and a build tool everywhere else. -/
def RunsPrograms (planned : List PlannedStage) (compiler tool : String) : Prop :=
  ∀ s ∈ planned, s.invocation.program = if s.stage.isCompile then compiler else tool

/-- The trial with another build tool, started from another directory. -/
def moved (t : Trial) (tool : String) (base : Path) : Trial :=
  { t with plan := { t.plan with buildTool := tool }, baseDir := base }

/-- The stages of a trial run the anchored compiler and the anchored build tool. -/
theorem runsPrograms_plannedStages {planned : List PlannedStage}
    (h : t.plannedStages c = .ok planned) :
    RunsPrograms planned (c.anchored t.baseDir).program (anchor t.plan.buildTool t.baseDir) := by
  intro s hs
  rw [program_of_mem_plannedStages h hs]
  unfold typed
  split <;> rfl

/-- Stages of a moved trial, as a change of the programs of the stages that were planned before. -/
theorem plannedStages_moved (t : Trial) (c c' : Compiler) (tool : String) (base : Path) :
    (t.moved tool base).plannedStages c' = (t.plannedStages c).map
      (List.map fun s =>
        (s.withCompiler (anchor c'.program base)).withBuildTool (anchor tool base)) := by
  have hplan : (t.moved tool base).anchoredPlan =
      { t.anchoredPlan with buildTool := anchor tool base } := rfl
  have hcompiler := t.anchoredPlan.stages_withCompiler (c.anchored t.baseDir) (c'.anchored base)
  have htool := t.anchoredPlan.stages_withBuildTool (c'.anchored base) (anchor tool base)
  unfold plannedStages
  rw [hplan]
  refine htool.trans ?_
  rw [hcompiler]
  cases t.anchoredPlan.stages (c.anchored t.baseDir) with
  | error e => rfl
  | ok planned =>
    refine congrArg Except.ok ?_
    rw [List.map_map]
    rfl

/-- A trial with the programs of its stages has these stages from anywhere. -/
theorem plannedStages_moved_eq (hbase : t.baseDir.isAbsolute = true)
    {planned : List PlannedStage} (h : t.plannedStages c = .ok planned) {c' : Compiler}
    {tool : String} (hprograms : RunsPrograms planned c'.program tool) (base : Path) :
    (t.moved tool base).plannedStages c' = .ok planned := by
  have hsame : ∀ s ∈ planned,
      (s.withCompiler (anchor c'.program base)).withBuildTool (anchor tool base) = s := by
    intro s hs
    have hprogram := hprograms s hs
    -- Whatever stands in a stage was anchored, so it is settled.
    have hsettled : anchor s.invocation.program base = s.invocation.program := by
      rw [program_of_mem_plannedStages h hs]
      exact anchor_anchor _ hbase base
    have hcompiler : s.withCompiler (anchor c'.program base) = s := by
      apply PlannedStage.withCompiler_eq_self
      intro hcompile
      rw [if_pos hcompile] at hprogram
      rw [← hprogram, hsettled]
    rw [hcompiler]
    apply PlannedStage.withBuildTool_eq_self
    intro hother
    rw [if_neg (by simp [hother])] at hprogram
    rw [← hprogram, hsettled]
  rw [plannedStages_moved t c c' tool base, h]
  refine congrArg Except.ok ?_
  rw [List.map_congr_left hsame, List.map_id']

/-- Planning fails from anywhere as it fails at first. -/
theorem plannedStages_moved_eq_error {e : ConfigError} (h : t.plannedStages c = .error e)
    (c' : Compiler) (tool : String) (base : Path) :
    (t.moved tool base).plannedStages c' = .error e := by
  rw [plannedStages_moved t c c' tool base, h]
  rfl

/-- Anchoring settles a program. What it gives is the same when it is anchored again, and is the
program itself or a path from the root. So a trial has its stages from every directory, once its
compiler and its build tool are those that stand in these stages, and there are such two. The
compiler in the report of a run is one that can be given to a trial, and from every directory it
leads to the stages that were run. -/
theorem anchoring_settles_programs :
    (∀ (program : String) (base base' : Path), base.isAbsolute = true →
      anchor (anchor program base) base' = anchor program base ∧
        ((anchor program base = program ∧
            ('/' ∉ program.toList ∨ PathLetter.isAbsolute program.toList = true)) ∨
          PathLetter.isAbsolute (anchor program base).toList = true)) ∧
      (∀ (t : Trial) (c : Compiler), t.baseDir.isAbsolute = true →
        (∀ planned, t.plannedStages c = .ok planned →
          (∃ (c' : Compiler) (tool : String), RunsPrograms planned c'.program tool) ∧
          ∀ (c' : Compiler) (tool : String), RunsPrograms planned c'.program tool →
            ∀ base', (t.moved tool base').plannedStages c' = .ok planned) ∧
        ∀ e, t.plannedStages c = .error e →
          ∀ c' tool base', (t.moved tool base').plannedStages c' = .error e) ∧
      ∀ (σ : Type) (t : Trial) (m : Machine) (run : Runner σ) (c : Compiler) (s : σ)
        (report : Report), t.baseDir.isAbsolute = true →
        (t.run m run c s).verdict = .ok report →
          ∃ c', Compiler.ofString report.compiler = .ok c' ∧
            ∀ base', anchor report.compiler base' = report.compiler ∧
              (t.moved (anchor t.plan.buildTool t.baseDir) base').plannedStages c' =
                t.plannedStages c := by
  refine ⟨?_, ?_, ?_⟩
  · intro program base base' hbase
    exact ⟨anchor_anchor program hbase base', anchor_eq_self_or_isAbsolute program hbase⟩
  · intro t c hbase
    refine ⟨fun planned h => ⟨?_, ?_⟩, fun e h => plannedStages_moved_eq_error h⟩
    · exact ⟨c.anchored t.baseDir, anchor t.plan.buildTool t.baseDir, runsPrograms_plannedStages h⟩
    · intro c' tool hprograms base'
      exact plannedStages_moved_eq hbase h hprograms base'
  · intro σ t m run c s report hbase hverdict
    obtain ⟨planned, hstart, -⟩ := exists_laidOut hverdict
    rw [run_started hstart] at hverdict
    obtain rfl : t.report c (runStages t.policy run t.projectRoot planned s).1 = report :=
      Except.ok.inj hverdict
    have hplanned := plannedStages_of_laidOut hstart
    refine ⟨c.anchored t.baseDir, Compiler.ofString_program _, fun base' => ⟨?_, ?_⟩⟩
    · exact anchor_anchor c.program hbase base'
    · rw [plannedStages_moved_eq hbase hplanned (runsPrograms_plannedStages hplanned) base',
        hplanned]

end Trial

end Shakedown
