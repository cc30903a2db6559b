import Shakedown.Proofs.Process.Search
import Shakedown.Proofs.Run.Story
import Shakedown.Proofs.Stage.Anchoring

/-!
# Whether the compiler is there

Before the first stage a run looks its compiler up, and warns if it finds none. The compile stages
look for it again, from the directory of the project. A compiler that is a path is the same for
both. A bare name is looked for in the directories of the search path, and then both agree if each
of these is settled, above all if it is absolute.

A relative directory of the search path is another one for the run than for its stages.
`relative_search_path_misleads` has a run that does not warn although the compiler is not found by
its stages, and one that warns although it is.

Main statement: `Trial.warning_agrees_with_search`.
-/

set_option autoImplicit false

namespace Shakedown

/-- Whether a run warned that its compiler is not there. -/
def RunResult.Warns {σ : Type} (r : RunResult σ) : Prop :=
  ∃ compiler, .compilerNotFound compiler ∈ r.events

namespace StageRecord

/-- No record tells of a compiler that is not there. -/
theorem compilerNotFound_not_mem_story (policy : FailurePolicy) (r : StageRecord)
    (compiler : String) : .compilerNotFound compiler ∉ r.story policy := by
  unfold story warnings
  cases r.outcome <;> cases policy <;> simp [StageOutcome.isFailure]

end StageRecord

namespace Compiler

/-- A program that is a path from the root is not searched for. -/
theorem isProgramPath_of_isAbsolute {program : String}
    (h : (Path.ofString program).isAbsolute = true) :
    FileTree.isProgramPath (Utf8.bytes program) = true := by
  obtain ⟨rest, hbytes⟩ : ∃ rest, Utf8.bytes program = PathLetter.slash :: rest := by
    unfold Path.isAbsolute PathLetter.isAbsolute at h
    exact List.head?_eq_some_iff.1 (of_decide_eq_true h)
  unfold FileTree.isProgramPath
  rw [hbytes]
  simp

/-- A compiler without a slash is searched for. -/
theorem isProgramPath_of_no_slash (c : Compiler) (h : '/' ∉ c.program.toList) :
    FileTree.isProgramPath (Utf8.bytes c.program) = false := by
  have hempty : Utf8.bytes c.program ≠ [] := by
    intro hnil
    have hprogram : c.program = "" := Utf8.bytes_injective hnil
    have hblank := c.not_blank
    rw [hprogram] at hblank
    cases hblank
  have hslash : PathLetter.slash ∉ Utf8.bytes c.program := by
    intro hmem
    obtain ⟨x, hx, hb⟩ := List.mem_flatMap.1 hmem
    have hn : x.toNat = '/'.toNat := (Utf8.mem_encodeChar_of_ascii (by decide)).1 hb
    exact h (Char.toNat_inj.1 hn ▸ hx)
  unfold FileTree.isProgramPath
  simp [hempty, hslash]

end Compiler

namespace Machine

/-- The working directory of a machine that has one is the path of its location. -/
theorem path_of_currentDir {m : Machine} {here : Path} (h : m.currentDir = .ok here) :
    here = m.cwd.path := by
  unfold currentDir at h
  split at h
  · exact (Except.ok.inj h).symm
  · cases h

/-- A directory with a path from the root can be entered. -/
theorem exists_enter {m : Machine} {directory : Path} (habsolute : directory.isAbsolute = true)
    (h : m.isDirectory directory = true) :
    ∃ root, m.tree.enter m.cwd directory = .ok root := by
  have hnot : directory.bytes ≠ PathLetter.single := by
    intro hsingle
    unfold Path.isAbsolute at habsolute
    rw [hsingle] at habsolute
    cases habsolute
  unfold isDirectory at h
  unfold FileTree.enter
  rw [if_neg hnot]
  cases hstat : m.tree.stat m.cwd directory with
  | error e => simp [hstat] at h
  | ok found =>
    obtain ⟨l, n⟩ := found
    rw [hstat] at h
    exact ⟨l, if_pos h⟩

end Machine

namespace Trial

section Agreement

variable {σ : Type} {t : Trial} {m : Machine} {c : Compiler} {planned : List PlannedStage}

/-- A run warns if it does not find the compiler, and for no other reason. -/
theorem warns_run_iff (hstart : t.laidOut m c = .ok planned) (run : Runner σ) (s : σ) :
    (t.run m run c s).Warns ↔ (m.locate (anchor c.program t.baseDir)).isSome = false := by
  unfold RunResult.Warns
  rw [events_run hstart run s]
  simp only [List.mem_append]
  constructor
  · rintro ⟨compiler, hopening | hstory⟩
    · unfold openingEvents at hopening
      by_cases hnone : m.locate (anchor c.program t.baseDir) = none
      · simp [hnone]
      · simp [hnone] at hopening
    · obtain ⟨r, -, hr⟩ := List.mem_flatMap.1 hstory
      exact absurd hr (r.compilerNotFound_not_mem_story t.policy compiler)
  · intro hnone
    refine ⟨anchor c.program t.baseDir, .inl ?_⟩
    unfold openingEvents
    rw [if_pos (by simpa using hnone)]
    exact List.mem_append_left _ (List.mem_singleton_self _)

/-- How a compile stage is issued. -/
theorem invocation_of_isCompile (h : t.plannedStages c = .ok planned) {p : PlannedStage}
    (hp : p ∈ planned) (hcompile : p.stage.isCompile = true) :
    p.invocation.program = anchor c.program t.baseDir ∧ p.invocation.env = [] := by
  constructor
  · exact program_of_isCompile h hp hcompile
  · rw [(laysOut_of_plannedStages h).overrides p hp]
    cases hstage : p.stage <;> simp_all [Stage.isCompile, Stage.isReferenceBuild]

/-- A compiler with a slash is issued as a path from the root. -/
theorem isAbsolute_anchor_of_slash {program : String} {base : Path}
    (hbase : base.isAbsolute = true) (h : '/' ∈ program.toList) :
    (Path.ofString (anchor program base)).isAbsolute = true := by
  unfold Path.isAbsolute Path.ofString
  rw [Path.isAbsolute_encode]
  by_cases hrelative : IsRelativePath program
  · exact isAbsolute_anchor hbase hrelative
  · rw [anchor_of_not_isRelativePath hrelative]
    unfold IsRelativePath at hrelative
    simpa [h] using hrelative

/-- A run warns of the compiler just if its compile stages do not find it, where the compiler is a
path, or where every directory of the search path is settled and no fault ends their search. For any
other search path, this is where the run looks, and where its compile stages do. A compile stage
that does not find the compiler is answered with an error. -/
theorem warning_agrees_with_search (hcwd : m.currentDir = .ok t.baseDir)
    (hdir : m.isDirectory t.projectRoot = true) (hplanned : t.plannedStages c = .ok planned)
    (run : Runner σ) (s : σ) :
    ∃ root, m.tree.enter m.cwd t.projectRoot = .ok root ∧
      ∀ p ∈ planned, p.stage.isCompile = true →
        (p.invocation.finds m.tree root m.env = false → ∀ (mode : OutputMode) (w : World),
          w.tree = m.tree → ∃ e, (m.runner mode p.invocation t.projectRoot w).1.answer = .error e) ∧
        ('/' ∈ c.program.toList →
          ((t.run m run c s).Warns ↔ p.invocation.finds m.tree root m.env = false)) ∧
        ∀ path, '/' ∉ c.program.toList → m.env.get? (Utf8.bytes "PATH") = some path →
          ((t.run m run c s).Warns ↔ ∀ d ∈ Machine.searchPath path,
            ¬m.tree.Runs m.cwd ((m.expandHome d).join (.ofString c.program))) ∧
          (p.invocation.finds m.tree root m.env = true ↔
            (∃ d ∈ Machine.searchPath path,
              m.tree.Runs root (FileTree.spawnPath d (Utf8.bytes c.program))) ∧
            p.invocation.endsEarly m.tree root m.env = false) ∧
          ((∀ d ∈ Machine.searchPath path, m.Settles root d) →
            (p.invocation.finds m.tree root m.env = true ↔
              ¬(t.run m run c s).Warns ∧ p.invocation.endsEarly m.tree root m.env = false)) := by
  have hbase : t.baseDir.isAbsolute = true := by
    rw [Machine.path_of_currentDir hcwd]
    exact m.cwd.isAbsolute_path
  have hproject : t.projectRoot.isAbsolute = true := PathLetter.isAbsolute_join hbase _
  obtain ⟨root, hroot⟩ := Machine.exists_enter hproject hdir
  have hwarns := warns_run_iff (laidOut_of_isDirectory hdir hplanned) run s
  refine ⟨root, hroot, fun p hp hcompile => ?_⟩
  obtain ⟨hprogram, henv⟩ := invocation_of_isCompile hplanned hp hcompile
  have hchild : p.invocation.childEnvironment m.env = m.env := by
    unfold Invocation.childEnvironment
    rw [henv]
    rfl
  refine ⟨fun hfinds mode w => Invocation.exists_error_of_not_finds henv hroot hfinds mode, ?_, ?_⟩
  · intro hslash
    have habsolute := isAbsolute_anchor_of_slash hbase hslash
    have hpaths : FileTree.programPaths m.env (Utf8.bytes (anchor c.program t.baseDir)) =
        [.ofString (anchor c.program t.baseDir)] :=
      FileTree.programPaths_of_isProgramPath (Compiler.isProgramPath_of_isAbsolute habsolute)
    have hfinds : p.invocation.finds m.tree root m.env = true ↔
        (m.locate (anchor c.program t.baseDir)).isSome = true := by
      unfold Invocation.finds
      rw [hchild, hprogram, hpaths, FileTree.finds_singleton,
        Machine.isSome_locate_of_isAbsolute hcwd habsolute]
      exact FileTree.runs_iff_of_isAbsolute habsolute root m.cwd
    rw [hwarns, ← Bool.not_eq_true, ← Bool.not_eq_true, hfinds]
  · intro path hslash hpath
    have hbare : anchor c.program t.baseDir = c.program :=
      anchor_of_not_isRelativePath (fun hrelative => hslash hrelative.1) t.baseDir
    have hsearched := c.isProgramPath_of_no_slash hslash
    have hname : PathLetter.isAbsolute (Utf8.bytes c.program) = false := by
      rw [← Bool.not_eq_true]
      intro hroot
      have habsolute : (Path.ofString c.program).isAbsolute = true := hroot
      rw [Compiler.isProgramPath_of_isAbsolute habsolute] at hsearched
      cases hsearched
    have hpaths := FileTree.programPaths_of_path hsearched hpath
    have hlocate : (m.locate c.program).isSome = true ↔ ∃ d ∈ Machine.searchPath path,
        m.tree.Runs m.cwd ((m.expandHome d).join (.ofString c.program)) := by
      rw [Machine.isSome_locate_iff, Machine.candidates_of_no_slash hslash]
      simp [Machine.onSearchPath, hpath]
    rw [hbare] at hprogram hwarns
    unfold Invocation.finds Invocation.endsEarly
    rw [hchild, hprogram, hpaths, hwarns]
    refine ⟨?_, ?_, ?_⟩
    · rw [← Bool.not_eq_true, hlocate]
      simp
    · rw [FileTree.finds_iff]
      simp
    · intro hsettles
      rw [Machine.finds_spawnPaths_iff hname hsettles, Bool.not_eq_false, hlocate]
      rfl

end Agreement

/-! ## A search path at fixed places -/

namespace Misled

/-- The directory `/w` with the project `p` in it, and a compiler in the `bin` of a directory. -/
def machine (place : Location) (path : String) : Machine :=
  { tree :=
      { nodes :=
          [([Utf8.bytes "w"], FileTree.plainDirectory),
            ([Utf8.bytes "w", Utf8.bytes "p"], FileTree.plainDirectory),
            (place ++ [Utf8.bytes "bin"], FileTree.plainDirectory),
            (place ++ [Utf8.bytes "bin", Utf8.bytes "cc"], .file 0)]
        files := [{ mode := 0o755, content := .data (Utf8.bytes "#!/bin/sh\nexit 0\n") }] }
    cwd := [Utf8.bytes "w"]
    env := [(Utf8.bytes "PATH", Utf8.bytes path)] }

/-- The location of the starting directory. -/
def start : Location :=
  [Utf8.bytes "w"]

/-- The location of the project. -/
def project : Location :=
  [Utf8.bytes "w", Utf8.bytes "p"]

/-- A trial of the project, with a single module. -/
def trial : Trial :=
  { plan := { projectDir := .ofString "p", modules := [{ source := "a.c" }] }
    baseDir := .ofString "/w" }

/-- The name of the compiler is not blank. -/
theorem not_isBlank_cc : isBlank "cc" = false := by
  decide

/-- A compiler that is searched for. -/
def compiler : Compiler :=
  ⟨"cc", not_isBlank_cc⟩

/-- How the compiler is issued. -/
def compilation : PlannedStage :=
  { stage := .compile "a.c"
    invocation := { program := "cc", args := ["-c", "a.c", "-o", "a.o"] } }

/-- The stages of the trial. -/
def planned : List PlannedStage :=
  [⟨.clean, { program := "make", args := ["clean"] }⟩,
    ⟨.referenceBuild 1, { program := "make", env := [("CC", "gcc")] }⟩,
    compilation,
    ⟨.referenceBuild 2, { program := "make", env := [("CC", "gcc")] }⟩,
    ⟨.test, { program := "make", args := ["test"] }⟩]

/-- The stages of the trial are the listed ones. -/
theorem plannedStages_trial : trial.plannedStages compiler = .ok planned := by
  decide

/-- The compilation is one of the stages. -/
theorem compilation_mem_planned : compilation ∈ planned := by
  decide

end Misled

/-- With an absolute search path the compile stage finds the compiler just if the run does not
warn. -/
theorem warning_agrees_with_search_sample :
    (Misled.machine Misled.start "/w/bin").currentDir = .ok Misled.trial.baseDir ∧
      ∃ root, (Misled.machine Misled.start "/w/bin").tree.enter
          (Misled.machine Misled.start "/w/bin").cwd Misled.trial.projectRoot = .ok root ∧
        (Misled.compilation.invocation.finds (Misled.machine Misled.start "/w/bin").tree root
            (Misled.machine Misled.start "/w/bin").env = true ↔
          ¬(Misled.trial.run (Misled.machine Misled.start "/w/bin") Sample.runner Misled.compiler
              0).Warns ∧
            Misled.compilation.invocation.endsEarly (Misled.machine Misled.start "/w/bin").tree root
              (Misled.machine Misled.start "/w/bin").env = false) := by
  have hcwd : (Misled.machine Misled.start "/w/bin").currentDir = .ok Misled.trial.baseDir := by
    decide
  have hdir : (Misled.machine Misled.start "/w/bin").isDirectory Misled.trial.projectRoot =
      true := by
    decide
  obtain ⟨root, hroot, hstages⟩ :=
    warning_agrees_with_search hcwd hdir Misled.plannedStages_trial Sample.runner 0
  obtain ⟨-, -, hsearched⟩ := hstages Misled.compilation Misled.compilation_mem_planned rfl
  obtain ⟨-, -, hagree⟩ := hsearched (Utf8.bytes "/w/bin") (by decide) (by decide)
  refine ⟨hcwd, root, hroot, hagree ?_⟩
  intro d hd
  have hone : d = Utf8.bytes "/w/bin" := by
    have hdirectories : Machine.searchPath (Utf8.bytes "/w/bin") =
      [Utf8.bytes "/w/bin"] := by decide
    rw [hdirectories] at hd
    exact List.mem_singleton.1 hd
  rw [hone]
  exact .inl (by decide)

/-- With the search path `bin`, a run does not warn of a compiler that stands in the `bin` of the
starting directory, and its compile stage does not find it. It warns of one that stands in the `bin`
of the project, and its compile stage finds it. -/
theorem relative_search_path_misleads :
    Misled.trial.plannedStages Misled.compiler = .ok Misled.planned ∧
      Misled.compilation ∈ Misled.planned ∧ Misled.compilation.stage.isCompile = true ∧
      (∀ place ∈ [Misled.start, Misled.project],
        (Misled.machine place "bin").currentDir = .ok Misled.trial.baseDir ∧
        (Misled.machine place "bin").isDirectory Misled.trial.projectRoot = true ∧
        (Misled.machine place "bin").tree.enter (Misled.machine place "bin").cwd
          Misled.trial.projectRoot = .ok Misled.project) ∧
      (Misled.compilation.invocation.finds (Misled.machine Misled.start "bin").tree Misled.project
          (Misled.machine Misled.start "bin").env = false ∧
        ¬(Misled.trial.run (Misled.machine Misled.start "bin") Sample.runner Misled.compiler
            0).Warns) ∧
      Misled.compilation.invocation.finds (Misled.machine Misled.project "bin").tree Misled.project
          (Misled.machine Misled.project "bin").env = true ∧
        (Misled.trial.run (Misled.machine Misled.project "bin") Sample.runner Misled.compiler
            0).Warns := by
  have hstart (place : Location)
      (hdir : (Misled.machine place "bin").isDirectory Misled.trial.projectRoot = true) :=
    warns_run_iff (laidOut_of_isDirectory hdir Misled.plannedStages_trial) Sample.runner 0
  refine ⟨Misled.plannedStages_trial, Misled.compilation_mem_planned, rfl, by decide,
    ⟨by decide, ?_⟩, by decide, ?_⟩
  · rw [hstart Misled.start (by decide)]
    decide
  · rw [hstart Misled.project (by decide)]
    decide

end Trial

end Shakedown
