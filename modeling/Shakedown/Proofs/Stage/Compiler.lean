import Shakedown.Proofs.Json.RoundTrip
import Shakedown.Proofs.Stage.Anchoring

/-!
# The compiler under test is never blank

A compiler is given by a name, or read from JSON text, and in both cases the name is checked. What
the stages run is the compiler anchored to the starting directory, and this is checked nowhere: what
is shown for the joined path takes the place of the program, and the directory may be any bytes.

`Compiler.Arises` gathers the texts that become the program of a compiler in these ways. The step
that goes unchecked keeps a text from being blank (`isBlank_anchor`), and by induction so does any
number of them. Conversely, a text that is not blank arises from its own name.

Main statement: `compiler_never_blank`.
-/

set_option autoImplicit false

namespace Shakedown

open Json

namespace Compiler

/-! ## Where compilers come from -/

/-- Whether a text arises as the program of a compiler. -/
inductive Arises : String → Prop
  /-- A name was given and passed the check. -/
  | named (name : String) (c : Compiler) (h : ofString name = .ok c) : Arises c.program
  /-- A compiler was read from JSON text. -/
  | read (text : String) (c : Compiler) (h : readWhole Compiler.read text = .ok c) :
      Arises c.program
  /-- The anchored program took the place of the one before, unchecked. -/
  | anchored (program : String) (base : Path) (h : Arises program) : Arises (anchor program base)

/-- What arises as the program of a compiler is not blank. -/
theorem Arises.isBlank_eq_false {program : String} (h : Arises program) :
    isBlank program = false := by
  -- A compiler that was named or read was checked then; an anchored one keeps its slash.
  induction h with
  | named name c h => exact c.not_blank
  | read text c h => exact c.not_blank
  | anchored program base h ih => exact isBlank_anchor base ih

/-- The program of every compiler arises. -/
theorem arises_program (c : Compiler) : Arises c.program :=
  .named c.program c c.ofString_program

/-- Exactly the texts that are not blank arise as the program of a compiler. -/
theorem arises_iff {program : String} :
    Arises program ↔ ∃ ch ∈ program.toList, isWhiteSpace ch = false := by
  rw [← isBlank_eq_false]
  constructor
  · exact Arises.isBlank_eq_false
  · intro h
    exact arises_program ⟨program, h⟩

/-! ## JSON text -/

/-- A compiler is read from a text exactly where its program is read as a name. -/
theorem readWhole_read_eq_ok {text : String} {c : Compiler} :
    readWhole Compiler.read text = .ok c ↔ readWhole readName text = .ok c.program := by
  rw [readWhole_eq_ok, readWhole_eq_ok, read_eq_ok]

/-- A compiler survives JSON text. -/
theorem survives (c : Compiler) :
    Survives (fun c => .ok c.toJson) Compiler.read (fun _ => []) c := by
  apply survives_of_read
  · simp
  · intro v hv
    obtain rfl : c.toJson = v := Except.ok.inj hv
    exact undoes_toJson c

end Compiler

/-! ## Compile stages -/

namespace Trial

variable {σ : Type} {t : Trial} {c : Compiler}

/-- The records of compile stages name the compiler of the report, which is the anchored one. -/
theorem compiler_of_run {m : Machine} {run : Runner σ} {s : σ} {report : Report}
    (h : (t.run m run c s).verdict = .ok report) :
    report.compiler = anchor c.program t.baseDir ∧
      ∀ r ∈ report.stages, r.stage.isCompile = true → r.invocation.program = report.compiler := by
  obtain ⟨planned, hstart, hstages⟩ := exists_laidOut h
  rw [run_started hstart] at h
  have hcompiler : report.compiler = anchor c.program t.baseDir := by
    rw [← Except.ok.inj h]
    rfl
  refine ⟨hcompiler, ?_⟩
  intro r hr hcompile
  have hplanned : r.planned ∈ planned := by
    rw [← map_planned_runStages t.policy planned s, ← hstages]
    exact List.mem_map_of_mem hr
  rw [hcompiler]
  exact program_of_isCompile (plannedStages_of_laidOut hstart) hplanned hcompile

end Trial

/-- The texts that arise as the program of a compiler are those with a character that is not white
space, however often and from whatever directories a program was anchored. A name is refused if all
its characters are white space, a JSON text gives a compiler if it gives a name that is not refused,
and every compiler is read back from its own text. So the program of each compile stage has a
character that is not white space, in every list of planned stages and in every report. -/
theorem compiler_never_blank :
    (∀ program, Compiler.Arises program ↔ ∃ ch ∈ program.toList, isWhiteSpace ch = false) ∧
      (∀ name e, Compiler.ofString name = .error e ↔
        (∀ ch ∈ name.toList, isWhiteSpace ch = true) ∧ e = .emptyCompiler) ∧
      (∀ text c, readWhole Compiler.read text = .ok c ↔
        readWhole Compiler.readName text = .ok c.program) ∧
      (∀ program, Compiler.Arises program → ∃ c : Compiler, c.program = program ∧
        Survives (fun c => .ok c.toJson) Compiler.read (fun _ => []) c) ∧
      (∀ (t : Trial) (c : Compiler) planned, t.plannedStages c = .ok planned →
        ∀ s ∈ planned, s.stage.isCompile = true →
          s.invocation.program = anchor c.program t.baseDir ∧
            ∃ ch ∈ s.invocation.program.toList, isWhiteSpace ch = false) ∧
      ∀ (σ : Type) (t : Trial) (m : Machine) (run : Runner σ) (c : Compiler) (s : σ)
        (report : Report), (t.run m run c s).verdict = .ok report →
          (∃ ch ∈ report.compiler.toList, isWhiteSpace ch = false) ∧
            ∀ r ∈ report.stages, r.stage.isCompile = true →
              r.invocation.program = report.compiler := by
  have hanchored (c : Compiler) (base : Path) :
      ∃ ch ∈ (anchor c.program base).toList, isWhiteSpace ch = false :=
    Compiler.arises_iff.1 (.anchored c.program base c.arises_program)
  refine ⟨fun _ => Compiler.arises_iff, ?_, fun _ _ => Compiler.readWhole_read_eq_ok, ?_, ?_, ?_⟩
  · intro name e
    rw [Compiler.ofString_eq_error, isBlank, List.all_eq_true]
  · intro program h
    exact ⟨⟨program, h.isBlank_eq_false⟩, rfl, Compiler.survives _⟩
  · intro t c planned hplanned s hs hcompile
    have hprogram := Trial.program_of_isCompile hplanned hs hcompile
    refine ⟨hprogram, ?_⟩
    rw [hprogram]
    exact hanchored c t.baseDir
  · intro σ t m run c s report h
    obtain ⟨hcompiler, hrecords⟩ := Trial.compiler_of_run h
    refine ⟨?_, hrecords⟩
    rw [hcompiler]
    exact hanchored c t.baseDir

end Shakedown
