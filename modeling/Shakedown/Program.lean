import Shakedown.Path.Basic
import Shakedown.Plan.Module

/-!
# Programs and the compiler under test

A program is a bare name, looked up on the search path, or a path. Stages run inside the project
directory, so a relative program path is anchored to the directory where the harness was started.

Main statement: `isBlank_anchor`, anchoring keeps a program from being blank. Hence the compiler
under test, which is never blank, can be anchored without a further check.
-/

set_option autoImplicit false

namespace Shakedown

/-- A program as the stages run it from elsewhere: a relative path is taken from `base`, a bare
name and an absolute path stay as they are. -/
def anchor (program : String) (base : Path) : String :=
  if PathLetter.isAbsolute program.toList || !program.toList.contains '/' then program
  else (base.join (.ofString program)).display

/-- A slash of a text is a slash byte of its path. -/
theorem slash_mem_ofString {s : String} (h : '/' ∈ s.toList) :
    (0x2F : UInt8) ∈ (Path.ofString s).bytes :=
  List.mem_flatMap.2 ⟨'/', h, by decide⟩

/-- A byte of the path taken from a base is a byte of the result. -/
theorem mem_join {b : UInt8} {base p : Path} (h : b ∈ p.bytes) : b ∈ (base.join p).bytes := by
  simp only [Path.join, PathLetter.join]
  split
  · exact h
  · split <;> simp [h]

/-- A path with a slash byte is shown with a slash. -/
theorem slash_mem_display {p : Path} (h : (0x2F : UInt8) ∈ p.bytes) : '/' ∈ p.display.toList := by
  simpa [Path.display] using Utf8.mem_decodeLossy_of_ascii (b := 0x2F) (by decide) h

/-- Anchoring a program that is not blank gives one that is not blank. -/
theorem isBlank_anchor {program : String} (base : Path) (h : isBlank program = false) :
    isBlank (anchor program base) = false := by
  unfold anchor
  split
  · exact h
  · next hc =>
    have hs : '/' ∈ program.toList := by
      simp only [Bool.or_eq_true, Bool.not_eq_true', not_or, Bool.not_eq_false] at hc
      exact List.contains_iff_mem.1 hc.2
    exact isBlank_eq_false.2
      ⟨'/', slash_mem_display (mem_join (slash_mem_ofString hs)), by decide⟩

/-- The compiler under test: a name or a path that is not blank. -/
structure Compiler where
  /-- The name or path. -/
  program : String
  /-- It is not blank. -/
  not_blank : isBlank program = false
  deriving DecidableEq

namespace Compiler

/-- The compiler of that name, unless the name is blank. -/
def ofString (program : String) : Except ConfigError Compiler :=
  if h : isBlank program = false then .ok ⟨program, h⟩ else .error .emptyCompiler

/-- The program of a compiler gives that compiler back. -/
theorem ofString_program (c : Compiler) : ofString c.program = .ok c :=
  dif_pos c.not_blank

/-- A name that passes the check is the program of its compiler. -/
theorem ofString_eq_ok {program : String} {c : Compiler} :
    ofString program = .ok c ↔ c.program = program := by
  constructor
  · intro h
    unfold ofString at h
    split at h
    · cases h
      rfl
    · cases h
  · rintro rfl
    exact c.ofString_program

/-- A name is refused if it is blank. -/
theorem ofString_eq_error {program : String} {e : ConfigError} :
    ofString program = .error e ↔ isBlank program = true ∧ e = .emptyCompiler := by
  unfold ofString
  by_cases h : isBlank program = false
  · rw [dif_pos h]
    simp [h]
  · rw [dif_neg h]
    have hblank : isBlank program = true := by simpa using h
    simp [hblank, eq_comm]

/-- The compiler as the stages run it from elsewhere. -/
def anchored (c : Compiler) (base : Path) : Compiler :=
  ⟨anchor c.program base, isBlank_anchor base c.not_blank⟩

end Compiler

end Shakedown
