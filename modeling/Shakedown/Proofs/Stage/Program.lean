import Shakedown.Proofs.Path.Resolution
import Shakedown.Proofs.Stage.Isolation
import Shakedown.Proofs.Stage.ObjectFile

/-!
# What the programs of stages mean

Stages run in the project directory. A program that was typed as a relative path is meant from the
directory where the harness was started, so it is issued as a path that starts there. That path is a
text, and a directory need not have one.

`KeepsMeaning` says of a starting directory that every program path leads, issued from anywhere,
where it leads from that directory. `keepsMeaning_of_text` proves it of directories whose path is
text, and `keepsMeaning_path_iff` that these are all: from any other directory the program `probe`
leads astray.
-/

set_option autoImplicit false

namespace Shakedown

open PathLetter (segments significant isTrivial single double slash)

/-- Whether a program is a path that depends on where it is taken from. -/
def IsRelativePath (program : String) : Prop :=
  '/' ∈ program.toList ∧ PathLetter.isAbsolute program.toList = false

instance (program : String) : Decidable (IsRelativePath program) :=
  inferInstanceAs (Decidable (_ ∧ _))

/-- A program that is no relative path is issued as it is typed. -/
theorem anchor_of_not_isRelativePath {program : String} (h : ¬IsRelativePath program)
    (base : Path) : anchor program base = program := by
  unfold anchor
  apply if_pos
  unfold IsRelativePath at h
  by_cases hslash : '/' ∈ program.toList
  · have habsolute : PathLetter.isAbsolute program.toList = true := by
      simpa [hslash] using h
    rw [habsolute, Bool.true_or]
  · have hbare : program.toList.contains '/' = false := by simpa using hslash
    rw [hbare, Bool.not_false, Bool.or_true]

/-- An anchored program names what is shown for its path from the base. -/
theorem ofString_anchor {program : String} (h : IsRelativePath program) (base : Path) :
    Path.ofString (anchor program base) = (base.join (.ofString program)).shown := by
  have hslash : program.toList.contains '/' = true := by simpa using h.1
  unfold anchor
  rw [if_neg (by rw [h.2, hslash]; decide)]
  rfl

/-! ## Starting directories -/

/-- Whether every relative program path, issued from a starting directory, leads where it leads from
there. -/
def KeepsMeaning (base : Path) : Prop :=
  ∀ program, IsRelativePath program →
    ∀ (tree : FileTree) (here : Location), tree.Names [] base here → ∀ root l,
      tree.Names root (.ofString (anchor program base)) l ↔
        tree.Names here (.ofString program) l

/-- From a base that is text every relative program leads where it led. -/
theorem keepsMeaning_of_text {base : Path} (habsolute : base.isAbsolute = true)
    (htext : base.text?.isSome = true) : KeepsMeaning base := by
  intro program hprogram tree here hhere root l
  have hshown : base.shown = base := Path.shown_eq_self_iff.2 htext
  rw [ofString_anchor hprogram, FileTree.names_shown_join habsolute hprogram.2, hshown]
  constructor
  · rintro ⟨mid, hmid, hl⟩
    obtain rfl : mid = here := hmid.unique hhere
    exact hl
  · intro hl
    exact ⟨here, hhere, hl⟩

/-! ## Directories that have no text -/

namespace Location

/-- The segments of a location's path are an empty one and the names in the location. -/
theorem segments_path {b : Location} (hb : b.Proper) (hne : b ≠ []) :
    segments b.path.bytes = [] :: b := by
  have hbytes : b.path.bytes = [] ++ b.flatMap (slash :: ·) := by
    cases b with
    | nil => exact absurd rfl hne
    | cons s more => rfl
  have hslash : ∀ s ∈ b, slash ∉ s := fun s hs => (hb s hs).2.2
  rw [hbytes]
  exact PathLetter.segments_append_flatMap (by simp) hslash

/-- The path of a location starts at the root. -/
theorem isAbsolute_path (b : Location) : b.path.isAbsolute = true := by
  cases b <;> rfl

end Location

/-- Bytes that are shown without a replacement are shown as they are. -/
theorem shownBytes_eq_self {bytes : Bytes} (h : Utf8.replacement ∉ Utf8.decodeLossy bytes) :
    shownBytes bytes = bytes := by
  have hall : (Utf8.symbols bytes).all Option.isSome = true := by
    rw [List.all_eq_true]
    intro x hx
    cases x with
    | some c => rfl
    | none => exact absurd (List.mem_map.2 ⟨none, hx, rfl⟩) h
  have hread : Utf8.decode? bytes = some (Utf8.decodeLossy bytes) := if_pos hall
  exact Utf8.encode_of_decode? hread

/-- What is shown for a name is a name. -/
theorem isName_shownBytes {s : Bytes} (hs : IsName s) : IsName (shownBytes s) := by
  obtain ⟨htrivial, hdouble, hslash⟩ := hs
  have hsame (cs : List Char) (hcs : Utf8.replacement ∉ cs) (h : shownBytes s = Utf8.encode cs) :
      s = Utf8.encode cs := by
    have hread : Utf8.decodeLossy s = cs := Utf8.encode_injective h
    rw [← h, shownBytes_eq_self (hread ▸ hcs)]
  have hne : s ≠ [] ∧ s ≠ single := by
    simpa [isTrivial] using htrivial
  refine ⟨?_, ?_, ?_⟩
  · have hnil : shownBytes s ≠ [] := fun h => hne.1 (hsame [] (by simp) h)
    have hsingle : shownBytes s ≠ single := fun h => hne.2 (hsame ['.'] (by decide) h)
    simp [isTrivial, hnil, hsingle]
  · intro h
    exact hdouble (hsame ['.', '.'] (by decide) h)
  · intro h
    obtain ⟨c, hc, hb⟩ := List.mem_flatMap.1 h
    have hn : c.toNat = '/'.toNat := (Utf8.mem_encodeChar_of_ascii (by decide)).1 hb
    rw [Char.toNat_inj.1 hn] at hc
    exact hslash (Utf8.slash_mem_of_mem_decodeLossy hc)

/-- The path that is shown for a location leads along what is shown for its names. -/
theorem settle_shown_path {b : Location} (hb : b.Proper) (hne : b ≠ []) :
    b.path.shown.settle [] = b.map shownBytes := by
  have hnames : ∀ s ∈ b.map shownBytes, IsName s := by
    intro s hs
    obtain ⟨s', hs', rfl⟩ := List.mem_map.1 hs
    exact isName_shownBytes (hb s' hs')
  have hsignificant : significant b.path.shown.bytes = b.map shownBytes := by
    unfold significant
    rw [Path.segments_shown, Location.segments_path hb hne]
    have htrivial : isTrivial (shownBytes []) = true := rfl
    rw [List.map_cons, List.filter_cons_of_neg (by simp [htrivial])]
    exact List.filter_eq_self.2 fun s hs => by simp [(hnames s hs).1]
  have hclimbs : ¬b.path.shown.Climbs := by
    unfold Path.Climbs
    rw [hsignificant]
    exact fun h => (hnames double h).2.1 rfl
  rw [Path.settle_of_not_climbs hclimbs, hsignificant,
    if_pos (Path.isAbsolute_shown b.isAbsolute_path), List.nil_append]

/-- A location whose names are shown as they are has a path that is text. -/
theorem text?_isSome_of_map_shownBytes {b : Location} (hb : b.Proper) (hne : b ≠ [])
    (hshown : b.map shownBytes = b) : b.path.text?.isSome = true := by
  have hsegments : segments b.path.shown.bytes = segments b.path.bytes := by
    rw [Path.segments_shown, Location.segments_path hb hne, List.map_cons, hshown]
    rfl
  have hbytes : b.path.shown.bytes = b.path.bytes := by
    rw [← PathLetter.joinSegments_segments b.path.shown.bytes, hsegments,
      PathLetter.joinSegments_segments]
  exact Path.shown_eq_self_iff.1 (congrArg Path.mk hbytes)

/-- A program that is looked for in the starting directory. -/
def probe : String :=
  "./x"

/-- The probe is a relative path. -/
theorem isRelativePath_probe : IsRelativePath probe := by
  decide

/-- The probe does not start at the root. -/
theorem isAbsolute_probe : (Path.ofString probe).isAbsolute = false := by
  decide

/-- The probe settles in the directory from which it is taken. -/
theorem settle_probe (here : Location) :
    (Path.ofString probe).settle here = here ++ [Utf8.bytes "x"] := by
  have hsignificant : significant (Path.ofString probe).bytes = [Utf8.bytes "x"] := by decide
  unfold Path.settle
  rw [hsignificant, if_neg (by simp [isAbsolute_probe])]
  rfl

namespace FileTree

/-- In the tree of one directory the path of that leads to it. -/
theorem names_onlyDirectory {b : Location} (hb : ∀ s ∈ b, IsEntry s) (hne : b ≠ []) :
    (onlyDirectory b).Names [] b.path b := by
  have hproper : b.Proper := fun s hs => (hb s hs).1
  unfold Names
  rw [if_pos b.isAbsolute_path, Location.segments_path hproper hne, leads_nil_cons hne]
  exact ⟨0, walk_eq_ok.2 (.inl (advance_onlyDirectory [] hb))⟩

/-- In the tree of the place that the probe settles at, the probe leads to that place. -/
theorem names_onlyDirectory_probe (b : Location) :
    (onlyDirectory b).Names b (.ofString probe) (b ++ [Utf8.bytes "x"]) := by
  have hsegments : segments (Path.ofString probe).bytes = [single, Utf8.bytes "x"] := by decide
  have hhere : (onlyDirectory b).node? b = some plainDirectory := by
    rw [node?_onlyDirectory, if_pos (List.prefix_refl b)]
  have hnone : (onlyDirectory b).node? (b ++ [Utf8.bytes "x"]) = none := by
    have hlonger : ¬b ++ [Utf8.bytes "x"] <+: b := by
      intro hprefix
      have hlength := hprefix.length_le
      rw [List.length_append, List.length_singleton] at hlength
      omega
    rw [node?_onlyDirectory, if_neg hlonger]
  have hx : isTrivial (Utf8.bytes "x") = false ∧ Utf8.bytes "x" ≠ double ∧
      ¬(Utf8.bytes "x").length > nameLimit := by decide
  have hdot : isTrivial (single : Bytes) = true := by decide
  unfold Names
  rw [if_neg (by simp [isAbsolute_probe]), hsegments]
  refine ⟨0, walk_eq_ok.2 (.inl ?_)⟩
  simp only [advance, hhere, hnone, plainDirectory, hdot, hx, Bool.false_eq_true, if_true,
    if_false]

end FileTree

/-- A directory keeps the meaning of programs exactly if its path is text. -/
theorem keepsMeaning_path_iff {b : Location} (hb : ∀ s ∈ b, FileTree.IsEntry s) :
    KeepsMeaning b.path ↔ b.path.text?.isSome = true := by
  constructor
  swap
  · exact keepsMeaning_of_text b.isAbsolute_path
  intro h
  by_cases hne : b = []
  · rw [hne]
    decide
  have hproper : b.Proper := fun s hs => (hb s hs).1
  -- In the tree with nothing but the directory, the probe leads to one place only.
  have hfree := FileTree.linkFree_onlyDirectory b
  have hhere := FileTree.names_onlyDirectory hb hne
  have hissued := (h probe isRelativePath_probe _ b hhere [] _).2
    (FileTree.names_onlyDirectory_probe b)
  rw [ofString_anchor isRelativePath_probe,
    FileTree.names_shown_join b.isAbsolute_path isRelativePath_probe.2] at hissued
  obtain ⟨mid, hmid, hend⟩ := hissued
  have hmid' : mid = b.map shownBytes := by
    rw [FileTree.names_eq_settle hfree hmid, settle_shown_path hproper hne]
  have hend' := FileTree.names_eq_settle hfree hend
  rw [settle_probe, hmid'] at hend'
  exact text?_isSome_of_map_shownBytes hproper hne (List.append_cancel_right hend').symm

/-! ## Trials -/

namespace Trial

variable {t : Trial} {c : Compiler}

/-- The program that was typed for a stage. -/
def typed (t : Trial) (c : Compiler) (s : Stage) : String :=
  if s.isCompile then c.program else t.plan.buildTool

/-- The program of a planned stage is the typed one, anchored. -/
theorem program_of_mem_plannedStages {planned : List PlannedStage}
    (h : t.plannedStages c = .ok planned) {s : PlannedStage} (hs : s ∈ planned) :
    s.invocation.program = anchor (t.typed c s.stage) t.baseDir := by
  obtain ⟨compiles, hcompiles, rfl⟩ := Plan.stages_eq_ok.1 h
  simp only [List.mem_append, List.mem_cons, List.not_mem_nil, or_false] at hs
  rcases hs with ((rfl | rfl) | hs) | (rfl | rfl)
  · rfl
  · rfl
  · obtain ⟨m, -, hm⟩ := Plan.exists_module_of_mem hcompiles hs
    obtain ⟨object, -, rfl⟩ := Plan.compileStage_eq_ok.1 hm
    rfl
  · rfl
  · rfl

/-- The program of a compilation is the compiler, anchored. -/
theorem program_of_isCompile {planned : List PlannedStage} (h : t.plannedStages c = .ok planned)
    {s : PlannedStage} (hs : s ∈ planned) (hcompile : s.stage.isCompile = true) :
    s.invocation.program = anchor c.program t.baseDir := by
  have hprogram := program_of_mem_plannedStages h hs
  unfold typed at hprogram
  rwa [if_pos hcompile] at hprogram

/-- Every stage has the program that was typed for it, if that is a bare name or starts at the root.
Any other path is issued as one that leads from everywhere where the typed path leads from the
starting directory, provided that the path of this directory is text, and the system resolves the
two to nothing else. The project directory has no part in this. Of the directories of a tree, those
whose path is text are the only ones from which all programs keep their meaning. -/
theorem programs_keep_meaning (t : Trial) (c : Compiler) :
    (∀ planned, t.plannedStages c = .ok planned → ∀ s ∈ planned,
      (¬IsRelativePath (t.typed c s.stage) → s.invocation.program = t.typed c s.stage) ∧
      (IsRelativePath (t.typed c s.stage) →
        t.baseDir.isAbsolute = true → t.baseDir.text?.isSome = true →
        ∀ (tree : FileTree) (here : Location), tree.Names [] t.baseDir here →
          (∀ root l, tree.Names root (.ofString s.invocation.program) l ↔
            tree.Names here (.ofString (t.typed c s.stage)) l) ∧
          ∀ root l l', tree.resolve root (.ofString s.invocation.program) = .ok l →
            tree.resolve here (.ofString (t.typed c s.stage)) = .ok l' → l = l')) ∧
      (∀ directory, (t.replan ({ · with projectDir := directory })).plannedStages c =
        t.plannedStages c) ∧
      ∀ b : Location, (∀ s ∈ b, FileTree.IsEntry s) →
        (KeepsMeaning b.path ↔ b.path.text?.isSome = true) := by
  refine ⟨fun planned h s hs => ?_, fun directory => rfl, fun b hb => keepsMeaning_path_iff hb⟩
  have hprogram := program_of_mem_plannedStages h hs
  constructor
  · intro hplain
    rw [hprogram, anchor_of_not_isRelativePath hplain]
  · intro hrelative habsolute htext tree here hhere
    have hnames : ∀ root l, tree.Names root (.ofString s.invocation.program) l ↔
        tree.Names here (.ofString (t.typed c s.stage)) l := by
      rw [hprogram]
      exact keepsMeaning_of_text habsolute htext _ hrelative tree here hhere
    refine ⟨hnames, ?_⟩
    intro root l l' hissued htyped
    have hl := (hnames root l).1 (FileTree.names_of_resolve hissued)
    exact hl.unique (FileTree.names_of_resolve htyped)

/-! ## A starting directory without a text -/

namespace Astray

/-- The directory `/` followed by the byte 0xFF. -/
def base : Location := [[0xFF]]

/-- A tree with that directory and a compiler in it. -/
def tree : FileTree :=
  { nodes := [(base, FileTree.plainDirectory), (base ++ [Utf8.bytes "cc"], .file 0)]
    files := [{ mode := 0o755, content := .data (Utf8.bytes "#!/bin/sh\nexit 0\n") }] }

/-- A trial that starts in the directory, with a single module. -/
def trial : Trial :=
  { plan := { projectDir := .ofString ".", modules := [{ source := "a.c" }] }
    baseDir := base.path }

/-- The name of the compiler is not blank. -/
theorem not_isBlank_cc : isBlank "./cc" = false := by
  decide

/-- The compiler in the directory. -/
def compiler : Compiler :=
  ⟨"./cc", not_isBlank_cc⟩

/-- How the compiler is issued. -/
def compilation : PlannedStage :=
  { stage := .compile "a.c"
    invocation := { program := "/\uFFFD/./cc", args := ["-c", "a.c", "-o", "a.o"] } }

end Astray

/-- A compiler that is there is issued under a name that leads nowhere. -/
theorem unnamed_base_loses_compiler :
    Astray.tree.resolve [] Astray.trial.baseDir = .ok Astray.base ∧
      Astray.tree.stat Astray.base (.ofString Astray.compiler.program) =
        .ok (Astray.base ++ [Utf8.bytes "cc"], .file 0) ∧
      ∃ planned s, Astray.trial.plannedStages Astray.compiler = .ok planned ∧ s ∈ planned ∧
        s.stage = .compile "a.c" ∧ s.invocation.program = "/\uFFFD/./cc" ∧
        ∀ l, ¬Astray.tree.Names Astray.base (.ofString s.invocation.program) l := by
  have hadvance : Astray.tree.advance true []
      (segments (Path.ofString Astray.compilation.invocation.program).bytes) =
        .error .notFound := by
    rfl
  have habsolute : (Path.ofString Astray.compilation.invocation.program).isAbsolute = true := by
    decide
  refine ⟨by decide, by decide, _, Astray.compilation, by rfl, by decide, rfl, rfl, ?_⟩
  intro l hl
  unfold FileTree.Names at hl
  rw [if_pos habsolute] at hl
  obtain ⟨links, hlinks⟩ := hl
  rw [FileTree.walk_eq_ok, hadvance] at hlinks
  simp at hlinks

end Trial

end Shakedown
