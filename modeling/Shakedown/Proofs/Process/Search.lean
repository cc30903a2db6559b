import Shakedown.Process.Runner
import Shakedown.Proofs.Path.Resolution

/-!
# Where a process looks for its program

The system tries the paths that a program name may stand for, from the directory of the process,
until it meets a file that may be run or a fault that ends the search. `FileTree.finds` says whether
it meets one. Whatever is started was found (`Invocation.finds_of_launch`), and what is found is a
file that may be run, with no such fault before it (`FileTree.finds_iff`).

The harness looks a program up by other rules, and from its own directory. A directory of the search
path that is the same for both, `Machine.Settles`, is one where both look at the same files. All
that is left is the limit on the length of a path (`FileTree.stat_spawnPath`).
-/

set_option autoImplicit false

namespace Shakedown

open PathLetter (segments segments_ne_nil segments_append_slash segments_slash isTrivial slash)

namespace FileTree

variable {t : FileTree} {cwd : Location}

/-- Whether a path leads to a file that may be run. -/
def Runs (t : FileTree) (cwd : Location) (p : Path) : Prop :=
  ∃ l n, t.stat cwd p = .ok (l, n) ∧ t.isRunnable n = true

/-- Whether a search over paths meets a file that may be run. -/
def finds (t : FileTree) (cwd : Location) : List Path → Bool
  | [] => false
  | p :: more =>
    match t.stat cwd p with
    | .ok (_, n) => t.isRunnable n || t.finds cwd more
    | .error e => continuesSearch e && t.finds cwd more

/-- Whether a search over paths meets a fault that ends it, and no file before that may be run. -/
def endsEarly (t : FileTree) (cwd : Location) : List Path → Bool
  | [] => false
  | p :: more =>
    match t.stat cwd p with
    | .ok (_, n) => !t.isRunnable n && t.endsEarly cwd more
    | .error e => !continuesSearch e || t.endsEarly cwd more

/-- A path that leads to something may be run if what it leads to may. -/
theorem runs_iff_of_stat_eq_ok {p : Path} {l : Location} {n : Node}
    (h : t.stat cwd p = .ok (l, n)) :
    t.Runs cwd p ↔ t.isRunnable n = true := by
  unfold Runs
  simp [h]

/-- A path that leads nowhere may not be run. -/
theorem not_runs_of_stat_eq_error {p : Path} {e : Fault} (h : t.stat cwd p = .error e) :
    ¬t.Runs cwd p := by
  unfold Runs
  simp [h]

/-- A search finds something if one of its paths leads to a file that may be run, unless it ends
before. -/
theorem finds_iff {paths : List Path} :
    t.finds cwd paths = true ↔
      (∃ p ∈ paths, t.Runs cwd p) ∧ t.endsEarly cwd paths = false := by
  induction paths with
  | nil => simp [finds]
  | cons p more ih =>
    cases hstat : t.stat cwd p with
    | error e =>
      have hp := not_runs_of_stat_eq_error hstat
      simp only [finds, endsEarly, hstat, List.exists_mem_cons_iff, hp, false_or]
      cases hgo : continuesSearch e with
      | true => simpa using ih
      | false => simp
    | ok found =>
      obtain ⟨l, n⟩ := found
      have hp := runs_iff_of_stat_eq_ok hstat
      simp only [finds, endsEarly, hstat, List.exists_mem_cons_iff, hp]
      cases hrun : t.isRunnable n with
      | true => simp
      | false => simpa using ih

/-- A search that has a fault to end it, and does not end early, has found something before. -/
theorem finds_of_stat_eq_error {paths : List Path} (hends : t.endsEarly cwd paths = false)
    {p : Path} (hp : p ∈ paths) {e : Fault} (hstat : t.stat cwd p = .error e)
    (he : continuesSearch e = false) : t.finds cwd paths = true := by
  induction paths with
  | nil => cases hp
  | cons q more ih =>
    rcases List.mem_cons.1 hp with rfl | hp
    · simp [endsEarly, hstat, he] at hends
    cases hq : t.stat cwd q with
    | error e' =>
      simp only [endsEarly, hq, Bool.or_eq_false_iff, Bool.not_eq_false'] at hends
      simp [finds, hq, hends.1, ih hends.2 hp]
    | ok found =>
      obtain ⟨l, n⟩ := found
      cases hrun : t.isRunnable n with
      | true => simp [finds, hq, hrun]
      | false =>
        have hmore : t.endsEarly cwd more = false := by
          simpa [endsEarly, hq, hrun] using hends
        simp [finds, hq, ih hmore hp]

/-- A search over one path finds what that path leads to, if it may be run. -/
theorem finds_singleton {p : Path} : t.finds cwd [p] = true ↔ t.Runs cwd p := by
  cases hstat : t.stat cwd p with
  | error e => simp [finds, hstat, not_runs_of_stat_eq_error hstat]
  | ok found =>
    obtain ⟨l, n⟩ := found
    simp [finds, hstat, runs_iff_of_stat_eq_ok hstat]

/-! ## What is started -/

/-- What a path starts it leads to, and it may be run. -/
theorem runs_of_launch {depth : Nat} {p : Path} {words : List Bytes} {l : Launch}
    (h : t.launch cwd depth p words = .ok l) : t.Runs cwd p := by
  unfold launch at h
  split at h
  · cases h
  · next here node hstat =>
    refine (runs_iff_of_stat_eq_ok hstat).2 ?_
    split at h
    · next number =>
      split at h
      · cases h
      · next f hf =>
        split at h
        · next hmode => simp [isRunnable, hf, hmode]
        · cases h
    · cases h

/-- A path that leads nowhere starts nothing, and says why it leads nowhere. -/
theorem launch_eq_error_of_stat {depth : Nat} {p : Path} {words : List Bytes} {e : Fault}
    (h : t.stat cwd p = .error e) : t.launch cwd depth p words = .error e := by
  unfold launch
  rw [h]

/-- What a search starts was found. -/
theorem finds_of_launchFirst {depth : Nat} {words : List Bytes} {fault : Fault}
    {paths : List Path} {l : Launch}
    (h : launchFirst (fun p => t.launch cwd depth p words) fault paths = .ok l) :
    t.finds cwd paths = true := by
  induction paths generalizing fault with
  | nil => cases h
  | cons p more ih =>
    cases hlaunch : t.launch cwd depth p words with
    | ok l' =>
      obtain ⟨here, n, hstat, hrun⟩ := runs_of_launch hlaunch
      simp [finds, hstat, hrun]
    | error e =>
      simp only [launchFirst, hlaunch] at h
      split at h
      · next hgo =>
        have hmore := ih h
        cases hstat : t.stat cwd p with
        | ok found => simp [finds, hstat, hmore]
        | error e' =>
          have he : e' = e := by
            have hrefused : t.launch cwd depth p words = .error e' := launch_eq_error_of_stat hstat
            exact Except.error.inj (hrefused.symm.trans hlaunch)
          simp [finds, hstat, he, hgo, hmore]
      · cases h

/-! ## The paths of a program name -/

/-- The path of a program in a directory of the search path, as a process tries it. -/
def spawnPath (directory program : Bytes) : Path :=
  if directory = [] then ⟨program⟩ else ⟨directory ++ slash :: program⟩

/-- A program with a slash is looked for at its own path only. -/
theorem programPaths_of_isProgramPath {env : Environment} {program : Bytes}
    (h : isProgramPath program = true) : programPaths env program = [⟨program⟩] :=
  if_pos h

/-- Any other program is looked for in the directories of the search path, in order. -/
theorem programPaths_of_path {env : Environment} {program path : Bytes}
    (h : isProgramPath program = false)
    (hpath : env.get? (Utf8.bytes "PATH") = some path) :
    programPaths env program =
      (Machine.searchPath path).map fun directory => spawnPath directory program := by
  unfold programPaths
  rw [if_neg (by simp [h]), hpath]
  rfl

/-- A path from the root leads to the same thing from everywhere. -/
theorem stat_of_isAbsolute {p : Path} (h : p.isAbsolute = true) (cwd cwd' : Location) :
    t.stat cwd p = t.stat cwd' p := by
  simp only [stat, resolve, h, if_true]

/-- Whether a path from the root may be run does not depend on where it is looked up. -/
theorem runs_iff_of_isAbsolute {p : Path} (h : p.isAbsolute = true) (cwd cwd' : Location) :
    t.Runs cwd p ↔ t.Runs cwd' p := by
  unfold Runs
  rw [stat_of_isAbsolute h cwd cwd']

/-- A second slash leads to the same place, unless it makes the path too long. -/
theorem stat_second_slash (front back : Bytes) (cwd : Location) :
    t.stat cwd ⟨front ++ slash :: slash :: back⟩ = t.stat cwd ⟨front ++ slash :: back⟩ ∨
      t.stat cwd ⟨front ++ slash :: slash :: back⟩ = .error .nameTooLong := by
  have habsolute : PathLetter.isAbsolute (front ++ slash :: slash :: back) =
      PathLetter.isAbsolute (front ++ slash :: back) := by
    cases front <;> rfl
  have hzero : (front ++ slash :: slash :: back).contains 0 =
      (front ++ slash :: back).contains 0 := by
    have hslash : (0 : UInt8) ≠ slash := by decide
    simp [hslash]
  have hwalk (here : Location) :
      t.walk true linkLimit here (segments (front ++ slash :: slash :: back)) =
        t.walk true linkLimit here (segments (front ++ slash :: back)) := by
    rw [segments_append_slash, segments_append_slash, segments_slash]
    exact walk_append_nil_cons linkLimit here (segments front) (segments_ne_nil back)
  have hone : front ++ slash :: back ≠ [] := by simp
  have htwo : front ++ slash :: slash :: back ≠ [] := by simp
  simp only [stat, resolve, Path.isAbsolute, hzero, habsolute, hwalk, if_neg hone, if_neg htwo]
  by_cases hnul : (front ++ slash :: back).contains 0 = true
  · rw [if_pos hnul, if_pos hnul]
    exact .inl rfl
  rw [if_neg hnul, if_neg hnul]
  by_cases hlong : (front ++ slash :: slash :: back).length > pathLimit
  · rw [if_pos hlong]
    exact .inr rfl
  · have hshort : ¬(front ++ slash :: back).length > pathLimit := by
      simp only [List.length_append, List.length_cons] at hlong ⊢
      omega
    rw [if_neg hlong, if_neg hshort]
    exact .inl rfl

/-- The harness puts no second slash behind a directory that ends with one, and a process does. -/
theorem stat_spawnPath {program : Bytes} (hprogram : PathLetter.isAbsolute program = false)
    (directory : Bytes) (cwd : Location) :
    t.stat cwd (spawnPath directory program) = t.stat cwd ((Path.mk directory).join ⟨program⟩) ∨
      t.stat cwd (spawnPath directory program) = .error .nameTooLong := by
  have hrelative : ¬PathLetter.isAbsolute program = true := by simp [hprogram]
  unfold spawnPath Path.join PathLetter.join
  simp only [if_neg hrelative]
  by_cases hempty : directory = []
  · simp [hempty]
  by_cases hlast : directory.getLast? = some slash
  · obtain ⟨front, rfl⟩ := List.getLast?_eq_some_iff.1 hlast
    rw [if_neg hempty, if_pos (.inr hlast), List.append_assoc, List.append_assoc]
    exact stat_second_slash front program cwd
  · simp [hempty, hlast]

/-! ## The root -/

/-- Segments that do not count lead from the root to the root. -/
theorem advance_of_isTrivial {segs : List Bytes} (h : ∀ s ∈ segs, isTrivial s = true) :
    t.advance true [] segs = .ok (.place []) := by
  have hroot : t.node? [] = some plainDirectory := rfl
  induction segs with
  | nil => rfl
  | cons s more ih =>
    have hs := h s List.mem_cons_self
    have hmore := ih fun u hu => h u (List.mem_cons_of_mem s hu)
    simpa only [advance, hroot, plainDirectory, hs, if_true] using hmore

/-- A path of nothing but the root leads to a directory. -/
theorem not_runs_of_components_le_one {p : Path} (h : p.isAbsolute = true)
    (hlength : p.components.length ≤ 1) : ¬t.Runs cwd p := by
  obtain ⟨s, more, hsegments⟩ := List.exists_cons_of_ne_nil (segments_ne_nil p.bytes)
  obtain ⟨rfl, hmore⟩ := (PathLetter.isAbsolute_iff hsegments).1 h
  have htrivial : ∀ u ∈ segments p.bytes, isTrivial u = true := by
    unfold Path.components PathLetter.components at hlength
    simp only [hsegments, if_true, if_neg hmore, List.length_cons, List.length_map] at hlength
    have hnone : more.filter (fun u => !isTrivial u) = [] := by
      rw [← List.length_eq_zero_iff]
      omega
    intro u hu
    rw [hsegments] at hu
    rcases List.mem_cons.1 hu with rfl | hu
    · rfl
    · simpa using List.filter_eq_nil_iff.1 hnone u hu
  rintro ⟨l, n, hstat, hrun⟩
  unfold stat at hstat
  split at hstat
  · cases hstat
  · next l' hresolve =>
    have hleads := names_of_resolve hresolve
    unfold Names at hleads
    rw [if_pos h] at hleads
    have hroot : t.Leads [] (segments p.bytes) [] :=
      ⟨0, walk_eq_ok.2 (.inl (advance_of_isTrivial htrivial))⟩
    obtain rfl : l' = [] := hleads.unique hroot
    obtain ⟨-, rfl⟩ : [] = l ∧ plainDirectory = n := by simpa [node?] using hstat
    cases hrun

end FileTree

/-! ## The look-up of the harness -/

namespace Machine

open FileTree (spawnPath)

variable {m : Machine} {root : Location}

/-- A machine takes a file for executable if it may be run from the working directory. -/
theorem isExecutable_iff {p : Path} : m.isExecutable p = true ↔ m.tree.Runs m.cwd p := by
  unfold isExecutable FileTree.Runs
  cases m.tree.stat m.cwd p with
  | error e => simp
  | ok found =>
    obtain ⟨l, n⟩ := found
    simp

/-- The harness locates a program if one of its candidates may be run. -/
theorem isSome_locate_iff {program : String} :
    (m.locate program).isSome = true ↔
      ∃ p ∈ m.candidates (.ofString program), m.tree.Runs m.cwd p := by
  unfold locate
  simp only [List.find?_isSome, isExecutable_iff]

/-- A path from the root is looked up where it leads. -/
theorem isSome_locate_of_isAbsolute {program : String} {here : Path}
    (hcwd : m.currentDir = .ok here) (h : (Path.ofString program).isAbsolute = true) :
    (m.locate program).isSome = true ↔ m.tree.Runs m.cwd (.ofString program) := by
  rw [isSome_locate_iff]
  unfold candidates
  rw [hcwd]
  by_cases hlength : (Path.ofString program).components.length > 1
  · have habsolute : absolute here (.ofString program) = .ofString program := if_pos h
    simp [hlength, habsolute]
  · -- The root is taken for a name, which every directory of the search path answers with itself.
    have hnot : ¬m.tree.Runs m.cwd (.ofString program) :=
      FileTree.not_runs_of_components_le_one h (by omega)
    have hjoin (base : Path) : base.join (.ofString program) = .ofString program :=
      congrArg Path.mk (if_pos h)
    simp only [if_neg hlength, onSearchPath]
    cases m.env.get? (Utf8.bytes "PATH") with
    | none => simp [hnot]
    | some path => simp [hjoin, hnot]

/-- A bare name is looked up in the directories of the search path. -/
theorem candidates_of_no_slash {program : String} (h : '/' ∉ program.toList) :
    m.candidates (.ofString program) = m.onSearchPath (.ofString program) := by
  have hsegments : segments (Path.ofString program).bytes = [Utf8.encode program.toList] := by
    have htext : segments program.toList = [program.toList] := PathLetter.segments_name h
    unfold Path.ofString
    rw [Path.segments_encode, htext]
    rfl
  have hlength : ¬(Path.ofString program).components.length > 1 := by
    unfold Path.components PathLetter.components
    simp only [hsegments, List.filter_nil, List.map_nil]
    split
    · simp
    · split <;> simp
  unfold candidates
  cases m.currentDir with
  | error e => rfl
  | ok here => simp only [if_neg hlength]

/-- Whether a directory of the search path is one and the same for the harness and for a process
that is in `root`. -/
def Settles (m : Machine) (root : Location) (directory : Bytes) : Prop :=
  PathLetter.isAbsolute directory = true ∨
    root = m.cwd ∧ (PathLetter.components directory).head? ≠ some (.name [0x7E])

/-- A directory that settles is taken as it is written. -/
theorem expandHome_of_settles {directory : Bytes} (h : m.Settles root directory) :
    m.expandHome directory = ⟨directory⟩ := by
  have hhome : (PathLetter.components directory).head? ≠ some (.name [0x7E]) := by
    rcases h with habsolute | ⟨-, hhome⟩
    · obtain ⟨s, more, hsegments⟩ := List.exists_cons_of_ne_nil (segments_ne_nil directory)
      obtain ⟨rfl, hmore⟩ := (PathLetter.isAbsolute_iff hsegments).1 habsolute
      simp [PathLetter.components, hsegments, hmore]
    · exact hhome
  unfold expandHome
  split
  · next n more hcomponents =>
    rw [hcomponents] at hhome
    rw [if_neg (by simpa using hhome)]
  · rfl

/-- A path taken from a directory that settles leads to the same thing from both working
directories. -/
theorem stat_join_of_settles {directory : Bytes} (h : m.Settles root directory) (p : Path) :
    m.tree.stat root ((Path.mk directory).join p) =
      m.tree.stat m.cwd ((Path.mk directory).join p) := by
  rcases h with habsolute | ⟨rfl, -⟩
  · exact FileTree.stat_of_isAbsolute (PathLetter.isAbsolute_join habsolute _) root m.cwd
  · rfl

/-- Where every directory of the search path is settled, a process finds what the harness finds,
unless a fault ends its search before. -/
theorem finds_spawnPaths_iff {directories : List Bytes} {program : Bytes}
    (hprogram : PathLetter.isAbsolute program = false)
    (hsettles : ∀ d ∈ directories, m.Settles root d) :
    m.tree.finds root (directories.map fun d => spawnPath d program) = true ↔
      (∃ d ∈ directories, m.tree.Runs m.cwd ((m.expandHome d).join ⟨program⟩)) ∧
        m.tree.endsEarly root (directories.map fun d => spawnPath d program) = false := by
  constructor
  · intro hfinds
    obtain ⟨⟨p, hp, l, n, hstat, hrun⟩, hends⟩ := FileTree.finds_iff.1 hfinds
    obtain ⟨d, hd, rfl⟩ := List.mem_map.1 hp
    refine ⟨⟨d, hd, l, n, ?_, hrun⟩, hends⟩
    rw [expandHome_of_settles (hsettles d hd), ← stat_join_of_settles (hsettles d hd)]
    rcases FileTree.stat_spawnPath (t := m.tree) hprogram d root with hsame | hlong
    · rwa [← hsame]
    · rw [hlong] at hstat
      cases hstat
  · rintro ⟨⟨d, hd, l, n, hstat, hrun⟩, hends⟩
    rw [expandHome_of_settles (hsettles d hd), ← stat_join_of_settles (hsettles d hd)] at hstat
    have hmem : spawnPath d program ∈ directories.map fun d => spawnPath d program :=
      List.mem_map.2 ⟨d, hd, rfl⟩
    rcases FileTree.stat_spawnPath (t := m.tree) hprogram d root with hsame | hlong
    · exact FileTree.finds_iff.2 ⟨⟨_, hmem, l, n, hsame.trans hstat, hrun⟩, hends⟩
    · exact FileTree.finds_of_stat_eq_error hends hmem hlong rfl

end Machine

/-! ## Invocations -/

namespace Invocation

/-- Whether the search for the program of an invocation meets a file that may be run. -/
def finds (i : Invocation) (t : FileTree) (cwd : Location) (inherited : Environment) : Bool :=
  t.finds cwd (FileTree.programPaths (i.childEnvironment inherited) (Utf8.bytes i.program))

/-- Whether a fault ends the search for the program of an invocation. -/
def endsEarly (i : Invocation) (t : FileTree) (cwd : Location) (inherited : Environment) : Bool :=
  t.endsEarly cwd (FileTree.programPaths (i.childEnvironment inherited) (Utf8.bytes i.program))

/-- What is started for an invocation was found. -/
theorem finds_of_launch {i : Invocation} {t : FileTree} {cwd : Location} {inherited : Environment}
    {l : Launch} (henv : i.env = [])
    (h : i.launch t cwd (i.childEnvironment inherited) = .ok l) :
    i.finds t cwd inherited = true := by
  have hpath : i.hasSearchPath = false := by simp [hasSearchPath, henv]
  unfold launch at h
  simp only [hpath, Bool.false_and, Bool.false_eq_true, if_false] at h
  exact FileTree.finds_of_launchFirst h

/-- The runner has nothing to start for an invocation whose program is not found. -/
theorem exists_error_of_not_finds {i : Invocation} (henv : i.env = []) {m : Machine}
    {directory : Path} {root : Location} (hroot : m.tree.enter m.cwd directory = .ok root)
    (hfinds : i.finds m.tree root m.env = false) (mode : OutputMode) {w : World}
    (hw : w.tree = m.tree) :
    ∃ e, (m.runner mode i directory w).1.answer = .error e := by
  have hprepare : ∃ e, m.prepare w i directory = .error e := by
    unfold Machine.prepare
    split
    · exact ⟨_, rfl⟩
    rw [hw, hroot]
    cases hlaunch : i.launch m.tree root (i.childEnvironment m.env) with
    | error e => exact ⟨e, by simp only [hlaunch]⟩
    | ok l =>
      rw [finds_of_launch henv hlaunch] at hfinds
      cases hfinds
  obtain ⟨e, he⟩ := hprepare
  refine ⟨e.message, ?_⟩
  unfold Machine.runner
  rw [he]

end Invocation

end Shakedown
