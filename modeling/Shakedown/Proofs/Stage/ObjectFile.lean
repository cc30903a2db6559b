import Shakedown.Proofs.Path.FileName
import Shakedown.Proofs.Path.Route
import Shakedown.Proofs.Plan.Check
import Shakedown.Proofs.Stage.Isolation

/-!
# The object files of a run

The object file of a source is told from how the source is written: everything up to the end of the
stem stays, `.o` follows, and nothing else. There is one exception. The old extension is cut off
first, and where that leaves `..` there is no name any more that could get another extension.

Every compilation of a plan writes the file behind `-o`. The check of the module list compares those
paths by their components, which tells two files apart as long as both paths start at the same place
and neither has a `..` in it (`pairwise_of_checkAll`). Two paths that stray from each other are
accepted whatever places they lead to.

Main statements: `objectName_keeps_stem`, and `objects_apart_iff`, the object files of an accepted
plan are different ones exactly if no two stray paths among them meet.
-/

set_option autoImplicit false

namespace Shakedown

open PathLetter

/-! ## The object file of a source -/

namespace ModuleEntry

variable {m : ModuleEntry} {directory stem extension tail : List Char}

/-- The object of a spelled source has the same directory part and the same stem, but for a lone
dot. -/
theorem objectName_of_spelling (h : Spelling m.source.toList directory stem extension tail) :
    m.objectName = .ok (String.ofList
      (directory ++ if stem = ['.'] ∧ tail = [] then ['.', '.'] else stem ++ ['.', 'o'])) := by
  have hobject : m.objectName? = some (String.ofList
      (directory ++ if stem = single ∧ tail = [] then double else stem ++ ['.', 'o'])) := by
    unfold objectName?
    rw [h.withSuffix?_eq]
    rfl
  unfold objectName
  rw [hobject]
  rfl

/-- A module is refused an object name exactly if its source has no spelling. -/
theorem objectName_eq_error {e : ConfigError} :
    m.objectName = .error e ↔
      (¬∃ directory stem extension tail,
        Spelling m.source.toList directory stem extension tail) ∧ e = .noObjectName m.source := by
  have hstem : m.objectName? = none ↔
      ¬∃ directory stem extension tail,
        Spelling m.source.toList directory stem extension tail := by
    rw [objectName?_eq_none, exists_spelling_iff]
    unfold lacksStem
    cases PathLetter.fileName? m.source.toList <;> simp
  rw [← hstem]
  unfold objectName
  cases m.objectName? <;> simp [eq_comm]

/-- A source with a stem has the object file that is written like it up to the end of the stem, with
`.o` behind: it has the same directory part and the same stem, and the extension `.o` ends it. This
is so exactly if the source does not end in a name with the stem `.`; such a source has the object
path of the directory above. A source without a stem has no object file. -/
theorem objectName_keeps_stem (m : ModuleEntry) :
    (∀ directory stem extension tail : List Char,
      Spelling m.source.toList directory stem extension tail →
        (m.objectName = .ok (String.ofList (directory ++ (stem ++ ['.', 'o']))) ↔
          ¬(stem = ['.'] ∧ tail = [])) ∧
        (stem = ['.'] ∧ tail = [] →
          m.objectName = .ok (String.ofList (directory ++ ['.', '.']))) ∧
        Spelling (directory ++ (stem ++ ['.', 'o'])) directory stem ['.', 'o'] []) ∧
      ∀ e, m.objectName = .error e ↔
        (¬∃ directory stem extension tail,
          Spelling m.source.toList directory stem extension tail) ∧
        e = .noObjectName m.source := by
  refine ⟨fun directory stem extension tail h => ?_, fun e => objectName_eq_error⟩
  have hobject := objectName_of_spelling h
  refine ⟨?_, ?_, h.withExtension (by decide) (by decide) (by decide)⟩
  · rw [hobject]
    constructor
    · rintro heq ⟨hstem, htail⟩
      rw [if_pos ⟨hstem, htail⟩, hstem] at heq
      have hlist := List.append_cancel_left (String.ofList_injective (Except.ok.inj heq))
      cases hlist
    · intro hcut
      rw [if_neg hcut]
  · intro hcut
    rw [hobject, if_pos hcut]

/-- The object path of `..c` is `..`. It has a stem, the dot before the extension, and its object
file would be `..o`. -/
theorem dots_lose_stem :
    Spelling "..c".toList [] ['.'] ['.', 'c'] [] ∧
      ({ source := "..c" } : ModuleEntry).objectName = .ok ".." ∧
      ({ source := "..c" } : ModuleEntry).objectName ≠
        .ok (String.ofList ([] ++ (['.'] ++ ['.', 'o']))) := by
  refine ⟨?_, by decide, by decide⟩
  constructor
  · decide
  · exact .inl rfl
  · decide
  · decide
  · decide
  · decide
  · exact .inr ⟨['c'], rfl, by decide⟩
  · exact ⟨[], rfl, by decide⟩

/-- Only the last extension is replaced, and what stands behind the name is dropped. -/
example : ({ source := "lib//.é.tar.gz/./" } : ModuleEntry).objectName = .ok "lib//.é.tar.o" := by
  decide

end ModuleEntry

/-! ## Paths that the components tell apart -/

namespace Path

variable {p q : Path}

/-- Whether a path has a `..` in it. -/
def Climbs (p : Path) : Prop :=
  double ∈ significant p.bytes

instance (p : Path) : Decidable p.Climbs :=
  inferInstanceAs (Decidable (double ∈ significant p.bytes))

/-- Whether the components of two paths do not tell where the paths lead: one starts at the root and
the other does not, or one has a `..` in it. -/
def Strays (p q : Path) : Prop :=
  p.isAbsolute ≠ q.isAbsolute ∨ p.Climbs ∨ q.Climbs

instance (p q : Path) : Decidable (p.Strays q) :=
  inferInstanceAs (Decidable (_ ∨ _ ∨ _))

/-- A path without `..` leads down along its segments. -/
theorem settle_of_not_climbs (h : ¬p.Climbs) (base : Location) :
    p.settle base = (if p.isAbsolute then [] else base) ++ significant p.bytes := by
  unfold settle
  unfold Climbs at h
  generalize significant p.bytes = segs at h
  generalize (if p.isAbsolute then [] else base) = start
  induction segs generalizing start with
  | nil => simp
  | cons s more ih =>
    have hs : s ≠ double := fun hs => h (hs ▸ List.mem_cons_self)
    rw [List.foldl_cons, ih fun hm => h (List.mem_cons_of_mem s hm), Location.step, if_neg hs,
      List.append_assoc]
    rfl

/-- Two paths whose components tell where they lead come to one place only if the same segments
count in both. -/
theorem settle_eq_iff_of_not_strays (h : ¬p.Strays q) (base : Location) :
    p.settle base = q.settle base ↔ significant p.bytes = significant q.bytes := by
  simp only [Strays, not_or, ne_eq, not_not] at h
  obtain ⟨hstart, hp, hq⟩ := h
  rw [settle_of_not_climbs hp, settle_of_not_climbs hq, hstart, List.append_cancel_left_eq]

/-- Two paths come to one place from some location exactly if their routes meet. -/
theorem exists_settle_eq_iff :
    (∃ root : Location, root.Proper ∧ p.settle root = q.settle root) ↔ p.route.Meets q.route := by
  simp only [settle_eq_follow]
  exact Route.exists_follow_eq_iff p.proper_route q.proper_route

end Path

/-- Whether no two of some paths lead to one place from a location. -/
def ApartAt (root : Location) (paths : List Path) : Prop :=
  paths.Pairwise fun p q => p.settle root ≠ q.settle root

instance (root : Location) (paths : List Path) : Decidable (ApartAt root paths) :=
  inferInstanceAs (Decidable (List.Pairwise _ _))

/-- Whether paths that do not stray from each other are told apart wherever they are taken from. -/
def ToldApart (paths : List Path) : Prop :=
  paths.Pairwise fun p q => ¬p.Strays q → ∀ root, p.settle root ≠ q.settle root

/-- Where the other paths are told apart, only those that stray from each other can lead to one
place. -/
theorem apartAt_iff {paths : List Path} (h : ToldApart paths) (root : Location) :
    ApartAt root paths ↔
      paths.Pairwise fun p q => p.Strays q → p.settle root ≠ q.settle root := by
  constructor
  · intro hapart
    refine hapart.imp ?_
    intro p q hne _
    exact hne
  · intro hstraying
    refine h.imp₂ (fun p q htold hne => ?_) hstraying
    by_cases hstrays : p.Strays q
    · exact hne hstrays
    · exact htold hstrays root

/-- Where the other paths are told apart, all are apart from every location exactly if the routes of
no two that stray from each other meet. -/
theorem forall_apartAt_iff {paths : List Path} (h : ToldApart paths) :
    (∀ root : Location, root.Proper → ApartAt root paths) ↔
      paths.Pairwise fun p q => p.Strays q → ¬p.route.Meets q.route := by
  constructor
  · intro hapart
    refine List.pairwise_iff_forall_sublist.2 fun {p q} hsub _ hmeets => ?_
    obtain ⟨root, hroot, heq⟩ := Path.exists_settle_eq_iff.2 hmeets
    exact List.pairwise_iff_forall_sublist.1 (hapart root hroot) hsub heq
  · intro hstraying root hroot
    refine h.imp₂ (fun p q htold hmeets heq => ?_) hstraying
    by_cases hstrays : p.Strays q
    · exact hmeets hstrays (Path.exists_settle_eq_iff.1 ⟨root, hroot, heq⟩)
    · exact htold hstrays root heq

/-- Paths that are apart never lead to one place in a tree without links. -/
theorem resolve_ne_of_apartAt {t : FileTree} (ht : t.LinkFree) {root : Location}
    {paths : List Path} (h : ApartAt root paths) :
    paths.Pairwise fun p q => ∀ l, t.resolve root p = .ok l → t.resolve root q ≠ .ok l := by
  refine h.imp fun hne l hp hq => hne ?_
  rw [← FileTree.resolve_eq_settle ht hp, ← FileTree.resolve_eq_settle ht hq]

/-! ## The paths behind `-o` -/

/-- The path that a compilation is told to write. -/
def Invocation.objectPath? (i : Invocation) : Option Path :=
  match i.args with
  | _ :: _ :: option :: object :: _ => if option = "-o" then some (.ofString object) else none
  | _ => none

/-- The path that a stage writes an object file to. -/
def PlannedStage.objectPath? (s : PlannedStage) : Option Path :=
  match s.stage with
  | .compile _ => s.invocation.objectPath?
  | _ => none

/-- The paths that stages write object files to, in order. -/
def objectPaths (planned : List PlannedStage) : List Path :=
  planned.filterMap (·.objectPath?)

namespace Plan

variable {c : Compiler} {p : Plan}

/-- The stage of a module writes the module's object file. -/
theorem objectPath?_of_compileStage {m : ModuleEntry} {s : PlannedStage}
    (h : compileStage c m = .ok s) : s.objectPath? = m.objectName?.map Path.ofString := by
  obtain ⟨object, hobject, rfl⟩ := compileStage_eq_ok.1 h
  rw [hobject]
  rfl

/-- Compilations write the object files of their modules. -/
theorem objectPaths_of_compileStages {modules : List ModuleEntry} {compiles : List PlannedStage}
    (h : compileStages c modules = .ok compiles) :
    objectPaths compiles = (modules.filterMap ModuleEntry.objectName?).map Path.ofString := by
  have hpairs := compileStages_eq_ok.1 h
  clear h
  unfold objectPaths
  induction hpairs with
  | nil => rfl
  | cons hm _ ih =>
    rw [List.filterMap_cons, List.filterMap_cons, objectPath?_of_compileStage hm, ih]
    cases ModuleEntry.objectName? _ <;> rfl

/-- The stages of a plan write the object files of its enabled modules. -/
theorem objectPaths_of_stages {planned : List PlannedStage} (h : p.stages c = .ok planned) :
    objectPaths planned = (ModuleEntry.objects p.modules).map Path.ofString := by
  obtain ⟨compiles, hcompiles, rfl⟩ := stages_eq_ok.1 h
  have hpaths := objectPaths_of_compileStages hcompiles
  unfold objectPaths at hpaths ⊢
  rw [List.filterMap_append, List.filterMap_append, hpaths]
  exact List.append_nil _

/-- Modules that can be compiled have their stages. -/
theorem compileStages_of_usable (c : Compiler) {modules : List ModuleEntry}
    (h : ∀ m ∈ modules, m.Usable) : ∃ compiles, compileStages c modules = .ok compiles := by
  induction modules with
  | nil => exact ⟨[], rfl⟩
  | cons m more ih =>
    obtain ⟨compiles, hcompiles⟩ := ih fun m hm => h m (List.mem_cons_of_mem _ hm)
    obtain ⟨object, hobject⟩ := Option.isSome_iff_exists.1 (h m List.mem_cons_self).2
    exact ⟨_, compileStages_eq_ok.2
      (.cons (compileStage_eq_ok.2 ⟨object, hobject, rfl⟩) (compileStages_eq_ok.1 hcompiles))⟩

/-- A plan whose module list is accepted can be laid out. -/
theorem stages_of_checkAll (c : Compiler) (h : ModuleEntry.checkAll p.modules = .ok ()) :
    ∃ planned, p.stages c = .ok planned := by
  have husable : ∀ m ∈ p.enabledModules, m.Usable := fun m hm =>
    (ModuleEntry.checkAll_eq_ok.1 h).1 m (List.mem_filter.1 hm).1
  obtain ⟨compiles, hcompiles⟩ := compileStages_of_usable c husable
  exact ⟨_, stages_eq_ok.2 ⟨compiles, hcompiles, rfl⟩⟩

/-- Every enabled module of an accepted list has one object file. -/
theorem length_objects (h : ModuleEntry.checkAll p.modules = .ok ()) :
    (ModuleEntry.objects p.modules).length = p.enabledModules.length := by
  have husable := (ModuleEntry.checkAll_eq_ok.1 h).1
  unfold ModuleEntry.objects enabledModules
  rw [List.filterMap_length_eq_length]
  intro m hm
  exact (husable m (List.mem_filter.1 hm).1).2

/-- The object paths of an accepted list are told apart unless they stray from each other. -/
theorem toldApart_objects (h : ModuleEntry.checkAll p.modules = .ok ()) :
    ToldApart ((ModuleEntry.objects p.modules).map Path.ofString) := by
  have hnodup := (ModuleEntry.checkAll_eq_ok.1 h).2
  unfold ModuleEntry.objectKeys at hnodup
  refine List.pairwise_map.2 ((List.pairwise_map.1 hnodup).imp fun {s t} hkey hstrays root heq => ?_)
  have hstart : (Path.ofString s).isAbsolute = (Path.ofString t).isAbsolute := by
    by_contra hne
    exact hstrays (.inl hne)
  have hsegments := (Path.settle_eq_iff_of_not_strays hstrays root).1 heq
  exact hkey (Path.components_filter_eq_iff_ofString.2 ⟨hstart, hsegments⟩)

/-- An accepted plan is laid out with one object path for each enabled module. From a project root
those are the paths of different files exactly if no two of them that stray from each other lead to
one place, and from every project root exactly if the routes of no two such paths meet. In a tree
without links, paths that are apart are never paths of one file. -/
theorem objects_apart_iff (p : Plan) (c : Compiler)
    (h : ModuleEntry.checkAll p.modules = .ok ()) :
    ∃ planned, p.stages c = .ok planned ∧
      (objectPaths planned).length = p.enabledModules.length ∧
      (∀ root : Location, ApartAt root (objectPaths planned) ↔
        (objectPaths planned).Pairwise fun o o' =>
          o.Strays o' → o.settle root ≠ o'.settle root) ∧
      ((∀ root : Location, root.Proper → ApartAt root (objectPaths planned)) ↔
        (objectPaths planned).Pairwise fun o o' =>
          o.Strays o' → ¬o.route.Meets o'.route) ∧
      ∀ (t : FileTree) (root : Location), t.LinkFree → ApartAt root (objectPaths planned) →
        (objectPaths planned).Pairwise fun o o' =>
          ∀ l, t.resolve root o = .ok l → t.resolve root o' ≠ .ok l := by
  obtain ⟨planned, hplanned⟩ := stages_of_checkAll c h
  have hpaths := objectPaths_of_stages hplanned
  have hlength : (objectPaths planned).length = p.enabledModules.length := by
    rw [hpaths, List.length_map, length_objects h]
  have htold : ToldApart (objectPaths planned) := by
    rw [hpaths]
    exact toldApart_objects h
  exact ⟨planned, hplanned, hlength, apartAt_iff htold, forall_apartAt_iff htold,
    fun t root ht => resolve_ne_of_apartAt ht⟩

/-! ## Plans with and without a clash -/

namespace Clash

/-- A plan with two modules whose object paths differ by a detour through another directory. -/
def detour : Plan :=
  { modules := [{ source := "a.c" }, { source := "x/../a.c" }] }

/-- A plan with a module outside of the project, whose object path meets no other one. -/
def outside : Plan :=
  { modules := [{ source := "a.c" }, { source := "./x//a.c" }, { source := "../lib/b.c" }] }

/-- A compiler. -/
def compiler : Compiler :=
  ⟨"cc", by decide⟩

/-- The directory `/w`. -/
def root : Location := [[0x77]]

/-- A tree with the directories `/w` and `/w/x`. -/
def tree : FileTree :=
  { nodes := [(root, FileTree.plainDirectory), (root ++ [[0x78]], FileTree.plainDirectory)] }

end Clash

/-- A module outside of the project does not bring the files of an accepted plan together. -/
theorem objects_apart_outside :
    ModuleEntry.checkAll Clash.outside.modules = .ok () ∧
      ∃ planned, Clash.outside.stages Clash.compiler = .ok planned ∧
        (objectPaths planned).length = 3 ∧
        ∀ root : Location, root.Proper → ApartAt root (objectPaths planned) := by
  have haccepted : ModuleEntry.checkAll Clash.outside.modules = .ok () := by decide
  obtain ⟨planned, hplanned, hlength, -, hall, -⟩ :=
    objects_apart_iff Clash.outside Clash.compiler haccepted
  have hpaths := objectPaths_of_stages hplanned
  refine ⟨haccepted, planned, hplanned, hlength, hall.2 ?_⟩
  rw [hpaths]
  decide

/-- Two modules of an accepted plan write the same file. -/
theorem detour_shares_object :
    ModuleEntry.checkAll Clash.detour.modules = .ok () ∧
      ∃ planned o o', Clash.detour.stages Clash.compiler = .ok planned ∧
        objectPaths planned = [o, o'] ∧
        ¬ApartAt Clash.root (objectPaths planned) ∧
        Clash.tree.resolve Clash.root o = .ok (Clash.root ++ [Utf8.bytes "a.o"]) ∧
        Clash.tree.resolve Clash.root o' = .ok (Clash.root ++ [Utf8.bytes "a.o"]) := by
  have haccepted : ModuleEntry.checkAll Clash.detour.modules = .ok () := by decide
  obtain ⟨planned, hplanned⟩ := stages_of_checkAll Clash.compiler haccepted
  have hpaths : objectPaths planned = [.ofString "a.o", .ofString "x/../a.o"] := by
    rw [objectPaths_of_stages hplanned]
    decide
  refine ⟨haccepted, planned, .ofString "a.o", .ofString "x/../a.o", hplanned, hpaths, ?_, ?_, ?_⟩
  · rw [hpaths]
    decide
  · decide
  · decide

end Plan

end Shakedown
