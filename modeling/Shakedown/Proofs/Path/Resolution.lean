import Mathlib.Data.List.Infix
import Shakedown.Proofs.Path.Route
import Shakedown.Proofs.Path.Shown

/-!
# Paths that are resolved in parts

A path that consists of two others leads where the second leads from the place of the first, in any
tree and over any links. Only the limits of the system depend on the whole path: `FileTree.Names`
says where a path leads without them, and `names_of_resolve` that a path which is resolved leads
there.

Main statement: `names_shown_join`, what is shown of a relative path behind a base leads where the
path leads from the place that is shown for the base.
-/

set_option autoImplicit false

namespace Shakedown

open PathLetter (segments segments_ne_nil isTrivial)

namespace FileTree

variable {t : FileTree}

/-- Whether a segment can be the name of something that exists. -/
def IsEntry (s : Bytes) : Prop :=
  IsName s ∧ s.length ≤ nameLimit

/-- Whether segments lead from one location to another, over any number of links. -/
def Leads (t : FileTree) (here : Location) (segs : List Bytes) (l : Location) : Prop :=
  ∃ links, t.walk true links here segs = .ok l

/-- Whether a path leads from a working directory to a location. -/
def Names (t : FileTree) (cwd : Location) (p : Path) (l : Location) : Prop :=
  t.Leads (if p.isAbsolute then [] else cwd) (segments p.bytes) l

/-! ## Segments behind each other -/

/-- Two lists of segments are walked one after the other, as long as no link has to be followed. -/
theorem advance_append (here : Location) (front back : List Bytes) :
    t.advance true here (front ++ back) =
      match t.advance true here front with
      | .error e => .error e
      | .ok (.place l) => t.advance true l back
      | .ok (.link directory target rest) => .ok (.link directory target (rest ++ back)) := by
  induction front generalizing here with
  | nil => rfl
  | cons s front ih =>
    simp only [List.cons_append, advance]
    cases t.node? here with
    | none => rfl
    | some node =>
      cases node with
      | file number => rfl
      | link target => rfl
      | directory mode modified =>
        simp only
        split
        · exact ih here
        split
        · exact ih here.dropLast
        split
        · rfl
        cases t.node? (here ++ [s]) with
        | none => exact ih (here ++ [s])
        | some next =>
          cases next with
          | link target => simp
          | file number => exact ih (here ++ [s])
          | directory mode' modified' => exact ih (here ++ [s])

/-- Where segments lead with so many links: to their end, or on from the first link. -/
theorem walk_eq_ok {links : Nat} {here l : Location} {segs : List Bytes} :
    t.walk true links here segs = .ok l ↔
      t.advance true here segs = .ok (.place l) ∨
        ∃ fewer directory target rest, links = fewer + 1 ∧
          t.advance true here segs = .ok (.link directory target rest) ∧
          t.walk true fewer (if PathLetter.isAbsolute target then [] else directory)
            (segments target ++ rest) = .ok l := by
  conv_lhs => unfold walk
  cases t.advance true here segs with
  | error e => simp
  | ok stretch =>
    cases stretch with
    | place l' => simp
    | link directory target rest =>
      cases links with
      | zero => simp
      | succ links =>
        simp only [Except.ok.injEq, reduceCtorEq, false_or, Stretch.link.injEq]
        constructor
        · intro h
          exact ⟨links, directory, target, rest, rfl, ⟨rfl, rfl, rfl⟩, h⟩
        · rintro ⟨fewer, _, _, _, hlinks, ⟨rfl, rfl, rfl⟩, h⟩
          rw [Nat.succ.inj hlinks]
          exact h

/-- A walk depends only on where the segments lead without following a link. -/
theorem walk_congr {here here' : Location} {segs segs' : List Bytes}
    (h : t.advance true here segs = t.advance true here' segs') (links : Nat) :
    t.walk true links here segs = t.walk true links here' segs' := by
  unfold walk
  rw [h]

/-- Segments that lead to a place with no link may be walked before the others. -/
theorem walk_append_of_place {here mid : Location} {front : List Bytes}
    (h : t.advance true here front = .ok (.place mid)) (links : Nat) (back : List Bytes) :
    t.walk true links here (front ++ back) = t.walk true links mid back :=
  walk_congr (by rw [advance_append, h]) links

/-- A walk that ends also ends where more links are allowed. -/
theorem walk_mono {links more : Nat} (hmore : links ≤ more) {here l : Location}
    {segs : List Bytes} (h : t.walk true links here segs = .ok l) :
    t.walk true more here segs = .ok l := by
  induction links using Nat.strongRecOn generalizing more here segs with
  | ind links ih =>
    rcases walk_eq_ok.1 h with hplace | ⟨fewer, directory, target, rest, hlinks, hlink, hrest⟩
    · exact walk_eq_ok.2 (.inl hplace)
    · obtain ⟨m, rfl⟩ : ∃ m, more = m + 1 := ⟨more - 1, by omega⟩
      have hmore' : fewer ≤ m := by omega
      have hm := ih fewer (by omega) hmore' hrest
      exact walk_eq_ok.2 (.inr ⟨m, directory, target, rest, rfl, hlink, hm⟩)

/-- Segments lead to one location at most. -/
theorem Leads.unique {here l l' : Location} {segs : List Bytes} (h : t.Leads here segs l)
    (h' : t.Leads here segs l') : l = l' := by
  obtain ⟨links, hlinks⟩ := h
  obtain ⟨links', hlinks'⟩ := h'
  have hmax := walk_mono (Nat.le_max_left links links') hlinks
  have hmax' := walk_mono (Nat.le_max_right links links') hlinks'
  rw [hmax] at hmax'
  exact Except.ok.inj hmax'

/-- Segments behind a walk that ends lead on from its end. -/
theorem leads_append_of_walk {links : Nat} {here mid l : Location} {front back : List Bytes}
    (hfront : t.walk true links here front = .ok mid) (hback : t.Leads mid back l) :
    t.Leads here (front ++ back) l := by
  induction links using Nat.strongRecOn generalizing here front with
  | ind links ih =>
    rcases walk_eq_ok.1 hfront with hplace | ⟨fewer, directory, target, rest, hlinks, hlink, hrest⟩
    · obtain ⟨more, hmore⟩ := hback
      refine ⟨more, ?_⟩
      rwa [walk_append_of_place hplace]
    · -- What the first link leaves of the front needs one link fewer.
      obtain ⟨more, hmore⟩ := ih fewer (by omega) hrest
      rw [List.append_assoc] at hmore
      have hwhole : t.advance true here (front ++ back) =
          .ok (.link directory target (rest ++ back)) := by
        rw [advance_append, hlink]
      exact ⟨more + 1, walk_eq_ok.2 (.inr ⟨more, directory, target, _, rfl, hwhole, hmore⟩)⟩

/-- A walk over two lists of segments comes through a location where the first of them leads. -/
theorem exists_leads_of_walk_append {links : Nat} {here l : Location} {front back : List Bytes}
    (h : t.walk true links here (front ++ back) = .ok l) :
    ∃ mid, t.Leads here front mid ∧ t.Leads mid back l := by
  induction links using Nat.strongRecOn generalizing here front with
  | ind links ih =>
    cases hadvance : t.advance true here front with
    | error e =>
      rw [walk_eq_ok, advance_append, hadvance] at h
      simp at h
    | ok stretch =>
      cases stretch with
      | place mid =>
        rw [walk_append_of_place hadvance] at h
        exact ⟨mid, ⟨0, walk_eq_ok.2 (.inl hadvance)⟩, links, h⟩
      | link directory target rest =>
        rw [walk_eq_ok, advance_append, hadvance] at h
        simp only [Except.ok.injEq, reduceCtorEq, false_or, Stretch.link.injEq] at h
        obtain ⟨fewer, _, _, _, rfl, ⟨rfl, rfl, rfl⟩, hrest⟩ := h
        rw [← List.append_assoc] at hrest
        obtain ⟨mid, ⟨first, hfirst⟩, hsecond⟩ := ih fewer (by omega) hrest
        exact ⟨mid, ⟨first + 1, walk_eq_ok.2 (.inr ⟨first, _, _, _, rfl, hadvance, hfirst⟩)⟩,
          hsecond⟩

/-- Segments lead through the place to which the first of them lead. -/
theorem leads_append {here l : Location} {front back : List Bytes} :
    t.Leads here (front ++ back) l ↔ ∃ mid, t.Leads here front mid ∧ t.Leads mid back l := by
  constructor
  · rintro ⟨links, h⟩
    exact exists_leads_of_walk_append h
  · rintro ⟨mid, ⟨links, hfront⟩, hback⟩
    exact leads_append_of_walk hfront hback

/-- An empty segment in front of others is passed over. -/
theorem advance_nil_cons (here : Location) {segs : List Bytes} (hsegs : segs ≠ []) :
    t.advance true here ([] :: segs) = t.advance true here segs := by
  obtain ⟨s, more, rfl⟩ := List.exists_cons_of_ne_nil hsegs
  have htrivial : isTrivial ([] : Bytes) = true := rfl
  simp only [advance, htrivial, if_true]
  cases t.node? here with
  | none => rfl
  | some node => cases node <;> rfl

/-- An empty segment in front of others leads nowhere else. -/
theorem leads_nil_cons {here l : Location} {segs : List Bytes} (hsegs : segs ≠ []) :
    t.Leads here ([] :: segs) l ↔ t.Leads here segs l := by
  unfold Leads
  simp only [walk_congr (advance_nil_cons here hsegs)]

/-- An empty segment between others takes no link more or less. -/
theorem walk_append_nil_cons (links : Nat) (here : Location) (front : List Bytes)
    {back : List Bytes} (hback : back ≠ []) :
    t.walk true links here (front ++ [] :: back) = t.walk true links here (front ++ back) := by
  induction links using Nat.strongRecOn generalizing here front with
  | ind links ih =>
    cases hfront : t.advance true here front with
    | error e =>
      refine walk_congr ?_ links
      rw [advance_append, advance_append, hfront]
    | ok stretch =>
      cases stretch with
      | place mid =>
        refine walk_congr ?_ links
        rw [advance_append, advance_append, hfront]
        exact advance_nil_cons mid hback
      | link directory target rest =>
        unfold walk
        rw [advance_append, advance_append, hfront]
        cases links with
        | zero => rfl
        | succ fewer =>
          have hrest := ih fewer (Nat.lt_succ_self fewer)
            (if PathLetter.isAbsolute target then [] else directory) (segments target ++ rest)
          simpa only [List.append_assoc] using hrest

/-! ## Paths behind each other -/

/-- The system resolves a path to nothing but the location that it names. -/
theorem names_of_resolve {cwd l : Location} {p : Path} (h : t.resolve cwd p = .ok l) :
    t.Names cwd p l := by
  unfold resolve at h
  split at h
  · cases h
  split at h
  · cases h
  split at h
  · cases h
  exact ⟨linkLimit, h⟩

/-- A path behind a base leads where it leads from the place that the base leads to, whether or not
the base ends in a slash. -/
theorem leads_join {here l : Location} {whole base back front : List Bytes}
    (hwhole : whole = front ++ back) (hbase : base = front ∨ base = front ++ [[]])
    (hback : back ≠ []) :
    t.Leads here whole l ↔ ∃ mid, t.Leads here base mid ∧ t.Leads mid back l := by
  rw [← leads_append]
  rcases hbase with rfl | rfl
  · rw [hwhole]
  · rw [hwhole, List.append_assoc, leads_append, leads_append]
    simp only [List.singleton_append, leads_nil_cons hback]

/-- What is shown of a program path behind a directory leads where the program's path leads from the
directory that is shown. -/
theorem names_shown_join {base : Path} (hbase : base.isAbsolute = true) {s : String}
    (hs : PathLetter.isAbsolute s.toList = false) {cwd l : Location} :
    t.Names cwd (base.join (.ofString s)).shown l ↔
      ∃ mid, t.Names [] base.shown mid ∧ t.Names mid (.ofString s) l := by
  have hrelative : (Path.ofString s).isAbsolute = false := by
    unfold Path.isAbsolute Path.ofString
    rw [Path.isAbsolute_encode, hs]
  have hjoin : (base.join (.ofString s)).isAbsolute = true := PathLetter.isAbsolute_join hbase _
  obtain ⟨front, hwhole, hfront⟩ := PathLetter.segments_join base.bytes hrelative
  have hown : (segments (Path.ofString s).bytes).map shownBytes =
      segments (Path.ofString s).bytes := by
    rw [← Path.segments_shown, Path.shown_ofString]
  have hshown : segments (base.join (.ofString s)).shown.bytes =
      front.map shownBytes ++ segments (Path.ofString s).bytes := by
    rw [Path.segments_shown, Path.join, hwhole, List.map_append, hown]
  have hshown' : segments base.shown.bytes = front.map shownBytes ∨
      segments base.shown.bytes = front.map shownBytes ++ [[]] := by
    rw [Path.segments_shown]
    rcases hfront with h | h
    · exact .inl (by rw [h])
    · exact .inr (by rw [h, List.map_append]; rfl)
  unfold Names
  rw [if_pos (Path.isAbsolute_shown hjoin), if_pos (Path.isAbsolute_shown hbase)]
  simp only [hrelative, Bool.false_eq_true, if_false]
  exact leads_join hshown hshown' (segments_ne_nil _)

/-! ## Trees with a single directory -/

/-- The tree that has a directory at a location, and nothing else. -/
def onlyDirectory (b : Location) : FileTree :=
  { nodes := b.inits.map fun l => (l, plainDirectory) }

/-- In a table with one entry for all keys a key of the table has that entry. -/
theorem lookup_map_const {ls : List Location} {n : Node} {l : Location} :
    (ls.map fun l => (l, n)).lookup l = if l ∈ ls then some n else none := by
  induction ls with
  | nil => rfl
  | cons k ls ih =>
    by_cases hk : l = k
    · simp [hk]
    · have hbeq : (l == k) = false := by simpa using hk
      simp [List.lookup_cons, hbeq, hk, ih]

/-- The tree of one directory has that directory and those that it lies in. -/
theorem node?_onlyDirectory (b l : Location) :
    (onlyDirectory b).node? l = if l <+: b then some plainDirectory else none := by
  unfold node?
  by_cases hl : l = []
  · rw [if_pos hl, if_pos (hl ▸ List.nil_prefix)]
  · unfold onlyDirectory
    rw [if_neg hl, lookup_map_const]
    simp only [List.mem_inits]

/-- The tree of one directory has no links. -/
theorem linkFree_onlyDirectory (b : Location) : (onlyDirectory b).LinkFree := by
  intro l target h
  rw [node?_onlyDirectory] at h
  split at h <;> cases h

/-- In the tree of one directory the rest of its path leads to it from the place before. -/
theorem advance_onlyDirectory (front : Location) {back : Location} (h : ∀ s ∈ back, IsEntry s) :
    (onlyDirectory (front ++ back)).advance true front back = .ok (.place (front ++ back)) := by
  induction back generalizing front with
  | nil => rw [List.append_nil]; rfl
  | cons s back ih =>
    obtain ⟨⟨htrivial, hdouble, -⟩, hlength⟩ := h s List.mem_cons_self
    have hmore := ih (front ++ [s]) fun u hu => h u (List.mem_cons_of_mem s hu)
    rw [List.append_assoc, List.singleton_append] at hmore
    have hhere := node?_onlyDirectory (front ++ s :: back) front
    rw [if_pos (List.prefix_append front (s :: back))] at hhere
    have hnext := node?_onlyDirectory (front ++ s :: back) (front ++ [s])
    rw [if_pos ⟨back, by rw [List.append_assoc, List.singleton_append]⟩] at hnext
    simp only [advance, hhere, hnext, plainDirectory, htrivial, hdouble, Bool.false_eq_true,
      if_false]
    rw [if_neg (by omega)]
    exact hmore

/-- Without links segments lead to the end of the steps that count. -/
theorem leads_eq_foldl {t : FileTree} (ht : t.LinkFree) {here l : Location} {segs : List Bytes}
    (h : t.Leads here segs l) : l = (segs.filter (!isTrivial ·)).foldl Location.step here := by
  obtain ⟨links, hlinks⟩ := h
  rcases walk_eq_ok.1 hlinks with hplace | ⟨_, directory, target, rest, -, hlink, -⟩
  · exact Stretch.place.inj (advance_eq_foldl ht hplace)
  · cases advance_eq_foldl ht hlink

/-- Without links a path can only lead where it settles. -/
theorem names_eq_settle {t : FileTree} (ht : t.LinkFree) {cwd l : Location} {p : Path}
    (h : t.Names cwd p l) : l = p.settle cwd :=
  leads_eq_foldl ht h

end FileTree

end Shakedown
