import Shakedown.Machine.FileTree
import Shakedown.Proofs.Path.Segments

/-!
# Where a path leads

In a file tree without symbolic links a path leads from a location to the same place whatever else
the tree holds: `Path.settle` computes it from the segments that count, and `resolve_eq_settle` says
that resolving a path can lead nowhere else.

What a path does to any location is its `Route`: from the root or from where it starts, so many
directories up, and then down along names. `exists_follow_eq_iff` tells from two routes alone
whether some location exists from which both lead to one place.
-/

set_option autoImplicit false

namespace Shakedown

open PathLetter

/-! ## Places -/

/-- Where a segment that counts leads. -/
def Location.step (l : Location) (s : Bytes) : Location :=
  if s = double then l.dropLast else l ++ [s]

/-- Whether a segment can be the name of something in a directory. -/
def IsName (s : Bytes) : Prop :=
  isTrivial s = false ∧ s ≠ double ∧ slash ∉ s

/-- A location that something can be at. -/
def Location.Proper (l : Location) : Prop :=
  ∀ s ∈ l, IsName s

/-- The place to which a path leads where no link stands in its way: repeated slashes and `.` do not
count, `..` leads to the parent, and the root is its own parent. -/
def Path.settle (p : Path) (base : Location) : Location :=
  (significant p.bytes).foldl Location.step (if p.isAbsolute then [] else base)

/-! ## Trees without links -/

namespace FileTree

/-- No location of the tree holds a symbolic link. -/
def LinkFree (t : FileTree) : Prop :=
  ∀ (l : Location) (target : Bytes), t.node? l ≠ some (.link target)

variable {t : FileTree} {follow : Bool}

/-- Where there are no links, segments are walked to their end, one step for each that counts. -/
theorem advance_eq_foldl (ht : t.LinkFree) {here : Location} {segs : List Bytes}
    {stretch : Stretch} (h : t.advance follow here segs = .ok stretch) :
    stretch = .place ((segs.filter (!isTrivial ·)).foldl Location.step here) := by
  induction segs generalizing here with
  | nil => cases h; rfl
  | cons s more ih =>
    unfold advance at h
    cases hnode : t.node? here with
    | none => simp [hnode] at h
    | some node =>
      cases node with
      | file number => simp [hnode] at h
      | link target => exact absurd hnode (ht here target)
      | directory mode modified =>
        simp only [hnode] at h
        by_cases htrivial : isTrivial s = true
        · rw [if_pos htrivial] at h
          rw [List.filter_cons_of_neg (by simp [htrivial])]
          exact ih h
        rw [if_neg htrivial] at h
        rw [List.filter_cons_of_pos (by simpa using htrivial), List.foldl_cons, Location.step]
        by_cases hup : s = double
        · rw [if_pos hup] at h ⊢
          exact ih h
        rw [if_neg hup] at h ⊢
        by_cases hlong : s.length > nameLimit
        · rw [if_pos hlong] at h
          cases h
        rw [if_neg hlong] at h
        cases hnext : t.node? (here ++ [s]) with
        | none => exact ih (by simpa only [hnext] using h)
        | some next =>
          cases next with
          | link target => exact absurd hnext (ht _ target)
          | file number => exact ih (by simpa only [hnext] using h)
          | directory mode' modified' => exact ih (by simpa only [hnext] using h)

/-- In a tree without links a path can only lead where it settles. -/
theorem resolve_eq_settle (ht : t.LinkFree) {cwd l : Location} {p : Path}
    (h : t.resolve cwd p follow = .ok l) : l = p.settle cwd := by
  unfold resolve at h
  split at h
  · cases h
  split at h
  · cases h
  split at h
  · cases h
  unfold walk at h
  cases hadvance : t.advance follow (if p.isAbsolute then [] else cwd) (segments p.bytes) with
  | error e => simp [hadvance] at h
  | ok stretch =>
    have hplace := advance_eq_foldl ht hadvance
    subst hplace
    simp only [hadvance, Except.ok.injEq] at h
    exact h.symm

end FileTree

/-! ## Routes -/

/-- What a path does to any location. -/
structure Route where
  /-- Whether it starts at the root. -/
  anchored : Bool
  /-- How many directories it leads up from its start. -/
  ups : Nat
  /-- The names along which it leads down from there. -/
  names : List Bytes
  deriving DecidableEq, Repr

namespace Route

/-- The route with one more segment behind it. -/
def step (r : Route) (s : Bytes) : Route :=
  if s = double then
    if r.names = [] then { r with ups := r.ups + 1 } else { r with names := r.names.dropLast }
  else { r with names := r.names ++ [s] }

/-- Where the route leads from a location. -/
def follow (r : Route) (base : Location) : Location :=
  (if r.anchored then [] else base.take (base.length - r.ups)) ++ r.names

/-- One more segment leads one step on. -/
theorem follow_step (r : Route) (s : Bytes) (base : Location) :
    (r.step s).follow base = (r.follow base).step s := by
  unfold step Location.step
  by_cases hs : s = double
  · rw [if_pos hs, if_pos hs]
    by_cases hnames : r.names = []
    · rw [if_pos hnames]
      unfold follow
      simp only [hnames, List.append_nil]
      cases r.anchored with
      | true => rfl
      | false =>
        have htake : min (base.length - r.ups - 1) (base.length - r.ups) =
            base.length - (r.ups + 1) := by omega
        have hlength : (base.take (base.length - r.ups)).length - 1 =
            base.length - r.ups - 1 := by
          rw [List.length_take]
          omega
        simp only [Bool.false_eq_true, if_false]
        rw [List.dropLast_eq_take, hlength, List.take_take, htake]
    · rw [if_neg hnames]
      unfold follow
      rw [List.dropLast_append_of_ne_nil hnames]
  · rw [if_neg hs, if_neg hs]
    unfold follow
    rw [List.append_assoc]

/-- Several more segments lead as many steps on. -/
theorem follow_foldl_step (segs : List Bytes) (r : Route) (base : Location) :
    (segs.foldl step r).follow base = segs.foldl Location.step (r.follow base) := by
  induction segs generalizing r with
  | nil => rfl
  | cons s more ih => rw [List.foldl_cons, List.foldl_cons, ih, follow_step]

end Route

/-- What a path does to any location. -/
def Path.route (p : Path) : Route :=
  (significant p.bytes).foldl Route.step { anchored := p.isAbsolute, ups := 0, names := [] }

/-- A path settles where its route leads. -/
theorem Path.settle_eq_follow (p : Path) (base : Location) :
    p.settle base = p.route.follow base := by
  unfold Path.settle Path.route
  rw [Route.follow_foldl_step]
  unfold Route.follow
  cases p.isAbsolute <;> simp

/-! ## Two routes -/

namespace Route

variable {r r' : Route} {base : Location}

/-- The names of a route remain names with one more segment that counts. -/
theorem proper_step (hr : Location.Proper r.names) {s : Bytes} (htrivial : isTrivial s = false)
    (hslash : slash ∉ s) : Location.Proper (r.step s).names := by
  unfold step
  split
  · split
    · exact hr
    · intro t ht
      exact hr t (List.dropLast_subset _ ht)
  · next hs =>
    intro t ht
    rcases List.mem_append.1 ht with ht | ht
    · exact hr t ht
    · rw [List.mem_singleton.1 ht]
      exact ⟨htrivial, hs, hslash⟩

/-- The names of a route remain names with more segments that count. -/
theorem proper_foldl_step {segs : List Bytes} (hr : Location.Proper r.names)
    (hsegs : ∀ s ∈ segs, isTrivial s = false ∧ slash ∉ s) :
    Location.Proper (segs.foldl step r).names := by
  induction segs generalizing r with
  | nil => exact hr
  | cons s more ih =>
    obtain ⟨htrivial, hslash⟩ := hsegs s List.mem_cons_self
    exact ih (proper_step hr htrivial hslash) fun t ht => hsegs t (List.mem_cons_of_mem s ht)

/-- Whether a route that starts where another one does may come to its end by a longer way: it
climbs at least as high, and comes down through directories that the other one never left. -/
def Rejoins (r r' : Route) : Prop :=
  r'.ups ≤ r.ups ∧ r'.names <:+ r.names ∧ r.names.length ≤ r'.names.length + (r.ups - r'.ups)

instance (r r' : Route) : Decidable (r.Rejoins r') :=
  inferInstanceAs (Decidable (_ ∧ _ ∧ _))

/-- Whether two routes may lead to one place. -/
def Meets (r r' : Route) : Prop :=
  if r.anchored then
    if r'.anchored then r.names = r'.names else r'.names <:+ r.names
  else
    if r'.anchored then r.names <:+ r'.names else r.Rejoins r' ∨ r'.Rejoins r

instance (r r' : Route) : Decidable (r.Meets r') :=
  inferInstanceAs (Decidable (ite _ _ _))

/-- A route from the root leads to its names. -/
theorem follow_of_anchored (h : r.anchored = true) : r.follow base = r.names := by
  simp [follow, h]

/-- Any other route keeps what it does not climb out of. -/
theorem follow_of_not_anchored (h : r.anchored = false) :
    r.follow base = base.take (base.length - r.ups) ++ r.names := by
  simp [follow, h]

/-- Some name, for directories that are only climbed out of. -/
def filler : Bytes := [0x78]

/-- A route that climbs out of as many directories as it can leaves the others in front. -/
theorem follow_append_replicate (h : r.anchored = false) (front : Location) :
    r.follow (front ++ List.replicate r.ups filler) = front ++ r.names := by
  rw [follow_of_not_anchored h, List.length_append, List.length_replicate,
    Nat.add_sub_cancel, List.take_left]

/-- Names with fillers behind them are names. -/
theorem proper_append_replicate {front : Location} (h : front.Proper) (n : Nat) :
    Location.Proper (front ++ List.replicate n filler) := by
  intro s hs
  rcases List.mem_append.1 hs with hs | hs
  · exact h s hs
  · rw [List.eq_of_mem_replicate hs]
    exact ⟨by decide, by decide, by decide⟩

/-- Names from which some at the end are left off are names. -/
theorem proper_of_append_left {front back : Location} (h : Location.Proper (front ++ back)) :
    front.Proper :=
  fun s hs => h s (List.mem_append_left back hs)

/-- Two routes to one place, of which the first climbs higher: it comes back through what the
second one keeps. -/
theorem rejoins_of_follow_eq (hr : r.anchored = false) (hr' : r'.anchored = false)
    (hups : r'.ups ≤ r.ups) (h : r.follow base = r'.follow base) : r.Rejoins r' := by
  rw [follow_of_not_anchored hr, follow_of_not_anchored hr'] at h
  have hsplit : base.take (base.length - r'.ups) =
      base.take (base.length - r.ups) ++
        (base.take (base.length - r'.ups)).drop (base.length - r.ups) := by
    have htake : (base.take (base.length - r'.ups)).take (base.length - r.ups) =
        base.take (base.length - r.ups) := by
      rw [List.take_take, Nat.min_eq_left (by omega)]
    have happend := List.take_append_drop (base.length - r.ups)
      (base.take (base.length - r'.ups))
    rw [htake] at happend
    exact happend.symm
  generalize hkept : (base.take (base.length - r'.ups)).drop (base.length - r.ups) = kept at hsplit
  have hlength : kept.length ≤ r.ups - r'.ups := by
    rw [← hkept, List.length_drop, List.length_take]
    omega
  rw [hsplit, List.append_assoc] at h
  have hnames : r.names = kept ++ r'.names := List.append_cancel_left h
  refine ⟨hups, ⟨kept, hnames.symm⟩, ?_⟩
  rw [hnames, List.length_append]
  omega

/-- A route that may come to the end of another one does so from some location. -/
theorem Rejoins.exists_follow_eq (h : r.Rejoins r') (hr : r.anchored = false)
    (hr' : r'.anchored = false) (hproper : Location.Proper r.names) :
    ∃ base : Location, base.Proper ∧ r.follow base = r'.follow base := by
  obtain ⟨hups, ⟨kept, hnames⟩, hlength⟩ := h
  have hkept : Location.Proper kept := proper_of_append_left (hnames ▸ hproper)
  rw [← hnames, List.length_append] at hlength
  refine ⟨kept ++ List.replicate r'.ups filler, proper_append_replicate hkept _, ?_⟩
  -- The first route climbs out of the whole location.
  have hzero : (kept ++ List.replicate r'.ups filler).length - r.ups = 0 := by
    rw [List.length_append, List.length_replicate]
    omega
  rw [follow_append_replicate hr', follow_of_not_anchored hr, hzero, ← hnames]
  rfl

/-- A route leads to a place from some location if its names are the last of that place. -/
theorem exists_follow_eq_names {names : Location} (hr : r.anchored = false)
    (hproper : names.Proper) :
    (∃ base : Location, base.Proper ∧ r.follow base = names) ↔ r.names <:+ names := by
  constructor
  · rintro ⟨base, -, h⟩
    rw [follow_of_not_anchored hr] at h
    exact ⟨_, h⟩
  · rintro ⟨front, rfl⟩
    exact ⟨front ++ List.replicate r.ups filler,
      proper_append_replicate (proper_of_append_left hproper) _,
      follow_append_replicate hr front⟩

/-- Two routes lead to one place from some location exactly if they may meet. -/
theorem exists_follow_eq_iff (hr : Location.Proper r.names) (hr' : Location.Proper r'.names) :
    (∃ base : Location, base.Proper ∧ r.follow base = r'.follow base) ↔ r.Meets r' := by
  unfold Meets
  cases ha : r.anchored <;> cases ha' : r'.anchored
  · simp only [Bool.false_eq_true, if_false]
    constructor
    · rintro ⟨base, -, h⟩
      rcases Nat.le_total r'.ups r.ups with hups | hups
      · exact .inl (rejoins_of_follow_eq ha ha' hups h)
      · exact .inr (rejoins_of_follow_eq ha' ha hups h.symm)
    · rintro (h | h)
      · exact h.exists_follow_eq ha ha' hr
      · obtain ⟨base, hbase, heq⟩ := h.exists_follow_eq ha' ha hr'
        exact ⟨base, hbase, heq.symm⟩
  · simp only [follow_of_anchored ha', Bool.false_eq_true, if_false, if_true]
    exact exists_follow_eq_names ha hr'
  · simp only [follow_of_anchored ha, eq_comm (a := r.names), Bool.false_eq_true, if_false, if_true]
    exact exists_follow_eq_names ha' hr
  · simp only [follow_of_anchored ha, follow_of_anchored ha', if_true]
    exact ⟨fun ⟨_, _, h⟩ => h, fun h => ⟨[], by simp [Location.Proper], h⟩⟩

end Route

/-- The names of a path's route are names. -/
theorem Path.proper_route (p : Path) : Location.Proper p.route.names := by
  refine Route.proper_foldl_step (by simp [Location.Proper]) fun s hs => ?_
  obtain ⟨hmem, hcounts⟩ := List.mem_filter.1 hs
  exact ⟨by simpa using hcounts, segments_no_slash p.bytes s hmem⟩

end Shakedown
