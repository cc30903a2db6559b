import Shakedown.Path.Basic
import Shakedown.Proofs.Text.Encoding

/-!
# The segments that count

A path is given by whether it starts at the root and by its segments other than `.` and the empty
one. `components_filter` says that the components of a path, a leading `.` left out, hold exactly
this much, and `significant_encode` that it is the same for a text as for its bytes.
-/

set_option autoImplicit false

namespace Shakedown

namespace PathLetter

variable {α : Type} [DecidableEq α] [PathLetter α]

/-- The segments of a path that count. -/
def significant (p : List α) : List (List α) :=
  (segments p).filter (!isTrivial ·)

/-- A slash ends an empty segment. -/
theorem segments_slash (p : List α) : segments (slash :: p) = [] :: segments p := by
  rw [segments, if_pos rfl]

/-- Letters without a slash belong to the first segment. -/
theorem segments_append {w p s : List α} {more : List (List α)} (hw : slash ∉ w)
    (hp : segments p = s :: more) : segments (w ++ p) = (w ++ s) :: more := by
  induction w with
  | nil => exact hp
  | cons c w ih =>
    have hc : c ≠ slash := fun h => hw (h ▸ List.mem_cons_self)
    have hrest := ih fun h => hw (List.mem_cons_of_mem c h)
    rw [List.cons_append, segments, if_neg hc, hrest]
    rfl

/-- A path starts at the root if its first segment is empty and not its only one. -/
theorem isAbsolute_iff {p s : List α} {more : List (List α)} (hp : segments p = s :: more) :
    isAbsolute p = true ↔ s = [] ∧ more ≠ [] := by
  cases p with
  | nil =>
    have hnil : s = [] ∧ more = [] := by
      simpa [segments, eq_comm] using hp
    simp [isAbsolute, hnil]
  | cons c r =>
    by_cases hc : c = slash
    · subst hc
      rw [segments_slash] at hp
      cases hp
      simp [isAbsolute, segments_ne_nil]
    · obtain ⟨t, rest, hr⟩ := List.exists_cons_of_ne_nil (segments_ne_nil r)
      rw [segments, if_neg hc, hr] at hp
      cases hp
      simp [isAbsolute, hc]

/-! ## Components -/

/-- A segment that counts is known from its component. -/
theorem component_injective : Function.Injective (component : List α → Component α) := by
  intro s t h
  unfold component at h
  by_cases hs : s = double <;> by_cases ht : t = double <;> simp_all

/-- No segment that counts is taken for a leading `.`. -/
theorem component_ne_here (s : List α) : component s ≠ .here := by
  unfold component
  split <;> simp

/-- What the components hold, a leading `.` left out: whether the path starts at the root, and its
segments that count. -/
theorem components_filter (p : List α) :
    (components p).filter (· ≠ .here) =
      (if isAbsolute p then [.root] else []) ++ (significant p).map component := by
  obtain ⟨s, more, hp⟩ := List.exists_cons_of_ne_nil (segments_ne_nil p)
  have habsolute := isAbsolute_iff hp
  have hrest (segs : List (List α)) :
      (segs.map component).filter (· ≠ .here) = segs.map component := by
    refine List.filter_eq_self.2 fun x hx => ?_
    obtain ⟨t, -, rfl⟩ := List.mem_map.1 hx
    simpa using component_ne_here t
  unfold components significant
  simp only [hp]
  by_cases hs : s = []
  · subst hs
    by_cases hmore : more = []
    · simp [hmore, habsolute, isTrivial]
    · have hroot : isAbsolute p = true := habsolute.2 ⟨rfl, hmore⟩
      have htrivial : isTrivial ([] : List α) = true := by simp [isTrivial]
      rw [if_pos rfl, if_neg hmore, if_pos hroot, List.filter_cons_of_pos (by simp), hrest,
        List.filter_cons_of_neg (by simp [htrivial])]
      rfl
  · have hroot : ¬isAbsolute p = true := fun h => hs (habsolute.1 h).1
    rw [if_neg hs, if_neg hroot, List.nil_append]
    by_cases hsingle : s = single
    · have htrivial : isTrivial s = true := by simp [isTrivial, hsingle]
      rw [if_pos hsingle, List.filter_cons_of_neg (by simp), hrest,
        List.filter_cons_of_neg (by simp [htrivial])]
    · have hcounts : isTrivial s = false := by simp [isTrivial, hs, hsingle]
      rw [if_neg hsingle, List.filter_cons_of_pos (by simpa using component_ne_here s), hrest,
        List.filter_cons_of_pos (by simp [hcounts]), List.map_cons]

/-- Two paths have the same components, a leading `.` left out, if both or none of them start at the
root and the same segments count. -/
theorem components_filter_eq_iff {p q : List α} :
    (components p).filter (· ≠ .here) = (components q).filter (· ≠ .here) ↔
      isAbsolute p = isAbsolute q ∧ significant p = significant q := by
  have hinjective {segs segs' : List (List α)} :
      segs.map component = segs'.map component ↔ segs = segs' :=
    List.map_inj_right fun _ _ h => component_injective h
  -- A root is no component of a segment, so it marks where the segments begin.
  have hroot (segs : List (List α)) (more : List (Component α)) :
      segs.map component ≠ .root :: more := by
    intro h
    cases segs with
    | nil => cases h
    | cons s segs =>
      have hs : component s = .root := (List.cons.inj h).1
      unfold component at hs
      split at hs <;> cases hs
  rw [components_filter, components_filter]
  cases hp : isAbsolute p <;> cases hq : isAbsolute q
  · simpa using hinjective
  · simpa using hroot _ _
  · simpa using fun h => hroot _ _ h.symm
  · simpa using hinjective

end PathLetter

namespace Path

open PathLetter (segments segments_slash segments_append segments_ne_nil significant isTrivial
  single slash components_filter_eq_iff)

/-! ## Texts and their bytes -/

/-- The bytes of a text are cut where the text is. -/
theorem segments_encode (cs : List Char) :
    segments (Utf8.encode cs) = (segments cs).map Utf8.encode := by
  induction cs with
  | nil => rfl
  | cons c more ih =>
    have hcons : Utf8.encode (c :: more) = Utf8.encodeChar c ++ Utf8.encode more :=
      List.flatMap_cons
    obtain ⟨s, rest, hmore⟩ := List.exists_cons_of_ne_nil (segments_ne_nil more)
    by_cases hc : c = '/'
    · subst hc
      have hslash : Utf8.encodeChar '/' = [slash] := by decide
      have htext : segments ('/' :: more) = [] :: segments more := segments_slash more
      rw [hcons, hslash, List.singleton_append, segments_slash, ih, htext]
      rfl
    · have hbytes : slash ∉ Utf8.encodeChar c := by
        intro hm
        have hn : c.toNat = '/'.toNat := (Utf8.mem_encodeChar_of_ascii (by decide)).1 hm
        exact hc (Char.toNat_inj.1 hn)
      have htext : segments (c :: more) = (c :: s) :: rest :=
        segments_append (w := [c]) (by simpa using fun h => hc h.symm) hmore
      rw [hmore, List.map_cons] at ih
      rw [hcons, segments_append hbytes ih, htext, List.map_cons]
      rfl

/-- A segment counts as text if it counts as bytes. -/
theorem isTrivial_encode (s : List Char) : isTrivial (Utf8.encode s) = isTrivial s := by
  have hnil : Utf8.encode s = [] ↔ s = [] :=
    (Utf8.encode_injective.eq_iff (b := []))
  have hsingle : Utf8.encode s = single ↔ s = single :=
    (Utf8.encode_injective.eq_iff (b := ['.']))
  unfold isTrivial
  simp only [hnil, hsingle]

/-- A path starts at the root as text if it does as bytes. -/
theorem isAbsolute_encode (cs : List Char) :
    PathLetter.isAbsolute (Utf8.encode cs) = PathLetter.isAbsolute cs := by
  obtain ⟨s, more, hcs⟩ := List.exists_cons_of_ne_nil (segments_ne_nil cs)
  have hbytes : segments (Utf8.encode cs) = Utf8.encode s :: more.map Utf8.encode := by
    rw [segments_encode, hcs, List.map_cons]
  have hnil : Utf8.encode s = [] ↔ s = [] :=
    (Utf8.encode_injective.eq_iff (b := []))
  rw [Bool.eq_iff_iff, PathLetter.isAbsolute_iff hbytes, PathLetter.isAbsolute_iff hcs, hnil]
  simp

/-- The segments that count are the same as text and as bytes. -/
theorem significant_encode (cs : List Char) :
    significant (Utf8.encode cs) = (significant cs).map Utf8.encode := by
  unfold significant
  rw [segments_encode, List.filter_map]
  simp only [Function.comp_def, isTrivial_encode]

/-- Two texts have the same components, a leading `.` left out, if the paths they name both or
neither start at the root and the same segments of them count. -/
theorem components_filter_eq_iff_ofString {s t : String} :
    (PathLetter.components s.toList).filter (· ≠ .here) =
        (PathLetter.components t.toList).filter (· ≠ .here) ↔
      (ofString s).isAbsolute = (ofString t).isAbsolute ∧
        significant (ofString s).bytes = significant (ofString t).bytes := by
  unfold isAbsolute ofString
  rw [components_filter_eq_iff, isAbsolute_encode, isAbsolute_encode, significant_encode,
    significant_encode, List.map_inj_right fun _ _ h => Utf8.encode_injective h]

end Path

end Shakedown
