import Shakedown.Proofs.Path.Segments

/-!
# How a path with a file name is written

A path that ends in a name is written as a directory part, the stem of the name, its extension, and
perhaps slashes and dots behind the name. `Spelling` says so without looking at segments, and
`exists_spelling_iff` that the paths with a spelling are those with a file name.

Main statement: `Spelling.withSuffix?_eq`, another extension is put behind the stem, where it
stands, unless cutting the old one off leaves `..`.
-/

set_option autoImplicit false

namespace Shakedown

namespace PathLetter

variable {α : Type} [DecidableEq α] [PathLetter α]

/-- The parts in which a path with a file name is written. -/
structure Spelling (p directory stem extension tail : List α) : Prop where
  whole : p = directory ++ (stem ++ extension ++ tail)
  /-- The directory part ends in a slash if there is one. -/
  directory : directory = [] ∨ ∃ front, directory = front ++ [slash]
  /-- The name is a single segment. -/
  slash_not_mem : slash ∉ stem ++ extension
  ne_single : stem ++ extension ≠ single
  ne_double : stem ++ extension ≠ double
  stem_ne_nil : stem ≠ []
  /-- The extension starts at the last dot. A dot in front of the whole name starts none. -/
  extension : extension = [] ∧ dot ∉ stem.tail ∨ ∃ suffix, extension = dot :: suffix ∧ dot ∉ suffix
  /-- Behind the name there are slashes, and `.` between them. -/
  tail : ∃ segs : List (List α), tail = segs.flatMap (slash :: ·) ∧ ∀ s ∈ segs, isTrivial s = true

/-! ## Segments put together -/

omit [DecidableEq α] in
/-- Joined segments are the first one, and each other one behind a slash. -/
theorem joinSegments_cons (s : List α) (segs : List (List α)) :
    joinSegments (s :: segs) = s ++ segs.flatMap (slash :: ·) := by
  induction segs generalizing s with
  | nil => simp [joinSegments, List.intercalate]
  | cons t segs ih =>
    rw [joinSegments_cons_cons, ih, List.flatMap_cons, List.cons_append]

omit [DecidableEq α] in
/-- Segments around one in the middle are joined with their slashes on its two sides. -/
theorem joinSegments_append_cons (front : List (List α)) (s : List α) (segs : List (List α)) :
    joinSegments (front ++ s :: segs) =
      front.flatMap (· ++ [slash]) ++ (s ++ segs.flatMap (slash :: ·)) := by
  induction front with
  | nil => exact joinSegments_cons s segs
  | cons t front ih =>
    obtain ⟨u, more, hmore⟩ : ∃ u more, front ++ s :: segs = u :: more :=
      List.exists_cons_of_ne_nil (by simp)
    rw [List.cons_append, hmore, joinSegments_cons_cons, ← hmore, ih]
    simp

/-- A slash parts a path into the segments before it and those behind it. -/
theorem segments_append_slash (p q : List α) :
    segments (p ++ slash :: q) = segments p ++ segments q := by
  induction p with
  | nil => rw [List.nil_append, segments_slash]; rfl
  | cons c p ih =>
    by_cases hc : c = slash
    · subst hc
      rw [List.cons_append, segments_slash, ih, segments_slash, List.cons_append]
    · obtain ⟨s, more, hp⟩ := List.exists_cons_of_ne_nil (segments_ne_nil p)
      have hone : slash ∉ [c] := by simpa using fun h => hc h.symm
      rw [hp, List.cons_append] at ih
      have hcp : segments (c :: p) = (c :: s) :: more := segments_append hone hp
      have hall : segments (c :: (p ++ slash :: q)) = (c :: s) :: (more ++ segments q) :=
        segments_append hone ih
      rw [List.cons_append, hall, hcp, List.cons_append]

/-- Letters without a slash are one segment. -/
theorem segments_name {n : List α} (hn : slash ∉ n) : segments n = [n] := by
  have h : segments (n ++ []) = [n ++ []] := segments_append hn rfl
  rwa [List.append_nil] at h

/-- Segments with a slash before all but the first one are cut apart again. -/
theorem segments_append_flatMap {n : List α} (hn : slash ∉ n) {segs : List (List α)}
    (hsegs : ∀ s ∈ segs, slash ∉ s) : segments (n ++ segs.flatMap (slash :: ·)) = n :: segs := by
  induction segs generalizing n with
  | nil => rw [List.flatMap_nil, List.append_nil, segments_name hn]
  | cons s segs ih =>
    have hs : slash ∉ s := hsegs s List.mem_cons_self
    have hmore := ih hs fun t ht => hsegs t (List.mem_cons_of_mem s ht)
    rw [List.flatMap_cons, List.cons_append, segments_append_slash, segments_name hn, hmore]
    rfl

/-- A segment that does not count holds no slash. -/
theorem slash_not_mem_of_isTrivial {s : List α} (h : isTrivial s = true) : slash ∉ s := by
  simp only [isTrivial, Bool.or_eq_true, decide_eq_true_eq] at h
  rcases h with rfl | rfl
  · simp
  · simpa [single] using slash_ne_dot

/-- A directory part is made of the segments before the name. -/
theorem exists_front {directory : List α}
    (h : directory = [] ∨ ∃ front, directory = front ++ [slash]) :
    ∃ front : List (List α), directory = front.flatMap (· ++ [slash]) ∧
      ∀ q, segments (directory ++ q) = front ++ segments q := by
  rcases h with rfl | ⟨d, rfl⟩
  · exact ⟨[], rfl, fun q => rfl⟩
  · refine ⟨segments d, ?_, fun q => ?_⟩
    · have hjoin := joinSegments_append_cons (segments d) [] []
      have hempty : segments d ++ [[]] = segments (d ++ slash :: []) := by
        rw [segments_append_slash]
        rfl
      rw [hempty, joinSegments_segments] at hjoin
      simpa using hjoin
    · rw [List.append_assoc]
      exact segments_append_slash d q

/-! ## Stems -/

/-- What stands before the last dot of a name is its stem. -/
theorem stem_append_extension {s : List α} (hs : s ≠ []) {suffix : List α} (h : dot ∉ suffix) :
    stem (s ++ dot :: suffix) = s := by
  obtain ⟨last, before, hreverse⟩ := List.exists_cons_of_ne_nil (List.reverse_ne_nil_iff.2 hs)
  have hdrop : (s ++ dot :: suffix).reverse.dropWhile (· ≠ dot) = dot :: s.reverse := by
    have hkept : ∀ c ∈ suffix.reverse, decide (c ≠ dot) = true := by
      intro c hc
      have hmem : c ∈ suffix := List.mem_reverse.1 hc
      simpa using fun heq : c = dot => h (heq ▸ hmem)
    rw [List.reverse_append, List.reverse_cons, List.append_assoc,
      List.dropWhile_append_of_pos hkept]
    simp
  unfold stem
  rw [hdrop, hreverse]
  simp only
  rw [← hreverse, List.reverse_reverse]

/-- A name without a dot behind its first letter is its own stem. -/
theorem stem_eq_self {s : List α} (h : dot ∉ s.tail) : stem s = s := by
  cases s with
  | nil => rfl
  | cons c t =>
    have hkept : ∀ x ∈ t.reverse, decide (x ≠ dot) = true := by
      intro x hx
      have hmem : x ∈ t := List.mem_reverse.1 hx
      simpa using fun heq : x = dot => h (heq ▸ hmem)
    unfold stem
    rw [List.reverse_cons, List.dropWhile_append_of_pos hkept]
    by_cases hc : c = dot <;> simp [hc]

/-- Every name has a stem. -/
theorem exists_stem {n : List α} (hn : n ≠ []) :
    ∃ s extension, n = s ++ extension ∧ s ≠ [] ∧
      (extension = [] ∧ dot ∉ s.tail ∨ ∃ suffix, extension = dot :: suffix ∧ dot ∉ suffix) := by
  by_cases htail : dot ∈ n.tail
  · -- The last dot of the name is not its first letter.
    obtain ⟨c, t, rfl⟩ := List.exists_cons_of_ne_nil hn
    obtain ⟨after, before, hreverse, hafter⟩ :=
      List.eq_append_cons_of_mem (List.mem_reverse.2 htail)
    have ht : t = before.reverse ++ dot :: after.reverse := by
      have h := congrArg List.reverse hreverse
      simpa using h
    refine ⟨c :: before.reverse, dot :: after.reverse, ?_, List.cons_ne_nil _ _, .inr ⟨_, rfl, ?_⟩⟩
    · rw [ht, List.cons_append]
    · exact fun h => hafter (List.mem_reverse.1 h)
  · exact ⟨n, [], (List.append_nil n).symm, hn, .inl ⟨rfl, htail⟩⟩

/-! ## Paths with a file name -/

namespace Spelling

variable {p directory s extension tail : List α}

/-- The stem of a spelling is that of the name in it. -/
theorem stem_eq (h : Spelling p directory s extension tail) : stem (s ++ extension) = s := by
  rcases h.extension with ⟨rfl, htail⟩ | ⟨suffix, rfl, hsuffix⟩
  · rw [List.append_nil]
    exact stem_eq_self htail
  · exact stem_append_extension h.stem_ne_nil hsuffix

/-- The name of a spelling is a segment that counts. -/
theorem isTrivial_eq (h : Spelling p directory s extension tail) :
    isTrivial (s ++ extension) = false := by
  have hne : s ++ extension ≠ [] := fun heq => h.stem_ne_nil (List.append_eq_nil_iff.1 heq).1
  simp only [isTrivial, h.ne_single, hne, decide_false, Bool.or_false]

/-- The segments of a path with a file name: some before the name, the name, and trivial ones. -/
theorem exists_segments (h : Spelling p directory s extension tail) :
    ∃ front segs : List (List α), segments p = front ++ (s ++ extension) :: segs ∧
      directory = front.flatMap (· ++ [slash]) ∧ (tail = [] ↔ segs = []) ∧
      ∀ t ∈ segs, isTrivial t = true := by
  obtain ⟨front, hdirectory, hfront⟩ := exists_front h.directory
  obtain ⟨segs, htail, hsegs⟩ := h.tail
  refine ⟨front, segs, ?_, hdirectory, ?_, hsegs⟩
  · rw [h.whole, hfront, htail,
      segments_append_flatMap h.slash_not_mem fun t ht => slash_not_mem_of_isTrivial (hsegs t ht)]
  · cases segs <;> simp [htail]

/-- The segments of a spelling that count end with its name, and those before make its directory
part. -/
theorem significantReversed_eq (h : Spelling p directory s extension tail) :
    ∃ front : List (List α), significantReversed p = (s ++ extension) :: front.reverse ∧
      directory = front.flatMap (· ++ [slash]) := by
  obtain ⟨front, segs, hsegments, hdirectory, -, htrivial⟩ := h.exists_segments
  refine ⟨front, ?_, hdirectory⟩
  have hskipped : ∀ t ∈ segs.reverse, isTrivial t = true := fun t ht =>
    htrivial t (List.mem_reverse.1 ht)
  unfold significantReversed
  rw [hsegments, List.reverse_append, List.reverse_cons, List.append_assoc,
    List.dropWhile_append_of_pos hskipped]
  simp [h.isTrivial_eq]

/-- Cutting the extension off the end of a path leaves `..` if the stem is a dot and nothing stands
behind the name. -/
theorem cutsToParent_iff (h : Spelling p directory s extension tail) :
    cutsToParent p (s ++ extension) = true ↔ s = single ∧ tail = [] := by
  obtain ⟨front, segs, hsegments, -, htail, htrivial⟩ := h.exists_segments
  unfold cutsToParent
  rw [h.stem_eq, hsegments, htail]
  rcases List.eq_nil_or_concat segs with rfl | ⟨more, t, rfl⟩
  · simp
  · have hne : t ≠ s ++ extension := by
      rintro rfl
      have ht := htrivial (s ++ extension) (by simp)
      rw [h.isTrivial_eq] at ht
      cases ht
    have hlast : (front ++ (s ++ extension) :: more.concat t).getLast? = some t := by
      rw [List.concat_eq_append, ← List.cons_append, ← List.append_assoc]
      exact List.getLast?_concat
    rw [hlast]
    simp [hne]

/-- The file name of a spelled path is the stem with the extension. -/
theorem fileName?_eq (h : Spelling p directory s extension tail) :
    fileName? p = some (s ++ extension) := by
  obtain ⟨front, hreversed, -⟩ := h.significantReversed_eq
  unfold fileName?
  rw [hreversed]
  exact if_neg h.ne_double

/-- With another extension a path ends behind its stem. Only a path that ends in a name with the
stem `.` ends in `..` instead. -/
theorem withSuffix?_eq (h : Spelling p directory s extension tail) (suffix : List α) :
    withSuffix? suffix p =
      some (directory ++ if s = single ∧ tail = [] then double else s ++ dot :: suffix) := by
  obtain ⟨front, hreversed, hdirectory⟩ := h.significantReversed_eq
  have hjoin (n : List α) : joinSegments (front ++ [n]) = directory ++ n := by
    rw [joinSegments_append_cons, ← hdirectory, List.flatMap_nil, List.append_nil]
  unfold withSuffix?
  rw [hreversed]
  simp only [if_neg h.ne_double, h.cutsToParent_iff, h.stem_eq, List.reverse_reverse, hjoin]

/-- A path with another extension is written with the same directory part and the same stem. -/
theorem withExtension (h : Spelling p directory s extension tail) {suffix : List α}
    (hne : suffix ≠ []) (hslash : slash ∉ suffix) (hdot : dot ∉ suffix) :
    Spelling (directory ++ (s ++ dot :: suffix)) directory s (dot :: suffix) [] := by
  have hs : slash ∉ s := fun hm => h.slash_not_mem (List.mem_append_left _ hm)
  have hlength : 0 < suffix.length := List.length_pos_iff.2 hne
  have hstem : 0 < s.length := List.length_pos_iff.2 h.stem_ne_nil
  constructor
  · rw [List.append_nil]
  · exact h.directory
  · simpa [hs, hslash] using (slash_ne_dot : (slash : α) ≠ dot)
  · intro heq
    have := congrArg List.length heq
    simp [single] at this
    omega
  · intro heq
    have := congrArg List.length heq
    simp [double] at this
    omega
  · exact h.stem_ne_nil
  · exact .inr ⟨suffix, rfl, hdot⟩
  · exact ⟨[], rfl, by simp⟩

end Spelling

/-- A path has a spelling if its last component is a name. -/
theorem exists_spelling_iff {p : List α} :
    (∃ directory s extension tail, Spelling p directory s extension tail) ↔
      (fileName? p).isSome = true := by
  constructor
  · rintro ⟨directory, s, extension, tail, h⟩
    rw [h.fileName?_eq]
    rfl
  · intro hname
    unfold fileName? at hname
    cases hreversed : significantReversed p with
    | nil => simp [hreversed] at hname
    | cons n before =>
      have hdouble : n ≠ double := by
        rintro rfl
        simp [hreversed] at hname
      unfold significantReversed at hreversed
      have hcut := List.takeWhile_append_dropWhile (p := isTrivial) (l := (segments p).reverse)
      rw [hreversed] at hcut
      have hsegments : segments p =
          before.reverse ++ n :: ((segments p).reverse.takeWhile isTrivial).reverse := by
        have h := congrArg List.reverse hcut
        simpa using h.symm
      have htrivial : isTrivial n = false := by
        have h := List.head?_dropWhile_not isTrivial (segments p).reverse
        simpa [hreversed] using h
      simp only [isTrivial, Bool.or_eq_false_iff, decide_eq_false_iff_not] at htrivial
      have hmem : n ∈ segments p := by
        rw [hsegments]
        simp
      obtain ⟨s, extension, rfl, hs, hextension⟩ := exists_stem htrivial.1
      refine ⟨before.reverse.flatMap (· ++ [slash]), s, extension,
        ((segments p).reverse.takeWhile isTrivial).reverse.flatMap (slash :: ·), ?_⟩
      constructor
      · rw [← joinSegments_append_cons, ← hsegments, joinSegments_segments]
      · rcases List.eq_nil_or_concat before.reverse with hbefore | ⟨front, d, hbefore⟩
        · exact .inl (by rw [hbefore, List.flatMap_nil])
        · refine .inr ⟨front.flatMap (· ++ [slash]) ++ d, ?_⟩
          rw [hbefore]
          simp
      · exact segments_no_slash p _ hmem
      · exact htrivial.2
      · exact hdouble
      · exact hs
      · exact hextension
      · refine ⟨_, rfl, fun t ht => ?_⟩
        exact List.all_eq_true.1 List.all_takeWhile t (List.mem_reverse.1 ht)

end PathLetter

end Shakedown
