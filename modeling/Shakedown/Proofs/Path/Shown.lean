import Shakedown.Proofs.Path.FileName
import Shakedown.Proofs.Text.Boundary

/-!
# The path that is shown

A path is shown by the lossy reading of its bytes, and what is shown is a text, hence a path of its
own. No slash is lost in it and none is added, so it has the segments of the path, each shown by
itself (`segments_shown`). A path that is text is shown as it is.

A path that is taken from another one has the segments of both (`segments_join`), and so has what is
shown of it.
-/

set_option autoImplicit false

namespace Shakedown

open PathLetter (segments joinSegments segments_ne_nil segments_no_slash segments_name
  segments_append_slash joinSegments_segments joinSegments_cons_cons slash)

/-- The bytes of what is shown for some bytes. -/
def shownBytes (bytes : Bytes) : Bytes :=
  Utf8.encode (Utf8.decodeLossy bytes)

/-- What is shown for bytes is cut into segments where the bytes are. -/
theorem segments_decodeLossy (bytes : Bytes) :
    segments (Utf8.decodeLossy bytes) = (segments bytes).map Utf8.decodeLossy := by
  have hjoined : ∀ segs : List Bytes, segs ≠ [] → (∀ s ∈ segs, slash ∉ s) →
      segments (Utf8.decodeLossy (joinSegments segs)) = segs.map Utf8.decodeLossy := by
    intro segs
    induction segs with
    | nil => intro hne; exact absurd rfl hne
    | cons s segs ih =>
      intro _ hsegs
      have hs : '/' ∉ Utf8.decodeLossy s := fun hm =>
        hsegs s List.mem_cons_self (Utf8.slash_mem_of_mem_decodeLossy hm)
      cases segs with
      | nil =>
        have hone : joinSegments [s] = s := by
          simp [joinSegments, List.intercalate]
        rw [hone]
        exact segments_name hs
      | cons t segs =>
        have hmore := ih (List.cons_ne_nil t segs) fun u hu => hsegs u (List.mem_cons_of_mem s hu)
        have hread : Utf8.decodeLossy (s ++ slash :: joinSegments (t :: segs)) =
            Utf8.decodeLossy s ++ slash :: Utf8.decodeLossy (joinSegments (t :: segs)) :=
          Utf8.decodeLossy_ascii s (b := 0x2F) (by decide) _
        rw [joinSegments_cons_cons, hread, segments_append_slash, segments_name hs, hmore]
        rfl
  have h := hjoined (segments bytes) (segments_ne_nil bytes) (segments_no_slash bytes)
  rwa [joinSegments_segments] at h

/-- The bytes of what is shown are cut into segments where the bytes are. -/
theorem segments_shownBytes (bytes : Bytes) :
    segments (shownBytes bytes) = (segments bytes).map shownBytes := by
  unfold shownBytes
  rw [Path.segments_encode, segments_decodeLossy, List.map_map]
  rfl

namespace Path

/-- The path that is named by what is shown for a path. -/
def shown (p : Path) : Path :=
  .ofString p.display

/-- The path that is named by what is shown has the bytes of what is shown. -/
theorem bytes_shown (p : Path) : p.shown.bytes = shownBytes p.bytes := by
  unfold shown ofString display shownBytes
  rw [String.toList_ofList]

/-- The segments of what is shown for a path are what is shown for its segments. -/
theorem segments_shown (p : Path) : segments p.shown.bytes = (segments p.bytes).map shownBytes := by
  rw [bytes_shown, segments_shownBytes]

/-- The path of a text is shown as that text. -/
theorem display_ofString (s : String) : (ofString s).display = s := by
  unfold display ofString
  rw [Utf8.decodeLossy_encode, String.ofList_toList]

/-- The path of a text is the one that is named by what is shown for it. -/
theorem shown_ofString (s : String) : (ofString s).shown = ofString s := by
  unfold shown
  rw [display_ofString]

/-- A path is shown as it is exactly if it is text. -/
theorem shown_eq_self_iff {p : Path} : p.shown = p ↔ p.text?.isSome = true := by
  rw [← exists_writable_iff]
  constructor
  · intro h
    exact ⟨p.display, writable_eq_ok.2 h.symm⟩
  · rintro ⟨s, hs⟩
    rw [writable_eq_ok.1 hs]
    exact shown_ofString s

/-- What is shown for a path from the root is a path from the root. -/
theorem isAbsolute_shown {p : Path} (h : p.isAbsolute = true) : p.shown.isAbsolute = true := by
  obtain ⟨rest, hrest⟩ : ∃ rest, p.bytes = slash :: rest := by
    unfold isAbsolute PathLetter.isAbsolute at h
    cases hp : p.bytes with
    | nil => simp [hp] at h
    | cons b rest => exact ⟨rest, by simpa [hp] using h⟩
  have hread : Utf8.decodeLossy (slash :: rest) = '/' :: Utf8.decodeLossy rest :=
    Utf8.decodeLossy_ascii [] (b := 0x2F) (by decide) rest
  unfold isAbsolute
  rw [bytes_shown, hrest]
  unfold shownBytes
  rw [isAbsolute_encode, hread]
  simp [PathLetter.isAbsolute, slash]

end Path

/-! ## Paths behind each other -/

/-- A path taken from a base has its own segments behind those of the base, but for an empty one at
the end of the base. -/
theorem PathLetter.segments_join {α : Type} [DecidableEq α] [PathLetter α] (base : List α)
    {p : List α} (hp : isAbsolute p = false) :
    ∃ front, segments (join base p) = front ++ segments p ∧
      (segments base = front ∨ segments base = front ++ [[]]) := by
  have hrelative : ¬isAbsolute p = true := by simp [hp]
  unfold join
  rw [if_neg hrelative]
  by_cases hbase : base = [] ∨ base.getLast? = some slash
  · rw [if_pos hbase]
    rcases hbase with rfl | hlast
    · exact ⟨[], rfl, .inr rfl⟩
    · obtain ⟨d, rfl⟩ := List.getLast?_eq_some_iff.1 hlast
      refine ⟨segments d, ?_, .inr ?_⟩
      · rw [List.append_assoc]
        exact segments_append_slash d p
      · exact segments_append_slash d []
  · rw [if_neg hbase]
    exact ⟨segments base, segments_append_slash base p, .inl rfl⟩

/-- A path taken from a base that starts at the root starts at the root. -/
theorem PathLetter.isAbsolute_join {α : Type} [DecidableEq α] [PathLetter α] {base : List α}
    (hbase : isAbsolute base = true) (p : List α) : isAbsolute (join base p) = true := by
  unfold join
  split
  · assumption
  · cases base with
    | nil => simp [isAbsolute] at hbase
    | cons b rest => split <;> simpa [isAbsolute] using hbase

end Shakedown
