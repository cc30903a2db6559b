import Shakedown.Process.Runner
import Shakedown.Proofs.Text.Boundary

/-!
# What is kept of captured output

Captured output is cut between two bytes and read afterwards. `tailText_resumes` says what a reader
of the rest may rely on, whatever the bytes are: it ends like the whole would, and in front of that
there are at most three replacement characters, for what is left of the character in which the cut
fell.
-/

set_option autoImplicit false

namespace Shakedown

open Utf8 (encode decodeLossy decodeLossy_encode symbols Divides IsInner)

/-- So many bytes are kept as the limit allows, or all of them. -/
theorem length_lastBytes (limit : Nat) (bytes : Bytes) :
    (lastBytes limit bytes).length = min bytes.length limit := by
  unfold lastBytes
  rw [List.length_drop]
  omega

/-- Without its first bytes, what is kept is what a lower limit keeps. -/
theorem drop_lastBytes {limit k : Nat} {bytes : Bytes} (hk : k ≤ min bytes.length limit) :
    (lastBytes limit bytes).drop k = lastBytes (min bytes.length limit - k) bytes := by
  unfold lastBytes
  rw [List.drop_drop]
  congr 1
  omega

/-- What is left out and what is kept are the whole. -/
theorem take_append_lastBytes (limit : Nat) (bytes : Bytes) :
    bytes.take (bytes.length - limit) ++ lastBytes limit bytes = bytes :=
  List.take_append_drop _ _

/-- Of a text, what is kept behind the bytes of a character that is cut is the longest text which
ends it and is within the limit. -/
theorem exists_longest_text {limit k : Nat} {cs : List Char}
    (hinner : ∀ b ∈ (lastBytes limit (encode cs)).take k, IsInner b)
    (hsuffix : symbols ((lastBytes limit (encode cs)).drop k) <:+ symbols (encode cs)) :
    ∃ left right, cs = left ++ right ∧ (lastBytes limit (encode cs)).drop k = encode right ∧
      (encode right).length ≤ limit ∧
      ∀ left' right', cs = left' ++ right' → (encode right').length ≤ limit →
        right' <:+ right := by
  obtain ⟨left, right, htext, hright⟩ := Utf8.exists_text_of_suffix hsuffix
  have hlast := length_lastBytes limit (encode cs)
  have hkept : lastBytes limit (encode cs) =
      (lastBytes limit (encode cs)).take k ++ encode right := by
    rw [← hright, List.take_append_drop]
  have hbound : (encode right).length ≤ limit := by
    have hlength := congrArg List.length hkept
    rw [hlast, List.length_append] at hlength
    omega
  refine ⟨left, right, htext, hright, hbound, ?_⟩
  intro left' right' htext' hlength'
  have hwhole : encode (left ++ right) = (encode cs).take ((encode cs).length - limit) ++
      ((lastBytes limit (encode cs)).take k ++ encode right) := by
    rw [← hkept, take_append_lastBytes, htext]
  have hall : (encode right').length ≤ (encode cs).length := by
    rw [htext']
    unfold encode
    rw [List.flatMap_append, List.length_append]
    omega
  refine Utf8.suffix_of_length_le hwhole hinner (htext ▸ htext') ?_
  rw [← hkept, hlast]
  omega

/-- The text of the last bytes is that of at most three fewer, behind a replacement character for
each of those, and the text of all bytes ends in it. No byte is lost exactly if the bytes may be cut
at the limit. Of a valid text every character within the limit is kept. -/
theorem tailText_resumes (limit : Nat) (bytes : Bytes) :
    ∃ k, k ≤ 3 ∧ k ≤ min bytes.length limit ∧
      (tailText limit bytes).toList = List.replicate k '\uFFFD' ++
        decodeLossy (lastBytes (min bytes.length limit - k) bytes) ∧
      decodeLossy (lastBytes (min bytes.length limit - k) bytes) <:+ decodeLossy bytes ∧
      (bytes.length ≤ limit → k = 0) ∧
      (k = 0 ↔ Divides (bytes.take (bytes.length - limit)) (lastBytes limit bytes)) ∧
      ∀ cs, bytes = encode cs → ∃ left right, cs = left ++ right ∧
        decodeLossy (lastBytes (min bytes.length limit - k) bytes) = right ∧
        (encode right).length ≤ limit ∧
        ∀ left' right', cs = left' ++ right' → (encode right').length ≤ limit →
          right' <:+ right := by
  obtain ⟨k, hthree, hlength, hinner, hback, hsuffix, hdivides⟩ :=
    Utf8.exists_resume_cut (bytes.take (bytes.length - limit)) (lastBytes limit bytes)
  rw [length_lastBytes] at hlength
  rw [take_append_lastBytes] at hsuffix
  have hrest := drop_lastBytes hlength
  refine ⟨k, hthree, hlength, ?_, ?_, ?_, hdivides, ?_⟩
  · unfold tailText decodeLossy
    rw [hback, hrest, String.toList_ofList, List.map_append, List.map_replicate]
    rfl
  · rw [← hrest]
    exact hsuffix.map _
  · intro hshort
    apply hdivides.2
    have hnothing : bytes.length - limit = 0 := by omega
    unfold Divides lastBytes
    rw [hnothing]
    rfl
  · rintro cs rfl
    obtain ⟨left, right, htext, hright, hbound, hlongest⟩ := exists_longest_text hinner hsuffix
    rw [← hrest, hright, decodeLossy_encode]
    exact ⟨left, right, htext, rfl, hbound, hlongest⟩

/-- A cut within a character of four bytes leaves three of them. -/
example : tailText 5 (Utf8.bytes "a😀é") = "\uFFFD\uFFFD\uFFFDé" := by decide

end Shakedown
