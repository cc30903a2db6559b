import Mathlib.Data.List.Nodup
import Shakedown.Build.Word
import Shakedown.Proofs.Text.Part

/-!
# What functions of makefiles do with words

A pattern and its stem make a word, and the stem is found again in it. Lists of words are told apart
as they were put together, sorting leaves each word once and in order, and a replacement changes the
occurrences of a text and nothing between them.
-/

set_option autoImplicit false

namespace Shakedown.Build

variable {pattern word stem : Chars}

/-! ## Patterns -/

/-- A pattern has a front and a back around its percent sign. -/
theorem exists_pattern (h : isPattern pattern) :
    ∃ front back, pattern = front ++ '%' :: back ∧ pattern.takeWhile (· ≠ '%') = front ∧
      pattern.drop (front.length + 1) = back := by
  have hmem : '%' ∈ pattern := by simpa [isPattern] using h
  obtain ⟨front, back, rfl, hfront⟩ := List.eq_append_cons_of_mem hmem
  have hplain : ∀ c ∈ front, decide (c ≠ '%') := by
    intro c hc
    simpa using fun h : c = '%' => hfront (h ▸ hc)
  refine ⟨front, back, rfl, ?_, ?_⟩
  · rw [List.takeWhile_append_of_pos hplain]
    simp
  · rw [← List.drop_drop, List.drop_left]
    rfl

/-- A stem is what makes the word of a pattern. -/
theorem stem?_eq_some_iff (h : isPattern pattern) :
    stem? pattern word = some stem ↔ word = withStem stem pattern := by
  obtain ⟨front, back, -, hfront, hback⟩ := exists_pattern h
  simp only [stem?, withStem, h, hfront, hback, Bool.not_true, Bool.false_eq_true, if_false,
    if_true]
  constructor
  · intro hword
    split at hword
    · rename_i hfits
      simp only [Bool.and_eq_true, decide_eq_true_eq, List.isPrefixOf_iff_prefix,
        List.isSuffixOf_iff_suffix] at hfits
      obtain ⟨⟨hlength, rest, rfl⟩, hsuffix⟩ := hfits
      rw [List.length_append] at hlength hword
      obtain ⟨middle, rfl⟩ : back <:+ rest :=
        List.suffix_of_suffix_length_le hsuffix (List.suffix_append front rest) (by omega)
      have hmiddle : front.length + (middle ++ back).length - front.length - back.length =
          middle.length := by
        rw [List.length_append]
        omega
      rw [List.drop_left, hmiddle, List.take_left] at hword
      rw [← Option.some.inj hword, List.append_assoc]
    · cases hword
  · rintro rfl
    have hfits : (front.length + back.length ≤ (front ++ stem ++ back).length &&
        front.isPrefixOf (front ++ stem ++ back) && back.isSuffixOf (front ++ stem ++ back)) := by
      simp only [Bool.and_eq_true, decide_eq_true_eq, List.isPrefixOf_iff_prefix,
        List.isSuffixOf_iff_suffix]
      refine ⟨⟨?_, ⟨stem ++ back, by simp⟩⟩, List.suffix_append _ back⟩
      simp only [List.length_append]
      omega
    have hstem : (front ++ stem ++ back).length - front.length - back.length = stem.length := by
      simp only [List.length_append]
      omega
    rw [if_pos hfits, hstem, List.append_assoc, List.drop_left, List.take_left]

/-- A word that is no pattern stands for itself. -/
theorem stem?_eq_some_iff_of_not (h : isPattern pattern = false) :
    stem? pattern word = some stem ↔ pattern = word ∧ stem = [] := by
  rw [stem?, h]
  by_cases hword : pattern = word
  · simp [hword, eq_comm]
  · simp [hword]

/-- A word that is as a pattern says is rewritten with its stem. -/
theorem rewritten_withStem (replacement : Chars) (h : isPattern pattern) :
    rewritten pattern replacement (withStem stem pattern) = withStem stem replacement := by
  have hstem := (stem?_eq_some_iff h).2 (rfl : withStem stem pattern = withStem stem pattern)
  simp [rewritten, hstem, h]

/-! ## Lists of words -/

/-- Words that are written with blanks between them are read again. -/
theorem wordsOf_spaced {words : List Chars}
    (h : ∀ word ∈ words, word ≠ [] ∧ ∀ c ∈ word, ¬Chars.isSpace c) :
    wordsOf (Chars.spaced words) = words :=
  Chars.fields_joined rfl h

/-- Words that are kept are those that were kept before, and others, each once. -/
theorem foldl_withoutRepeats (l kept : List Chars) (hkept : kept.Nodup) :
    (l.foldl (fun kept word => if kept.contains word then kept else word :: kept) kept).Nodup ∧
      ∀ word, word ∈ l.foldl
        (fun kept word => if kept.contains word then kept else word :: kept) kept ↔
          word ∈ kept ∨ word ∈ l := by
  induction l generalizing kept with
  | nil => exact ⟨hkept, by simp⟩
  | cons first more ih =>
    rw [List.foldl_cons]
    by_cases hfirst : first ∈ kept
    · rw [if_pos (List.contains_iff_mem.2 hfirst)]
      refine ⟨(ih kept hkept).1, fun word => ?_⟩
      rw [(ih kept hkept).2, List.mem_cons]
      constructor
      · exact Or.imp_right .inr
      · rintro (h | rfl | h)
        · exact .inl h
        · exact .inl hfirst
        · exact .inr h
    · have hnodup : (first :: kept).Nodup := List.nodup_cons.2 ⟨hfirst, hkept⟩
      rw [if_neg (by simpa using hfirst)]
      refine ⟨(ih _ hnodup).1, fun word => ?_⟩
      rw [(ih _ hnodup).2, List.mem_cons, List.mem_cons]
      tauto

/-- Without repeats, the same words are there, each once. -/
theorem withoutRepeats_spec (l : List Chars) :
    (withoutRepeats l).Nodup ∧ ∀ word, word ∈ withoutRepeats l ↔ word ∈ l := by
  obtain ⟨hnodup, hmem⟩ := foldl_withoutRepeats l [] List.nodup_nil
  refine ⟨List.nodup_reverse.2 hnodup, fun word => ?_⟩
  rw [withoutRepeats, List.mem_reverse, hmem]
  simp

/-! ## Replacements -/

/-- A replacement changes the occurrences of a text, and leaves what stands between them and has
none. -/
theorem exists_replaced {old : Chars} (hold : old ≠ []) (new : Chars) {n : Nat} {s : Chars}
    (hn : s.length < n) :
    ∃ between, between ≠ [] ∧ s = Chars.joined old between ∧
      replaced old new n s = Chars.joined new between ∧ ∀ part ∈ between, ¬old <:+: part := by
  have hpos : 0 < old.length := List.length_pos_of_ne_nil hold
  induction n generalizing s with
  | zero => omega
  | succ n ih =>
    cases s with
    | nil =>
      refine ⟨[[]], by simp, rfl, rfl, fun part hpart => ?_⟩
      rw [List.mem_singleton.1 hpart, List.infix_nil]
      exact hold
    | cons c more =>
      rw [List.length_cons] at hn
      rw [replaced]
      by_cases hfront : old <+: c :: more
      · obtain ⟨rest, hrest⟩ := hfront
        have hlength := congrArg List.length hrest
        rw [List.length_append, List.length_cons] at hlength
        obtain ⟨between, hne, hs, hreplaced, hnone⟩ := @ih rest (by omega)
        rw [if_pos (by simp [hold, ← hrest]), ← hrest, List.drop_left]
        refine ⟨[] :: between, by simp, ?_, ?_, ?_⟩
        · rw [Chars.joined_cons old [] hne, ← hs, List.nil_append]
        · rw [Chars.joined_cons new [] hne, hreplaced, List.nil_append]
        · exact List.forall_mem_cons.2 ⟨by simpa using hold, hnone⟩
      · obtain ⟨between, hne, hs, hreplaced, hnone⟩ := @ih more (by omega)
        obtain ⟨first, others, rfl⟩ := List.exists_cons_of_ne_nil hne
        have hcons (separator : Chars) : Chars.joined separator ((c :: first) :: others) =
            c :: Chars.joined separator (first :: others) :=
          Chars.joined_append_cons separator [c] first others
        obtain ⟨hfirst, hothers⟩ := List.forall_mem_cons.1 hnone
        rw [if_neg (by simpa [hold] using hfront), hreplaced]
        refine ⟨(c :: first) :: others, by simp, by rw [hcons, ← hs], (hcons new).symm, ?_⟩
        refine List.forall_mem_cons.2 ⟨fun hinfix => ?_, hothers⟩
        rcases List.infix_cons_iff.1 hinfix with hbegins | hinfix
        · have hword : c :: first <+: c :: more := by
            rw [hs, ← hcons]
            exact Chars.prefix_joined old (c :: first) others
          exact hfront (hbegins.trans hword)
        · exact hfirst hinfix

/-- A text is found in another one exactly if it stands in it. -/
theorem occurs_iff {part s : Chars} : occurs part s ↔ part <:+: s := by
  induction s with
  | nil => simp [occurs]
  | cons c more ih =>
    rw [occurs, Bool.or_eq_true, List.isPrefixOf_iff_prefix, ih, List.infix_cons_iff]

end Shakedown.Build
