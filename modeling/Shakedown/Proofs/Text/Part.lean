import Mathlib.Data.List.SplitBy
import Mathlib.Data.List.TakeWhile
import Shakedown.Utility.Input

/-!
# Texts cut into parts

A text is cut at a character into parts without that character, and the parts with the character
between them are the text again. So a text is known by the parts that are ended in it and the one
that is not (`exists_splitAt`), and whatever a program does with the lines of a text, it can be told
of such parts: `pieces` keep their ends, `records` lose them, and a text that has none at its end
gets one when its records are written again. Fields are what stands between runs of gaps.
-/

set_option autoImplicit false

namespace Shakedown.Chars

variable {ending : Char} {s last : Chars} {parts front : List Chars}

/-- Texts are joined one after the other. -/
theorem joined_cons (separator first : Chars) {more : List Chars} (hmore : more ≠ []) :
    joined separator (first :: more) = first ++ (separator ++ joined separator more) := by
  rw [joined, List.intercalate_cons_of_ne_nil hmore, List.append_assoc]
  rfl

/-- What is put in front of the first text stands in front of all. -/
theorem joined_append_cons (separator front first : Chars) (others : List Chars) :
    joined separator ((front ++ first) :: others) =
      front ++ joined separator (first :: others) := by
  cases others with
  | nil => simp [joined]
  | cons next others =>
    have hne := List.cons_ne_nil next others
    rw [joined_cons _ _ hne, joined_cons _ _ hne, List.append_assoc]

/-- Joined texts begin with the first one. -/
theorem prefix_joined (separator first : Chars) (others : List Chars) :
    first <+: joined separator (first :: others) := by
  have hfront := joined_append_cons separator first [] others
  rw [List.append_nil] at hfront
  rw [hfront]
  exact List.prefix_append first _

/-- Texts are cut at a character as lists are. -/
theorem splitAt_eq_splitOn (separator : Char) (s : Chars) :
    splitAt separator s = s.splitOn separator := by
  induction s with
  | nil => rw [splitAt, List.splitOn_nil]
  | cons c more ih =>
    rw [splitAt, ih, List.splitOn_cons_eq_if_modifyHead]
    by_cases hc : c = separator
    · simp [hc]
    · cases hparts : more.splitOn separator with
      | nil => exact absurd hparts (List.splitOn_ne_nil separator more)
      | cons part others => simp [hc]

/-- The parts of a text, with the character between them at which it was cut, are the text. -/
theorem joined_splitAt (separator : Char) (s : Chars) :
    joined [separator] (splitAt separator s) = s := by
  rw [splitAt_eq_splitOn]
  exact List.intercalate_splitOn separator

/-- Parts without a character are cut apart again at that character. -/
theorem splitAt_joined {separator : Char} (hne : parts ≠ [])
    (h : ∀ part ∈ parts, separator ∉ part) :
    splitAt separator (joined [separator] parts) = parts := by
  rw [splitAt_eq_splitOn]
  exact List.splitOn_intercalate separator h hne

/-- No part of a text has the character at which the text was cut. -/
theorem not_mem_of_mem_splitAt {separator : Char} {part : Chars}
    (h : part ∈ splitAt separator s) : separator ∉ part := by
  induction s generalizing part with
  | nil =>
    obtain rfl : part = [] := by simpa [splitAt] using h
    simp
  | cons c more ih =>
    rw [splitAt] at h
    by_cases hc : c = separator
    · rw [if_pos hc] at h
      rcases List.mem_cons.1 h with rfl | h
      · simp
      · exact ih h
    · rw [if_neg hc] at h
      cases hparts : splitAt separator more with
      | nil =>
        obtain rfl : part = [c] := by simpa [hparts] using h
        simpa using Ne.symm hc
      | cons first others =>
        rw [hparts] at h ih
        rcases List.mem_cons.1 h with rfl | h
        · have hfirst : separator ∉ first := ih List.mem_cons_self
          simpa using ⟨Ne.symm hc, hfirst⟩
        · exact ih (List.mem_cons_of_mem first h)

/-- Parts are joined by ending all of them but the last. -/
theorem joined_concat (separator : Char) (front : List Chars) (last : Chars) :
    joined [separator] (front ++ [last]) = front.flatMap (· ++ [separator]) ++ last := by
  induction front with
  | nil => simp [joined]
  | cons part more ih =>
    rw [List.cons_append, joined_cons _ _ (by simp), ih]
    simp

/-- A text is made of parts that are ended in it, and one that is not. -/
theorem exists_splitAt (ending : Char) (s : Chars) :
    ∃ front last, splitAt ending s = front ++ [last] ∧ (∀ part ∈ front, ending ∉ part) ∧
      ending ∉ last ∧ s = front.flatMap (· ++ [ending]) ++ last := by
  have hne : splitAt ending s ≠ [] := by
    rw [splitAt_eq_splitOn]
    exact List.splitOn_ne_nil ending s
  obtain ⟨front, last, hparts⟩ := List.eq_nil_or_concat' (splitAt ending s) |>.resolve_left hne
  have hnone : ∀ part ∈ front ++ [last], ending ∉ part := by
    rw [← hparts]
    exact fun part => not_mem_of_mem_splitAt
  refine ⟨front, last, hparts, fun part hpart => hnone part (List.mem_append_left _ hpart),
    hnone last (by simp), ?_⟩
  rw [← joined_concat, ← hparts, joined_splitAt]

/-- A text that is made of ended parts and one that is not is cut into these. -/
theorem splitAt_flatMap_append (hfront : ∀ part ∈ front, ending ∉ part) (hlast : ending ∉ last) :
    splitAt ending (front.flatMap (· ++ [ending]) ++ last) = front ++ [last] := by
  rw [← joined_concat]
  apply splitAt_joined (by simp)
  intro part hpart
  rcases List.mem_append.1 hpart with hpart | hpart
  · exact hfront part hpart
  · obtain rfl : part = last := by simpa using hpart
    exact hlast

/-! ## Pieces -/

/-- The pieces of a text are its ended parts with their ends, and the last part if there is one. -/
theorem pieces_flatMap_append (hfront : ∀ part ∈ front, ending ∉ part) (hlast : ending ∉ last) :
    pieces ending (front.flatMap (· ++ [ending]) ++ last) =
      front.map (· ++ [ending]) ++ if last = [] then [] else [last] := by
  rw [pieces, splitAt_flatMap_append hfront hlast]
  cases last <;> simp

/-- The pieces of a text are the text. -/
theorem flatten_pieces (ending : Char) (s : Chars) : (pieces ending s).flatten = s := by
  obtain ⟨front, last, -, hfront, hlast, hs⟩ := exists_splitAt ending s
  rw [hs, pieces_flatMap_append hfront hlast]
  cases last <;> simp [List.flatMap]

/-- The first pieces of a text are the pieces of what they make. -/
theorem pieces_flatten_take (ending : Char) (s : Chars) (n : Nat) :
    pieces ending ((pieces ending s).take n).flatten = (pieces ending s).take n := by
  obtain ⟨front, last, -, hfront, hlast, hs⟩ := exists_splitAt ending s
  have hpieces := pieces_flatMap_append hfront hlast
  rw [← hs] at hpieces
  have hsome : ∀ part ∈ front.take n, ending ∉ part := fun part hpart =>
    hfront part (List.mem_of_mem_take hpart)
  by_cases hn : n ≤ front.length
  · have htake : (pieces ending s).take n = (front.take n).map (· ++ [ending]) := by
      rw [hpieces, List.take_append_of_le_length (by simpa using hn), List.map_take]
    have hparts := pieces_flatMap_append hsome (List.not_mem_nil (a := ending))
    rw [htake, ← List.flatMap_def]
    simpa using hparts
  · have htake : (pieces ending s).take n = pieces ending s := by
      apply List.take_of_length_le
      rw [hpieces]
      split <;> simp <;> omega
    rw [htake, flatten_pieces]

/-- The last pieces of a text are the pieces of what they make. -/
theorem pieces_flatten_drop (ending : Char) (s : Chars) (n : Nat) :
    pieces ending ((pieces ending s).drop n).flatten = (pieces ending s).drop n := by
  obtain ⟨front, last, -, hfront, hlast, hs⟩ := exists_splitAt ending s
  have hpieces := pieces_flatMap_append hfront hlast
  rw [← hs] at hpieces
  have hsome : ∀ part ∈ front.drop n, ending ∉ part := fun part hpart =>
    hfront part (List.mem_of_mem_drop hpart)
  by_cases hn : n ≤ front.length
  · have hdrop : (pieces ending s).drop n =
        (front.drop n).map (· ++ [ending]) ++ if last = [] then [] else [last] := by
      rw [hpieces, List.drop_append_of_le_length (by simpa using hn), List.map_drop]
    have hparts := pieces_flatMap_append hsome hlast
    rw [hdrop, List.flatten_append, ← List.flatMap_def]
    cases last <;> simpa using hparts
  · have hdrop : (pieces ending s).drop n = [] := by
      apply List.drop_of_length_le
      rw [hpieces]
      split <;> simp <;> omega
    rw [hdrop]
    rfl

/-! ## Records -/

/-- The records of a text are its ended parts, and the last part if there is one. -/
theorem records_flatMap_append (hfront : ∀ part ∈ front, ending ∉ part) (hlast : ending ∉ last) :
    records ending (front.flatMap (· ++ [ending]) ++ last) =
      front ++ if last = [] then [] else [last] := by
  by_cases hempty : last = []
  · subst hempty
    rcases List.eq_nil_or_concat' front with rfl | ⟨before, part, rfl⟩
    · rfl
    · have hbefore : ∀ p ∈ before, ending ∉ p := fun p hp => hfront p (List.mem_append_left _ hp)
      have hpart : ending ∉ part := hfront part (by simp)
      have htext : (before ++ [part]).flatMap (· ++ [ending]) ++ [] =
          (before.flatMap (· ++ [ending]) ++ part) ++ [ending] := by
        simp
      have hended : ((before.flatMap (· ++ [ending]) ++ part) ++ [ending]).getLast? = some ending :=
        List.getLast?_concat ..
      rw [htext, records, if_neg (by simp), if_pos hended, List.dropLast_concat,
        splitAt_flatMap_append hbefore hpart]
      simp
  · have hunended : (front.flatMap (· ++ [ending]) ++ last).getLast? ≠ some ending := by
      rw [List.getLast?_append_of_ne_nil _ hempty]
      exact fun h => hlast (List.mem_of_getLast? h)
    rw [records, if_neg (by simpa using fun _ => hempty), if_neg hunended,
      splitAt_flatMap_append hfront hlast, if_neg hempty]

/-- The first record of a text ends where its end is first met. -/
theorem records_append_cons {part : Chars} (hpart : ending ∉ part) (rest : Chars) :
    records ending (part ++ ending :: rest) = part :: records ending rest := by
  obtain ⟨front, last, -, hfront, hlast, hrest⟩ := exists_splitAt ending rest
  have htext : part ++ ending :: rest = (part :: front).flatMap (· ++ [ending]) ++ last := by
    rw [hrest]
    simp
  have hparts : ∀ p ∈ part :: front, ending ∉ p := List.forall_mem_cons.2 ⟨hpart, hfront⟩
  rw [htext, records_flatMap_append hparts hlast, hrest, records_flatMap_append hfront hlast,
    List.cons_append]

/-- Records that are written, each with its end, are read as they were. -/
theorem records_flatMap (h : ∀ part ∈ parts, ending ∉ part) :
    records ending (parts.flatMap (· ++ [ending])) = parts := by
  have hrecords := records_flatMap_append h (List.not_mem_nil (a := ending))
  simpa using hrecords

/-- A text is ended, or there is none, if no part is left without its end. -/
theorem ended_iff (front : List Chars) (hlast : ending ∉ last) :
    (front.flatMap (· ++ [ending]) ++ last = [] ∨
      (front.flatMap (· ++ [ending]) ++ last).getLast? = some ending) ↔ last = [] := by
  constructor
  · rintro (h | h)
    · exact (List.append_eq_nil_iff.1 h).2
    · by_contra hne
      rw [List.getLast?_append_of_ne_nil _ hne] at h
      exact hlast (List.mem_of_getLast? h)
  · rintro rfl
    rcases List.eq_nil_or_concat' front with rfl | ⟨before, part, rfl⟩
    · exact .inl rfl
    · exact .inr (by simp)

/-- The character that ends parts is in a text as often as there are ended parts. -/
theorem count_flatMap (hfront : ∀ part ∈ front, ending ∉ part) :
    (front.flatMap (· ++ [ending])).count ending = front.length := by
  induction front with
  | nil => rfl
  | cons part more ih =>
    obtain ⟨hpart, hmore⟩ := List.forall_mem_cons.1 hfront
    rw [List.flatMap_cons, List.count_append, List.count_append, ih hmore,
      List.count_eq_zero_of_not_mem hpart, List.count_singleton_self, List.length_cons]
    omega

/-- A text whose records are written again, each with its end, has gained an end if it had none. -/
theorem flatMap_records (ending : Char) (s : Chars) :
    (records ending s).flatMap (· ++ [ending]) =
      if s = [] ∨ s.getLast? = some ending then s else s ++ [ending] := by
  obtain ⟨front, last, -, hfront, hlast, hs⟩ := exists_splitAt ending s
  rw [hs, records_flatMap_append hfront hlast, if_congr (ended_iff front hlast) rfl rfl]
  split <;> simp_all

/-- No record has the character that ends records. -/
theorem not_mem_of_mem_records {record : Chars} (h : record ∈ records ending s) :
    ending ∉ record := by
  obtain ⟨front, last, -, hfront, hlast, hs⟩ := exists_splitAt ending s
  rw [hs, records_flatMap_append hfront hlast] at h
  rcases List.mem_append.1 h with h | h
  · exact hfront record h
  · split at h
    · cases h
    · obtain rfl : record = last := by simpa using h
      exact hlast

/-- The lines of a text are its records that are ended by a newline. -/
theorem lines_eq_records (s : Chars) : lines s = records '\n' s := by
  cases s <;> rfl

/-- Lines that are written are read as they were. -/
theorem lines_ofLines {l : List Chars} (h : ∀ line ∈ l, '\n' ∉ line) : lines (ofLines l) = l := by
  rw [lines_eq_records]
  exact records_flatMap h

/-! ## Fields -/

section Fields

variable {isGap : Char → Bool}

/-- No field is empty or has a gap in it. -/
theorem not_gap_of_mem_fields {field : Chars} (h : field ∈ fields isGap s) :
    field ≠ [] ∧ ∀ c ∈ field, ¬isGap c := by
  obtain ⟨hpart, hgap⟩ := List.mem_filter.1 h
  exact ⟨List.ne_nil_of_mem_splitBy hpart, by simpa using hgap⟩

/-- What has no gap, or nothing but gaps, is one run. -/
theorem splitBy_of_forall {b : Bool} (hne : s ≠ []) (h : ∀ c ∈ s, isGap c = b) :
    s.splitBy (fun x y => decide (isGap x = isGap y)) = [s] := by
  apply List.splitBy_of_isChain hne
  apply List.Pairwise.isChain
  exact List.pairwise_of_forall_mem_list fun x hx y hy => by simp [h x hx, h y hy]

/-- A text without gaps is one field. -/
theorem fields_of_forall_not (hne : s ≠ []) (h : ∀ c ∈ s, ¬isGap c) : fields isGap s = [s] := by
  have hrun := splitBy_of_forall hne fun c hc => Bool.eq_false_iff.2 (h c hc)
  have hany : s.any isGap = false := by simpa using h
  rw [fields, hrun, List.filter_singleton, hany]
  rfl

/-- A field in front of a gap is cut off. -/
theorem fields_append_gap {field rest : Chars} {gap : Char} (hne : field ≠ [])
    (hfield : ∀ c ∈ field, ¬isGap c) (hgap : isGap gap) :
    fields isGap (field ++ gap :: rest) = field :: fields isGap (gap :: rest) := by
  have hrun : field.splitBy (fun x y => decide (isGap x = isGap y)) = [field] :=
    splitBy_of_forall hne fun c hc => Bool.eq_false_iff.2 (hfield c hc)
  have hedge : ∀ c ∈ field.getLast?, decide (isGap c = isGap gap) = false := by
    intro c hc
    have hlast := hfield c (List.mem_of_mem_getLast? hc)
    simp [hgap, hlast]
  have hany : field.any isGap = false := by simpa using hfield
  rw [fields, List.splitBy_append_cons _ hedge, hrun, List.filter_append, List.filter_singleton,
    hany]
  rfl

/-- Gaps in front of a field are passed over. -/
theorem fields_gaps_append {gaps rest : Chars} (hgaps : ∀ c ∈ gaps, isGap c)
    (hrest : ∀ c ∈ rest.head?, ¬isGap c) : fields isGap (gaps ++ rest) = fields isGap rest := by
  rcases eq_or_ne gaps [] with rfl | hne
  · rfl
  have hrun : gaps.splitBy (fun x y => decide (isGap x = isGap y)) = [gaps] :=
    splitBy_of_forall hne fun c hc => hgaps c hc
  have hedge : ∀ x ∈ gaps.getLast?, ∀ y ∈ rest.head?, decide (isGap x = isGap y) = false := by
    intro x hx y hy
    simp [hgaps x (List.mem_of_mem_getLast? hx), hrest y hy]
  have hany : gaps.any isGap :=
    List.any_eq_true.2 ⟨gaps.head hne, List.head_mem hne, hgaps _ (List.head_mem hne)⟩
  rw [fields, List.splitBy_append hedge, hrun, List.filter_append, List.filter_singleton, hany]
  rfl

/-- A gap in front of a text adds no field. -/
theorem fields_gap_cons {gap : Char} (hgap : isGap gap) (s : Chars) :
    fields isGap (gap :: s) = fields isGap s := by
  have hgaps : ∀ c ∈ s.takeWhile isGap, isGap c := fun c hc => List.mem_takeWhile_imp hc
  have hrest : ∀ c ∈ (s.dropWhile isGap).head?, ¬isGap c := by
    intro c hc
    have hhead := List.head?_dropWhile_not isGap s
    simp_all
  rw [← List.takeWhile_append_dropWhile (p := isGap) (l := s), fields_gaps_append hgaps hrest,
    ← List.cons_append]
  exact fields_gaps_append (by simpa [hgap] using hgaps) hrest

/-- Fields with a gap between each two are told apart again. -/
theorem fields_joined {gap : Char} (hgap : isGap gap) {l : List Chars}
    (h : ∀ field ∈ l, field ≠ [] ∧ ∀ c ∈ field, ¬isGap c) :
    fields isGap (joined [gap] l) = l := by
  induction l with
  | nil => rfl
  | cons field more ih =>
    obtain ⟨⟨hne, hfield⟩, hmore⟩ := List.forall_mem_cons.1 h
    cases more with
    | nil =>
      rw [joined, List.intercalate_singleton]
      exact fields_of_forall_not hne hfield
    | cons next others =>
      have htext : joined [gap] (field :: next :: others) =
          field ++ gap :: joined [gap] (next :: others) :=
        joined_cons [gap] field (List.cons_ne_nil next others)
      rw [htext, fields_append_gap hne hfield hgap, fields_gap_cons hgap, ih hmore]

end Fields

end Shakedown.Chars
