import Mathlib.Data.List.SplitBy
import Shakedown.Proofs.Text.Part
import Shakedown.Utility.Concatenate
import Shakedown.Utility.Count
import Shakedown.Utility.Sort

/-!
# What utilities do with the lines of a text

`head` and `tail` cut a text in two, and the lines of what they write are the first and the last
ones. `tac` and `rev` turn lines around and are undone by doing it again, `uniq` and `sort -u` work
on the runs of equal lines, and `wc` counts the lines that are ended.
-/

set_option autoImplicit false

namespace Shakedown.Utility

/-! ## Beginnings and ends -/

section Excerpt

variable (bytes : Bool) (m n : Nat) (ending : Char) (text : Chars)

/-- So much of the beginning and all that is behind so much make the text. -/
theorem front_append_back :
    Excerpt.front ⟨bytes, n, false⟩ ending text ++ Excerpt.back ⟨bytes, n + 1, true⟩ ending text =
      text := by
  cases bytes with
  | true => exact List.take_append_drop n text
  | false =>
    simp only [Excerpt.front, Excerpt.back, Bool.false_eq_true, if_false, if_true,
      Nat.add_sub_cancel]
    rw [← List.flatten_append, List.take_append_drop, Chars.flatten_pieces]

/-- All but so much of the end and so much of the end make the text. -/
theorem front_append_back_of_fromOther :
    Excerpt.front ⟨bytes, n, true⟩ ending text ++ Excerpt.back ⟨bytes, n, false⟩ ending text =
      text := by
  cases bytes with
  | true => exact List.take_append_drop (text.length - n) text
  | false =>
    simp only [Excerpt.front, Excerpt.back, Bool.false_eq_true, if_false, if_true]
    rw [← List.flatten_append, List.take_append_drop, Chars.flatten_pieces]

/-- The lines at the beginning of a text are its first ones. -/
theorem pieces_front :
    Chars.pieces ending (Excerpt.front ⟨false, n, false⟩ ending text) =
      (Chars.pieces ending text).take n :=
  Chars.pieces_flatten_take ending text n

/-- The lines at the end of a text are its last ones. -/
theorem pieces_back :
    Chars.pieces ending (Excerpt.back ⟨false, n, false⟩ ending text) =
      (Chars.pieces ending text).drop ((Chars.pieces ending text).length - n) :=
  Chars.pieces_flatten_drop ending text _

/-- The beginning of a beginning is the shorter one of both. -/
theorem front_front :
    Excerpt.front ⟨bytes, m, false⟩ ending (Excerpt.front ⟨bytes, n, false⟩ ending text) =
      Excerpt.front ⟨bytes, min m n, false⟩ ending text := by
  cases bytes with
  | true => exact List.take_take
  | false =>
    rw [Excerpt.front, if_neg (by simp)]
    simp only [pieces_front, Bool.false_eq_true, if_false]
    rw [List.take_take]
    rfl

/-- The end of an end is the shorter one of both. -/
theorem back_back :
    Excerpt.back ⟨bytes, m, false⟩ ending (Excerpt.back ⟨bytes, n, false⟩ ending text) =
      Excerpt.back ⟨bytes, min m n, false⟩ ending text := by
  have hplace (l : Nat) : l - n + (l - (l - n) - m) = l - min m n := by omega
  cases bytes with
  | true =>
    change (text.drop (text.length - n)).drop ((text.drop (text.length - n)).length - m) =
      text.drop (text.length - min m n)
    rw [List.drop_drop, List.length_drop, hplace]
  | false =>
    rw [Excerpt.back, if_neg (by simp)]
    simp only [pieces_back, Bool.false_eq_true, if_false]
    rw [List.drop_drop, List.length_drop, hplace]
    rfl

end Excerpt

/-! ## Lines turned around -/

/-- A text that is cut at a separator is made of the pieces, whatever is already in hand. -/
theorem flatten_separated {separator : Chars} (hne : separator ≠ []) (before : Bool) (n : Nat)
    (current s : Chars) (hn : s.length < n) :
    (separated separator before n current s).flatten = current.reverse ++ s := by
  have hpos : 0 < separator.length := List.length_pos_of_ne_nil hne
  induction n generalizing current s with
  | zero => omega
  | succ n ih =>
    cases s with
    | nil => simp [separated]
    | cons c more =>
      rw [List.length_cons] at hn
      rw [separated]
      split
      · rename_i hfront
        obtain ⟨rest, hrest⟩ := List.isPrefixOf_iff_prefix.1 hfront
        have hlength := congrArg List.length hrest
        rw [List.length_append, List.length_cons] at hlength
        rw [← hrest, List.drop_left]
        cases before with
        | true => simp [ih separator.reverse rest (by omega)]
        | false => simp [ih [] rest (by omega)]
      · rw [ih (c :: current) more (by omega)]
        simp

/-- A text without a newline is one piece, with what is in hand. -/
theorem separated_of_not_mem {line : Chars} (hline : '\n' ∉ line) (n : Nat)
    (current rest : Chars) (hn : line.length ≤ n) :
    separated Chars.newline false n current (line ++ rest) =
      separated Chars.newline false (n - line.length) (line.reverse ++ current) rest := by
  induction line generalizing n current with
  | nil => rfl
  | cons c more ih =>
    obtain ⟨hc, hmore⟩ := not_or.1 (List.mem_cons.not.1 hline)
    obtain ⟨k, rfl⟩ : ∃ k, n = k + 1 := ⟨n - 1, by simp at hn; omega⟩
    have hfront : Chars.newline.isPrefixOf (c :: (more ++ rest)) = false := by
      simpa [Chars.newline, List.isPrefixOf] using hc
    rw [List.cons_append, separated, hfront, ih hmore k (c :: current) (by simpa using hn)]
    simp

/-- Lines that are written are taken apart into lines, and nothing is left. -/
theorem separated_ofLines {lines : List Chars} (h : ∀ line ∈ lines, '\n' ∉ line) (n : Nat)
    (hn : (Chars.ofLines lines).length < n) :
    separated Chars.newline false n [] (Chars.ofLines lines) =
      lines.map (· ++ Chars.newline) ++ [[]] := by
  induction lines generalizing n with
  | nil => cases n <;> rfl
  | cons line more ih =>
    have htext : Chars.ofLines (line :: more) = line ++ '\n' :: Chars.ofLines more := by
      simp [Chars.ofLines, Chars.newline]
    rw [htext, List.length_append, List.length_cons] at hn
    obtain ⟨k, hk⟩ : ∃ k, n - line.length = k + 1 := ⟨n - line.length - 1, by omega⟩
    have hrest : (Chars.ofLines more).length < k := by omega
    have hmore := ih (fun l hl => h l (List.mem_cons_of_mem line hl)) k hrest
    rw [htext, separated_of_not_mem (h line List.mem_cons_self) n [] _ (by omega), hk, separated]
    simp only [Chars.newline] at hmore
    simp [Chars.newline, List.isPrefixOf, hmore]

/-- `tac` writes the lines of a text in reverse order. -/
theorem separated_reverse_ofLines {lines : List Chars} (h : ∀ line ∈ lines, '\n' ∉ line) :
    (separated Chars.newline false ((Chars.ofLines lines).length + 1) []
        (Chars.ofLines lines)).reverse.flatten = Chars.ofLines lines.reverse := by
  rw [separated_ofLines h _ (Nat.lt_succ_self _)]
  simp [Chars.ofLines, List.flatMap_def, List.map_reverse]

/-- Lines that are turned backwards twice are the text. -/
theorem joined_map_reverse_twice (text : Chars) :
    Chars.joined Chars.newline ((Chars.splitAt '\n'
      (Chars.joined Chars.newline ((Chars.splitAt '\n' text).map List.reverse))).map
        List.reverse) = text := by
  have hne : (Chars.splitAt '\n' text).map List.reverse ≠ [] := by
    rw [Chars.splitAt_eq_splitOn]
    simp
  have hnone : ∀ part ∈ (Chars.splitAt '\n' text).map List.reverse, '\n' ∉ part := by
    intro part hpart
    obtain ⟨line, hline, rfl⟩ := List.mem_map.1 hpart
    rw [List.mem_reverse]
    exact Chars.not_mem_of_mem_splitAt hline
  rw [Chars.newline, Chars.splitAt_joined hne hnone, List.map_map,
    List.reverse_involutive.comp_self, List.map_id, Chars.joined_splitAt]

/-! ## Repeated lines -/

/-- Runs of equal lines are formed as those of any list. -/
theorem groupsOfEqual_eq_splitBy (same : Chars → Chars → Bool) (lines : List Chars) :
    groupsOfEqual same lines = lines.splitBy same := by
  induction lines with
  | nil => rfl
  | cons line more ih =>
    obtain ⟨hmore, hne, hchain, hends⟩ := List.splitBy_eq_iff.1 ih.symm
    symm
    cases hgroups : groupsOfEqual same more with
    | nil =>
      obtain rfl : more = [] := by rw [hmore, hgroups, List.flatten_nil]
      rfl
    | cons group rest =>
      rw [hgroups] at hmore hne hchain hends
      obtain ⟨next, behind, rfl⟩ : ∃ next behind, group = next :: behind :=
        List.exists_cons_of_ne_nil fun hnil => hne (by simp [hnil])
      obtain ⟨hfirst, hothers⟩ := List.forall_mem_cons.1 hchain
      by_cases hsame : same line next
      · have hstep : groupsOfEqual same (line :: more) = (line :: next :: behind) :: rest := by
          simp [groupsOfEqual, hgroups, hsame]
        rw [hstep, List.splitBy_eq_iff]
        refine ⟨by simp [hmore], by simpa using hne, ?_, ?_⟩
        · exact List.forall_mem_cons.2 ⟨hfirst.cons_cons hsame, hothers⟩
        · rw [List.isChain_cons] at hends ⊢
          simpa using hends
      · have hstep : groupsOfEqual same (line :: more) = [line] :: (next :: behind) :: rest := by
          simp [groupsOfEqual, hgroups, hsame]
        rw [hstep, List.splitBy_eq_iff]
        refine ⟨by simp [hmore], by simpa using hne, ?_, ?_⟩
        · exact List.forall_mem_cons.2 ⟨List.isChain_singleton line, hchain⟩
        · exact hends.cons_cons ⟨by simp, by simp, by simpa using hsame⟩

/-- Without repeats, the first line of each run is left. -/
theorem withoutRepeats_eq_map (same : Chars → Chars → Bool) (lines : List Chars) :
    withoutRepeats same lines = (groupsOfEqual same lines).map (·.headD []) := by
  induction lines with
  | nil => rfl
  | cons line more ih =>
    rw [withoutRepeats, groupsOfEqual, ih]
    cases groupsOfEqual same more with
    | nil => rfl
    | cons group rest =>
      simp only [List.map_cons]
      split <;> rfl

/-! ## Counted lines -/

/-- As many lines are counted as there are records, without the last one if it is not ended. -/
theorem length_records (text : Chars) :
    (Chars.records '\n' text).length =
      (tally text).lines + if text = [] ∨ text.getLast? = some '\n' then 0 else 1 := by
  obtain ⟨front, last, -, hfront, hlast, hs⟩ := Chars.exists_splitAt '\n' text
  have hcount : (tally text).lines = front.length := by
    change text.count '\n' = front.length
    rw [hs, List.count_append, List.count_eq_zero_of_not_mem hlast, Nat.add_zero]
    exact Chars.count_flatMap hfront
  have hended := Chars.ended_iff front hlast
  have hrecords := Chars.records_flatMap_append hfront hlast
  rw [← hs] at hended hrecords
  rw [hrecords, hcount, List.length_append, if_congr hended rfl rfl]
  split <;> rfl

end Shakedown.Utility
