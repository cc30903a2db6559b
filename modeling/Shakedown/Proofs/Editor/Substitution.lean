import Shakedown.Editor.Run
import Shakedown.Proofs.Regex.Language

/-!
# What a substitution changes

A substitution takes some of the matches in a line, which do not overlap, and puts their
replacements in their places. What stands between them stays as it is, whatever the replacement says.
-/

set_option autoImplicit false

namespace Shakedown.Editor.Edit

variable {text : Chars} {i : Nat} {found : List Match}

/-! ## Cutting a text at matches -/

/-- A text from one offset to another, and from there on, is the text from the first offset on. -/
theorem take_append_drop_of_le {j : Nat} (h : i ≤ j) :
    (text.drop i).take (j - i) ++ text.drop j = text.drop i := by
  conv_rhs => rw [← List.take_append_drop (j - i) (text.drop i), List.drop_drop,
    Nat.add_sub_cancel' h]

/-- The part of a text that a match stands for. -/
def matched (text : Chars) (f : Match) : Chars :=
  (text.drop f.start).take (f.stop.offset - f.start)

/-- Parts of a text, each behind the gap in front of it, and what is left at the end. -/
def woven (gaps parts : List Chars) (rest : Chars) : Chars :=
  (List.zipWith (· ++ ·) gaps parts).flatten ++ rest

/-- Matches that are laid out cut a text into what they stand for and the gaps between that. The
gaps stay what they are, and each match is replaced by what the parts say of it. -/
theorem replaceMatches_laidOut (h : Regex.LaidOut text i found) :
    ∃ gaps rest, gaps.length = found.length ∧
      text.drop i = woven gaps (found.map (matched text)) rest ∧
      ∀ parts, replaceMatches text parts i (text.drop i) found =
        woven gaps (found.map (replacement text · (.keep, .keep) parts)) rest := by
  induction found generalizing i with
  | nil => exact ⟨[], text.drop i, rfl, rfl, fun _ => rfl⟩
  | cons f more ih =>
    obtain ⟨hstart, hstop, hat, hmore⟩ := h
    obtain ⟨gaps, rest, hlength, htext, hnew⟩ := ih hmore
    refine ⟨(text.drop i).take (f.start - i) :: gaps, rest, congrArg (· + 1) hlength, ?_,
      fun parts => ?_⟩
    · calc text.drop i = (text.drop i).take (f.start - i) ++ text.drop f.start :=
            (take_append_drop_of_le hstart).symm
        _ = (text.drop i).take (f.start - i) ++ (matched text f ++ text.drop f.stop.offset) := by
            rw [matched, take_append_drop_of_le hstop]
        _ = _ := by rw [htext]; simp [woven]
    · rw [replaceMatches, hat.rest, hnew parts]
      simp [woven]

/-- Matches that are replaced by themselves leave the text as it is. -/
theorem replaceMatches_self (h : Regex.LaidOut text 0 found) :
    replaceMatches text [.group 0] 0 text found = text := by
  obtain ⟨gaps, rest, -, htext, hnew⟩ := replaceMatches_laidOut h
  have hself (f : Match) : replacement text f (.keep, .keep) [.group 0] = matched text f := by
    have hgroup : (f.group? text 0).getD [] = matched text f := rfl
    simp only [replacement, hgroup, List.append_nil]
    cases matched text f <;> simp [recased, changed]
  have h := hnew [.group 0]
  simp only [List.drop_zero, hself] at htext h
  exact h.trans htext.symm

/-! ## The matches that are replaced -/

variable {s : Substitution}

/-- What is chosen is some of the matches. -/
theorem chosenMatches_sublist (s : Substitution) (found : List Match) :
    (chosenMatches s found).Sublist found := by
  unfold chosenMatches
  dsimp only
  split
  · exact List.drop_sublist _ _
  · exact (List.take_sublist _ _).trans (List.drop_sublist _ _)

/-- Where only the first match is replaced, the others need not be looked for. -/
theorem chosenMatches_find {r : Regex} {style : MatchStyle} (h : ¬(s.all ∨ 1 < s.number)) :
    chosenMatches s (r.find style text).toList = chosenMatches s (r.allMatches style text) := by
  obtain ⟨hall, hnumber⟩ := not_or.1 h
  have hfirst : s.number - 1 = 0 := by omega
  rw [← Regex.head?_allMatches]
  cases r.allMatches style text <;> simp [chosenMatches, hall, hfirst]

/-- A substitution with its own expression that writes nothing puts the replacements into the
pattern space and notes whether there were any. Nothing else changes but the expression that was used
last. -/
theorem substitute_run {r : Regex} {groups : Nat} (hown : s.expression.own? = some (r, groups))
    (hprints : s.prints = false) (hfile : s.file = none) (e : Editing) {chosen : List Match}
    (hchosen : chosenMatches s (r.allMatches s.expression.style e.pattern.text) = chosen) :
    (substitute s).run e = pure ((), { e with
      pattern := { e.pattern with
        text := replaceMatches e.pattern.text s.parts 0 e.pattern.text chosen }
      replaced := e.replaced || !chosen.isEmpty
      recent := some (r, s.expression.style) }) := by
  have hfound : chosenMatches s (if s.all ∨ 1 < s.number then
        r.allMatches s.expression.style e.pattern.text
      else (r.find s.expression.style e.pattern.text).toList) = chosen := by
    split
    · exact hchosen
    · exact (chosenMatches_find ‹_›).trans hchosen
  simp only [substitute, meant, hown, hprints, hfile]
  cases chosen with
  | nil => simp [hfound, replaceMatches]
  | cons f more => simp [hfound]

/-- A substitution cuts the line into gaps and the matches it chooses. It keeps the gaps and puts
the replacements in the places of the matches. -/
theorem substitute_spec {r : Regex} {groups : Nat} (hown : s.expression.own? = some (r, groups))
    (hclassic : r.IsClassic) (hprints : s.prints = false) (hfile : s.file = none) (e : Editing)
    {chosen : List Match}
    (hchosen : chosenMatches s (r.allMatches s.expression.style e.pattern.text) = chosen) :
    ∃ gaps rest, gaps.length = chosen.length ∧
      e.pattern.text = woven gaps (chosen.map (matched e.pattern.text)) rest ∧
      (substitute s).run e = pure ((), { e with
        pattern := { e.pattern with
          text := woven gaps
            (chosen.map (replacement e.pattern.text · (.keep, .keep) s.parts)) rest }
        replaced := e.replaced || !chosen.isEmpty
        recent := some (r, s.expression.style) }) := by
  have hall := (Regex.sweep_allMatches hclassic e.pattern.text (m := s.expression.style)).laidOut
  have hlaidOut := hall.sublist (chosenMatches_sublist s _)
  rw [hchosen] at hlaidOut
  obtain ⟨gaps, rest, hlength, htext, hnew⟩ := replaceMatches_laidOut hlaidOut
  refine ⟨gaps, rest, hlength, htext, ?_⟩
  rw [substitute_run hown hprints hfile e hchosen, ← hnew s.parts, List.drop_zero]

end Shakedown.Editor.Edit
