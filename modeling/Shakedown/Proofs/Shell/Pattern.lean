import Mathlib.Data.List.Basic
import Shakedown.Shell.Pattern

/-!
# What patterns mean

A text is as a pattern says if it can be laid out along the parts of the pattern. The comparison
finds this out, so that a word that was quoted stands for itself only, and trimming takes away the
longest or the shortest part there is.
-/

set_option autoImplicit false

namespace Shakedown.Shell.Pattern

variable {p : Pattern} {s t : Chars}

/-- The texts that are as a pattern says. -/
inductive Matches : Pattern → Chars → Prop where
  /-- An empty pattern stands for the empty text. -/
  | nil : Matches [] []
  /-- A character stands for itself. -/
  | char {p : Pattern} {s : Chars} (c : Char) (h : Matches p s) : Matches (.char c :: p) (c :: s)
  /-- A question mark stands for one character. -/
  | anyChar {p : Pattern} {s : Chars} (c : Char) (h : Matches p s) :
    Matches (.anyChar :: p) (c :: s)
  /-- An asterisk stands for a text. -/
  | anyText {p : Pattern} {s : Chars} (t : Chars) (h : Matches p s) :
    Matches (.anyText :: p) (t ++ s)
  /-- A set stands for a member. -/
  | oneOf {p : Pattern} {s : Chars} {set : CharSet} {c : Char} (hc : set.has c) (h : Matches p s) :
    Matches (.oneOf set :: p) (c :: s)

/-- An asterisk stands for whatever is in front of what the rest of the pattern stands for. -/
theorem holds_anyText_iff :
    holds (.anyText :: p) s ↔ ∃ t rest, s = t ++ rest ∧ holds p rest := by
  induction s with
  | nil =>
    rw [holds]
    constructor
    · exact fun h => ⟨[], [], rfl, h⟩
    · rintro ⟨t, rest, hs, h⟩
      obtain ⟨rfl, rfl⟩ := List.append_eq_nil_iff.1 hs.symm
      exact h
  | cons c s ih =>
    rw [holds, Bool.or_eq_true, ih]
    constructor
    · rintro (h | ⟨t, rest, rfl, h⟩)
      · exact ⟨[], c :: s, rfl, h⟩
      · exact ⟨c :: t, rest, rfl, h⟩
    · rintro ⟨t, rest, hs, h⟩
      cases t with
      | nil =>
        rw [List.nil_append] at hs
        exact .inl (hs ▸ h)
      | cons d t =>
        obtain ⟨-, rfl⟩ := List.cons.inj hs
        exact .inr ⟨t, rest, rfl, h⟩

/-- The comparison tells whether a text is as a pattern says. -/
theorem holds_iff : holds p s ↔ Matches p s := by
  constructor
  · intro h
    induction p generalizing s with
    | nil =>
      obtain rfl : s = [] := by simpa [holds] using h
      exact .nil
    | cons part more ih =>
      cases part with
      | anyText =>
        obtain ⟨t, rest, rfl, hrest⟩ := holds_anyText_iff.1 h
        exact .anyText t (ih hrest)
      | char d =>
        cases s with
        | nil => simp [holds] at h
        | cons c s =>
          obtain ⟨rfl, hs⟩ : c = d ∧ holds more s := by simpa [holds] using h
          exact .char c (ih hs)
      | anyChar =>
        cases s with
        | nil => simp [holds] at h
        | cons c s => exact .anyChar c (ih (by simpa [holds] using h))
      | oneOf set =>
        cases s with
        | nil => simp [holds] at h
        | cons c s =>
          obtain ⟨hc, hs⟩ : set.has c ∧ holds more s := by simpa [holds] using h
          exact .oneOf hc (ih hs)
  · intro h
    induction h with
    | nil => simp [holds]
    | char c h ih => simpa [holds] using ih
    | anyChar c h ih => simpa [holds] using ih
    | anyText t h ih => exact holds_anyText_iff.2 ⟨t, _, rfl, ih⟩
    | oneOf hc h ih => simpa [holds, hc] using ih

/-! ## Quoted words -/

/-- Quoted letters are read as the characters they are. -/
theorem ofLetters_quoted (s : Chars) : ofLetters (s.map (·, true)) = s.map .char := by
  have hread (n : Nat) (hn : s.length ≤ n) : read n (s.map (·, true)) = s.map .char := by
    induction s generalizing n with
    | nil => cases n <;> rfl
    | cons c s ih =>
      obtain ⟨k, rfl⟩ : ∃ k, n = k + 1 := ⟨n - 1, by simp at hn; omega⟩
      rw [List.map_cons, read, ih k (by simpa using hn)]
      simp [isPlain]
  rw [ofLetters, List.length_map]
  exact hread s.length (Nat.le_refl _)

/-- A word that is quoted stands for itself only. -/
theorem holds_ofLetters_quoted : holds (ofLetters (s.map (·, true))) t ↔ t = s := by
  rw [ofLetters_quoted, holds_iff]
  induction s generalizing t with
  | nil =>
    constructor
    · rintro ⟨⟩
      rfl
    · rintro rfl
      exact .nil
  | cons c s ih =>
    constructor
    · rintro ⟨⟩
      rename_i t h
      rw [ih.1 h]
    · rintro rfl
      exact .char c (ih.2 rfl)

/-! ## Trimming -/

/-- The places where a text can be cut. -/
theorem mem_cuts_iff {atEnd : Bool} {n : Nat} :
    n ∈ p.cuts atEnd s ↔ n ≤ s.length ∧ Matches p (if atEnd then s.drop n else s.take n) := by
  rw [cuts, List.mem_filter, List.mem_range, Nat.lt_succ_iff, holds_iff]

/-- They are listed in order. -/
theorem pairwise_cuts (p : Pattern) (atEnd : Bool) (s : Chars) :
    (p.cuts atEnd s).Pairwise (· < ·) :=
  List.pairwise_lt_range.filter _

/-- A text stays as it is if it can be cut nowhere, and is cut at the first or the last place. -/
theorem trim_eq (p : Pattern) (atEnd longest : Bool) (s : Chars) :
    p.cuts atEnd s = [] ∧ trim p atEnd longest s = s ∨
      ∃ n ∈ p.cuts atEnd s, (∀ m ∈ p.cuts atEnd s, if longest != atEnd then m ≤ n else n ≤ m) ∧
        trim p atEnd longest s = if atEnd then s.take n else s.drop n := by
  have hpairs := pairwise_cuts p atEnd s
  rw [trim]
  rcases hcuts : p.cuts atEnd s with _ | ⟨first, more⟩
  · left
    cases longest != atEnd <;> exact ⟨rfl, rfl⟩
  rw [hcuts] at hpairs
  right
  cases longest != atEnd with
  | false =>
    refine ⟨first, List.mem_cons_self, fun m hm => ?_, rfl⟩
    rcases List.mem_cons.1 hm with rfl | hm
    · exact Nat.le_refl m
    · exact Nat.le_of_lt (List.rel_of_pairwise_cons hpairs hm)
  | true =>
    obtain ⟨front, last, hlast⟩ := List.eq_nil_or_concat' (first :: more) |>.resolve_left (by simp)
    rw [hlast] at hpairs ⊢
    refine ⟨last, by simp, fun m hm => ?_, by simp⟩
    rcases List.mem_append.1 hm with hm | hm
    · exact Nat.le_of_lt ((List.pairwise_append.1 hpairs).2.2 m hm last (by simp))
    · rw [List.mem_singleton.1 hm]
      exact Nat.le_refl last

/-- A beginning is trimmed if there is one that is as the pattern says, and then the longest or the
shortest one. -/
theorem trim_front (p : Pattern) (longest : Bool) (s : Chars) :
    (∀ t, t <+: s → ¬Matches p t) ∧ trim p false longest s = s ∨
      ∃ t, s = t ++ trim p false longest s ∧ Matches p t ∧
        ∀ u, u <+: s → Matches p u →
          if longest then u.length ≤ t.length else t.length ≤ u.length := by
  have hmem {u : Chars} (hu : u <+: s) (h : Matches p u) : u.length ∈ p.cuts false s :=
    mem_cuts_iff.2 ⟨hu.length_le, by rwa [if_neg (by simp), ← List.prefix_iff_eq_take.1 hu]⟩
  rcases trim_eq p false longest s with ⟨hnone, htrim⟩ | ⟨n, hn, hbest, htrim⟩
  · left
    refine ⟨fun t ht h => ?_, htrim⟩
    have hcut := hmem ht h
    rw [hnone] at hcut
    cases hcut
  · right
    obtain ⟨hle, h⟩ := mem_cuts_iff.1 hn
    refine ⟨s.take n, ?_, h, fun u hu hmatch => ?_⟩
    · rw [htrim]
      exact (List.take_append_drop n s).symm
    · rw [List.length_take_of_le hle]
      simpa using hbest u.length (hmem hu hmatch)

/-- An end is trimmed if there is one that is as the pattern says, and then the longest or the
shortest one. -/
theorem trim_back (p : Pattern) (longest : Bool) (s : Chars) :
    (∀ t, t <:+ s → ¬Matches p t) ∧ trim p true longest s = s ∨
      ∃ t, s = trim p true longest s ++ t ∧ Matches p t ∧
        ∀ u, u <:+ s → Matches p u →
          if longest then u.length ≤ t.length else t.length ≤ u.length := by
  have hmem {u : Chars} (hu : u <:+ s) (h : Matches p u) :
      s.length - u.length ∈ p.cuts true s :=
    mem_cuts_iff.2 ⟨Nat.sub_le .., by rwa [if_pos rfl, ← List.suffix_iff_eq_drop.1 hu]⟩
  rcases trim_eq p true longest s with ⟨hnone, htrim⟩ | ⟨n, hn, hbest, htrim⟩
  · left
    refine ⟨fun t ht h => ?_, htrim⟩
    have hcut := hmem ht h
    rw [hnone] at hcut
    cases hcut
  · right
    obtain ⟨hle, h⟩ := mem_cuts_iff.1 hn
    refine ⟨s.drop n, ?_, h, fun u hu hmatch => ?_⟩
    · rw [htrim]
      exact (List.take_append_drop n s).symm
    · have hshort := hu.length_le
      have hplace := hbest (s.length - u.length) (hmem hu hmatch)
      rw [List.length_drop]
      cases longest <;> simp at hplace ⊢ <;> omega

end Shakedown.Shell.Pattern
