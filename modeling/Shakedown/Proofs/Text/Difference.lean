import Mathlib.Algebra.GroupWithZero.Nat
import Mathlib.Data.List.Infix
import Shakedown.Text.Difference

/-!
# What differences tell

The changes from one list to another do what they are for: made in the one, they give the other.
They take out and put in as little as any steps that lead from the one to the other, since the steps
they are made of keep as much as two lists can have in common.
-/

set_option autoImplicit false

namespace Shakedown.Difference

variable {α : Type} {xs ys : List α}

/-! ## Steps -/

/-- Steps that lead from one list to another. -/
inductive Leads : List α → List α → List Step → Prop where
  /-- There is nothing to do. -/
  | nil : Leads [] [] []
  /-- The first element stays. -/
  | keep {x : α} {xs ys : List α} {l : List Step} (h : Leads xs ys l) :
    Leads (x :: xs) (x :: ys) (.keep :: l)
  /-- The first element is taken out. -/
  | remove {x : α} {xs ys : List α} {l : List Step} (h : Leads xs ys l) :
    Leads (x :: xs) ys (.remove :: l)
  /-- An element is put in. -/
  | insert {y : α} {xs ys : List α} {l : List Step} (h : Leads xs ys l) :
    Leads xs (y :: ys) (.insert :: l)

/-- Each element of the first list is kept or taken out. -/
theorem Leads.length_left {l : List Step} (h : Leads xs ys l) :
    l.count .keep + l.count .remove = xs.length := by
  induction h <;> simp <;> omega

/-- Each element of the second list was kept or is put in. -/
theorem Leads.length_right {l : List Step} (h : Leads xs ys l) :
    l.count .keep + l.count .insert = ys.length := by
  induction h <;> simp <;> omega

/-! ## Changes -/

/-- The list that changes from a place on make of what is there, given the list from which they take
what they put in. -/
def applied (ys : List α) : Nat → List α → List Change → List α
  | _, xs, [] => xs
  | i, xs, c :: more =>
    xs.take (c.left - i) ++ (ys.drop c.right).take c.rightCount ++
      applied ys (c.left + c.leftCount) (xs.drop (c.left - i + c.leftCount)) more

/-- No change begins before the place from which it is gathered, or before the change that it
continues. -/
theorem left_le_of_mem_gather {i j : Nat} {open? : Option Change} {l : List Step}
    (hopen : (open?.getD ⟨i, 0, j, 0⟩).left ≤ i) {c : Change} (hc : c ∈ gather i j open? l) :
    (open?.getD ⟨i, 0, j, 0⟩).left ≤ c.left := by
  have hfirst (h : c ∈ open?.toList) : (open?.getD ⟨i, 0, j, 0⟩).left ≤ c.left := by
    obtain rfl : open? = some c := by simpa using h
    exact le_refl c.left
  induction l generalizing i j open? with
  | nil => exact hfirst hc
  | cons s l ih =>
    cases s with
    | keep =>
      rcases List.mem_append.1 hc with hc | hc
      · exact hfirst hc
      · have hbehind : i + 1 ≤ c.left := ih (le_refl (i + 1)) hc (by simp)
        omega
    | remove =>
      obtain ⟨change, hchange, hc⟩ : ∃ change : Change,
          change.left = (open?.getD ⟨i, 0, j, 0⟩).left ∧ c ∈ gather (i + 1) j (some change) l := by
        rw [gather] at hc
        refine ⟨_, ?_, hc⟩
        rfl
      rw [← hchange] at hopen ⊢
      exact @ih (i + 1) j (some change) (Nat.le_succ_of_le hopen) hc (by simp +contextual)
    | insert =>
      obtain ⟨change, hchange, hc⟩ : ∃ change : Change,
          change.left = (open?.getD ⟨i, 0, j, 0⟩).left ∧ c ∈ gather i (j + 1) (some change) l := by
        rw [gather] at hc
        refine ⟨_, ?_, hc⟩
        rfl
      rw [← hchange] at hopen ⊢
      exact @ih i (j + 1) (some change) hopen hc (by simp +contextual)

/-- An element in front of all changes stays where it is. -/
theorem applied_cons (ys : List α) (i : Nat) (x : α) (xs : List α) {changes : List Change}
    (h : ∀ c ∈ changes, i + 1 ≤ c.left) :
    applied ys i (x :: xs) changes = x :: applied ys (i + 1) xs changes := by
  cases changes with
  | nil => rfl
  | cons c more =>
    have hc := h c List.mem_cons_self
    obtain ⟨k, hk⟩ := Nat.exists_eq_add_of_le hc
    have hi : c.left - i = k + 1 := by omega
    have hi' : c.left - (i + 1) = k := by omega
    rw [applied, applied, hi, hi', List.take_succ_cons, Nat.add_right_comm, List.drop_succ_cons]
    rfl

/-- What is gathered from steps does what they do, with what is taken out and put in by a change
that is still open. -/
theorem applied_gather {whole : List α} {l : List Step} (h : Leads xs ys l) {i j : Nat}
    (hj : whole.drop j = ys) :
    applied whole i xs (gather i j none l) = ys ∧
      ∀ (c : Change) (taken : List α), c.left + c.leftCount = i → c.right + c.rightCount = j →
        taken.length = c.leftCount →
        applied whole c.left (taken ++ xs) (gather i j (some c) l) = whole.drop c.right := by
  -- What a change puts in and what follows it is all that stands behind its place.
  have hput (c : Change) (i j : Nat) (more : List α) (l : List Change)
      (hi : c.left + c.leftCount = i) (hj : c.right + c.rightCount = j)
      (hmore : applied whole i more l = whole.drop j) (taken : List α)
      (htaken : taken.length = c.leftCount) :
      applied whole c.left (taken ++ more) (c :: l) = whole.drop c.right := by
    rw [applied, Nat.sub_self, Nat.zero_add, List.take_zero, List.nil_append, ← htaken,
      List.drop_left, htaken, hi, hmore, ← hj, ← List.drop_drop, List.take_append_drop]
  induction h generalizing i j with
  | nil =>
    refine ⟨rfl, fun c taken hi hj' htaken => ?_⟩
    exact hput c i j [] [] hi hj' hj.symm taken htaken
  | @keep x xs ys l h ih =>
    have hnext : whole.drop (j + 1) = ys := by rw [← List.tail_drop, hj, List.tail_cons]
    have hfirst : applied whole i (x :: xs) (gather (i + 1) (j + 1) none l) = x :: ys := by
      rw [applied_cons whole i x xs (fun c => left_le_of_mem_gather (le_refl (i + 1))),
        (ih hnext).1]
    refine ⟨hfirst, fun c taken hi hj' htaken => ?_⟩
    exact hput c i j (x :: xs) _ hi hj' (hfirst.trans hj.symm) taken htaken
  | @remove x xs ys l h ih =>
    refine ⟨?_, fun c taken hi hj' htaken => ?_⟩
    · exact ((ih hj).2 { left := i, leftCount := 1, right := j, rightCount := 0 } [x] rfl rfl
        rfl).trans hj
    · have hmore := (ih (i := i + 1) hj).2 { c with leftCount := c.leftCount + 1 } (taken ++ [x])
        (by simp only; omega) hj' (by simp [htaken])
      rwa [List.append_assoc] at hmore
  | @insert y xs ys l h ih =>
    have hnext : whole.drop (j + 1) = ys := by rw [← List.tail_drop, hj, List.tail_cons]
    refine ⟨?_, fun c taken hi hj' htaken => ?_⟩
    · exact ((ih hnext).2 { left := i, leftCount := 0, right := j, rightCount := 1 } [] rfl rfl
        rfl).trans hj
    · exact (ih hnext).2 { c with rightCount := c.rightCount + 1 } taken hi
        (by simp only; omega) htaken

/-- Nothing is gathered from steps that keep everything. -/
theorem gather_eq_nil (i j : Nat) {l : List Step} (h : ∀ s ∈ l, s = .keep) :
    gather i j none l = [] := by
  induction l generalizing i j with
  | nil => rfl
  | cons s l ih =>
    obtain ⟨rfl, hl⟩ := List.forall_mem_cons.1 h
    exact ih (i + 1) (j + 1) hl

/-- All that steps take out and put in is taken out and put in by the changes. -/
theorem sum_gather (i j : Nat) (open? : Option Change) (l : List Step) :
    ((gather i j open? l).map Change.leftCount).sum =
        l.count .remove + open?.elim 0 Change.leftCount ∧
      ((gather i j open? l).map Change.rightCount).sum =
        l.count .insert + open?.elim 0 Change.rightCount := by
  induction l generalizing i j open? with
  | nil => cases open? <;> simp [gather]
  | cons s l ih =>
    cases s <;> cases open? <;> simp [gather, ih] <;> omega

/-! ## What lists have in common -/

variable [DecidableEq α]

/-- How much two lists have in common. -/
def common : List α → List α → Nat
  | [], _ => 0
  | _ :: _, [] => 0
  | x :: xs, y :: ys =>
    if x = y then common xs ys + 1 else max (common xs (y :: ys)) (common (x :: xs) ys)
termination_by xs ys => xs.length + ys.length

/-- Nothing is in common with an empty list. -/
@[simp]
theorem common_nil_left (ys : List α) : common [] ys = 0 := by
  rw [common]

/-- An empty list has nothing in common. -/
@[simp]
theorem common_nil_right (xs : List α) : common xs [] = 0 := by
  cases xs <;> rw [common]

/-- One more element on either side adds nothing to what is in common, or one element. -/
theorem common_bounds (xs ys : List α) :
    (∀ x, common xs ys ≤ common (x :: xs) ys ∧ common (x :: xs) ys ≤ common xs ys + 1) ∧
      ∀ y, common xs ys ≤ common xs (y :: ys) ∧ common xs (y :: ys) ≤ common xs ys + 1 := by
  -- By induction on the length of both: a longer list at one side is compared with the shorter one
  -- at the other.
  obtain ⟨n, hn⟩ : ∃ n, xs.length + ys.length = n := ⟨_, rfl⟩
  induction n generalizing xs ys with
  | zero =>
    obtain rfl : xs = [] := List.length_eq_zero_iff.1 (by omega)
    obtain rfl : ys = [] := List.length_eq_zero_iff.1 (by omega)
    simp
  | succ n ih =>
    constructor
    · intro x
      cases ys with
      | nil => simp
      | cons y ys =>
        have hshort := ih xs ys (by rw [List.length_cons] at hn; omega)
        have hx := hshort.1 x
        have hy := hshort.2 y
        rw [common]
        split <;> omega
    · intro y
      cases xs with
      | nil => simp
      | cons x xs =>
        have hshort := ih xs ys (by rw [List.length_cons] at hn; omega)
        have hx := hshort.1 x
        have hy := hshort.2 y
        rw [common]
        split <;> omega

/-- No steps keep more than two lists have in common. -/
theorem Leads.count_keep_le {l : List Step} (h : Leads xs ys l) :
    l.count .keep ≤ common xs ys := by
  induction h with
  | nil => simp
  | keep h ih => simpa [common] using ih
  | @remove x xs ys l h ih =>
    have hx := ((common_bounds xs ys).1 x).1
    simp
    omega
  | @insert y xs ys l h ih =>
    have hy := ((common_bounds xs ys).2 y).1
    simp
    omega

/-! ## The table -/

/-- A row of the table is made from the row below. -/
theorem commonRow_tails (x : α) (xs ys : List α) :
    commonRow x ys (ys.tails.map (common xs)) = ys.tails.map (common (x :: xs)) := by
  induction ys with
  | nil => simp [commonRow]
  | cons y ys ih =>
    have hhead (zs : List α) : (ys.tails.map (common zs)).headD 0 = common zs ys := by
      cases ys <;> rfl
    rw [List.tails_cons, List.map_cons, List.map_cons, commonRow, List.tail_cons, ih]
    simp only [hhead, List.headD_cons]
    rw [common]

/-- The table tells what is in common from any two places on. -/
theorem commonLengths_eq (xs ys : List α) :
    commonLengths ys xs = xs.tails.map fun t => ys.tails.map (common t) := by
  induction xs with
  | nil =>
    have hzero : ys.tails.map (common []) = List.replicate (ys.length + 1) 0 := by
      rw [← List.length_tails]
      exact List.map_eq_replicate_iff.2 fun t _ => common_nil_left t
    simp [commonLengths, hzero]
  | cons x xs ih =>
    have hhead : (xs.tails.map fun t => ys.tails.map (common t)).headD [] =
        ys.tails.map (common xs) := by
      cases xs <;> rfl
    rw [commonLengths, ih, hhead, commonRow_tails]
    rfl

/-- The table as it is looked up. -/
def table (xs ys : List α) : Array (Array Nat) :=
  ((commonLengths ys xs).map List.toArray).toArray

/-- What is looked up in the table is what is in common from two places on, even behind the ends. -/
theorem table_getD (xs ys : List α) (i j : Nat) :
    ((table xs ys)[i]?.bind (·[j]?)).getD 0 = common (xs.drop i) (ys.drop j) := by
  have hrow (i : Nat) : (table xs ys)[i]? =
      xs.tails[i]?.map fun t => (ys.tails.map (common t)).toArray := by
    rw [table, commonLengths_eq, List.map_map, List.getElem?_toArray, List.getElem?_map]
    rfl
  rw [hrow]
  by_cases hi : i < xs.tails.length
  · rw [List.getElem?_eq_getElem hi, List.getElem_tails]
    by_cases hj : j < ys.tails.length
    · simp [List.getElem?_eq_getElem hj]
    · have hnil : ys.drop j = [] := List.drop_eq_nil_of_le (by simp at hj; omega)
      simp [List.getElem?_eq_none (not_lt.1 hj), hnil]
  · have hnil : xs.drop i = [] := List.drop_eq_nil_of_le (by simp at hi; omega)
    simp [List.getElem?_eq_none (not_lt.1 hi), hnil]

/-- The steps from two places on lead from what is there in the one list to what is there in the
other, and keep what is in common. -/
theorem leads_steps (xs ys : List α) (n i j : Nat) (hn : xs.length - i + (ys.length - j) ≤ n) :
    Leads (xs.drop i) (ys.drop j) (steps xs.toArray ys.toArray (table xs ys) n i j) ∧
      (steps xs.toArray ys.toArray (table xs ys) n i j).count .keep =
        common (xs.drop i) (ys.drop j) := by
  induction n generalizing i j with
  | zero =>
    rw [List.drop_eq_nil_of_le (by omega : xs.length ≤ i),
      List.drop_eq_nil_of_le (by omega : ys.length ≤ j)]
    simpa [steps] using Leads.nil
  | succ n ih =>
    have hbehind {zs : List α} {k : Nat} {z : α} (h : zs[k]? = some z) :
        k < zs.length ∧ zs.drop k = z :: zs.drop (k + 1) := by
      obtain ⟨hk, rfl⟩ := List.getElem?_eq_some_iff.1 h
      exact ⟨hk, List.drop_eq_getElem_cons hk⟩
    simp only [steps, table_getD, List.getElem?_toArray]
    cases hx : xs[i]? with
    | none =>
      have hi : xs.length ≤ i := List.getElem?_eq_none_iff.1 hx
      cases hy : ys[j]? with
      | none =>
        rw [List.drop_eq_nil_of_le hi, List.drop_eq_nil_of_le (List.getElem?_eq_none_iff.1 hy)]
        simpa using Leads.nil
      | some y =>
        obtain ⟨hj, hys⟩ := hbehind hy
        obtain ⟨hleads, hcount⟩ := ih i (j + 1) (by omega)
        rw [hys, List.drop_eq_nil_of_le hi] at *
        exact ⟨hleads.insert, by simpa using hcount⟩
    | some x =>
      obtain ⟨hi, hxs⟩ := hbehind hx
      cases hy : ys[j]? with
      | none =>
        have hj : ys.length ≤ j := List.getElem?_eq_none_iff.1 hy
        obtain ⟨hleads, hcount⟩ := ih (i + 1) j (by omega)
        rw [hxs, List.drop_eq_nil_of_le hj] at *
        exact ⟨hleads.remove, by simpa using hcount⟩
      | some y =>
        obtain ⟨hj, hys⟩ := hbehind hy
        obtain ⟨hboth, hbothCount⟩ := ih (i + 1) (j + 1) (by omega)
        obtain ⟨hremove, hremoveCount⟩ := ih (i + 1) j (by omega)
        obtain ⟨hinsert, hinsertCount⟩ := ih i (j + 1) (by omega)
        rw [hxs, hys] at *
        dsimp only
        rw [common]
        by_cases hsame : x = y
        · subst hsame
          rw [if_pos rfl, if_pos rfl]
          exact ⟨hboth.keep, by simpa using hbothCount⟩
        · rw [if_neg hsame, if_neg hsame]
          split
          · exact ⟨hremove.remove, by simp; omega⟩
          · exact ⟨hinsert.insert, by simp; omega⟩

/-- The steps from one list to another. -/
def script (xs ys : List α) : List Step :=
  steps xs.toArray ys.toArray (table xs ys) (xs.length + ys.length) 0 0

/-! ## Main statements -/

/-- Steps from a list to itself keep every element. -/
theorem steps_self (xs : List α) (table : Array (Array Nat)) (n i : Nat) :
    ∀ s ∈ steps xs.toArray xs.toArray table n i i, s = .keep := by
  induction n generalizing i with
  | zero => simp [steps]
  | succ n ih =>
    rw [steps]
    cases xs.toArray[i]? with
    | none => simp
    | some x => simpa using ih (i + 1)

/-- The changes from one list to another, made in the one, give the other. -/
theorem applied_changes (xs ys : List α) : applied ys 0 xs (changes xs ys) = ys := by
  obtain ⟨hleads, -⟩ := leads_steps xs ys (xs.length + ys.length) 0 0 (by omega)
  exact (applied_gather hleads rfl).1

/-- No steps from one list to another take out less, or put in less, than the changes do. -/
theorem sum_changes_le {l : List Step} (h : Leads xs ys l) :
    ((changes xs ys).map Change.leftCount).sum ≤ l.count .remove ∧
      ((changes xs ys).map Change.rightCount).sum ≤ l.count .insert := by
  obtain ⟨hleads, hkept⟩ := leads_steps xs ys (xs.length + ys.length) 0 0 (by omega)
  obtain ⟨hleft, hright⟩ := sum_gather 0 0 none (script xs ys)
  have hmost := h.count_keep_le
  have hremoved := hleads.length_left.trans h.length_left.symm
  have hinserted := hleads.length_right.trans h.length_right.symm
  rw [List.drop_zero, List.drop_zero] at hkept
  change (List.map Change.leftCount (changes xs ys)).sum = _ at hleft
  change (List.map Change.rightCount (changes xs ys)).sum = _ at hright
  rw [hleft, hright, script]
  simp only [Option.elim_none]
  omega

/-- There are no changes exactly if the lists are the same. -/
theorem changes_eq_nil_iff : changes xs ys = [] ↔ xs = ys := by
  constructor
  · intro h
    have happlied := applied_changes xs ys
    rwa [h] at happlied
  · rintro rfl
    exact gather_eq_nil 0 0 (steps_self xs _ _ _)

end Shakedown.Difference
