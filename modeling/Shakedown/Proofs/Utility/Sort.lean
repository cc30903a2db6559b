import Mathlib.Algebra.Order.Field.Rat
import Mathlib.Algebra.Order.Ring.Cast
import Mathlib.Data.Char
import Mathlib.Data.List.TakeWhile
import Mathlib.Order.Compare
import Mathlib.Tactic.FieldSimp
import Mathlib.Tactic.Positivity
import Shakedown.Utility.Sort

/-!
# What sorting does

Every rule by which keys are compared orders them by a value, so that all of them, and the orders of
lines that are built of them, are total and transitive. Sorted lines are therefore in order whatever
the options are, equal ones as they stood in the input, and what `sort` has written is what it
accepts when it checks.
-/

set_option autoImplicit false

namespace Shakedown.Utility

open scoped List
open Std (TransCmp OrientedCmp)

/-! ## The order of keys -/

/-- What is compared by a value is ordered as the values are. -/
theorem transCmp_on {α β : Type} (f : α → β) (cmp : β → β → Ordering) [TransCmp cmp] :
    TransCmp fun a b => cmp (f a) (f b) where
  eq_swap := OrientedCmp.eq_swap
  isLE_trans := TransCmp.isLE_trans

/-- Texts are compared as lists. -/
theorem textOrder_eq_compare (s t : Chars) : textOrder s t = compare s t := by
  induction s generalizing t with
  | nil => cases t <;> rfl
  | cons c s ih =>
    cases t with
    | nil => rfl
    | cons d t =>
      rw [List.compare_cons_cons, ← ih, textOrder, textOrder, Chars.before]
      rcases lt_trichotomy c d with h | rfl | h
      · simp [compare_lt_iff_lt.2 h, h.ne, h]
      · simp
      · simp [compare_gt_iff_gt.2 h, h.ne', h.le]

/-- Texts are ordered character by character. -/
instance transCmp_textOrder : TransCmp textOrder := by
  have hfun : textOrder = compare := funext fun s => funext (textOrder_eq_compare s)
  rw [hfun]
  infer_instance

/-- Integers are compared as the numbers of which they are the same multiple. -/
theorem compare_eq_of_eq_mul {x y : Int} {r s m : ℚ} (hm : 0 < m) (hx : (x : ℚ) = r * m)
    (hy : (y : ℚ) = s * m) : compare x y = compare r s := by
  rw [← cmp_eq_compare, ← cmp_eq_compare, ← Int.cast_strictMono.cmp_map_eq (β := ℚ)]
  rw [hx, hy, cmp_mul_pos_right hm]

/-- The decimal fraction at the beginning of a text. -/
def leadingValue (s : Chars) : ℚ :=
  let (negative, whole, part, _) := leadingFraction s
  (Numeral.signed negative (Numeral.numberOf 10 (whole ++ part)) : ℚ) / 10 ^ part.length

/-- A signed number that is scaled is the scaled signed number. -/
theorem signed_mul_tenTo (negative : Bool) (n k : Nat) :
    ((Numeral.signed negative (n * tenTo k) : Int) : ℚ) = Numeral.signed negative n * 10 ^ k := by
  cases negative <;> simp [Numeral.signed, tenTo]

/-- Texts are compared as numbers by the fractions at their beginnings. -/
theorem numberOrder_eq_compare (s t : Chars) :
    numberOrder s t = compare (leadingValue s) (leadingValue t) := by
  rcases hs : leadingFraction s with ⟨m, w, p, _⟩
  rcases ht : leadingFraction t with ⟨n, v, q, _⟩
  simp only [numberOrder, leadingValue, hs, ht]
  have hscaled (negative : Bool) (number places : Nat) (h : places ≤ max p.length q.length) :
      ((Numeral.signed negative (number * tenTo (max p.length q.length - places)) : Int) : ℚ) =
        Numeral.signed negative number / 10 ^ places * 10 ^ max p.length q.length := by
    obtain ⟨k, hk⟩ := Nat.exists_eq_add_of_le h
    rw [signed_mul_tenTo, hk, Nat.add_sub_cancel_left, pow_add]
    field_simp
  exact compare_eq_of_eq_mul (by positivity) (hscaled _ _ _ (le_max_left ..))
    (hscaled _ _ _ (le_max_right ..))

/-- Lines are ordered by the numbers in front of them. -/
instance transCmp_numberOrder : TransCmp numberOrder := by
  have hfun : numberOrder = fun s t => compare (leadingValue s) (leadingValue t) :=
    funext fun s => funext (numberOrder_eq_compare s)
  rw [hfun]
  exact transCmp_on leadingValue compare

/-- Lines are ordered by the numbers with units in front of them. -/
instance transCmp_unitOrder : TransCmp unitOrder := by
  have hrank := transCmp_on unitRank compare
  exact inferInstanceAs
    (TransCmp (compareLex (fun s t => compare (unitRank s) (unitRank t)) numberOrder))

/-- No number in any notation has a denominator of zero. -/
theorem readingFraction_pos {s : Chars} {n : Int} {d : Nat} (h : readingFraction s = some (n, d)) :
    0 < d := by
  rw [readingFraction] at h
  split at h
  · obtain ⟨-, rfl⟩ := Prod.mk.inj (Option.some.inj h)
    split
    · split <;> exact Nat.pow_pos (by decide)
    · exact Nat.one_pos
  · obtain ⟨-, rfl⟩ := Prod.mk.inj (Option.some.inj h)
    exact Nat.one_pos
  · obtain ⟨-, rfl⟩ := Prod.mk.inj (Option.some.inj h)
    exact Nat.one_pos
  · cases h

/-- The number at the beginning of a text in any notation. -/
def readingValue (s : Chars) : Option ℚ :=
  (readingFraction s).map fun (n, d) => n / d

/-- Texts are compared as numbers in any notation by these numbers. -/
theorem generalOrder_eq_compare (s t : Chars) :
    generalOrder s t = compare (readingValue s) (readingValue t) := by
  rw [generalOrder, readingValue, readingValue]
  rcases hs : readingFraction s with _ | ⟨n, d⟩ <;> rcases ht : readingFraction t with _ | ⟨m, e⟩
  · rfl
  · rfl
  · rfl
  · have hd : (0 : ℚ) < d := Nat.cast_pos.2 (readingFraction_pos hs)
    have he : (0 : ℚ) < e := Nat.cast_pos.2 (readingFraction_pos ht)
    refine compare_eq_of_eq_mul (mul_pos hd he) ?_ ?_
    · push_cast
      field_simp
    · push_cast
      field_simp

/-- Lines are ordered by the floating-point numbers in front of them. -/
instance transCmp_generalOrder : TransCmp generalOrder := by
  have hfun : generalOrder = fun s t => compare (readingValue s) (readingValue t) :=
    funext fun s => funext (generalOrder_eq_compare s)
  rw [hfun]
  exact transCmp_on readingValue compare

/-! ## The order of versions -/

/-- The rest of a version is shorter than the version, unless that is empty. -/
theorem length_behindNumber (s : Chars) : (behindNumber s).length ≤ s.length - 1 := by
  cases s with
  | nil => rfl
  | cons c more =>
    have hdigits := List.length_dropWhile_le Char.isDigit (more.dropWhile fun c => !c.isDigit)
    have htext := List.length_dropWhile_le (fun c => !c.isDigit) more
    have hmore := List.length_dropWhile_le Char.isDigit more
    rw [behindNumber, List.length_cons]
    by_cases hc : c.isDigit
    · simp only [List.dropWhile_cons, hc, Bool.not_true, Bool.false_eq_true, if_false, if_true]
      omega
    · simp only [List.dropWhile_cons, hc, Bool.not_false, if_true]
      omega

/-- Versions are compared by the text in front of their first numbers, by these numbers, and then by
what is behind them. -/
theorem versionOrderWithin_succ (n : Nat) (s t : Chars) :
    versionOrderWithin (n + 1) s t =
      (compare (frontRanks s) (frontRanks t)).then ((compare (frontNumber s) (frontNumber t)).then
        (versionOrderWithin n (behindNumber s) (behindNumber t))) := by
  rw [versionOrderWithin]
  split
  · rename_i hempty
    obtain ⟨hs, ht⟩ := Bool.and_eq_true_iff.1 hempty
    obtain rfl := List.isEmpty_iff.1 hs
    obtain rfl := List.isEmpty_iff.1 ht
    change _ = versionOrderWithin n [] []
    cases n <;> rfl
  · rfl

/-- Versions that are looked at as far as a bound are ordered. -/
instance transCmp_versionOrderWithin (n : Nat) : TransCmp (versionOrderWithin n) := by
  induction n with
  | zero =>
    exact { eq_swap := rfl, isLE_trans := fun _ _ => rfl }
  | succ n ih =>
    have hfun : versionOrderWithin (n + 1) =
        compareLex (fun s t => compare (frontRanks s) (frontRanks t))
          (compareLex (fun s t => compare (frontNumber s) (frontNumber t))
            (fun s t => versionOrderWithin n (behindNumber s) (behindNumber t))) :=
      funext fun s => funext (versionOrderWithin_succ n s)
    have hranks := transCmp_on frontRanks compare
    have hnumber := transCmp_on frontNumber compare
    have hbehind := transCmp_on behindNumber (versionOrderWithin n)
    rw [hfun]
    infer_instance

/-- How far versions are looked at does not matter if it is behind their ends. -/
theorem versionOrderWithin_eq {m n : Nat} {s t : Chars} (hm : s.length + t.length < m)
    (hn : s.length + t.length < n) : versionOrderWithin m s t = versionOrderWithin n s t := by
  induction m generalizing n s t with
  | zero => omega
  | succ m ih =>
    obtain ⟨n, rfl⟩ : ∃ k, n = k + 1 := ⟨n - 1, by omega⟩
    by_cases hempty : s.length + t.length = 0
    · obtain rfl : s = [] := List.length_eq_zero_iff.1 (by omega)
      obtain rfl : t = [] := List.length_eq_zero_iff.1 (by omega)
      rfl
    · have hs := length_behindNumber s
      have ht := length_behindNumber t
      have hbehind : versionOrderWithin m (behindNumber s) (behindNumber t) =
          versionOrderWithin n (behindNumber s) (behindNumber t) := ih (by omega) (by omega)
      rw [versionOrderWithin_succ, versionOrderWithin_succ, hbehind]

/-- Versions are compared as far as is asked for, if that is behind their ends. -/
theorem versionOrder_eq {n : Nat} {s t : Chars} (h : s.length + t.length < n) :
    versionOrder s t = versionOrderWithin n s t :=
  versionOrderWithin_eq (by omega) h

/-- Versions are ordered. -/
instance transCmp_versionOrder : TransCmp versionOrder where
  eq_swap := by
    intro s t
    have hs : s.length + t.length < s.length + t.length + 1 := by omega
    have ht : t.length + s.length < s.length + t.length + 1 := by omega
    rw [versionOrder_eq hs, versionOrder_eq ht]
    exact OrientedCmp.eq_swap
  isLE_trans := by
    intro s t u
    have hst : s.length + t.length < s.length + t.length + u.length + 1 := by omega
    have htu : t.length + u.length < s.length + t.length + u.length + 1 := by omega
    have hsu : s.length + u.length < s.length + t.length + u.length + 1 := by omega
    rw [versionOrder_eq hst, versionOrder_eq htu, versionOrder_eq hsu]
    exact TransCmp.isLE_trans

/-! ## The order of lines -/

/-- Keys are ordered by every rule. -/
instance transCmp_byRule (style : SortStyle) : TransCmp style.byRule := by
  unfold SortStyle.byRule
  cases style.rule with
  | text => exact transCmp_on style.clean textOrder
  | number => exact transCmp_numberOrder
  | unit => exact transCmp_unitOrder
  | general => exact transCmp_generalOrder
  | month => exact transCmp_on monthOf compare
  | version => exact transCmp_on style.clean versionOrder

/-- Keys are ordered in every style. -/
instance transCmp_styleOrder (style : SortStyle) : TransCmp style.order := by
  unfold SortStyle.order
  cases style.reverse with
  | false => exact transCmp_byRule style
  | true =>
    have hswap : (fun s t => (style.byRule s t).swap) = fun s t => style.byRule t s :=
      funext fun s => funext fun t => OrientedCmp.eq_swap.symm
    simp only [if_true, hswap]
    exact TransCmp.opposite

/-- Keys are compared one after the other until two of them differ. -/
theorem foldl_keys {κ : Type} (order : κ → Ordering) (keys : List κ) (found : Ordering) :
    keys.foldl
        (fun found k =>
          match found with
          | .eq => order k
          | found => found)
        found =
      found.then (keys.foldr (fun k rest => (order k).then rest) .eq) := by
  induction keys generalizing found with
  | nil => cases found <;> rfl
  | cons k keys ih =>
    rw [List.foldl_cons, ih, List.foldr_cons]
    cases found <;> rfl

/-- Orders one after the other are an order. -/
theorem transCmp_foldr {α κ : Type} (order : κ → α → α → Ordering) [∀ k, TransCmp (order k)]
    (keys : List κ) :
    TransCmp fun x y => keys.foldr (fun k rest => (order k x y).then rest) .eq := by
  induction keys with
  | nil => exact { eq_swap := rfl, isLE_trans := fun _ _ => rfl }
  | cons k keys ih => exact inferInstanceAs (TransCmp (compareLex (order k) _))

/-- Lines are ordered by their keys. -/
instance transCmp_byKeys (o : LineOrder) : TransCmp o.byKeys := by
  cases hkeys : o.keys with
  | nil =>
    have hfun : o.byKeys = fun x y =>
        o.style.order (x.drop (pastBlanks o.style.skipsBlanks x 0))
          (y.drop (pastBlanks o.style.skipsBlanks y 0)) := by
      funext x y
      simp only [LineOrder.byKeys, hkeys]
    rw [hfun]
    exact transCmp_on (fun x : Chars => x.drop (pastBlanks o.style.skipsBlanks x 0)) o.style.order
  | cons key more =>
    have hfun : o.byKeys = fun x y =>
        (key :: more).foldr
          (fun k rest =>
            (k.style.order (k.cut o.separator x) (k.cut o.separator y)).then rest) .eq := by
      funext x y
      simp only [LineOrder.byKeys, hkeys]
      exact foldl_keys
        (fun k : SortKey => k.style.order (k.cut o.separator x) (k.cut o.separator y))
        (key :: more) .eq
    have hkey (k : SortKey) :
        TransCmp fun x y => k.style.order (k.cut o.separator x) (k.cut o.separator y) :=
      transCmp_on (k.cut o.separator) k.style.order
    rw [hfun]
    exact transCmp_foldr _ (key :: more)

/-- Lines with equal keys are ordered. -/
instance transCmp_byLine (o : LineOrder) : TransCmp o.byLine := by
  unfold LineOrder.byLine
  cases o.stable with
  | true => exact { eq_swap := rfl, isLE_trans := fun _ _ => rfl }
  | false =>
    cases o.reverse with
    | true => exact @TransCmp.opposite _ textOrder _
    | false => exact transCmp_textOrder

/-- Lines are ordered. -/
instance transCmp_lineOrder (o : LineOrder) : TransCmp o.order :=
  inferInstanceAs (TransCmp (compareLex o.byKeys o.byLine))

/-! ## Sorted lines -/

/-- Whether a line may stand before another one. -/
abbrev LineOrder.inOrder (o : LineOrder) (x y : Chars) : Bool :=
  o.order x y != .gt

section Sorted

variable (o : LineOrder) (lines : List Chars)

/-- A line may stand before another one unless it is to come behind it. -/
theorem inOrder_iff {x y : Chars} : o.inOrder x y ↔ (o.order x y).isLE := by
  rw [LineOrder.inOrder]
  cases o.order x y <;> simp

/-- What may stand before another line may stand before those that this one may stand before. -/
theorem inOrder_trans (x y z : Chars) (hxy : o.inOrder x y) (hyz : o.inOrder y z) :
    o.inOrder x z := by
  rw [inOrder_iff] at hxy hyz ⊢
  exact TransCmp.isLE_trans hxy hyz

/-- Of any two lines, one may stand before the other. -/
theorem inOrder_total (x y : Chars) : (o.inOrder x y || o.inOrder y x) = true := by
  have hswap : o.order x y = (o.order y x).swap := OrientedCmp.eq_swap
  rw [LineOrder.inOrder, LineOrder.inOrder, hswap]
  cases o.order y x <;> rfl

/-- Lines are in order when they are sorted. -/
theorem pairwise_sort : (lines.mergeSort o.inOrder).Pairwise (o.inOrder · ·) :=
  List.pairwise_mergeSort (inOrder_trans o) (inOrder_total o) lines

/-- Lines that may stay as they stand do so when they are sorted. -/
theorem pair_sublist_sort {x y : Chars} (hxy : o.inOrder x y) (h : [x, y].Sublist lines) :
    [x, y].Sublist (lines.mergeSort o.inOrder) :=
  List.pair_sublist_mergeSort (inOrder_trans o) (inOrder_total o) hxy h

/-- Files whose lines are in order are merged to lines in order, and none is lost. -/
theorem merge_files {files : List (List Chars)} {all : List Chars}
    (hfiles : ∀ file ∈ files, file.Pairwise (o.inOrder · ·)) (hall : all.Pairwise (o.inOrder · ·)) :
    (files.foldl (fun all lines => List.merge lines all o.inOrder) all).Pairwise (o.inOrder · ·) ∧
      (files.foldl (fun all lines => List.merge lines all o.inOrder) all).Perm
        (files.flatten ++ all) := by
  induction files generalizing all with
  | nil => exact ⟨hall, List.Perm.refl all⟩
  | cons file more ih =>
    obtain ⟨hfile, hmore⟩ := List.forall_mem_cons.1 hfiles
    obtain ⟨hordered, hperm⟩ := ih hmore
      (List.pairwise_merge (inOrder_trans o) (inOrder_total o) file all hfile hall)
    refine ⟨hordered, hperm.trans ?_⟩
    rw [List.flatten_cons, List.append_assoc]
    calc more.flatten ++ List.merge file all o.inOrder
      _ ~ more.flatten ++ (file ++ all) := (List.merge_perm_append o.inOrder).append_left _
      _ ~ file ++ (more.flatten ++ all) := List.perm_append_comm_assoc ..

/-- Where whole lines are compared, no two lines count as equal. -/
theorem eq_of_inOrder (hstable : o.stable = false) {x y : Chars} (hxy : o.inOrder x y)
    (hyx : o.inOrder y x) : x = y := by
  rw [inOrder_iff] at hxy hyx
  have hswap : o.order y x = (o.order x y).swap := OrientedCmp.eq_swap
  have heq : o.order x y = .eq := by
    cases horder : o.order x y with
    | lt => simp [hswap, horder] at hyx
    | eq => rfl
    | gt => simp [horder] at hxy
  rw [LineOrder.order] at heq
  cases hkeys : o.byKeys x y with
  | lt => simp [hkeys] at heq
  | gt => simp [hkeys] at heq
  | eq =>
    simp only [hkeys, LineOrder.byLine, hstable, Bool.false_eq_true, if_false, Ordering.eq_then,
      textOrder_eq_compare] at heq
    split at heq
    · exact (Std.LawfulEqCmp.eq_of_compare heq).symm
    · exact Std.LawfulEqCmp.eq_of_compare heq

/-- If whole lines are compared where keys are equal, what is written depends on the lines that are
there, and not on how they stood. -/
theorem sort_congr (hstable : o.stable = false) {lines' : List Chars} (h : lines.Perm lines') :
    lines.mergeSort o.inOrder = lines'.mergeSort o.inOrder := by
  refine List.Perm.eq_of_pairwise (fun x y _ _ => eq_of_inOrder o hstable) (pairwise_sort o lines)
    (pairwise_sort o lines') ?_
  calc lines.mergeSort o.inOrder
    _ ~ lines := List.mergeSort_perm lines _
    _ ~ lines' := h
    _ ~ lines'.mergeSort o.inOrder := (List.mergeSort_perm lines' _).symm

/-- How a line stands to those behind it where lines are checked. -/
def LineOrder.follows (o : LineOrder) (unique : Bool) (x y : Chars) : Prop :=
  if unique then o.order x y = .lt else o.inOrder x y

/-- What follows a line that follows another one follows that one. -/
instance trans_follows (unique : Bool) :
    Trans (o.follows unique) (o.follows unique) (o.follows unique) where
  trans {x y z} hxy hyz := by
    cases unique with
    | true => exact TransCmp.lt_trans hxy hyz
    | false => exact inOrder_trans o x y z hxy hyz

/-- No line is found to be out of order exactly if each one follows all that stand before it. -/
theorem firstDisorder_eq_none_iff (unique : Bool) (n : Nat) :
    firstDisorder o unique n lines = none ↔ lines.Pairwise (o.follows unique) := by
  rw [← List.isChain_iff_pairwise]
  induction lines generalizing n with
  | nil => simp [firstDisorder]
  | cons line more ih =>
    cases more with
    | nil => simp [firstDisorder]
    | cons next more =>
      rw [firstDisorder, List.isChain_cons_cons, ← ih (n + 1), LineOrder.follows,
        LineOrder.inOrder]
      cases unique <;> cases o.order line next <;> simp

/-- Sorted lines are found to be in order. -/
theorem firstDisorder_sort (n : Nat) :
    firstDisorder o false n (lines.mergeSort o.inOrder) = none := by
  rw [firstDisorder_eq_none_iff]
  exact pairwise_sort o lines

/-- Lines without repeats are some of the lines. -/
theorem withoutRepeats_sublist (same : Chars → Chars → Bool) :
    (withoutRepeats same lines).Sublist lines := by
  induction lines with
  | nil => exact List.Sublist.refl []
  | cons line more ih =>
    rw [withoutRepeats]
    cases hkept : withoutRepeats same more with
    | nil => simp
    | cons next rest =>
      rw [hkept] at ih
      dsimp only
      split
      · exact ((List.sublist_cons_self next rest).trans ih).cons_cons line
      · exact ih.cons_cons line

/-- Where only keys count, each line of sorted ones comes before the next that is left. -/
theorem follows_withoutRepeats (hstable : o.stable = true) {lines : List Chars}
    (h : lines.Pairwise (o.inOrder · ·)) :
    (withoutRepeats (fun x y => o.byKeys x y = .eq) lines).Pairwise (o.follows true) := by
  have hkeys (x y : Chars) : o.byKeys x y = o.order x y := by
    rw [LineOrder.order, LineOrder.byLine, hstable, if_pos rfl, Ordering.then_eq]
  induction lines with
  | nil => exact List.Pairwise.nil
  | cons line more ih =>
    obtain ⟨hline, hmore⟩ := List.pairwise_cons.1 h
    have hrest := ih hmore
    have hsome := withoutRepeats_sublist more fun x y => decide (o.byKeys x y = .eq)
    rw [withoutRepeats]
    cases hkept : withoutRepeats (fun x y => decide (o.byKeys x y = .eq)) more with
    | nil => exact List.pairwise_singleton ..
    | cons next rest =>
      rw [hkept] at hrest hsome
      obtain ⟨hnext, hrest'⟩ := List.pairwise_cons.1 hrest
      dsimp only
      split
      · rename_i hsame
        have heq : o.order line next = .eq := by simpa [hkeys] using hsame
        exact List.pairwise_cons.2 ⟨fun y hy => TransCmp.lt_of_eq_of_lt heq (hnext y hy), hrest'⟩
      · rename_i hsame
        have hlt : o.follows true line next := by
          have hle := (inOrder_iff o).1 (hline next (hsome.subset List.mem_cons_self))
          have hne : o.order line next ≠ .eq := by simpa [hkeys] using hsame
          change o.order line next = .lt
          cases horder : o.order line next with
          | lt => rfl
          | eq => exact absurd horder hne
          | gt => simp [horder] at hle
        refine List.pairwise_cons.2 ⟨fun y hy => ?_, hrest⟩
        rcases List.mem_cons.1 hy with rfl | hy
        · exact hlt
        · exact TransCmp.lt_trans hlt (hnext y hy)

/-- Sorted lines without repeats are found to be in order and unique. -/
theorem firstDisorder_withoutRepeats (hstable : o.stable = true) (n : Nat) :
    firstDisorder o true n
      (withoutRepeats (fun x y => o.byKeys x y = .eq) (lines.mergeSort o.inOrder)) = none := by
  rw [firstDisorder_eq_none_iff]
  exact follows_withoutRepeats o hstable (pairwise_sort o lines)

end Sorted

end Shakedown.Utility
