import Mathlib.Data.Fintype.Card
import Mathlib.Data.Fintype.EquivFin
import Mathlib.Data.Fintype.Sets
import Mathlib.Data.List.Nodup
import Mathlib.Logic.Relation
import Shakedown.Utility.Precedence

/-!
# What sorting by precedence does

The items that are made of pairs of words count these pairs. Whenever a word is written, the items
that are left count the pairs that do not begin with it, and the words in the queue are those that
end no pair any more. So every word is written once, behind all words that precede it, unless there
is a loop.
-/

set_option autoImplicit false

namespace Shakedown.Utility.Precedence

open scoped List

variable {pairs : List (Chars × Chars)} {items : List Item} {a b word : Chars}

/-! ## Items that count pairs -/

/-- The pairs of different words in a list of words. -/
def pairsOf : List Chars → List (Chars × Chars)
  | a :: b :: more => if a = b then pairsOf more else (a, b) :: pairsOf more
  | _ => []

/-- Items count pairs if there is one for each word, which has the words of the pairs that begin
with it and the number of those that end with it. -/
structure Counts (pairs : List (Chars × Chars)) (items : List Item) : Prop where
  /-- No word has two items. -/
  nodup : (items.map Item.word).Nodup
  /-- Every word of a pair has an item. -/
  named : ∀ p ∈ pairs, p.1 ∈ items.map Item.word ∧ p.2 ∈ items.map Item.word
  /-- An item has the words behind it as often as there are pairs. -/
  behind : ∀ i ∈ items, ∀ word, i.behind.count word = pairs.count (i.word, word)
  /-- An item has the number of the pairs that end with its word. -/
  before : ∀ i ∈ items, i.before = pairs.countP (·.2 = i.word)

/-- The order of the pairs does not matter. -/
theorem Counts.perm {pairs' : List (Chars × Chars)} (h : Counts pairs items) (hp : pairs ~ pairs') :
    Counts pairs' items where
  nodup := h.nodup
  named p hmem := h.named p (hp.mem_iff.2 hmem)
  behind i hi word := by rw [h.behind i hi, hp.count_eq]
  before i hi := by rw [h.before i hi, hp.countP_eq]

/-- An item is added for a word that has none. -/
theorem changed_id (word : Chars) (items : List Item) :
    changed word (fun i => i) items =
      if word ∈ items.map Item.word then items else items ++ [{ word := word }] := by
  have hany : items.any (fun i => decide (i.word = word)) =
      decide (word ∈ items.map Item.word) := by
    rw [Bool.eq_iff_iff]
    simp
  rw [changed, hany]
  simp

/-- An item is changed after it was added if it was new. -/
theorem changed_eq (word : Chars) (change : Item → Item) (items : List Item) :
    changed word change items =
      (changed word (fun i => i) items).map fun i => if i.word = word then change i else i := by
  by_cases hword : word ∈ items.map Item.word
  · have hany : items.any (fun i => decide (i.word = word)) = true := by simpa using hword
    rw [changed_id, if_pos hword, changed, if_pos hany]
  · have hne : ∀ i ∈ items, i.word ≠ word := fun i hi (heq : i.word = word) =>
      hword (heq ▸ List.mem_map_of_mem hi)
    have hany : items.any (fun i => decide (i.word = word)) = false := by simpa using hne
    have hsame : ∀ i ∈ items, (if i.word = word then change i else i) = i :=
      fun i hi => if_neg (hne i hi)
    rw [changed_id, if_neg hword, changed, hany, List.map_append, List.map_congr_left hsame]
    simp

/-- A word that is named has an item, and the same pairs are counted. -/
theorem Counts.name (h : Counts pairs items) (word : Chars) :
    Counts pairs (changed word (fun i => i) items) ∧
      ∀ w, w ∈ (changed word (fun i => i) items).map Item.word ↔
        w ∈ items.map Item.word ∨ w = word := by
  rw [changed_id]
  by_cases hword : word ∈ items.map Item.word
  · rw [if_pos hword]
    exact ⟨h, fun w => ⟨.inl, fun hw => hw.elim id fun hw => hw ▸ hword⟩⟩
  · rw [if_neg hword]
    refine ⟨⟨?_, ?_, ?_, ?_⟩, by simp⟩
    · rw [List.map_append, List.nodup_append]
      refine ⟨h.nodup, by simp, ?_⟩
      intro w hw w' hw'
      obtain rfl : w' = word := by simpa using hw'
      exact fun heq => hword (heq ▸ hw)
    · intro p hp
      simp only [List.map_append, List.mem_append]
      exact (h.named p hp).imp .inl .inl
    · intro i hi w
      rcases List.mem_append.1 hi with hi | hi
      · exact h.behind i hi w
      · obtain rfl := List.mem_singleton.1 hi
        exact (List.count_eq_zero.2 fun hp => hword (h.named _ hp).1).symm
    · intro i hi
      rcases List.mem_append.1 hi with hi | hi
      · exact h.before i hi
      · obtain rfl := List.mem_singleton.1 hi
        refine (List.countP_eq_zero.2 fun p hp heq => hword ?_).symm
        have hsecond := (h.named p hp).2
        rwa [of_decide_eq_true heq] at hsecond

/-- An item that stands behind another one in one pair more. -/
def oneBehind (a b : Chars) (i : Item) : Item :=
  if i.word = a then { i with behind := b :: i.behind } else i

/-- An item that another one stands before in one pair more. -/
def oneBefore (b : Chars) (i : Item) : Item :=
  if i.word = b then { i with before := i.before + 1 } else i

/-- Changes of the counts leave the word of an item. -/
@[simp]
theorem word_oneBehind (a b : Chars) (i : Item) : (oneBehind a b i).word = i.word := by
  rw [oneBehind]
  split <;> rfl

/-- Changes of the counts leave the word of an item. -/
@[simp]
theorem word_oneBefore (b : Chars) (i : Item) : (oneBefore b i).word = i.word := by
  rw [oneBefore]
  split <;> rfl

/-- One pair more is counted where both its words have items. -/
theorem Counts.cons (h : Counts pairs items) (ha : a ∈ items.map Item.word)
    (hb : b ∈ items.map Item.word) :
    Counts ((a, b) :: pairs) (items.map (oneBefore b ∘ oneBehind a b)) := by
  have hword (i : Item) : ((oneBefore b ∘ oneBehind a b) i).word = i.word := by simp
  have hwords : (items.map (oneBefore b ∘ oneBehind a b)).map Item.word = items.map Item.word := by
    simp
  refine ⟨hwords ▸ h.nodup, ?_, ?_, ?_⟩
  · rw [hwords]
    exact List.forall_mem_cons.2 ⟨⟨ha, hb⟩, h.named⟩
  · intro i hi w
    obtain ⟨j, hj, rfl⟩ := List.mem_map.1 hi
    have hbehind : ((oneBefore b ∘ oneBehind a b) j).behind = (oneBehind a b j).behind := by
      simp only [Function.comp_apply, oneBefore]
      split <;> rfl
    rw [hword, hbehind, oneBehind]
    by_cases hja : j.word = a
    · rw [if_pos hja, List.count_cons, List.count_cons, h.behind j hj]
      simp [hja]
    · rw [if_neg hja, List.count_cons, h.behind j hj]
      simp [Ne.symm hja]
  · intro i hi
    obtain ⟨j, hj, rfl⟩ := List.mem_map.1 hi
    have hbefore : ((oneBefore b ∘ oneBehind a b) j).before = (oneBefore b j).before := by
      simp only [Function.comp_apply, oneBefore, oneBehind]
      split <;> split <;> simp_all
    rw [hword, hbefore, oneBefore, List.countP_cons, ← h.before j hj]
    by_cases hjb : j.word = b
    · simp [hjb]
    · simp [hjb, Ne.symm hjb]

/-- The items of one pair more are those of its words with the pair counted. -/
theorem changed_changed (hne : a ≠ b) (items : List Item) :
    changed b (fun i => { i with before := i.before + 1 })
        (changed a (fun i => { i with behind := b :: i.behind }) items) =
      (changed b (fun i => i) (changed a (fun i => i) items)).map
        (oneBefore b ∘ oneBehind a b) := by
  have hnew : oneBehind a b { word := b } = { word := b } := if_neg (Ne.symm hne)
  rw [changed_eq b, changed_eq a]
  change ((changed b (fun i => i) ((changed a (fun i => i) items).map (oneBehind a b))).map
    (oneBefore b)) = _
  rw [← List.map_map, changed_id b, changed_id b, List.map_map]
  have hwords : Item.word ∘ oneBehind a b = Item.word := funext (word_oneBehind a b)
  rw [hwords]
  split
  · rfl
  · simp only [List.map_append, List.map_cons, List.map_nil, hnew]

/-- The items of pairs of words count these pairs, and there is one for each of the words. -/
theorem counts_itemsOf {words : List Chars} (heven : words.length % 2 = 0)
    (h : Counts pairs items) :
    Counts (pairsOf words ++ pairs) (itemsOf words items) ∧
      ∀ w, w ∈ (itemsOf words items).map Item.word ↔ w ∈ items.map Item.word ∨ w ∈ words := by
  fun_induction itemsOf words items generalizing pairs with
  | case1 a b more items items' =>
    rename_i ih
    have hmore : more.length % 2 = 0 := by
      simp only [List.length_cons] at heven
      omega
    rw [pairsOf]
    by_cases hab : a = b
    · subst hab
      obtain ⟨hcounts, hwords⟩ := h.name a
      simp only [items', if_true] at ih ⊢
      obtain ⟨hfinal, hall⟩ := ih hmore hcounts
      refine ⟨hfinal, fun w => ?_⟩
      rw [hall, hwords, List.mem_cons, List.mem_cons]
      tauto
    · obtain ⟨hfirst, hfirstWords⟩ := h.name a
      obtain ⟨hsecond, hsecondWords⟩ := hfirst.name b
      have ha : a ∈ (changed b (fun i => i) (changed a (fun i => i) items)).map Item.word :=
        (hsecondWords a).2 (.inl ((hfirstWords a).2 (.inr rfl)))
      have hb : b ∈ (changed b (fun i => i) (changed a (fun i => i) items)).map Item.word :=
        (hsecondWords b).2 (.inr rfl)
      simp only [items', if_neg hab, changed_changed hab] at ih ⊢
      obtain ⟨hfinal, hall⟩ := ih hmore (hsecond.cons ha hb)
      refine ⟨hfinal.perm List.perm_middle, fun w => ?_⟩
      have hsame : ∀ l : List Item, (l.map (oneBefore b ∘ oneBehind a b)).map Item.word =
          l.map Item.word := fun l => by simp
      rw [hall, hsame, hsecondWords, hfirstWords, List.mem_cons, List.mem_cons]
      tauto
  | case2 words items hshort =>
    have hnil : words = [] := by
      rcases words with _ | ⟨a, _ | ⟨b, more⟩⟩
      · rfl
      · simp at heven
      · exact absurd rfl (hshort a b more)
    subst hnil
    exact ⟨h, by simp⟩

/-! ## Words that are set free -/

/-- An item before which so many words of a list stand no longer. -/
def freed (l : List Chars) (i : Item) : Item :=
  { i with before := i.before - l.count i.word }

/-- Words that are freed keep their items. -/
@[simp]
theorem word_freed (l : List Chars) (i : Item) : (freed l i).word = i.word := rfl

/-- A word before which one word less stands is freed once. -/
theorem changed_freed (h : word ∈ items.map Item.word) :
    changed word (fun i => { i with before := i.before - 1 }) items = items.map (freed [word]) := by
  rw [changed_eq, changed_id, if_pos h]
  refine List.map_congr_left fun i _ => ?_
  by_cases hi : i.word = word
  · simp [freed, hi]
  · simp [freed, hi, Ne.symm hi]

/-- Items are freed of words one after the other. -/
theorem freed_comp (word : Chars) (l : List Chars) :
    freed l ∘ freed [word] = freed (word :: l) := by
  funext i
  have hcount : (word :: l).count i.word = [word].count i.word + l.count i.word := by
    rw [← List.count_append]
    rfl
  rw [Function.comp_apply, freed, freed, freed, hcount, Nat.sub_add_eq]

/-- A word is set free by one word less before it if there was one. -/
theorem any_freed_iff (h : ∀ i ∈ items, i.word = word → 0 < i.before) :
    (items.map (freed [word])).any (fun i => i.word = word && i.before = 0) ↔
      ∃ i ∈ items, i.word = word ∧ i.before = 1 := by
  simp only [List.any_map, List.any_eq_true, Function.comp_apply, Bool.and_eq_true,
    decide_eq_true_eq]
  refine exists_congr fun i => and_congr_right fun hi => and_congr_right fun hiw => ?_
  rw [word_freed] at hiw
  have hpos := h i hi hiw
  rw [freed, hiw, List.count_singleton_self]
  dsimp only
  omega

/-- The counts of a list are used up when those of its front and then those of its rest are. -/
theorem exists_freed_iff {l : List Chars} (h : ∀ i ∈ items, (word :: l).count i.word ≤ i.before)
    (w : Chars) :
    (∃ i ∈ items.map (freed [word]), i.word = w ∧ i.before = l.count w) ↔
      ∃ i ∈ items, i.word = w ∧ i.before = (word :: l).count w := by
  have hsplit : (word :: l).count w = [word].count w + l.count w := by
    rw [← List.count_append]
    rfl
  simp only [List.mem_map, exists_exists_and_eq_and]
  refine exists_congr fun i => and_congr_right fun hi => and_congr_right fun hiw => ?_
  rw [word_freed] at hiw
  have hi' := h i hi
  rw [hiw, hsplit] at hi'
  rw [freed, hiw, hsplit]
  dsimp only
  omega

/-- Items that have the counts of a list have those of its rest when they are freed of its first
word. -/
theorem count_le_of_mem_freed {l : List Chars}
    (h : ∀ i ∈ items, (word :: l).count i.word ≤ i.before) :
    ∀ i ∈ items.map (freed [word]), l.count i.word ≤ i.before := by
  intro i hi
  obtain ⟨j, hj, rfl⟩ := List.mem_map.1 hi
  have hj' := h j hj
  rw [← List.singleton_append, List.count_append] at hj'
  simp only [freed]
  omega

/-- What is left after words were relieved that others were before: the counts are smaller, and the
words are free whose counts are used up. -/
theorem foldl_relieved {l : List Chars} (hwords : ∀ w ∈ l, w ∈ items.map Item.word)
    (hcount : ∀ i ∈ items, l.count i.word ≤ i.before) (free : List Chars) :
    ∃ new, l.foldl relieved (items, free) = (items.map (freed l), free ++ new) ∧ new.Nodup ∧
      ∀ w, w ∈ new ↔ w ∈ l ∧ ∃ i ∈ items, i.word = w ∧ i.before = l.count w := by
  induction l generalizing items free with
  | nil =>
    have hsame : items.map (freed []) = items := List.map_id'' (fun i => rfl) items
    exact ⟨[], by simp [hsame], List.nodup_nil, by simp⟩
  | cons word l ih =>
    obtain ⟨hword, hmore⟩ := List.forall_mem_cons.1 hwords
    have hwords' : ∀ w ∈ l, w ∈ (items.map (freed [word])).map Item.word := by simpa using hmore
    have hcount' := count_le_of_mem_freed hcount
    have hpos : ∀ i ∈ items, i.word = word → 0 < i.before := by
      intro i hi hiw
      have hi' := hcount i hi
      rw [hiw, List.count_cons_self] at hi'
      omega
    have hall := exists_freed_iff hcount
    rw [List.foldl_cons, relieved, changed_freed hword]
    by_cases hzero : (items.map (freed [word])).any fun i => i.word = word && i.before = 0
    · rw [if_pos hzero]
      obtain ⟨new, hfold, hnodup, hnew⟩ := ih hwords' hcount' (free ++ [word])
      obtain ⟨i, hi, hiw, hone⟩ := (any_freed_iff hpos).1 hzero
      have hnot : word ∉ l := by
        have hi' := hcount i hi
        rw [hiw, hone, List.count_cons_self] at hi'
        exact List.count_eq_zero.1 (by omega)
      refine ⟨word :: new, ?_, List.nodup_cons.2 ⟨fun h => hnot ((hnew word).1 h).1, hnodup⟩, ?_⟩
      · rw [hfold, List.map_map, freed_comp]
        simp
      · intro w
        rw [List.mem_cons, hnew, hall, List.mem_cons]
        constructor
        · rintro (rfl | ⟨hw, h⟩)
          · exact ⟨.inl rfl, i, hi, hiw, by simp [hone, List.count_eq_zero_of_not_mem hnot]⟩
          · exact ⟨.inr hw, h⟩
        · rintro ⟨rfl | hw, h⟩
          · exact .inl rfl
          · exact .inr ⟨hw, h⟩
    · rw [if_neg hzero]
      obtain ⟨new, hfold, hnodup, hnew⟩ := ih hwords' hcount' free
      refine ⟨new, ?_, hnodup, ?_⟩
      · rw [hfold, List.map_map, freed_comp]
      · intro w
        rw [hnew, hall, List.mem_cons]
        constructor
        · rintro ⟨hw, h⟩
          exact ⟨.inr hw, h⟩
        · rintro ⟨rfl | hw, h⟩
          · refine ⟨?_, h⟩
            by_contra hnot
            obtain ⟨i, hi, hiw, hused⟩ := h
            rw [List.count_cons_self, List.count_eq_zero_of_not_mem hnot] at hused
            exact hzero ((any_freed_iff hpos).2 ⟨i, hi, hiw, hused⟩)
          · exact ⟨hw, h⟩

/-! ## Words in order -/

/-- A queue has the words that nothing precedes, each once. -/
structure IsQueue (queue : List Chars) (items : List Item) : Prop where
  /-- No word is in the queue twice. -/
  nodup : queue.Nodup
  /-- A word is in the queue if nothing precedes it. -/
  mem_iff : ∀ w, w ∈ queue ↔ ∃ i ∈ items, i.word = w ∧ i.before = 0

/-- The items besides that of a word. -/
def besides (word : Chars) (items : List Item) : List Item :=
  items.filter (·.word ≠ word)

/-- The words of the items besides that of a word are the other words. -/
theorem words_besides (word : Chars) (l : List Chars) (items : List Item) :
    ((besides word items).map (freed l)).map Item.word =
      (items.map Item.word).filter (· ≠ word) := by
  rw [besides, List.filter_map, List.map_map]
  rfl

/-- The words of the items besides that of a word are all words together with it. -/
theorem Counts.perm_besides {item : Item} (h : Counts pairs items) (hitem : item ∈ items)
    (l : List Chars) :
    item.word :: ((besides item.word items).map (freed l)).map Item.word ~ items.map Item.word := by
  have herase : (items.map Item.word).filter (· ≠ item.word) =
      (items.map Item.word).erase item.word := by
    rw [h.nodup.erase_eq_filter]
    refine List.filter_congr fun w _ => ?_
    rw [Bool.eq_iff_iff]
    simp
  rw [words_besides, herase]
  exact (List.perm_cons_erase (List.mem_map_of_mem hitem)).symm

/-- An item is found by its word. -/
theorem Counts.find {item : Item} (h : Counts pairs items) (hitem : item ∈ items) :
    items.find? (·.word = item.word) = some item := by
  cases hfound : items.find? (·.word = item.word) with
  | none => simpa using List.find?_eq_none.1 hfound item hitem
  | some i =>
    have hiw : i.word = item.word := by simpa using List.find?_some hfound
    rw [List.inj_on_of_nodup_map h.nodup (List.mem_of_find?_eq_some hfound) hitem hiw]

/-- A word that nothing precedes ends no pair. -/
theorem Counts.ne_of_before_eq_zero {item : Item} (h : Counts pairs items) (hitem : item ∈ items)
    (hzero : item.before = 0) {p : Chars × Chars} (hp : p ∈ pairs) : p.2 ≠ item.word := by
  have hcount := h.before item hitem
  rw [hzero, eq_comm, List.countP_eq_zero] at hcount
  simpa using hcount p hp

/-- An item stands behind another one not more often than others are before it. -/
theorem Counts.count_le_before {item : Item} (h : Counts pairs items) (hitem : item ∈ items) :
    ∀ i ∈ items, item.behind.count i.word ≤ i.before := by
  intro i hi
  rw [h.behind item hitem, h.before i hi, List.count]
  exact List.countP_mono_left fun p _ hp => by simp_all

/-- The items that are left when a word was written count the pairs that do not begin with it. -/
theorem Counts.leave {item : Item} (h : Counts pairs items) (hitem : item ∈ items)
    (hzero : item.before = 0) :
    Counts (pairs.filter (·.1 ≠ item.word))
      ((besides item.word items).map (freed item.behind)) := by
  refine ⟨?_, ?_, ?_, ?_⟩
  · rw [words_besides]
    exact h.nodup.filter _
  · intro p hp
    obtain ⟨hmem, hfirst⟩ := List.mem_filter.1 hp
    have hsecond := h.ne_of_before_eq_zero hitem hzero hmem
    rw [words_besides, List.mem_filter, List.mem_filter]
    exact ⟨⟨(h.named p hmem).1, hfirst⟩, (h.named p hmem).2, by simpa using hsecond⟩
  · intro i hi w
    obtain ⟨j, hj, rfl⟩ := List.mem_map.1 hi
    obtain ⟨hmem, hne⟩ := List.mem_filter.1 hj
    rw [word_freed, List.count_filter (by simpa using hne)]
    exact h.behind j hmem w
  · intro i hi
    obtain ⟨j, hj, rfl⟩ := List.mem_map.1 hi
    obtain ⟨hmem, hne⟩ := List.mem_filter.1 hj
    rw [word_freed, freed]
    dsimp only
    have hparts := List.countP_eq_countP_filter_add pairs (·.2 = j.word) (·.1 ≠ item.word)
    have hothers : (pairs.filter fun p => !decide (p.1 ≠ item.word)).countP (·.2 = j.word) =
        pairs.count (item.word, j.word) := by
      rw [List.countP_filter, List.count]
      exact List.countP_congr fun p _ => by simp [Prod.ext_iff, and_comm]
    rw [h.before j hmem, h.behind item hitem]
    omega

/-- When the first word of a queue is written, the words that it sets free go to the end. -/
theorem IsQueue.released {item : Item} {queue : List Chars} (h : Counts pairs items)
    (hqueue : IsQueue (item.word :: queue) items) (hitem : item ∈ items)
    (hzero : item.before = 0) :
    ∃ free, released item (besides item.word items) =
        ((besides item.word items).map (freed item.behind), free) ∧
      IsQueue (queue ++ free) ((besides item.word items).map (freed item.behind)) := by
  obtain ⟨hfirst, hnodup⟩ := List.nodup_cons.1 hqueue.nodup
  have hmem (i : Item) : i ∈ besides item.word items ↔ i ∈ items ∧ i.word ≠ item.word := by
    simp [besides]
  have hle := h.count_le_before hitem
  have hwords : ∀ w ∈ item.behind, w ∈ (besides item.word items).map Item.word := by
    intro w hw
    have hpair : (item.word, w) ∈ pairs := by
      rw [← List.count_pos_iff, ← h.behind item hitem, List.count_pos_iff]
      exact hw
    obtain ⟨i, hi, rfl⟩ := List.mem_map.1 (h.named _ hpair).2
    exact List.mem_map_of_mem ((hmem i).2 ⟨hi, h.ne_of_before_eq_zero hitem hzero hpair⟩)
  obtain ⟨free, hfold, hfree, hall⟩ := foldl_relieved hwords
    (fun i hi => hle i ((hmem i).1 hi).1) []
  refine ⟨free, hfold, ?_, fun w => ?_⟩
  · refine List.nodup_append.2 ⟨hnodup, hfree, ?_⟩
    rintro w hw _ hw' rfl
    obtain ⟨i, hi, hiw, hi0⟩ := (hqueue.mem_iff w).1 (List.mem_cons_of_mem _ hw)
    obtain ⟨hbehind, j, hj, hjw, hused⟩ := (hall w).1 hw'
    have hcount := List.count_pos_iff.2 hbehind
    rw [h.before i hi, hiw] at hi0
    rw [h.before j ((hmem j).1 hj).1, hjw] at hused
    omega
  · rw [List.mem_append, hall]
    constructor
    · rintro (hw | ⟨-, i, hi, hiw, hused⟩)
      · obtain ⟨i, hi, hiw, hi0⟩ := (hqueue.mem_iff w).1 (List.mem_cons_of_mem _ hw)
        have hne : i.word ≠ item.word := fun heq => hfirst (heq ▸ hiw ▸ hw)
        refine ⟨freed item.behind i, List.mem_map_of_mem ((hmem i).2 ⟨hi, hne⟩), hiw, ?_⟩
        simp [freed, hi0]
      · refine ⟨freed item.behind i, List.mem_map_of_mem hi, hiw, ?_⟩
        simp [freed, hused, hiw]
    · rintro ⟨_, hi, hiw, hi0⟩
      obtain ⟨j, hj, rfl⟩ := List.mem_map.1 hi
      obtain ⟨hjmem, hne⟩ := (hmem j).1 hj
      have hused : j.before = item.behind.count w := by
        have hj' := hle j hjmem
        rw [word_freed] at hiw
        rw [freed, hiw] at hi0
        rw [hiw] at hj'
        dsimp only at hi0
        omega
      by_cases hbehind : w ∈ item.behind
      · exact .inr ⟨hbehind, j, hj, hiw, hused⟩
      · rw [List.count_eq_zero_of_not_mem hbehind] at hused
        rcases List.mem_cons.1 ((hqueue.mem_iff w).2 ⟨j, hjmem, hiw, hused⟩) with rfl | hw
        · exact absurd hiw hne
        · exact .inl hw

/-- Words that are written in order are all words but those that are left, every one stands behind
those that precede it, and each word that is left is preceded by one that is left. -/
theorem ordered_spec {n : Nat} {queue : List Chars} (h : Counts pairs items)
    (hqueue : IsQueue queue items) (hn : items.length < n) :
    (ordered n queue items).1 ++ (ordered n queue items).2.map Item.word ~ items.map Item.word ∧
      (∀ p ∈ pairs, p.2 ∈ (ordered n queue items).1 →
        [p.1, p.2].Sublist (ordered n queue items).1) ∧
      ∀ i ∈ (ordered n queue items).2, ∃ j ∈ (ordered n queue items).2,
        (j.word, i.word) ∈ pairs := by
  induction n generalizing pairs items queue with
  | zero => omega
  | succ n ih =>
    cases queue with
    | nil =>
      rw [ordered]
      refine ⟨List.Perm.refl _, by simp, fun i hi => ?_⟩
      have hpos : i.before ≠ 0 := fun h0 => by
        have hmem := (hqueue.mem_iff i.word).2 ⟨i, hi, rfl, h0⟩
        simp at hmem
      rw [h.before i hi, ← Nat.pos_iff_ne_zero, List.countP_pos_iff] at hpos
      obtain ⟨p, hp, hsecond⟩ := hpos
      obtain ⟨j, hj, hfirst⟩ := List.mem_map.1 (h.named p hp).1
      refine ⟨j, hj, ?_⟩
      rw [hfirst, ← of_decide_eq_true hsecond]
      exact hp
    | cons word queue =>
      obtain ⟨item, hitem, hword, hzero⟩ := (hqueue.mem_iff word).1 List.mem_cons_self
      subst hword
      obtain ⟨free, hreleased, hnext⟩ := hqueue.released h hitem hzero
      have hleave := h.leave hitem hzero
      have hwords := h.perm_besides hitem item.behind
      have hreleased' : Precedence.released item (items.filter (·.word ≠ item.word)) =
          ((besides item.word items).map (freed item.behind), free) := hreleased
      simp only [ordered, h.find hitem, hreleased']
      generalize (besides item.word items).map (freed item.behind) = rest at *
      have hlength : rest.length < n := by
        have hsame := hwords.length_eq
        simp only [List.length_cons, List.length_map] at hsame
        omega
      obtain ⟨hperm, hforward, hloop⟩ := ih hleave hnext hlength
      refine ⟨(hperm.cons item.word).trans hwords, fun p hp hmem => ?_, fun i hi => ?_⟩
      · have hne := h.ne_of_before_eq_zero hitem hzero hp
        have hsecond := (List.mem_cons.1 hmem).resolve_left hne
        by_cases hfirst : p.1 = item.word
        · rw [hfirst]
          exact (List.singleton_sublist.2 hsecond).cons_cons item.word
        · have hkept : p ∈ pairs.filter (·.1 ≠ item.word) := by simpa using ⟨hp, hfirst⟩
          exact (hforward p hkept hsecond).cons item.word
      · obtain ⟨j, hj, hpair⟩ := hloop i hi
        exact ⟨j, hj, (List.mem_filter.1 hpair).1⟩

/-! ## Sorting -/

/-- The free words are a queue. -/
theorem Counts.isQueue_freeWords (h : Counts pairs items) : IsQueue (freeWords items) items := by
  have hperm := List.mergeSort_perm ((items.filter (·.before = 0)).map Item.word)
    fun s t => !Chars.before t s
  refine ⟨hperm.nodup_iff.2 (h.nodup.sublist ((List.filter_sublist).map _)), fun w => ?_⟩
  rw [freeWords, hperm.mem_iff]
  simp only [List.mem_map, List.mem_filter, decide_eq_true_eq]
  exact exists_congr fun i => by tauto

/-- The words of a text in order, and the items that are left. -/
def sorting (words : List Chars) : List Chars × List Item :=
  let items := itemsOf words []
  ordered (items.length + 1) (freeWords items) items

/-- What sorting by precedence does: all words are written once unless they are left, every written
word stands behind those that precede it, and each word that is left is preceded by one that is
left. -/
theorem sorting_spec {words : List Chars} (heven : words.length % 2 = 0) :
    ((sorting words).1 ++ (sorting words).2.map Item.word).Nodup ∧
      (∀ w, w ∈ (sorting words).1 ++ (sorting words).2.map Item.word ↔ w ∈ words) ∧
      (∀ p ∈ pairsOf words, p.2 ∈ (sorting words).1 → [p.1, p.2].Sublist (sorting words).1) ∧
      ∀ i ∈ (sorting words).2, ∃ j ∈ (sorting words).2, (j.word, i.word) ∈ pairsOf words := by
  have hnone : Counts [] [] := ⟨List.nodup_nil, by simp, by simp, by simp⟩
  obtain ⟨hcounts, hall⟩ := counts_itemsOf heven hnone
  rw [List.append_nil] at hcounts
  obtain ⟨hperm, hforward, hloop⟩ :=
    ordered_spec hcounts hcounts.isQueue_freeWords (Nat.lt_succ_self _)
  refine ⟨hperm.nodup_iff.2 hcounts.nodup, fun w => ?_, hforward, hloop⟩
  rw [sorting, hperm.mem_iff, hall]
  simp

/-- The words of pairs are words of the text. -/
theorem snd_mem_of_mem_pairsOf {words : List Chars} {p : Chars × Chars} (h : p ∈ pairsOf words) :
    p.2 ∈ words := by
  fun_induction pairsOf words with
  | case1 a more ih => exact List.mem_cons_of_mem _ (List.mem_cons_of_mem _ (ih h))
  | case2 a b more hab ih =>
    rcases List.mem_cons.1 h with rfl | h
    · simp
    · exact List.mem_cons_of_mem _ (List.mem_cons_of_mem _ (ih h))
  | case3 words hshort => cases h

/-- Words of which the first stands before the second stand so wherever both are met. -/
theorem idxOf_lt_of_sublist {l : List Chars} (hl : l.Nodup) (h : [a, b].Sublist l) :
    l.idxOf a < l.idxOf b := by
  obtain ⟨front, back, rfl, ha, hb⟩ := List.cons_sublist_iff.1 h
  have hmem : b ∈ back := List.singleton_sublist.1 hb
  have hnot : b ∉ front := fun hfront => (List.nodup_append.1 hl).2.2 b hfront b hmem rfl
  rw [List.idxOf_append_of_mem ha, List.idxOf_append_of_notMem hnot]
  have hfirst := List.idxOf_lt_length_of_mem ha
  omega

/-- There are no words each of which is preceded by one of them if none precedes itself over some
others. -/
theorem eq_nil_of_acyclic {precedes : Chars → Chars → Prop} {l : List Chars}
    (hacyclic : ∀ w, ¬Relation.TransGen precedes w w) (h : ∀ w ∈ l, ∃ v ∈ l, precedes v w) :
    l = [] := by
  -- To precede over some others is well-founded on finitely many words, and by induction along it
  -- there is none of them, since there would have to be one before it.
  let before : { w // w ∈ l } → { w // w ∈ l } → Prop := fun v w =>
    Relation.TransGen precedes v.1 w.1
  have : IsTrans { w // w ∈ l } before := ⟨fun _ _ _ => Relation.TransGen.trans⟩
  have : Std.Irrefl before := ⟨fun w => hacyclic w.1⟩
  have hfounded := Finite.wellFounded_of_trans_of_irrefl before
  have hnone (w : { w // w ∈ l }) : False := by
    induction w using hfounded.induction with
    | _ w ih =>
      obtain ⟨v, hv, hprecedes⟩ := h w.1 w.2
      exact ih ⟨v, hv⟩ (.single hprecedes)
  exact List.eq_nil_iff_forall_not_mem.2 fun w hw => hnone ⟨w, hw⟩

/-- No word is left exactly if none precedes itself over some others. -/
theorem sorting_complete_iff {words : List Chars} (heven : words.length % 2 = 0) :
    (sorting words).2 = [] ↔
      ∀ w, ¬Relation.TransGen (fun a b => (a, b) ∈ pairsOf words) w w := by
  obtain ⟨hnodup, hall, hforward, hloop⟩ := sorting_spec heven
  constructor
  · intro hnone
    rw [hnone, List.map_nil, List.append_nil] at hnodup hall
    have hlt {a b : Chars} (h : Relation.TransGen (fun a b => (a, b) ∈ pairsOf words) a b) :
        (sorting words).1.idxOf a < (sorting words).1.idxOf b := by
      have hpairs {a b : Chars} (hpair : (a, b) ∈ pairsOf words) :
          (sorting words).1.idxOf a < (sorting words).1.idxOf b :=
        idxOf_lt_of_sublist hnodup
          (hforward _ hpair ((hall b).2 (snd_mem_of_mem_pairsOf hpair)))
      induction h with
      | single hpair => exact hpairs hpair
      | tail _ hpair ih => exact ih.trans (hpairs hpair)
    exact fun w h => absurd (hlt h) (lt_irrefl _)
  · intro hacyclic
    have hnone : (sorting words).2.map Item.word = [] := by
      refine eq_nil_of_acyclic hacyclic fun w hw => ?_
      obtain ⟨i, hi, rfl⟩ := List.mem_map.1 hw
      obtain ⟨j, hj, hpair⟩ := hloop i hi
      exact ⟨j.word, List.mem_map_of_mem hj, hpair⟩
    exact List.map_eq_nil_iff.1 hnone

/-- Without a loop the words are written in order, one to a line, and nothing is complained
about. -/
theorem writeOrdered_of_complete (name : Chars) (n : Nat) {words : List Chars}
    (h : (sorting words).2 = []) :
    writeOrdered name (n + 1) false (itemsOf words []) = do
      for word in (sorting words).1 do Act.writeLine word
      return false := by
  rw [sorting] at h
  simp only [writeOrdered, sorting, h, List.mergeSort_nil]

end Shakedown.Utility.Precedence
