import Mathlib.Data.List.Basic
import Mathlib.Data.List.Induction
import Mathlib.Order.Nat
import Shakedown.Regex.Basic

/-!
# What regular expressions mean

A regular expression spans the parts of a text that its letters, choices and repetitions can be laid
along. For the expressions of the classical kind, in which nothing refers to a group and no empty
part is repeated, the places that are listed as ends are those of the parts that are spanned, and
the part that is found is the longest of those that begin first. All matches of a text, one after
the other, do not overlap, and none is missed.
-/

set_option autoImplicit false

namespace Shakedown

/-! ## Places -/

/-- A place in a text, without what groups have matched. -/
def Place.of (text : Chars) (i : Nat) : Place where
  before := (text.take i).getLast?
  rest := text.drop i
  offset := i

/-- A place stands somewhere in a text, whatever groups have matched. -/
structure Place.IsAt (text : Chars) (i : Nat) (p : Place) : Prop where
  before : p.before = (text.take i).getLast?
  rest : p.rest = text.drop i
  offset : p.offset = i
  le : i ≤ text.length

namespace Place

variable {text : Chars} {i : Nat} {p : Place}

/-- The beginning of a text is a place in it. -/
theorem isAt_start (text : Chars) : IsAt text 0 { rest := text } :=
  ⟨rfl, rfl, rfl, Nat.zero_le _⟩

/-- Behind the next character is the next place. -/
theorem IsAt.advance (h : p.IsAt text i) {c : Char} {rest : Chars} (hrest : p.rest = c :: rest) :
    (p.advance c rest).IsAt text (i + 1) := by
  have hdrop : text.drop i = c :: rest := h.rest.symm.trans hrest
  have hi : i < text.length := by
    by_contra hle
    rw [List.drop_eq_nil_of_le (by omega)] at hdrop
    cases hdrop
  rw [List.drop_eq_getElem_cons hi] at hdrop
  obtain ⟨hc, hbehind⟩ := List.cons.inj hdrop
  refine ⟨?_, hbehind.symm, congrArg (· + 1) h.offset, hi⟩
  rw [List.take_succ_eq_append_getElem hi, List.getLast?_concat, hc]
  rfl

/-- A place behind which nothing is left is at the end. -/
theorem IsAt.length_le (h : p.IsAt text i) (hrest : p.rest = []) : text.length ≤ i :=
  List.drop_eq_nil_iff.1 (h.rest.symm.trans hrest)

/-- What a group has matched does not matter. -/
theorem IsAt.withCapture (h : p.IsAt text i) (number : Nat) (start : Place) :
    (p.withCapture number start).IsAt text i :=
  ⟨h.before, h.rest, h.offset, h.le⟩

/-- A condition depends on the place only. -/
theorem IsAt.satisfies_eq (h : p.IsAt text i) (multiline : Bool) (b : Boundary) :
    p.satisfies multiline b = (Place.of text i).satisfies multiline b := by
  unfold satisfies
  rw [h.before, h.rest]
  rfl

/-- So many characters further on is a place, as far as the text goes. -/
theorem IsAt.forward (h : p.IsAt text i) {n : Nat} (hn : i + n ≤ text.length) :
    (p.forward n).IsAt text (i + n) := by
  induction n generalizing p i with
  | zero => exact h
  | succ n ih =>
    have hlength : p.rest.length = text.length - i := by rw [h.rest, List.length_drop]
    cases hrest : p.rest with
    | nil =>
      rw [hrest, List.length_nil] at hlength
      omega
    | cons c rest =>
      have hbehind := ih (h.advance hrest) (by omega)
      rw [Place.forward, hrest]
      rwa [Nat.add_right_comm] at hbehind

/-- The places that are kept are those that were kept before, and some of the others. -/
theorem mem_foldl_distinct (l kept : List Place) (q : Place)
    (hq : q ∈ l.foldl
      (fun kept p => if kept.any (·.offset = p.offset) then kept else p :: kept) kept) :
    q ∈ kept ∨ q ∈ l := by
  induction l generalizing kept with
  | nil => exact .inl hq
  | cons p l ih =>
    rcases ih _ hq with hq | hq
    · dsimp only at hq
      split at hq
      · exact .inl hq
      · rcases List.mem_cons.1 hq with rfl | hq
        · exact .inr List.mem_cons_self
        · exact .inl hq
    · exact .inr (List.mem_cons_of_mem p hq)

/-- A place without repeated offsets is one of those there were. -/
theorem mem_of_mem_distinct {l : List Place} {q : Place} (hq : q ∈ distinct l) : q ∈ l :=
  (mem_foldl_distinct l [] q (List.mem_reverse.1 hq)).resolve_left List.not_mem_nil

/-- Every offset there was is kept. -/
theorem exists_mem_foldl_distinct (l kept : List Place) (q : Place) (hq : q ∈ kept ∨ q ∈ l) :
    ∃ p ∈ l.foldl (fun kept p => if kept.any (·.offset = p.offset) then kept else p :: kept) kept,
      p.offset = q.offset := by
  induction l generalizing kept q with
  | nil => exact ⟨q, hq.resolve_right List.not_mem_nil, rfl⟩
  | cons p l ih =>
    rw [List.foldl_cons]
    by_cases hany : kept.any (·.offset = p.offset)
    · rw [if_pos hany]
      rcases hq with hq | hq
      · exact ih kept q (.inl hq)
      · rcases List.mem_cons.1 hq with rfl | hq
        · obtain ⟨first, hfirst, hoffset⟩ := List.any_eq_true.1 hany
          obtain ⟨last, hlast, hsame⟩ := ih kept first (.inl hfirst)
          exact ⟨last, hlast, hsame.trans (by simpa using hoffset)⟩
        · exact ih kept q (.inr hq)
    · rw [if_neg hany]
      refine ih (p :: kept) q ?_
      rcases hq with hq | hq
      · exact .inl (List.mem_cons_of_mem p hq)
      · rcases List.mem_cons.1 hq with rfl | hq
        · exact .inl List.mem_cons_self
        · exact .inr hq

/-- Of places with one offset, one is kept. -/
theorem exists_mem_distinct {l : List Place} {q : Place} (hq : q ∈ l) :
    ∃ p ∈ distinct l, p.offset = q.offset := by
  obtain ⟨p, hp, hoffset⟩ := exists_mem_foldl_distinct l [] q (.inr hq)
  exact ⟨p, List.mem_reverse.2 hp, hoffset⟩

end Place

/-- Places list the offsets for which a condition holds. -/
structure Lists (text : Chars) (S : Nat → Prop) (l : List Place) : Prop where
  sound : ∀ q ∈ l, ∃ j, S j ∧ q.IsAt text j
  complete : ∀ j, S j → ∃ q ∈ l, q.IsAt text j

namespace Lists

variable {text : Chars} {S T : Nat → Prop} {l l' : List Place}

/-- The same offsets are listed if a condition is told in other words. -/
theorem congr (h : Lists text S l) (hiff : ∀ j, S j ↔ T j) : Lists text T l := by
  obtain rfl : S = T := funext fun j => propext (hiff j)
  exact h

/-- A single place lists its offset. -/
theorem singleton {p : Place} {i : Nat} (h : p.IsAt text i) : Lists text (· = i) [p] where
  sound := by
    intro q hq
    obtain rfl := List.mem_singleton.1 hq
    exact ⟨i, rfl, h⟩
  complete := by
    rintro j rfl
    exact ⟨p, List.mem_singleton_self p, h⟩

/-- No place lists no offset. -/
theorem nil (h : ∀ j, ¬S j) : Lists text S [] where
  sound := by simp
  complete := fun j hj => absurd hj (h j)

/-- Two lists together list the offsets of both. -/
theorem append (hl : Lists text S l) (hl' : Lists text T l') :
    Lists text (fun j => S j ∨ T j) (l ++ l') where
  sound := by
    intro q hq
    rcases List.mem_append.1 hq with hq | hq
    · obtain ⟨j, hj, hat⟩ := hl.sound q hq
      exact ⟨j, .inl hj, hat⟩
    · obtain ⟨j, hj, hat⟩ := hl'.sound q hq
      exact ⟨j, .inr hj, hat⟩
  complete := by
    rintro j (hj | hj)
    · obtain ⟨q, hq, hat⟩ := hl.complete j hj
      exact ⟨q, List.mem_append_left _ hq, hat⟩
    · obtain ⟨q, hq, hat⟩ := hl'.complete j hj
      exact ⟨q, List.mem_append_right _ hq, hat⟩

/-- What is listed from each place is listed from all of them. -/
theorem flatMap {f : Place → List Place} {R : Nat → Nat → Prop} (hl : Lists text S l)
    (hf : ∀ k q, S k → q.IsAt text k → Lists text (R k) (f q)) :
    Lists text (fun j => ∃ k, S k ∧ R k j) (l.flatMap f) where
  sound := by
    intro q hq
    obtain ⟨p, hp, hq⟩ := List.mem_flatMap.1 hq
    obtain ⟨k, hk, hat⟩ := hl.sound p hp
    obtain ⟨j, hj, hqat⟩ := (hf k p hk hat).sound q hq
    exact ⟨j, ⟨k, hk, hj⟩, hqat⟩
  complete := by
    rintro j ⟨k, hk, hj⟩
    obtain ⟨p, hp, hat⟩ := hl.complete k hk
    obtain ⟨q, hq, hqat⟩ := (hf k p hk hat).complete j hj
    exact ⟨q, List.mem_flatMap.2 ⟨p, hp, hq⟩, hqat⟩

/-- Places that change in what groups have matched only list the same offsets. -/
theorem map {f : Place → Place} (hl : Lists text S l)
    (hf : ∀ j q, q.IsAt text j → (f q).IsAt text j) : Lists text S (l.map f) where
  sound := by
    intro q hq
    obtain ⟨p, hp, rfl⟩ := List.mem_map.1 hq
    obtain ⟨j, hj, hat⟩ := hl.sound p hp
    exact ⟨j, hj, hf j p hat⟩
  complete := by
    intro j hj
    obtain ⟨p, hp, hat⟩ := hl.complete j hj
    exact ⟨f p, List.mem_map_of_mem hp, hf j p hat⟩

/-- Places without repeated offsets list the same offsets. -/
theorem distinct (hl : Lists text S l) : Lists text S (Place.distinct l) where
  sound := fun q hq => hl.sound q (Place.mem_of_mem_distinct hq)
  complete := by
    intro j hj
    obtain ⟨q, hq, hat⟩ := hl.complete j hj
    obtain ⟨kept, hkept, hoffset⟩ := Place.exists_mem_distinct hq
    obtain ⟨k, hk, hat'⟩ := hl.sound kept (Place.mem_of_mem_distinct hkept)
    obtain rfl : k = j := by rw [← hat'.offset, hoffset, hat.offset]
    exact ⟨kept, hkept, hat'⟩

/-- Places that are tidied up list the same offsets. -/
theorem tidy (hl : Lists text S l) : Lists text S (Place.tidy l) := by
  unfold Place.tidy
  split
  · exact hl.distinct
  · exact hl

/-- Places that are tidied up in some cases list the same offsets. -/
theorem tidyFor (hl : Lists text S l) (after : List Place) :
    Lists text S (match after with
      | _ :: _ :: _ => Place.tidy l
      | _ => l) := by
  split
  · exact hl.tidy
  · exact hl

end Lists

/-! ## Expressions -/

/-- A relation taken so many times in a row. -/
def Iterated (R : Nat → Nat → Prop) : Nat → Nat → Nat → Prop
  | 0, i, j => i = j
  | n + 1, i, j => ∃ k, R i k ∧ Iterated R n k j

namespace Regex

/-- The parts of a text, from an offset to another, that an expression stands for. What refers to a
group stands for none. -/
def Spans (m : MatchStyle) (text : Chars) : Regex → Nat → Nat → Prop
  | .empty, i, j => i = j
  | .char s, i, j => (∃ c, text[i]? = some c ∧ m.has s c) ∧ j = i + 1
  | .boundary b, i, j => (Place.of text i).satisfies m.multiline b ∧ i = j
  | .seq r s, i, j => ∃ k, Spans m text r i k ∧ Spans m text s k j
  | .either r s, i, j => Spans m text r i j ∨ Spans m text s i j
  | .group _ r, i, j => Spans m text r i j
  | .same _, _, _ => False
  | .repeated r least most, i, j =>
    ∃ n, least ≤ n ∧ (∀ k ∈ most, n ≤ k) ∧ Iterated (Spans m text r) n i j

/-- Whether an expression stands for no empty part. -/
def Consumes : Regex → Prop
  | .char _ => True
  | .seq r s => r.Consumes ∨ s.Consumes
  | .either r s => r.Consumes ∧ s.Consumes
  | .group _ r => r.Consumes
  | .repeated r least _ => 0 < least ∧ r.Consumes
  | _ => False

/-- Whether nothing in an expression refers to a group, and nothing that may stand for an empty part
is repeated. -/
def IsClassic : Regex → Prop
  | .same _ => False
  | .seq r s => r.IsClassic ∧ s.IsClassic
  | .either r s => r.IsClassic ∧ s.IsClassic
  | .group _ r => r.IsClassic
  | .repeated r least most => r.IsClassic ∧ r.Consumes ∧ ∀ k ∈ most, least ≤ k
  | _ => True

variable {m : MatchStyle} {text : Chars} {r : Regex} {i j : Nat}

/-- A part does not end before it begins. -/
theorem Spans.le (h : Spans m text r i j) : i ≤ j := by
  induction r generalizing i j with
  | empty => exact Nat.le_of_eq h
  | char s => exact h.2 ▸ Nat.le_succ i
  | boundary b => exact Nat.le_of_eq h.2
  | seq r s ihr ihs =>
    obtain ⟨k, hr, hs⟩ := h
    exact (ihr hr).trans (ihs hs)
  | either r s ihr ihs => exact h.elim ihr ihs
  | group n r ih => exact ih h
  | same n => cases h
  | repeated r least most ih =>
    obtain ⟨n, -, -, hn⟩ := h
    induction n generalizing i with
    | zero => exact Nat.le_of_eq hn
    | succ n ihn =>
      obtain ⟨k, hk, hrest⟩ := hn
      exact (ih hk).trans (ihn hrest)

/-- What stands for no empty part ends behind the place where it begins. -/
theorem Spans.lt (hr : r.Consumes) (h : Spans m text r i j) : i < j := by
  induction r generalizing i j with
  | empty => cases hr
  | char s => exact h.2 ▸ Nat.lt_succ_self i
  | boundary b => cases hr
  | seq r s ihr ihs =>
    obtain ⟨k, hfirst, hsecond⟩ := h
    rcases hr with hr | hs
    · exact (ihr hr hfirst).trans_le hsecond.le
    · exact hfirst.le.trans_lt (ihs hs hsecond)
  | either r s ihr ihs => exact h.elim (ihr hr.1) (ihs hr.2)
  | group n r ih => exact ih hr h
  | same n => cases hr
  | repeated r least most ih =>
    obtain ⟨n, hleast, -, hn⟩ := h
    obtain ⟨n, rfl⟩ : ∃ k, n = k + 1 := ⟨n - 1, by have := hr.1; omega⟩
    obtain ⟨k, hk, hrest⟩ := hn
    have hbehind : Spans m text (.repeated r n n) k j := ⟨n, le_refl n, by simp, hrest⟩
    exact (ih hr.2 hk).trans_le hbehind.le

end Regex

/-! ## Repetitions -/

/-- Going further on by one character more is going on by one character then. -/
theorem Place.forward_succ (p : Place) (n : Nat) : p.forward (n + 1) = (p.forward n).forward 1 := by
  induction n generalizing p with
  | zero => rfl
  | succ n ih =>
    rw [Place.forward]
    cases hrest : p.rest with
    | nil => simp [Place.forward, hrest]
    | cons c rest =>
      rw [show p.forward (n + 1) = (p.advance c rest).forward n by simp [Place.forward, hrest]]
      exact ih (p.advance c rest)

/-- A row of characters of a set reaches so many places, the last one first. -/
theorem foldl_forward (p : Place) (n : Nat) :
    (List.range n).foldl (fun (found, q) _ => (q :: found, q.forward 1)) (([] : List Place), p) =
      (((List.range n).map p.forward).reverse, p.forward n) := by
  induction n with
  | zero => rfl
  | succ n ih =>
    rw [List.range_succ, List.foldl_append, ih, List.map_append, List.reverse_append,
      p.forward_succ n]
    rfl

/-- The places that a row of characters reaches are those of at least and at most so many. -/
theorem mem_runOf_iff {m : MatchStyle} {s : CharSet} {least : Nat} {most : Option Nat}
    {p q : Place} : q ∈ runOf m s least most p ↔
      ∃ n, least ≤ n ∧ n ≤ (p.rest.takeWhile (m.has s)).length ∧ (∀ k ∈ most, n ≤ k) ∧
        q = p.forward n := by
  have hlongest (n : Nat) :
      n ≤ most.elim (p.rest.takeWhile (m.has s)).length (min (p.rest.takeWhile (m.has s)).length) ↔
        n ≤ (p.rest.takeWhile (m.has s)).length ∧ ∀ k ∈ most, n ≤ k := by
    cases most with
    | none => simp
    | some k =>
      simp only [Option.elim_some, Option.mem_def, Option.some.injEq, forall_eq', Nat.le_min]
  simp only [runOf, foldl_forward, List.take_reverse, List.mem_reverse, List.length_map,
    List.length_range, ← List.map_drop, List.mem_map]
  simp only [List.range_eq_range', List.drop_range', List.mem_range'_1]
  constructor
  · rintro ⟨n, hn, rfl⟩
    obtain ⟨hrun, hmost⟩ := (hlongest n).1 (by omega)
    exact ⟨n, by omega, hrun, hmost, rfl⟩
  · rintro ⟨n, hleast, hrun, hmost, rfl⟩
    have hn := (hlongest n).2 ⟨hrun, hmost⟩
    exact ⟨n, by omega, rfl⟩

/-- So many characters of a set stand in a row exactly if the row is as long. -/
theorem iterated_char_iff {m : MatchStyle} {s : CharSet} {text : Chars} {n i j : Nat} :
    Iterated (Regex.Spans m text (.char s)) n i j ↔
      j = i + n ∧ n ≤ ((text.drop i).takeWhile (m.has s)).length := by
  induction n generalizing i with
  | zero => simp [Iterated, eq_comm]
  | succ n ih =>
    rw [Iterated]
    constructor
    · rintro ⟨_, ⟨⟨c, hc, hs⟩, rfl⟩, hrest⟩
      obtain ⟨rfl, hn⟩ := ih.1 hrest
      obtain ⟨hi, rfl⟩ := List.getElem?_eq_some_iff.1 hc
      rw [List.drop_eq_getElem_cons hi, List.takeWhile_cons_of_pos hs, List.length_cons]
      exact ⟨by omega, by omega⟩
    · rintro ⟨rfl, hn⟩
      by_cases hi : i < text.length
      · rw [List.drop_eq_getElem_cons hi] at hn
        by_cases hs : m.has s text[i]
        · rw [List.takeWhile_cons_of_pos hs, List.length_cons] at hn
          exact ⟨i + 1, ⟨⟨text[i], List.getElem?_eq_getElem hi, hs⟩, rfl⟩,
            ih.2 ⟨by omega, by omega⟩⟩
        · rw [List.takeWhile_cons_of_neg hs, List.length_nil] at hn
          omega
      · rw [List.drop_eq_nil_of_le (by omega), List.takeWhile_nil, List.length_nil] at hn
        omega

/-- A row of characters lists the offsets of those it spans. -/
theorem lists_runOf {m : MatchStyle} {s : CharSet} {text : Chars} (least : Nat) (most : Option Nat)
    {i : Nat} {p : Place} (hp : p.IsAt text i) :
    Lists text (Regex.Spans m text (.repeated (.char s) least most) i)
      (runOf m s least most p) := by
  have hat {n : Nat} (hn : n ≤ ((text.drop i).takeWhile (m.has s)).length) :
      (p.forward n).IsAt text (i + n) := by
    have hrow := (List.takeWhile_prefix (m.has s) (l := text.drop i)).length_le
    have hle := hp.le
    rw [List.length_drop] at hrow
    exact hp.forward (by omega)
  constructor
  · intro q hq
    obtain ⟨n, hleast, hrow, hmost, rfl⟩ := mem_runOf_iff.1 hq
    rw [hp.rest] at hrow
    exact ⟨i + n, ⟨n, hleast, hmost, iterated_char_iff.2 ⟨rfl, hrow⟩⟩, hat hrow⟩
  · rintro j ⟨n, hleast, hmost, hn⟩
    obtain ⟨rfl, hrow⟩ := iterated_char_iff.1 hn
    refine ⟨p.forward n, mem_runOf_iff.2 ⟨n, hleast, ?_, hmost, rfl⟩, hat hrow⟩
    rwa [hp.rest]

section Repeated

variable {text : Chars} {step : Place → List Place} {R : Nat → Nat → Prop}

/-- One step and then so many more are so many steps but none. -/
theorem exists_step_iff {i j least : Nat} {most : Option Nat} (hzero : most ≠ some 0) :
    (∃ k, R i k ∧
      ∃ n, least - 1 ≤ n ∧ (∀ b ∈ most.map (· - 1), n ≤ b) ∧ Iterated R n k j) ↔
      ∃ n, 0 < n ∧ least ≤ n ∧ (∀ b ∈ most, n ≤ b) ∧ Iterated R n i j := by
  constructor
  · rintro ⟨k, hk, n, hleast, hn, hrest⟩
    refine ⟨n + 1, Nat.succ_pos n, by omega, fun b hb => ?_, k, hk, hrest⟩
    have hpos : b ≠ 0 := fun hb0 => hzero (hb0 ▸ hb)
    have hle := hn (b - 1) (Option.mem_map_of_mem _ hb)
    omega
  · rintro ⟨n, hpos, hleast, hn, hrest⟩
    obtain ⟨n, rfl⟩ := Nat.exists_eq_succ_of_ne_zero hpos.ne'
    obtain ⟨k, hk, hrest⟩ := hrest
    refine ⟨k, hk, n, by omega, fun b hb => ?_, hrest⟩
    obtain ⟨a, ha, rfl⟩ := Option.map_eq_some_iff.1 hb
    have hle := hn a ha
    omega

/-- A step that leads on, taken again and again, leads where the relation does that it lists. -/
theorem lists_repeatStep (hstep : ∀ i p, p.IsAt text i → Lists text (R i) (step p))
    (hlt : ∀ i j, R i j → i < j) (n least : Nat) (most : Option Nat) (hmost : ∀ k ∈ most, least ≤ k)
    {i : Nat} {p : Place} (hp : p.IsAt text i) (hn : text.length - i < n) :
    Lists text (fun j => ∃ k, least ≤ k ∧ (∀ b ∈ most, k ≤ b) ∧ Iterated R k i j)
      (repeatStep step n least most p) := by
  induction n generalizing least most i p with
  | zero => omega
  | succ n ih =>
    rw [repeatStep]
    by_cases hzero : most = some 0
    · have hleast : least = 0 := Nat.le_zero.1 (hmost 0 hzero)
      rw [if_pos hzero]
      refine (Lists.singleton hp).congr fun j => ?_
      simp [hzero, hleast, Iterated, eq_comm]
    rw [if_neg hzero]
    have hfurther := (hstep i p hp).tidy.flatMap (f := fun q =>
      if q.offset = p.offset then (if least = 0 then [] else [q])
      else repeatStep step n (least - 1) (most.map (· - 1)) q) fun k q hk hq => by
        have hik := hlt i k hk
        have hne : q.offset ≠ p.offset := by
          rw [hq.offset, hp.offset]
          exact hik.ne'
        have hmost' : ∀ b ∈ most.map (· - 1), least - 1 ≤ b := by
          intro b hb
          obtain ⟨a, ha, rfl⟩ := Option.map_eq_some_iff.1 hb
          exact Nat.sub_le_sub_right (hmost a ha) 1
        have hle := hq.le
        rw [if_neg hne]
        exact ih (least - 1) (most.map (· - 1)) hmost' hq (by omega)
    have hreached := (hfurther.congr fun j => exists_step_iff hzero).tidyFor (Place.tidy (step p))
    dsimp only
    by_cases hleast : least = 0
    · rw [if_pos hleast]
      refine (hreached.append (Lists.singleton hp)).congr fun j => ?_
      constructor
      · rintro (⟨n, -, hn⟩ | rfl)
        · exact ⟨n, hn⟩
        · exact ⟨0, by omega, by simp, rfl⟩
      · rintro ⟨n, hle, hn, hrow⟩
        rcases Nat.eq_zero_or_pos n with rfl | hpos
        · exact .inr hrow.symm
        · exact .inl ⟨n, hpos, hle, hn, hrow⟩
    · rw [if_neg hleast]
      refine hreached.congr fun j => ?_
      constructor
      · exact fun ⟨n, _, hn⟩ => ⟨n, hn⟩
      · exact fun ⟨n, hle, hn⟩ => ⟨n, by omega, hle, hn⟩

end Repeated

/-! ## Ends and matches -/

namespace Regex

variable {m : MatchStyle} {text : Chars} {r : Regex}

/-- The ends of an expression of the classical kind are those of the parts that it stands for. -/
theorem lists_ends (hr : r.IsClassic) {i : Nat} {p : Place} (hp : p.IsAt text i) :
    Lists text (Spans m text r i) (ends m r p) := by
  have hfirst : text[i]? = p.rest.head? := by rw [hp.rest, List.head?_drop]
  induction r generalizing i p with
  | empty => exact (Lists.singleton hp).congr fun j => eq_comm
  | char s =>
    rw [ends]
    cases hrest : p.rest with
    | nil =>
      rw [hrest, List.head?_nil] at hfirst
      exact Lists.nil fun j h => by simpa [hfirst] using h.1
    | cons c rest =>
      rw [hrest, List.head?_cons] at hfirst
      dsimp only
      split
      · rename_i hs
        exact (Lists.singleton (hp.advance hrest)).congr fun j => by simp [Spans, hfirst, hs]
      · rename_i hs
        exact Lists.nil fun j h => hs (by simpa [hfirst] using h.1)
  | boundary b =>
    rw [ends, hp.satisfies_eq]
    split
    · rename_i hb
      exact (Lists.singleton hp).congr fun j => by simp [Spans, hb, eq_comm]
    · rename_i hb
      exact Lists.nil fun j h => hb h.1
  | seq r s ihr ihs =>
    have hboth := (ihr hr.1 hp hfirst).flatMap (f := ends m s) fun k q _ hq =>
      ihs hr.2 hq (by rw [hq.rest, List.head?_drop])
    unfold ends
    split
    · rename_i q hq
      rw [hq, List.flatMap_singleton] at hboth
      exact hboth
    · exact hboth.tidy
  | either r s ihr ihs => exact ((ihr hr.1 hp hfirst).append (ihs hr.2 hp hfirst)).tidy
  | group n r ih => exact (ih hr hp hfirst).map fun j q hq => hq.withCapture n p
  | same n => cases hr
  | repeated r least most ih =>
    have hrow := lists_repeatStep (fun k q hq => ih hr.1 hq (by rw [hq.rest, List.head?_drop]))
      (fun k j h => h.lt hr.2.1) (p.rest.length + least + 1) least most hr.2.2 hp
      (by rw [hp.rest, List.length_drop]; omega)
    cases r with
    | char s => exact lists_runOf least most hp
    | _ => exact hrow

/-! ## Searching -/

/-- The longest of some places is one of them, and no other is longer. -/
theorem longest_concat (places : List Place) (p : Place) :
    longest (places ++ [p]) =
      match longest places with
      | none => some p
      | some q => if p.offset > q.offset then some p else some q := by
  rw [longest, List.foldl_append, ← longest]
  cases longest places <;> rfl

/-- There is a longest place if there are any places. -/
theorem longest_eq_none {places : List Place} (h : longest places = none) : places = [] := by
  rcases List.eq_nil_or_concat' places with rfl | ⟨front, p, rfl⟩
  · rfl
  · rw [longest_concat] at h
    split at h
    · cases h
    · split at h <;> cases h

/-- The longest of some places is one of them, and no other is longer. -/
theorem longest_spec {places : List Place} {q : Place} (h : longest places = some q) :
    q ∈ places ∧ ∀ p ∈ places, p.offset ≤ q.offset := by
  induction places using List.reverseRecOn generalizing q with
  | nil => cases h
  | append_singleton front p ih =>
    rw [longest_concat] at h
    cases hfront : longest front with
    | none =>
      obtain rfl : p = q := by simpa [hfront] using h
      simp [longest_eq_none hfront]
    | some best =>
      obtain ⟨hmem, hbest⟩ := ih hfront
      rw [hfront] at h
      dsimp only at h
      split at h
      · obtain rfl := Option.some.inj h
        refine ⟨by simp, fun p' hp' => ?_⟩
        rcases List.mem_append.1 hp' with hp' | hp'
        · have hle := hbest p' hp'
          omega
        · rw [List.mem_singleton.1 hp']
      · obtain rfl := Option.some.inj h
        refine ⟨List.mem_append_left _ hmem, fun p' hp' => ?_⟩
        rcases List.mem_append.1 hp' with hp' | hp'
        · exact hbest p' hp'
        · rw [List.mem_singleton.1 hp']
          omega

/-- A match is the first from an offset on: it is spanned, nothing that is spanned begins before it,
and nothing that begins with it is longer. -/
structure IsFirst (m : MatchStyle) (text : Chars) (r : Regex) (i : Nat) (f : Match) : Prop where
  le : i ≤ f.start
  isAt : f.stop.IsAt text f.stop.offset
  spans : Spans m text r f.start f.stop.offset
  first : ∀ k j, i ≤ k → k ≤ text.length → Spans m text r k j →
    f.start ≤ k ∧ (k = f.start → j ≤ f.stop.offset)

/-- Nothing that begins with the first match is longer. -/
theorem IsFirst.longest {i : Nat} {f : Match} (h : IsFirst m text r i f) (j : Nat)
    (hj : Spans m text r f.start j) : j ≤ f.stop.offset :=
  (h.first f.start j h.le (h.spans.le.trans h.isAt.le) hj).2 rfl

/-- What is found from a place on is the first match, and nothing is found only if there is none. -/
theorem searchFrom_spec (hr : r.IsClassic) (n : Nat) {i : Nat} {p : Place} (hp : p.IsAt text i)
    (hn : text.length - i < n) :
    match searchFrom m r (fun _ => true) (fun _ => true) n p with
    | none => ∀ k j, i ≤ k → k ≤ text.length → ¬Spans m text r k j
    | some f => IsFirst m text r i f := by
  induction n generalizing i p with
  | zero => omega
  | succ n ih =>
    have hends := lists_ends hr hp (m := m)
    have hle := hp.le
    rw [searchFrom, if_pos rfl, matchAt, List.filter_eq_self.2 fun _ _ => rfl]
    cases hlongest : longest (ends m r p) with
    | some stop =>
      obtain ⟨hstop, hbest⟩ := longest_spec hlongest
      obtain ⟨j, hj, hat⟩ := hends.sound stop hstop
      obtain rfl := hat.offset
      dsimp only
      rw [hp.offset]
      refine ⟨le_refl i, hat, hj, fun k j' hk _ hspan => ⟨hk, ?_⟩⟩
      rintro rfl
      obtain ⟨q, hq, hqat⟩ := hends.complete j' hspan
      exact hqat.offset ▸ hbest q hq
    | none =>
      have hnone (j : Nat) : ¬Spans m text r i j := by
        intro hspan
        obtain ⟨q, hq, -⟩ := hends.complete j hspan
        rw [longest_eq_none hlongest] at hq
        cases hq
      dsimp only
      cases hrest : p.rest with
      | nil =>
        have hend := hp.length_le hrest
        intro k j hk hk' hspan
        obtain rfl : k = i := by omega
        exact hnone j hspan
      | cons c rest =>
        have hnext := (hp.advance hrest).le
        have hlater := ih (hp.advance hrest) (by omega)
        dsimp only
        revert hlater
        cases searchFrom m r (fun _ => true) (fun _ => true) n (p.advance c rest) with
        | none =>
          intro hlater k j hk hk' hspan
          rcases Nat.eq_or_lt_of_le hk with rfl | hk
          · exact hnone j hspan
          · exact hlater k j hk hk' hspan
        | some f =>
          intro hlater
          refine ⟨Nat.le_of_succ_le hlater.le, hlater.isAt, hlater.spans, ?_⟩
          intro k j hk hk' hother
          rcases Nat.eq_or_lt_of_le hk with rfl | hk
          · exact absurd hother (hnone j)
          · exact hlater.first k j hk hk' hother

/-- A search finds the first match, and nothing only if there is none. -/
theorem search_spec (hr : r.IsClassic) {i : Nat} {p : Place} (hp : p.IsAt text i) :
    match search m r p with
    | none => ∀ k j, i ≤ k → k ≤ text.length → ¬Spans m text r k j
    | some f => IsFirst m text r i f := by
  refine searchFrom_spec hr _ ⟨hp.before, hp.rest, hp.offset, hp.le⟩ ?_
  rw [hp.rest, List.length_drop]
  exact Nat.lt_succ_self _

/-- There is a match in a text exactly if some part of it is spanned. -/
theorem occursIn_iff (hr : r.IsClassic) (text : Chars) :
    occursIn m r text ↔ ∃ i j, i ≤ text.length ∧ Spans m text r i j := by
  have hspec := search_spec hr (Place.isAt_start text) (m := m)
  rw [occursIn, find]
  revert hspec
  cases search m r { rest := text } with
  | none => exact fun hnone => by simpa using fun i hi j => hnone i j (Nat.zero_le i) hi
  | some f =>
    exact fun hfirst => by
      simpa using ⟨f.start, hfirst.spans.le.trans hfirst.isAt.le, _, hfirst.spans⟩

/-- The match that is found is the longest of those that begin first. -/
theorem find_first (hr : r.IsClassic) {f : Match} (h : find m r text = some f) :
    IsFirst m text r 0 f := by
  have hspec := search_spec hr (Place.isAt_start text) (m := m)
  rw [find] at h
  rwa [h] at hspec

/-! ## One match after the other -/

variable {i j : Nat}

/-- Matches of a text from an offset on: each begins behind the offset at which the one before it
has ended, or there. -/
def LaidOut (text : Chars) : Nat → List Match → Prop
  | _, [] => True
  | i, f :: more =>
    i ≤ f.start ∧ f.start ≤ f.stop.offset ∧ f.stop.IsAt text f.stop.offset ∧
      LaidOut text f.stop.offset more

/-- Matches that are laid out from an offset on are laid out from one in front of it. -/
theorem LaidOut.mono {found : List Match} (h : LaidOut text j found) (hle : i ≤ j) :
    LaidOut text i found := by
  cases found with
  | nil => trivial
  | cons f more => exact ⟨hle.trans h.1, h.2⟩

/-- Some of the matches that are laid out are laid out. -/
theorem LaidOut.sublist {found chosen : List Match} (h : LaidOut text i found)
    (hsublist : chosen.Sublist found) : LaidOut text i chosen := by
  induction hsublist generalizing i with
  | slnil => trivial
  | cons f _ ih => exact (ih h.2.2.2).mono (h.1.trans h.2.1)
  | cons_cons f _ ih => exact ⟨h.1, h.2.1, h.2.2.1, ih h.2.2.2⟩

/-- Matches that are laid out begin at the offset or behind it. -/
theorem LaidOut.le_start {found : List Match} (h : LaidOut text i found) {f : Match}
    (hf : f ∈ found) : i ≤ f.start :=
  ((h.sublist (List.singleton_sublist.2 hf)) : LaidOut text i [f]).1

/-- The matches that a sweep over a text from an offset on meets. `touched` tells that a match ends
at the offset, where no empty one may follow. -/
structure Sweep (m : MatchStyle) (text : Chars) (r : Regex) (touched : Bool) (i : Nat)
    (found : List Match) : Prop where
  /-- They do not overlap. -/
  laidOut : LaidOut text i found
  /-- Each is spanned, and is the longest that begins where it begins. -/
  longest : ∀ f ∈ found, Spans m text r f.start f.stop.offset ∧
    ∀ j, Spans m text r f.start j → j ≤ f.stop.offset
  /-- An empty one does not stand directly behind another one. -/
  apart : touched → ∀ f ∈ found, f.start = i → f.start < f.stop.offset
  /-- A match reaches every offset at which a spanned part begins, and goes on behind it unless that
  part is empty. An empty part directly behind another match does not count. -/
  covers : ∀ k j, i ≤ k → k ≤ text.length → Spans m text r k j → (touched → k = i → k < j) →
    ∃ f ∈ found, f.start ≤ k ∧ k ≤ f.stop.offset ∧ (k < j → k < f.stop.offset)

namespace Sweep

variable {touched : Bool} {found : List Match} {f : Match}

/-- A sweep meets nothing where nothing is spanned. -/
theorem nil (h : ∀ k j, i ≤ k → k ≤ text.length → Spans m text r k j → touched ∧ k = i ∧ j = k) :
    Sweep m text r touched i [] where
  laidOut := trivial
  longest := by simp
  apart := by simp
  covers := by
    intro k j hk hk' hspan hnew
    obtain ⟨htouched, rfl, rfl⟩ := h k j hk hk' hspan
    exact absurd (hnew htouched rfl) (Nat.lt_irrefl _)

/-- Where a match has ended and only an empty part begins, a sweep goes on with the next offset. -/
theorem skip (h : Sweep m text r false (i + 1) found) (hempty : ∀ j, Spans m text r i j → j = i) :
    Sweep m text r true i found where
  laidOut := h.laidOut.mono (Nat.le_succ i)
  longest := h.longest
  apart := by
    rintro - f hf rfl
    exact absurd (h.laidOut.le_start hf) (Nat.not_succ_le_self _)
  covers := by
    intro k j hk hk' hspan hnew
    rcases Nat.eq_or_lt_of_le hk with rfl | hk
    · exact absurd (hempty j hspan) (Nat.ne_of_gt (hnew rfl rfl))
    · exact h.covers k j hk hk' hspan nofun

/-- Before an empty match a sweep meets nothing else, and behind it what it meets from the next
offset on. -/
theorem cons_empty (hfirst : IsFirst m text r i f) (hempty : f.stop.offset = f.start)
    (hnew : touched → f.start ≠ i) (h : Sweep m text r false (f.start + 1) found) :
    Sweep m text r touched i (f :: found) where
  laidOut := ⟨hfirst.le, hempty.ge, hfirst.isAt, h.laidOut.mono (hempty ▸ Nat.le_succ _)⟩
  longest := List.forall_mem_cons.2 ⟨⟨hfirst.spans, hfirst.longest⟩, h.longest⟩
  apart := by
    rintro htouched g (_ | ⟨_, hg⟩) rfl
    · exact absurd rfl (hnew htouched)
    · have hlater := h.laidOut.le_start hg
      have hle := hfirst.le
      omega
  covers := by
    intro k j hk hk' hspan _
    obtain ⟨hle, hbound⟩ := hfirst.first k j hk hk' hspan
    rcases Nat.eq_or_lt_of_le hle with rfl | hlt
    · have hj := hbound rfl
      exact ⟨f, List.mem_cons_self, le_rfl, hempty.ge, by omega⟩
    · obtain ⟨g, hg, hcovers⟩ := h.covers k j hlt hk' hspan nofun
      exact ⟨g, List.mem_cons_of_mem f hg, hcovers⟩

/-- Behind a match that is not empty a sweep goes on where it has ended. -/
theorem cons (hfirst : IsFirst m text r i f) (hlt : f.start < f.stop.offset)
    (h : Sweep m text r true f.stop.offset found) : Sweep m text r touched i (f :: found) where
  laidOut := ⟨hfirst.le, hlt.le, hfirst.isAt, h.laidOut⟩
  longest := List.forall_mem_cons.2 ⟨⟨hfirst.spans, hfirst.longest⟩, h.longest⟩
  apart := by
    rintro - g (_ | ⟨_, hg⟩) rfl
    · exact hlt
    · have hlater := h.laidOut.le_start hg
      have hle := hfirst.le
      omega
  covers := by
    intro k j hk hk' hspan _
    obtain ⟨hle, -⟩ := hfirst.first k j hk hk' hspan
    rcases Nat.lt_or_ge k f.stop.offset with hinside | hbehind
    · exact ⟨f, List.mem_cons_self, hle, hinside.le, fun _ => hinside⟩
    · by_cases hagain : k = f.stop.offset ∧ j = k
      · exact ⟨f, List.mem_cons_self, hle, hagain.1.le, by omega⟩
      · have hspanned := hspan.le
        obtain ⟨g, hg, hcovers⟩ := h.covers k j hbehind hk' hspan fun _ hk => by omega
        exact ⟨g, List.mem_cons_of_mem f hg, hcovers⟩

end Sweep

/-- The matches that are listed from a place on are those of a sweep. Every one of them takes one
step, and so does an empty one that is passed over. -/
theorem sweep_matches_ (hr : r.IsClassic) (n : Nat) {touched : Bool} {p : Place}
    (hp : p.IsAt text i) (hn : 2 * (text.length - i) + touched.toNat < n) :
    Sweep m text r touched i (matches_ m r n touched p) := by
  induction n generalizing touched i p with
  | zero => omega
  | succ n ih =>
    have hspec := search_spec hr hp (m := m)
    rw [matches_]
    cases hsearch : search m r p with
    | none =>
      rw [hsearch] at hspec
      exact .nil fun k j hk hk' hspan => absurd hspan (hspec k j hk hk')
    | some f =>
      rw [hsearch] at hspec
      have hstop := hspec.isAt.le
      have hspans := hspec.spans.le
      have hle := hspec.le
      dsimp only
      split
      case isTrue hskip =>
        simp only [Bool.and_eq_true, decide_eq_true_eq] at hskip
        obtain ⟨⟨hempty, htouched⟩, hstart⟩ := hskip
        obtain rfl : f.start = i := hstart.trans hp.offset
        have hnone (j : Nat) (hj : Spans m text r f.start j) : j = f.start :=
          Nat.le_antisymm (hempty ▸ hspec.longest j hj) hj.le
        subst htouched
        cases hrest : p.rest with
        | nil =>
          have hend := hp.length_le hrest
          refine .nil fun k j hk hk' hspan => ?_
          obtain rfl : k = f.start := by omega
          exact ⟨rfl, rfl, hnone j hspan⟩
        | cons c rest =>
          have hnext := hp.advance hrest
          have hbound := hnext.le
          exact (ih hnext (by simp at hn ⊢; omega)).skip hnone
      case isFalse hskip =>
        split
        case isTrue hempty =>
          have hempty : f.stop.offset = f.start := by simpa using hempty
          have hnew : touched → f.start ≠ i := by
            rintro rfl rfl
            simp [hempty, hp.offset] at hskip
          cases hrest : f.stop.rest with
          | nil =>
            have hend := hspec.isAt.length_le hrest
            refine .cons_empty hspec hempty hnew (.nil fun k j hk hk' _ => ?_)
            omega
          | cons c rest =>
            have hnext := hspec.isAt.advance hrest
            have hbound := hnext.le
            rw [hempty] at hnext hbound
            exact .cons_empty hspec hempty hnew (ih hnext (by simp; omega))
        case isFalse hne =>
          have hlt : f.start < f.stop.offset :=
            Nat.lt_of_le_of_ne hspans fun heq => hne (by simpa using heq.symm)
          have hbool := Bool.toNat_le touched
          exact .cons hspec hlt (ih hspec.isAt (by simp; omega))

/-- All matches in a text are those of a sweep from its beginning. -/
theorem sweep_allMatches (hr : r.IsClassic) (text : Chars) :
    Sweep m text r false 0 (allMatches m r text) :=
  sweep_matches_ hr _ (Place.isAt_start text) (by simp)

/-- The first of all matches is the one that is found. -/
theorem head?_allMatches (text : Chars) : (allMatches m r text).head? = find m r text := by
  rw [allMatches, matches_, find]
  cases search m r { rest := text } with
  | none => rfl
  | some f =>
    dsimp only
    rw [if_neg (by simp)]
    split
    · split <;> rfl
    · rfl

end Regex

end Shakedown
