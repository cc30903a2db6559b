import Shakedown.Proofs.Text.Encoding

/-!
# Where a reading may be cut

Bytes that are cut in two are read in two parts. The reader of the second part starts between two
characters, also if the cut fell inside of one. Then the bytes of that character which are left over
are invalid one by one, and behind them both readers stand at the same place.

`exists_resume` follows the two readers from the cut up to there: one that is in the middle of a
character, in any state that a reader can be in, and one that has just started. Everything else is
read off it. A character owes at most three bytes behind its first, so at most three are lost.
-/

set_option autoImplicit false

namespace Shakedown

namespace Utf8

/-! ## A reading from any state -/

/-- What comes out of bytes that are met in a state, up to their end. -/
def State.read (s : State) : Bytes → List (Option Char)
  | [] => s.finish
  | b :: more => (s.feed b).1 ++ (s.feed b).2.read more

/-- What has come out of bytes that are met in a state, before their end is known. -/
def State.output (s : State) : Bytes → List (Option Char)
  | [] => []
  | b :: more => (s.feed b).1 ++ (s.feed b).2.output more

/-- Where the reader stands behind bytes that are met in a state. -/
def State.behind (s : State) : Bytes → State
  | [] => s
  | b :: more => (s.feed b).2.behind more

/-- The symbols of bytes are what a reader takes them for from the start. -/
theorem symbols_eq_read (bytes : Bytes) : symbols bytes = State.start.read bytes := by
  -- The reader collects what comes out backwards, so the front is kept apart in the induction.
  have hscan : ∀ (bytes : Bytes) (emitted : List (Option Char)) (s : State),
      ((bytes.foldl Scan.feed ⟨emitted, s⟩).state.finish ++
        (bytes.foldl Scan.feed ⟨emitted, s⟩).emitted).reverse =
          emitted.reverse ++ s.read bytes := by
    intro bytes
    induction bytes with
    | nil =>
      intro emitted s
      cases s <;> simp [State.read, State.finish]
    | cons b more ih =>
      intro emitted s
      rw [List.foldl_cons]
      simp only [Scan.feed] at ih ⊢
      rw [ih, State.read, List.reverse_append, List.reverse_reverse, List.append_assoc]
  exact hscan bytes [] .start

/-- Bytes behind others are read from the state that these lead to. -/
theorem State.read_append (s : State) (front back : Bytes) :
    s.read (front ++ back) = s.output front ++ (s.behind front).read back := by
  induction front generalizing s with
  | nil => rfl
  | cons b front ih =>
    rw [List.cons_append, State.read, State.output, State.behind, ih, List.append_assoc]

/-- What is read of bytes is what comes out of them and how the last character ends. -/
theorem State.read_eq (s : State) (bytes : Bytes) :
    s.read bytes = s.output bytes ++ (s.behind bytes).finish := by
  have h := s.read_append bytes []
  rwa [List.append_nil] at h

/-! ## Bytes inside of characters -/

/-- Whether a byte can only stand inside of a character. -/
def IsInner (b : UInt8) : Prop :=
  0x80 ≤ b.toNat ∧ b.toNat ≤ 0xBF

/-- How many bytes are owed in a state. -/
def State.owed : State → Nat
  | .start => 0
  | .tail more _ _ _ => more + 1

/-- Whether a reader can be in a state: three bytes are owed at most, the next is an inner one, and
what is read so far leads to no ASCII character. -/
def State.Sound : State → Prop
  | .start => True
  | .tail more low high acc => more ≤ 2 ∧ 0x80 ≤ low.toNat ∧ high.toNat ≤ 0xBF ∧
      (2 ≤ acc ∨ 1 ≤ more ∧ 0x82 ≤ acc * 64 + low.toNat)

/-- Whether a byte goes on with the character under way. -/
def State.GoesOn : State → UInt8 → Prop
  | .start, _ => False
  | .tail _ low high _, b => low ≤ b ∧ b ≤ high

/-- At most three bytes are owed. -/
theorem State.Sound.owed_le {s : State} (hs : s.Sound) : s.owed ≤ 3 := by
  cases s with
  | start => simp [State.owed]
  | tail more low high acc =>
    have hmore : more ≤ 2 := hs.1
    simp only [State.owed]
    omega

/-- A byte that goes on with a character can only stand inside of one. -/
theorem State.Sound.isInner {s : State} (hs : s.Sound) {b : UInt8} (hb : s.GoesOn b) :
    IsInner b := by
  cases s with
  | start => exact hb.elim
  | tail more low high acc =>
    have hlow := UInt8.le_iff_toNat_le.1 hb.1
    have hhigh := UInt8.le_iff_toNat_le.1 hb.2
    obtain ⟨-, hlow', hhigh', -⟩ := hs
    constructor <;> omega

/-- Any first byte leads to a state that a reader can be in. -/
theorem sound_first (b : UInt8) : (first b).2.Sound := by
  unfold first
  simp only
  split
  · trivial
  split
  · trivial
  split
  · exact ⟨by omega, by decide, by decide, by omega⟩
  split
  · refine ⟨by omega, by split <;> decide, by split <;> decide, .inr ⟨by omega, ?_⟩⟩
    -- The first of these bytes brings no bits, but a higher second byte.
    split
    · simp
    · simp
      omega
  split
  · refine ⟨by omega, by split <;> decide, by split <;> decide, .inr ⟨by omega, ?_⟩⟩
    split
    · simp
    · simp
      omega
  · trivial

/-- A byte owed leads to a state that a reader can be in, with one byte owed less. -/
theorem State.Sound.next {more : Nat} {low high : UInt8} {acc : Nat}
    (hs : (State.tail (more + 1) low high acc).Sound) {b : UInt8} (hb : low ≤ b ∧ b ≤ high) :
    (State.tail more 0x80 0xBF (acc * 64 + (b.toNat - 0x80))).Sound := by
  obtain ⟨hmore, hlow, -, hacc⟩ := hs
  have hb' := UInt8.le_iff_toNat_le.1 hb.1
  exact ⟨by omega, by decide, by decide, .inl (by omega)⟩

/-- Every byte leads to a state that a reader can be in. -/
theorem State.Sound.feed {s : State} (hs : s.Sound) (b : UInt8) : (s.feed b).2.Sound := by
  cases s with
  | start => exact sound_first b
  | tail more low high acc =>
    by_cases hb : low ≤ b ∧ b ≤ high
    · cases more with
      | zero => simp [State.feed, hb, State.Sound]
      | succ more =>
        simp only [State.feed, if_pos hb]
        exact hs.next hb
    · simp only [State.feed, if_neg hb]
      exact sound_first b

/-- Bytes lead to a state that a reader can be in. -/
theorem State.Sound.behind {s : State} (hs : s.Sound) (bytes : Bytes) : (s.behind bytes).Sound := by
  induction bytes generalizing s with
  | nil => exact hs
  | cons b more ih => exact ih (hs.feed b)

/-- A byte that does not go on with the character under way ends it, and is read like the first of
all. -/
theorem State.read_of_not_goesOn {s : State} {b : UInt8} (hb : ¬s.GoesOn b) (more : Bytes) :
    s.read (b :: more) = s.finish ++ State.start.read (b :: more) := by
  cases s with
  | start => rfl
  | tail owed low high acc =>
    have hfeed : (State.tail owed low high acc).feed b = (none :: (first b).1, (first b).2) := by
      simp only [State.feed, if_neg (show ¬(low ≤ b ∧ b ≤ high) from hb)]
    rw [State.read, State.read, hfeed]
    rfl

/-- An inner byte without a character around it is invalid by itself. -/
theorem read_inner {b : UInt8} (hb : IsInner b) (more : Bytes) :
    State.start.read (b :: more) = none :: State.start.read more := by
  have hlow := hb.1
  have hhigh := hb.2
  have hfirst : first b = ([none], .start) := by
    simp only [first]
    rw [if_neg (by omega), if_pos (by omega)]
  rw [State.read, State.feed, hfirst]
  rfl

/-! ## Two readers that meet -/

/-- A reader in any state and one that starts afresh come together behind some inner bytes, not more
than are owed. The first has brought out as much up to there as if it had ended at once, the other
one takes each of the bytes for invalid. -/
theorem State.exists_resume {s : State} (hs : s.Sound) (bytes : Bytes) :
    ∃ k, k ≤ s.owed ∧ k ≤ bytes.length ∧ (∀ b ∈ bytes.take k, IsInner b) ∧
      (∃ out : List (Option Char), out.length = s.finish.length ∧ (k = 0 → out = s.finish) ∧
        s.read bytes = out ++ State.start.read (bytes.drop k)) ∧
      State.start.read bytes = List.replicate k none ++ State.start.read (bytes.drop k) := by
  induction bytes generalizing s with
  | nil =>
    refine ⟨0, by omega, by simp, by simp, ⟨s.finish, rfl, fun _ => rfl, ?_⟩, by simp⟩
    simp [State.read, State.finish]
  | cons b more ih =>
    by_cases hb : s.GoesOn b
    swap
    · refine ⟨0, by omega, by simp, by simp, ⟨s.finish, rfl, fun _ => rfl, ?_⟩, by simp⟩
      exact State.read_of_not_goesOn hb more
    have hinner : IsInner b := hs.isInner hb
    have hafresh := read_inner hinner more
    cases s with
    | start => exact hb.elim
    | tail owed low high acc =>
      have hrange : low ≤ b ∧ b ≤ high := hb
      cases owed with
      | zero =>
        -- The character is complete with this byte.
        refine ⟨1, by simp [State.owed], by simp, by simpa using hinner, ?_, ?_⟩
        · refine ⟨_, ?_, by simp, by rw [State.read, State.feed, if_pos hrange]; rfl⟩
          rfl
        · simpa using hafresh
      | succ owed =>
        obtain ⟨k, hk, hlength, hall, ⟨out, hout, -, hread⟩, hstart⟩ := ih (hs.next hrange)
        simp only [State.owed] at hk
        refine ⟨k + 1, ?_, by simpa using hlength, ?_, ⟨out, hout, by simp, ?_⟩, ?_⟩
        · simp only [State.owed]
          omega
        · intro x hx
          rw [List.take_succ_cons, List.mem_cons] at hx
          rcases hx with rfl | hx
          · exact hinner
          · exact hall x hx
        · rw [State.read, State.feed, if_pos hrange]
          exact hread
        · rw [hafresh, hstart, List.replicate_succ, List.drop_succ_cons]
          rfl

/-! ## Cuts -/

/-- Whether bytes may be cut at a place: the two parts, read by themselves, give the whole. -/
def Divides (front back : Bytes) : Prop :=
  decodeLossy (front ++ back) = decodeLossy front ++ decodeLossy back

/-- What is read of bytes behind a cut: at most three bytes there are lost, and from then on the
symbols are those of the whole. Nothing is lost exactly if the bytes may be cut there. -/
theorem exists_resume_cut (front back : Bytes) :
    ∃ k, k ≤ 3 ∧ k ≤ back.length ∧ (∀ b ∈ back.take k, IsInner b) ∧
      symbols back = List.replicate k none ++ symbols (back.drop k) ∧
      symbols (back.drop k) <:+ symbols (front ++ back) ∧ (k = 0 ↔ Divides front back) := by
  have hstate : (State.start.behind front).Sound :=
    State.Sound.behind (s := .start) trivial front
  obtain ⟨k, howed, hlength, hinner, ⟨out, hout, hnone, hread⟩, hstart⟩ :=
    State.exists_resume hstate back
  have hwhole : symbols (front ++ back) =
      State.start.output front ++ out ++ symbols (back.drop k) := by
    rw [symbols_eq_read, symbols_eq_read, State.read_append, hread, List.append_assoc]
  have hfront : symbols front =
      State.start.output front ++ (State.start.behind front).finish := by
    rw [symbols_eq_read, State.read_eq]
  have hback : symbols back = List.replicate k none ++ symbols (back.drop k) := by
    rw [symbols_eq_read, symbols_eq_read, hstart]
  have hthree : k ≤ 3 := Nat.le_trans howed hstate.owed_le
  refine ⟨k, hthree, hlength, hinner, hback, ?_, ?_⟩
  · rw [hwhole]
    exact List.suffix_append _ _
  constructor
  · intro hk
    have hsymbols : symbols (front ++ back) = symbols front ++ symbols back := by
      rw [hwhole, hfront, hback, hnone hk, hk]
      simp
    unfold Divides decodeLossy
    rw [hsymbols, List.map_append]
  · intro hdivides
    -- Every byte that is lost is one more character in the second part.
    have hlengths := congrArg List.length hdivides
    unfold decodeLossy at hlengths
    rw [List.length_append, List.length_map, List.length_map, List.length_map, hwhole, hfront,
      hback] at hlengths
    simp only [List.length_append, List.length_replicate, hout] at hlengths
    omega

/-- Bytes may be cut in front of any byte that does not stand inside of a character. -/
theorem divides_of_not_isInner (front : Bytes) {b : UInt8} (hb : ¬IsInner b) (more : Bytes) :
    Divides front (b :: more) := by
  obtain ⟨k, -, -, hinner, -, -, hdivides⟩ := exists_resume_cut front (b :: more)
  apply hdivides.1
  cases k with
  | zero => rfl
  | succ k => exact absurd (hinner b (by simp)) hb

/-- An ASCII byte is read as its character, and what stands before and behind it by itself. -/
theorem decodeLossy_ascii (front : Bytes) {b : UInt8} (hb : b.toNat < 0x80) (back : Bytes) :
    decodeLossy (front ++ b :: back) =
      decodeLossy front ++ Char.ofNat b.toNat :: decodeLossy back := by
  have hinner : ¬IsInner b := fun h => by
    have hlow := h.1
    omega
  have hfirst : first b = ([some (Char.ofNat b.toNat)], .start) := by
    simp only [first, if_pos hb]
  have hback : symbols (b :: back) = some (Char.ofNat b.toNat) :: symbols back := by
    rw [symbols_eq_read, symbols_eq_read, State.read, State.feed, hfirst]
    rfl
  have hdivides : Divides front (b :: back) := divides_of_not_isInner front hinner back
  rw [hdivides]
  unfold decodeLossy
  rw [hback]
  rfl

/-! ## Separators -/

/-- Only the number of the slash gives a slash. -/
theorem eq_of_charOfNat_eq_slash {n : Nat} (h : Char.ofNat n = '/') : n = 0x2F := by
  by_cases hvalid : n.isValidChar
  · have hn := toNat_charOfNat hvalid
    rw [h] at hn
    exact hn.symm
  · unfold Char.ofNat at h
    rw [dif_neg hvalid] at h
    cases h

/-- Only a slash byte is read as a slash. -/
theorem slash_mem_of_mem_feed {s : State} (hs : s.Sound) {b : UInt8}
    (h : some '/' ∈ (s.feed b).1) : b = 0x2F := by
  have hfirst : some '/' ∈ (first b).1 → b = 0x2F := by
    intro h
    by_cases hascii : b.toNat < 0x80
    · have hslash : Char.ofNat b.toNat = '/' := by simpa [first, hascii, eq_comm] using h
      exact UInt8.toNat_inj.1 (eq_of_charOfNat_eq_slash hslash)
    · -- No other byte is a character by itself.
      have hnothing : (first b).1 = [] ∨ (first b).1 = [none] := by
        simp only [first, if_neg hascii]
        split_ifs <;> simp
      rcases hnothing with hout | hout <;> simp [hout] at h
  cases s with
  | start => exact hfirst h
  | tail more low high acc =>
    by_cases hb : low ≤ b ∧ b ≤ high
    · cases more with
      | zero =>
        obtain ⟨-, hlow, -, hacc⟩ := hs
        simp only [State.feed, if_pos hb, List.mem_singleton, Option.some.injEq] at h
        have hvalue := eq_of_charOfNat_eq_slash h.symm
        omega
      | succ more => simp [State.feed, hb] at h
    · simp only [State.feed, if_neg hb, List.mem_cons, reduceCtorEq, false_or] at h
      exact hfirst h

/-- A reader takes bytes for a slash only if one of them is the slash byte. -/
theorem State.slash_mem_of_mem_read {s : State} (hs : s.Sound) {bytes : Bytes}
    (h : some '/' ∈ s.read bytes) : (0x2F : UInt8) ∈ bytes := by
  induction bytes generalizing s with
  | nil => cases s <;> simp [State.read, State.finish] at h
  | cons b more ih =>
    rw [State.read, List.mem_append] at h
    rcases h with h | h
    · rw [slash_mem_of_mem_feed hs h]
      exact List.mem_cons_self
    · exact List.mem_cons_of_mem b (ih (hs.feed b) h)

/-- A text that was read has a slash only where the bytes have one. -/
theorem slash_mem_of_mem_decodeLossy {bytes : Bytes} (h : '/' ∈ decodeLossy bytes) :
    (0x2F : UInt8) ∈ bytes := by
  unfold decodeLossy at h
  obtain ⟨x, hx, hslash⟩ := List.mem_map.1 h
  have hsome : x = some '/' := by
    cases x with
    | none => cases hslash
    | some c => exact congrArg some hslash
  rw [hsome, symbols_eq_read] at hx
  exact State.slash_mem_of_mem_read (s := .start) trivial hx

/-! ## Texts that are cut -/

/-- A text begins with a byte that does not stand inside of a character. -/
theorem not_isInner_head (c : Char) (cs : List Char) :
    ∃ b more, encode (c :: cs) = b :: more ∧ ¬IsInner b := by
  have hsymbols := symbols_encode (c :: cs)
  cases hbytes : encode (c :: cs) with
  | nil =>
    rw [hbytes] at hsymbols
    cases hsymbols
  | cons b more =>
    refine ⟨b, more, rfl, ?_⟩
    intro hinner
    rw [hbytes, symbols_eq_read, read_inner hinner] at hsymbols
    cases hsymbols

/-- Bytes whose symbols end those of a text are the end of the text. -/
theorem exists_text_of_suffix {cs : List Char} {rest : Bytes}
    (h : symbols rest <:+ symbols (encode cs)) :
    ∃ left right, cs = left ++ right ∧ rest = encode right := by
  obtain ⟨before, hbefore⟩ := h
  rw [symbols_encode] at hbefore
  obtain ⟨left, right, hcs, -, hright⟩ := List.map_eq_append_iff.1 hbefore.symm
  have hall : (symbols rest).all Option.isSome = true := by
    rw [← hright]
    simp
  have hread : decode? rest = some right := by
    unfold decode? decodeLossy
    rw [if_pos hall, ← hright, List.map_map]
    simp [Function.comp_def]
  exact ⟨left, right, hcs, (encode_of_decode? hread).symm⟩

/-- A text that is cut within a character keeps every character behind the cut. -/
theorem suffix_of_length_le {left right left' right' : List Char} {front inner : Bytes}
    (hbytes : encode (left ++ right) = front ++ (inner ++ encode right))
    (hinner : ∀ b ∈ inner, IsInner b) (htext : left ++ right = left' ++ right')
    (hlength : (encode right').length ≤ (inner ++ encode right).length) : right' <:+ right := by
  have hright : right <:+ left ++ right := List.suffix_append left right
  have hright' : right' <:+ left ++ right := htext ▸ List.suffix_append left' right'
  rcases List.suffix_or_suffix_of_suffix hright' hright with h | ⟨mid, rfl⟩
  · exact h
  have happend (xs ys : List Char) : encode (xs ++ ys) = encode xs ++ encode ys :=
    List.flatMap_append
  cases mid with
  | nil => exact List.suffix_refl right
  | cons c mid =>
    -- The first byte of a character before `right` would stand inside of one.
    have hends : encode left' ++ encode (c :: mid) = front ++ inner := by
      have h := hbytes
      rw [htext, happend, happend, ← List.append_assoc, ← List.append_assoc] at h
      exact List.append_cancel_right h
    have hshort : (encode (c :: mid)).length ≤ inner.length := by
      rw [happend, List.length_append, List.length_append] at hlength
      omega
    have hsuffix : encode (c :: mid) <:+ inner :=
      List.suffix_of_suffix_length_le (hends ▸ List.suffix_append _ _) (List.suffix_append _ _)
        hshort
    obtain ⟨b, more, hb, hfirst⟩ := not_isInner_head c mid
    have hmem : b ∈ inner := hsuffix.subset (by rw [hb]; exact List.mem_cons_self)
    exact absurd (hinner b hmem) hfirst

end Utf8

end Shakedown
