import Mathlib.Algebra.Group.Nat.Defs
import Mathlib.Data.List.ReduceOption
import Shakedown.Path.Basic

/-!
# Reading undoes writing

A text written in UTF-8 is read back as itself, so no two texts are written alike. The reader is
followed through the bytes of one character (`foldl_feed_encodeChar`): the first byte says how many
are owed, and every further one brings six bits. Where a shorter form or a surrogate would be
possible, the reader narrows the range of the second byte, so the character's own bounds are needed
there.

The other way round, bytes that are read as a text are that text as it is written
(`encode_of_decode?`). Between two bytes the reader holds a number and owes some bytes more;
`State.Holds` says that every character which it can still come to has the bytes taken so far.
-/

set_option autoImplicit false

namespace Shakedown

namespace Utf8

/-! ## One byte -/

/-- A number below 256 is the number of its byte. -/
theorem toNat_byte {n : Nat} (h : n < 256) : (UInt8.ofNat n).toNat = n :=
  UInt8.toNat_ofNat_of_lt' h

/-- A byte below 0x80 is a character between two characters. -/
theorem first_ascii {n : Nat} (h : n < 0x80) :
    first (.ofNat n) = ([some (Char.ofNat n)], .start) := by
  have hn : (UInt8.ofNat n).toNat = n := toNat_byte (by omega)
  simp [first, hn, h]

/-- A first byte that owes one more. -/
theorem first_of_two {a : Nat} (h : 2 ≤ a) (h' : a < 32) :
    first (.ofNat (0xC0 + a)) = ([], .tail 0 0x80 0xBF a) := by
  have hn : (UInt8.ofNat (0xC0 + a)).toNat = 0xC0 + a := toNat_byte (by omega)
  simp only [first, hn]
  rw [if_neg (by omega), if_neg (by omega), if_pos (by omega)]
  simp

/-- A first byte that owes two more. -/
theorem first_of_three {a : Nat} (h : a < 16) :
    first (.ofNat (0xE0 + a)) =
      ([], .tail 1 (if a = 0 then 0xA0 else 0x80) (if a = 13 then 0x9F else 0xBF) a) := by
  have hn : (UInt8.ofNat (0xE0 + a)).toNat = 0xE0 + a := toNat_byte (by omega)
  simp only [first, hn]
  rw [if_neg (by omega), if_neg (by omega), if_neg (by omega), if_pos (by omega)]
  have h0 : 0xE0 + a = 0xE0 ↔ a = 0 := by omega
  have h13 : 0xE0 + a = 0xED ↔ a = 13 := by omega
  simp only [h0, h13, Nat.add_sub_cancel_left]

/-- A first byte that owes three more. -/
theorem first_of_four {a : Nat} (h : a < 5) :
    first (.ofNat (0xF0 + a)) =
      ([], .tail 2 (if a = 0 then 0x90 else 0x80) (if a = 4 then 0x8F else 0xBF) a) := by
  have hn : (UInt8.ofNat (0xF0 + a)).toNat = 0xF0 + a := toNat_byte (by omega)
  simp only [first, hn]
  rw [if_neg (by omega), if_neg (by omega), if_neg (by omega), if_neg (by omega),
    if_pos (by omega)]
  have h0 : 0xF0 + a = 0xF0 ↔ a = 0 := by omega
  have h4 : 0xF0 + a = 0xF4 ↔ a = 4 := by omega
  simp only [h0, h4, Nat.add_sub_cancel_left]

/-- The last byte owed completes the character. -/
theorem feed_tail_zero {low high : UInt8} {acc b : Nat} (hlow : low.toNat ≤ 0x80 + b)
    (hhigh : 0x80 + b ≤ high.toNat) (hb : b < 64) :
    (State.tail 0 low high acc).feed (.ofNat (0x80 + b)) =
      ([some (Char.ofNat (acc * 64 + b))], .start) := by
  have hn : (UInt8.ofNat (0x80 + b)).toNat = 0x80 + b := toNat_byte (by omega)
  have hrange : low ≤ UInt8.ofNat (0x80 + b) ∧ UInt8.ofNat (0x80 + b) ≤ high := by
    rw [UInt8.le_iff_toNat_le, UInt8.le_iff_toNat_le, hn]
    exact ⟨hlow, hhigh⟩
  simp only [State.feed, if_pos hrange, hn]
  simp

/-- Any other byte owed brings six bits. -/
theorem feed_tail_succ {more : Nat} {low high : UInt8} {acc b : Nat}
    (hlow : low.toNat ≤ 0x80 + b) (hhigh : 0x80 + b ≤ high.toNat) (hb : b < 64) :
    (State.tail (more + 1) low high acc).feed (.ofNat (0x80 + b)) =
      ([], .tail more 0x80 0xBF (acc * 64 + b)) := by
  have hn : (UInt8.ofNat (0x80 + b)).toNat = 0x80 + b := toNat_byte (by omega)
  have hrange : low ≤ UInt8.ofNat (0x80 + b) ∧ UInt8.ofNat (0x80 + b) ≤ high := by
    rw [UInt8.le_iff_toNat_le, UInt8.le_iff_toNat_le, hn]
    exact ⟨hlow, hhigh⟩
  simp only [State.feed, if_pos hrange, hn]
  simp

/-! ## One character -/

/-- The reader takes the bytes of a character for that character. -/
theorem foldl_feed_encodeChar (c : Char) (emitted : List (Option Char)) :
    (encodeChar c).foldl Scan.feed ⟨emitted, .start⟩ = ⟨some c :: emitted, .start⟩ := by
  have hvalid : c.toNat < 0xD800 ∨ 0xDFFF < c.toNat ∧ c.toNat < 0x110000 := c.valid
  have hc : Char.ofNat c.toNat = c := Char.ofNat_toNat c
  generalize hn : c.toNat = n at hvalid hc
  unfold encodeChar
  simp only [hn]
  by_cases h1 : n < 0x80
  · rw [if_pos h1]
    simp [Scan.feed, State.feed, first_ascii h1, hc]
  rw [if_neg h1]
  by_cases h2 : n < 0x800
  · have hvalue : n / 64 * 64 + n % 64 = n := by omega
    rw [if_pos h2]
    simp only [List.foldl_cons, List.foldl_nil, Scan.feed, State.feed.eq_1,
      first_of_two (show 2 ≤ n / 64 by omega) (by omega)]
    rw [feed_tail_zero (by simp) (by simp; omega) (by omega), hvalue, hc]
    rfl
  rw [if_neg h2]
  by_cases h3 : n < 0x10000
  · have hvalue : (n / 4096 * 64 + n / 64 % 64) * 64 + n % 64 = n := by omega
    -- A second byte that is too low would be a shorter form, one too high a surrogate.
    have hlow : (if n / 4096 = 0 then (0xA0 : UInt8) else 0x80).toNat ≤ 0x80 + n / 64 % 64 := by
      split <;> simp
      omega
    have hhigh : 0x80 + n / 64 % 64 ≤ (if n / 4096 = 13 then (0x9F : UInt8) else 0xBF).toNat := by
      split <;> simp <;> omega
    rw [if_pos h3]
    simp only [List.foldl_cons, List.foldl_nil, Scan.feed, State.feed.eq_1,
      first_of_three (show n / 4096 < 16 by omega)]
    rw [feed_tail_succ hlow hhigh (by omega),
      feed_tail_zero (by simp) (by simp; omega) (by omega), hvalue, hc]
    rfl
  · have hvalue : ((n / 262144 * 64 + n / 4096 % 64) * 64 + n / 64 % 64) * 64 + n % 64 = n := by
      omega
    have hlow : (if n / 262144 = 0 then (0x90 : UInt8) else 0x80).toNat ≤
        0x80 + n / 4096 % 64 := by
      split <;> simp
      omega
    have hhigh : 0x80 + n / 4096 % 64 ≤
        (if n / 262144 = 4 then (0x8F : UInt8) else 0xBF).toNat := by
      split <;> simp <;> omega
    rw [if_neg h3]
    simp only [List.foldl_cons, List.foldl_nil, Scan.feed, State.feed.eq_1,
      first_of_four (show n / 262144 < 5 by omega)]
    rw [feed_tail_succ hlow hhigh (by omega),
      feed_tail_succ (by simp) (by simp; omega) (by omega),
      feed_tail_zero (by simp) (by simp; omega) (by omega), hvalue, hc]
    rfl

/-! ## Texts -/

/-- The reader takes the bytes of a text for its characters. -/
theorem foldl_feed_encode (cs : List Char) (emitted : List (Option Char)) :
    (encode cs).foldl Scan.feed ⟨emitted, .start⟩ =
      ⟨(cs.map some).reverse ++ emitted, .start⟩ := by
  induction cs generalizing emitted with
  | nil => rfl
  | cons c more ih =>
    have hcons : encode (c :: more) = encodeChar c ++ encode more := List.flatMap_cons
    rw [hcons, List.foldl_append, foldl_feed_encodeChar, ih]
    simp

/-- The symbols of a text's bytes are its characters, all of them valid. -/
theorem symbols_encode (cs : List Char) : symbols (encode cs) = cs.map some := by
  unfold symbols
  rw [foldl_feed_encode]
  simp [State.finish]

/-- The lossy reading of an encoded text is that text. -/
theorem decodeLossy_encode (cs : List Char) : decodeLossy (encode cs) = cs := by
  unfold decodeLossy
  rw [symbols_encode, List.map_map]
  simp [Function.comp_def]

/-- A text is read back as it was written. -/
theorem decode?_encode (cs : List Char) : decode? (encode cs) = some cs := by
  have hall : (cs.map some).all Option.isSome = true := by simp
  unfold decode?
  rw [symbols_encode, if_pos hall, decodeLossy_encode]

/-- No two texts have the same bytes. -/
theorem encode_injective : Function.Injective encode := by
  intro cs ds h
  have hread : decode? (encode cs) = decode? (encode ds) := congrArg decode? h
  rw [decode?_encode, decode?_encode] at hread
  exact Option.some.inj hread

/-- Texts with the same bytes are the same. -/
theorem bytes_injective : Function.Injective bytes := by
  intro s s' h
  exact String.toList_inj.1 (encode_injective h)

/-! ## Writing undoes reading -/

/-- The last `more + 1` bytes of the character with code point `n`, if it has more bytes than
that. -/
def owed : Nat → Nat → Bytes
  | 0, n => [.ofNat (0x80 + n % 64)]
  | more + 1, n => .ofNat (0x80 + n / 64 ^ (more + 1) % 64) :: owed more n

/-- A number outside of the surrogates and below the limit is the number of its character. -/
theorem toNat_charOfNat {n : Nat} (h : n < 0xD800 ∨ 0xDFFF < n ∧ n < 0x110000) :
    (Char.ofNat n).toNat = n := by
  unfold Char.ofNat
  rw [dif_pos h]
  rfl

/-- A number of seven bits is encoded as one byte. -/
theorem encodeChar_ofNat_one {n : Nat} (h : n < 0x80) : encodeChar (.ofNat n) = [.ofNat n] := by
  have hn : (Char.ofNat n).toNat = n := toNat_charOfNat (by omega)
  simp only [encodeChar, hn]
  rw [if_pos h]

/-- A number of up to eleven bits is encoded as a first byte and one owed. -/
theorem encodeChar_ofNat_two {n : Nat} (h : 2 ≤ n / 64) (h' : n / 64 < 32) :
    encodeChar (.ofNat n) = .ofNat (0xC0 + n / 64) :: owed 0 n := by
  have hn : (Char.ofNat n).toNat = n := toNat_charOfNat (by omega)
  simp only [encodeChar, hn]
  rw [if_neg (by omega), if_pos (by omega)]
  rfl

/-- A number of up to sixteen bits, no surrogate, is encoded as a first byte and two owed. -/
theorem encodeChar_ofNat_three {n : Nat} (h : n / 64 ^ 2 < 16)
    (hlong : n / 64 ^ 2 = 0 → 32 ≤ n / 64 % 64) (hchar : n / 64 ^ 2 = 13 → n / 64 % 64 < 32) :
    encodeChar (.ofNat n) = .ofNat (0xE0 + n / 64 ^ 2) :: owed 1 n := by
  have hn : (Char.ofNat n).toNat = n := toNat_charOfNat (by omega)
  simp only [encodeChar, hn]
  rw [if_neg (by omega), if_neg (by omega), if_pos (by omega)]
  rfl

/-- Any greater number of a character is encoded as a first byte and three owed. -/
theorem encodeChar_ofNat_four {n : Nat} (h : n / 64 ^ 3 < 5)
    (hlong : n / 64 ^ 3 = 0 → 16 ≤ n / 64 ^ 2 % 64)
    (hchar : n / 64 ^ 3 = 4 → n / 64 ^ 2 % 64 < 16) :
    encodeChar (.ofNat n) = .ofNat (0xF0 + n / 64 ^ 3) :: owed 2 n := by
  have hn : (Char.ofNat n).toNat = n := toNat_charOfNat (by omega)
  simp only [encodeChar, hn]
  rw [if_neg (by omega), if_neg (by omega), if_neg (by omega)]
  rfl

/-- Whether `pending` is what the reader has taken of a character that is under way: completed by
bytes that the reader accepts, it is the character of the number that they bring. -/
def State.Holds (pending : Bytes) : State → Prop
  | .start => pending = []
  | .tail more low high acc => 0x80 ≤ low.toNat ∧ high.toNat ≤ 0xBF ∧
      ∀ n, n / 64 ^ (more + 1) = acc → low.toNat ≤ 0x80 + n / 64 ^ more % 64 →
        0x80 + n / 64 ^ more % 64 ≤ high.toNat → encodeChar (.ofNat n) = pending ++ owed more n

/-- The valid characters of two readings are encoded one behind the other. -/
theorem encode_reduceOption_append (xs ys : List (Option Char)) :
    encode (xs ++ ys).reduceOption = encode xs.reduceOption ++ encode ys.reduceOption := by
  simp [encode, List.reduceOption_append]

/-- A byte between two characters is a character, or begins one. -/
theorem holds_first {b : UInt8} (h : none ∉ (first b).1) :
    ∃ pending, (first b).2.Holds pending ∧
      [b] = encode (first b).1.reduceOption ++ pending := by
  obtain ⟨k, hk, rfl⟩ : ∃ k, k < 256 ∧ b = .ofNat k :=
    ⟨b.toNat, b.toNat_lt, UInt8.ofNat_toNat.symm⟩
  by_cases h1 : k < 0x80
  · have hc : encode [Char.ofNat k] = [.ofNat k] := by
      rw [encode, List.flatMap_singleton, encodeChar_ofNat_one h1]
    rw [first_ascii h1]
    exact ⟨[], rfl, by rw [List.append_nil]; exact hc.symm⟩
  by_cases h2 : k < 0xC2
  · have hinvalid : (first (.ofNat k)).1 = [none] := by
      simp only [first, toNat_byte hk]
      rw [if_neg h1, if_pos h2]
    simp [hinvalid] at h
  by_cases h3 : k < 0xE0
  · obtain ⟨a, rfl⟩ : ∃ a, k = 0xC0 + a := ⟨k - 0xC0, by omega⟩
    rw [first_of_two (by omega) (by omega)]
    refine ⟨[.ofNat (0xC0 + a)], ⟨by simp, by simp, ?_⟩, rfl⟩
    rintro n rfl _ _
    exact encodeChar_ofNat_two (by omega) (by omega)
  by_cases h4 : k < 0xF0
  · obtain ⟨a, rfl⟩ : ∃ a, k = 0xE0 + a := ⟨k - 0xE0, by omega⟩
    rw [first_of_three (by omega)]
    refine ⟨[.ofNat (0xE0 + a)], ⟨by split <;> simp, by split <;> simp, ?_⟩, rfl⟩
    rintro n rfl hlow hhigh
    refine encodeChar_ofNat_three (by omega) (fun h0 => ?_) (fun h13 => ?_)
    -- A shorter form or a surrogate is ruled out by the bounds of the second byte.
    · rw [if_pos h0] at hlow
      change 0xA0 ≤ _ at hlow
      omega
    · rw [if_pos h13] at hhigh
      change _ ≤ 0x9F at hhigh
      omega
  by_cases h5 : k < 0xF5
  · obtain ⟨a, rfl⟩ : ∃ a, k = 0xF0 + a := ⟨k - 0xF0, by omega⟩
    rw [first_of_four (by omega)]
    refine ⟨[.ofNat (0xF0 + a)], ⟨by split <;> simp, by split <;> simp, ?_⟩, rfl⟩
    rintro n rfl hlow hhigh
    refine encodeChar_ofNat_four (by omega) (fun h0 => ?_) (fun h4 => ?_)
    · rw [if_pos h0] at hlow
      change 0x90 ≤ _ at hlow
      omega
    · rw [if_pos h4] at hhigh
      change _ ≤ 0x8F at hhigh
      omega
  · have hinvalid : (first (.ofNat k)).1 = [none] := by
      simp only [first, toNat_byte hk]
      rw [if_neg h1, if_neg h2, if_neg h3, if_neg h4, if_neg h5]
    simp [hinvalid] at h

/-- One more byte, if it is not invalid, completes the character under way or brings it on. -/
theorem holds_feed {s : State} {b : UInt8} {pending : Bytes} (hs : s.Holds pending)
    (h : none ∉ (s.feed b).1) :
    ∃ pending', (s.feed b).2.Holds pending' ∧
      pending ++ [b] = encode (s.feed b).1.reduceOption ++ pending' := by
  cases s with
  | start =>
    obtain rfl : pending = [] := hs
    exact holds_first h
  | tail more low high acc =>
    obtain ⟨hlow, hhigh, hchar⟩ := hs
    by_cases hrange : low ≤ b ∧ b ≤ high
    · obtain ⟨d, hd⟩ : ∃ d, b.toNat = 0x80 + d := ⟨b.toNat - 0x80, by
        have := UInt8.le_iff_toNat_le.1 hrange.1
        omega⟩
      have hlow' : low.toNat ≤ 0x80 + d := hd ▸ UInt8.le_iff_toNat_le.1 hrange.1
      have hhigh' : 0x80 + d ≤ high.toNat := hd ▸ UInt8.le_iff_toNat_le.1 hrange.2
      obtain rfl : b = .ofNat (0x80 + d) := by rw [← hd, UInt8.ofNat_toNat]
      cases more with
      | zero =>
        -- The last byte: the number of the character is complete.
        rw [feed_tail_zero hlow' hhigh' (by omega)]
        have hd' : (acc * 64 + d) % 64 = d := by omega
        have hc := hchar (acc * 64 + d) (by omega) (by simpa [hd'] using hlow')
          (by simpa [hd'] using hhigh')
        refine ⟨[], rfl, ?_⟩
        rw [List.append_nil]
        simpa [encode, owed, hd', List.reduceOption] using hc.symm
      | succ more =>
        -- What is owed gets shorter by this byte.
        rw [feed_tail_succ hlow' hhigh' (by omega)]
        refine ⟨pending ++ [.ofNat (0x80 + d)], ⟨by simp, by simp, ?_⟩, rfl⟩
        intro n hn _ _
        have hpow : (64 : Nat) ^ (more + 2) = 64 ^ (more + 1) * 64 := rfl
        have hd' : n / 64 ^ (more + 1) % 64 = d := by omega
        have hacc : n / 64 ^ (more + 2) = acc := by
          rw [hpow, ← Nat.div_div_eq_div_mul, hn]
          omega
        rw [hchar n hacc (by rwa [hd']) (by rwa [hd']), owed, hd', List.append_assoc,
          List.singleton_append]
    · simp [State.feed, hrange] at h

/-- If nothing that came out is invalid, the bytes are those of the characters that came out,
followed by those of the character under way. -/
theorem holds_foldl_feed (bytes : Bytes) {s : Scan} {pending : Bytes} (hs : s.state.Holds pending)
    (h : none ∉ (bytes.foldl Scan.feed s).emitted) :
    ∃ pending', (bytes.foldl Scan.feed s).state.Holds pending' ∧
      encode s.emitted.reverse.reduceOption ++ pending ++ bytes =
        encode (bytes.foldl Scan.feed s).emitted.reverse.reduceOption ++ pending' := by
  induction bytes generalizing s pending with
  | nil => exact ⟨pending, hs, by simp⟩
  | cons b more ih =>
    have hkept : none ∉ (s.state.feed b).1 := fun hm =>
      h (mem_emitted_foldl more (s.feed b) none (by simp [Scan.feed, hm]))
    obtain ⟨next, hnext, hbytes⟩ := holds_feed hs hkept
    obtain ⟨pending', hpending', heq⟩ := ih (s := s.feed b) hnext h
    refine ⟨pending', hpending', ?_⟩
    rw [List.foldl_cons, ← heq]
    simp only [Scan.feed, List.reverse_append, List.reverse_reverse, encode_reduceOption_append]
    rw [List.append_cons, List.append_assoc _ pending, hbytes]
    simp

/-- Where nothing is invalid nothing has to be replaced. -/
theorem map_getD_eq_reduceOption {xs : List (Option Char)} (h : none ∉ xs) :
    xs.map (·.getD replacement) = xs.reduceOption := by
  induction xs with
  | nil => rfl
  | cons x more ih =>
    rw [List.mem_cons, not_or] at h
    cases x with
    | none => exact absurd rfl h.1
    | some c => rw [List.map_cons, ih h.2, List.reduceOption_cons_of_some, Option.getD_some]

/-- Bytes that are a text are that text as it is written. -/
theorem encode_of_decode? {bytes : Bytes} {cs : List Char} (h : decode? bytes = some cs) :
    encode cs = bytes := by
  unfold decode? at h
  split at h
  swap
  · cases h
  next hall =>
  have hvalid : none ∉ symbols bytes := by
    intro hm
    simpa using List.all_eq_true.1 hall none hm
  obtain rfl : (symbols bytes).reduceOption = cs := by
    rw [← map_getD_eq_reduceOption hvalid]
    exact Option.some.inj h
  unfold symbols at hvalid ⊢
  generalize hscan : bytes.foldl Scan.feed ⟨[], .start⟩ = last at hvalid ⊢
  simp only [List.mem_reverse, List.mem_append, not_or] at hvalid
  have hstart : State.Holds [] .start := rfl
  obtain ⟨pending, hpending, heq⟩ :=
    holds_foldl_feed bytes (s := ⟨[], .start⟩) hstart (hscan ▸ hvalid.2)
  rw [hscan] at hpending heq
  cases hstate : last.state with
  | tail more low high acc => simp [hstate, State.finish] at hvalid
  | start =>
    rw [hstate] at hpending
    obtain rfl : pending = [] := hpending
    have hnothing : encode ([] : List (Option Char)).reverse.reduceOption = [] := rfl
    rw [List.append_nil, List.append_nil, hnothing, List.nil_append] at heq
    simp only [hstate, State.finish, List.nil_append]
    exact heq.symm

/-! ## Separators -/

/-- The bytes of a longer form are no ASCII bytes. -/
theorem le_of_mem_encodeChar {c : Char} (hc : 0x80 ≤ c.toNat) {b : UInt8}
    (hb : b ∈ encodeChar c) : 0x80 ≤ b.toNat := by
  have hvalid : c.toNat < 0xD800 ∨ 0xDFFF < c.toNat ∧ c.toNat < 0x110000 := c.valid
  generalize hn : c.toNat = n at hc hvalid
  unfold encodeChar at hb
  simp only [hn] at hb
  rw [if_neg (by omega)] at hb
  by_cases h2 : n < 0x800
  · rw [if_pos h2] at hb
    simp only [List.mem_cons, List.not_mem_nil, or_false] at hb
    rcases hb with rfl | rfl <;> rw [toNat_byte (by omega)] <;> omega
  rw [if_neg h2] at hb
  by_cases h3 : n < 0x10000
  · rw [if_pos h3] at hb
    simp only [List.mem_cons, List.not_mem_nil, or_false] at hb
    rcases hb with rfl | rfl | rfl <;> rw [toNat_byte (by omega)] <;> omega
  · rw [if_neg h3] at hb
    simp only [List.mem_cons, List.not_mem_nil, or_false] at hb
    rcases hb with rfl | rfl | rfl | rfl <;> rw [toNat_byte (by omega)] <;> omega

/-- An ASCII byte stands for its own character, and is part of no other. -/
theorem mem_encodeChar_of_ascii {c : Char} {b : UInt8} (hb : b.toNat < 0x80) :
    b ∈ encodeChar c ↔ c.toNat = b.toNat := by
  by_cases hc : c.toNat < 0x80
  · have hone : encodeChar c = [.ofNat c.toNat] := if_pos hc
    rw [hone, List.mem_singleton]
    constructor
    · intro h
      rw [h, toNat_byte (by omega)]
    · intro h
      rw [h, UInt8.ofNat_toNat]
  · constructor
    · intro h
      have := le_of_mem_encodeChar (by omega) h
      omega
    · intro h
      omega

end Utf8

/-! ## Paths that are text -/

/-- A path can be written as a text only if it is the path of that text. -/
theorem Path.writable_eq_ok {p : Path} {s : String} : p.writable = .ok s ↔ p = .ofString s := by
  unfold Path.writable Path.text?
  constructor
  · intro h
    cases hdecode : Utf8.decode? p.bytes with
    | none => simp [hdecode] at h
    | some cs =>
      obtain rfl : String.ofList cs = s := by simpa [hdecode] using h
      cases p
      simp only [Path.ofString, String.toList_ofList, Path.mk.injEq]
      exact (Utf8.encode_of_decode? hdecode).symm
  · rintro rfl
    simp [Path.ofString, Utf8.decode?_encode]

/-- A path can be written if it is text, and only then. -/
theorem Path.exists_writable_iff {p : Path} :
    (∃ s, p.writable = .ok s) ↔ p.text?.isSome = true := by
  unfold Path.writable
  cases p.text? <;> simp

end Shakedown
