/-!
# UTF-8 read one byte at a time

Paths, arguments and the output of programs are byte strings; names and messages are texts. This
module holds the two directions between them. `encode` writes a text. `symbols` reads bytes with an
automaton whose state says which continuation bytes are still owed: every character comes out as
itself, and every longest run of bytes that begins a character and cannot be finished comes out
once, as `none`. `decodeLossy` puts U+FFFD for each of those, `decode?` refuses them.

Main statement: `mem_decodeLossy_of_ascii`, an ASCII byte is read as its own character wherever it
stands, so separators survive a lossy reading.
-/

set_option autoImplicit false

namespace Shakedown

/-- A byte string, as the operating system hands it over. -/
abbrev Bytes := List UInt8

namespace Utf8

/-- The one to four bytes of a character. -/
def encodeChar (c : Char) : Bytes :=
  let n := c.toNat
  if n < 0x80 then [.ofNat n]
  else if n < 0x800 then [.ofNat (0xC0 + n / 64), .ofNat (0x80 + n % 64)]
  else if n < 0x10000 then
    [.ofNat (0xE0 + n / 4096), .ofNat (0x80 + n / 64 % 64), .ofNat (0x80 + n % 64)]
  else
    [.ofNat (0xF0 + n / 262144), .ofNat (0x80 + n / 4096 % 64), .ofNat (0x80 + n / 64 % 64),
      .ofNat (0x80 + n % 64)]

/-- The bytes of a text, character by character. -/
def encode (s : List Char) : Bytes :=
  s.flatMap encodeChar

/-- The bytes of a string. -/
def bytes (s : String) : Bytes :=
  encode s.toList

/-- Where the reader stands between two bytes. -/
inductive State where
  /-- Between two characters. -/
  | start
  /-- Inside a character: the next byte lies between `low` and `high`, `more` further ones follow
  it, and the bits read so far make up `acc`. -/
  | tail (more : Nat) (low high : UInt8) (acc : Nat)
  deriving DecidableEq, Repr

/-- A byte met between two characters: what it completes, and where the reader stands after it. -/
def first (b : UInt8) : List (Option Char) × State :=
  let n := b.toNat
  if n < 0x80 then ([some (Char.ofNat n)], .start)
  else if n < 0xC2 then ([none], .start)
  else if n < 0xE0 then ([], .tail 0 0x80 0xBF (n - 0xC0))
  else if n < 0xF0 then
    ([], .tail 1 (if n = 0xE0 then 0xA0 else 0x80) (if n = 0xED then 0x9F else 0xBF) (n - 0xE0))
  else if n < 0xF5 then
    ([], .tail 2 (if n = 0xF0 then 0x90 else 0x80) (if n = 0xF4 then 0x8F else 0xBF) (n - 0xF0))
  else ([none], .start)

/-- One byte from any state. A byte that cannot continue the pending character ends it as invalid
and is then read afresh. -/
def State.feed : State → UInt8 → List (Option Char) × State
  | .start, b => first b
  | .tail more low high acc, b =>
    if low ≤ b ∧ b ≤ high then
      let value := acc * 64 + (b.toNat - 0x80)
      match more with
      | 0 => ([some (Char.ofNat value)], .start)
      | m + 1 => ([], .tail m 0x80 0xBF value)
    else
      let (out, next) := first b
      (none :: out, next)

/-- What the end of the bytes leaves: a character that was begun is invalid. -/
def State.finish : State → List (Option Char)
  | .start => []
  | .tail .. => [none]

/-- A reading under way: what came out, latest first, and the state. -/
structure Scan where
  /-- Symbols read so far, latest first. -/
  emitted : List (Option Char)
  /-- Where the reader stands. -/
  state : State

/-- One more byte. -/
def Scan.feed (s : Scan) (b : UInt8) : Scan :=
  let (out, next) := s.state.feed b
  ⟨out.reverse ++ s.emitted, next⟩

/-- The characters of a byte string in order, `none` for each longest invalid run. -/
def symbols (bytes : Bytes) : List (Option Char) :=
  let s := bytes.foldl Scan.feed ⟨[], .start⟩
  (s.state.finish ++ s.emitted).reverse

/-- The character that stands for an invalid run. -/
def replacement : Char := '\uFFFD'

/-- The text of a byte string, U+FFFD for each longest invalid run. -/
def decodeLossy (bytes : Bytes) : List Char :=
  (symbols bytes).map (·.getD replacement)

/-- The text of a byte string, if all of it is valid. -/
def decode? (bytes : Bytes) : Option (List Char) :=
  if (symbols bytes).all Option.isSome then some (decodeLossy bytes) else none

/-- What a byte emits from a state holds `c` whenever the byte is the ASCII character `c`. -/
theorem mem_feed_of_ascii (s : State) (b : UInt8) (h : b.toNat < 0x80)
    (hs : ∀ more low high acc, s = .tail more low high acc → 0x80 ≤ low.toNat) :
    some (Char.ofNat b.toNat) ∈ (s.feed b).1 := by
  cases s with
  | start => simp [State.feed, first, h]
  | tail more low high acc =>
    have hlow := hs more low high acc rfl
    have hn : ¬(low ≤ b ∧ b ≤ high) := by
      intro hb
      have := UInt8.le_iff_toNat_le.1 hb.1
      omega
    simp [State.feed, hn, first, h]

/-- Every state the reader reaches owes bytes from 0x80 on. -/
theorem low_le_of_feed (s : State) (b : UInt8)
    (hs : ∀ more low high acc, s = .tail more low high acc → 0x80 ≤ low.toNat) :
    ∀ more low high acc, (s.feed b).2 = .tail more low high acc → 0x80 ≤ low.toNat := by
  have hfirst : ∀ more low high acc, (first b).2 = .tail more low high acc → 0x80 ≤ low.toNat := by
    intro more low high acc h
    unfold first at h
    simp only at h
    split at h
    · simp at h
    split at h
    · simp at h
    split at h
    · simp only [State.tail.injEq] at h
      rw [← h.2.1]; decide
    split at h
    · simp only [State.tail.injEq] at h
      rw [← h.2.1]; split <;> decide
    split at h
    · simp only [State.tail.injEq] at h
      rw [← h.2.1]; split <;> decide
    · simp at h
  intro more low high acc h
  cases s with
  | start => exact hfirst more low high acc h
  | tail m l u a =>
    by_cases hb : l ≤ b ∧ b ≤ u
    · cases m with
      | zero => simp [State.feed, hb] at h
      | succ m =>
        simp only [State.feed, hb, and_self, if_true, State.tail.injEq] at h
        rw [← h.2.1]; decide
    · simp only [State.feed, hb, if_false] at h
      exact hfirst more low high acc h

/-- A symbol already emitted stays emitted. -/
theorem mem_emitted_foldl (bytes : Bytes) (s : Scan) (x : Option Char) (h : x ∈ s.emitted) :
    x ∈ (bytes.foldl Scan.feed s).emitted := by
  induction bytes generalizing s with
  | nil => exact h
  | cons b r ih => exact ih _ (by simp [Scan.feed, h])

/-- An ASCII byte anywhere in the input is read as its own character. -/
theorem mem_foldl_of_ascii (bytes : Bytes) (b : UInt8) (hb : b.toNat < 0x80) (hm : b ∈ bytes)
    (s : Scan) (hs : ∀ more low high acc, s.state = .tail more low high acc → 0x80 ≤ low.toNat) :
    some (Char.ofNat b.toNat) ∈ (bytes.foldl Scan.feed s).emitted := by
  induction bytes generalizing s with
  | nil => simp at hm
  | cons a r ih =>
    rcases List.mem_cons.1 hm with rfl | hm
    · refine mem_emitted_foldl r _ _ ?_
      simp [Scan.feed, mem_feed_of_ascii s.state b hb hs]
    · exact ih hm _ (low_le_of_feed s.state a hs)

/-- An ASCII byte of the input shows up as its character in the lossy text. -/
theorem mem_decodeLossy_of_ascii {bytes : Bytes} {b : UInt8} (hb : b.toNat < 0x80)
    (hm : b ∈ bytes) : Char.ofNat b.toNat ∈ decodeLossy bytes := by
  have h := mem_foldl_of_ascii bytes b hb hm ⟨[], .start⟩ (by simp)
  refine List.mem_map.2 ⟨some (Char.ofNat b.toNat), ?_, rfl⟩
  simp [symbols, h]

end Utf8

end Shakedown
