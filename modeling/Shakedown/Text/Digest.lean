import Shakedown.Number.Binary64
import Shakedown.Text.Octet

/-!
# Digests

Short numbers that are computed from long texts. The digests of the first kind fill a text up to
whole blocks, and mix each block into a state of a few words; those of the second kind take one byte
after the other in.
-/

set_option autoImplicit false

namespace Shakedown.Digest

/-! ## Blocks -/

/-- The bytes of a block. -/
def blockSize : Nat := 64

/-- The bytes of a word, so many at most. -/
def bytesOf (bigFirst : Bool) (count n : Nat) : List Nat :=
  let low := (List.range count).map fun i => n / twoTo (8 * i) % 256
  if bigFirst then low.reverse else low

/-- The word of bytes. -/
def wordOf (bigFirst : Bool) (bytes : List Nat) : UInt32 :=
  ((if bigFirst then bytes else bytes.reverse).foldl (fun n b => 256 * n + b) 0).toUInt32

/-- Bytes with a one bit, zeros and the number of bits behind them, which make whole blocks. -/
def filled (bigFirst : Bool) (bytes : List Nat) : List Nat :=
  let zeros := (blockSize - (bytes.length + 9) % blockSize) % blockSize
  bytes ++ 0x80 :: List.replicate zeros 0 ++ bytesOf bigFirst 8 (8 * bytes.length)

/-- A list in parts of a size. -/
def parts {α : Type} (size : Nat) : Nat → List α → List (List α)
  | 0, _ => []
  | _ + 1, [] => []
  | n + 1, l => l.take size :: parts size n (l.drop size)

/-- The words of whole blocks. -/
def blocks (bigFirst : Bool) (bytes : List Nat) : List (Array UInt32) :=
  let all := filled bigFirst bytes
  (parts blockSize all.length all).map fun block =>
    ((parts 4 blockSize block).map (wordOf bigFirst)).toArray

/-- A word turned to the left by so many bits. -/
def turned (x n : UInt32) : UInt32 :=
  (x <<< n) ||| (x >>> (32 - n))

/-- The sums of the words of two states. -/
def added (s t : List UInt32) : List UInt32 :=
  List.zipWith (· + ·) s t

/-- Words in hexadecimal digits. -/
def shown (bigFirst : Bool) (words : List UInt32) : Chars :=
  words.flatMap fun w => (bytesOf bigFirst 4 w.toNat).flatMap fun b =>
    [Nat.digitChar (b / 16), Nat.digitChar (b % 16)]

/-! ## The digest of four words -/

/-- What is added in each step. -/
def sineWords : Array UInt32 :=
  #[0xd76aa478, 0xe8c7b756, 0x242070db, 0xc1bdceee, 0xf57c0faf, 0x4787c62a, 0xa8304613,
    0xfd469501, 0x698098d8, 0x8b44f7af, 0xffff5bb1, 0x895cd7be, 0x6b901122, 0xfd987193,
    0xa679438e, 0x49b40821, 0xf61e2562, 0xc040b340, 0x265e5a51, 0xe9b6c7aa, 0xd62f105d,
    0x02441453, 0xd8a1e681, 0xe7d3fbc8, 0x21e1cde6, 0xc33707d6, 0xf4d50d87, 0x455a14ed,
    0xa9e3e905, 0xfcefa3f8, 0x676f02d9, 0x8d2a4c8a, 0xfffa3942, 0x8771f681, 0x6d9d6122,
    0xfde5380c, 0xa4beea44, 0x4bdecfa9, 0xf6bb4b60, 0xbebfbc70, 0x289b7ec6, 0xeaa127fa,
    0xd4ef3085, 0x04881d05, 0xd9d4d039, 0xe6db99e5, 0x1fa27cf8, 0xc4ac5665, 0xf4292244,
    0x432aff97, 0xab9423a7, 0xfc93a039, 0x655b59c3, 0x8f0ccc92, 0xffeff47d, 0x85845dd1,
    0x6fa87e4f, 0xfe2ce6e0, 0xa3014314, 0x4e0811a1, 0xf7537e82, 0xbd3af235, 0x2ad7d2bb,
    0xeb86d391]

/-- How far words are turned in the steps of each round. -/
def turns4 : List (List UInt32) :=
  [[7, 12, 17, 22], [5, 9, 14, 20], [4, 11, 16, 23], [6, 10, 15, 21]]

/-- The state before the first block. -/
def start4 : List UInt32 := [0x67452301, 0xefcdab89, 0x98badcfe, 0x10325476]

/-- The function of a step and the word that it takes. -/
def choice4 (i : Nat) (b c d : UInt32) : UInt32 × Nat :=
  if i < 16 then ((b &&& c) ||| (~~~b &&& d), i)
  else if i < 32 then ((d &&& b) ||| (~~~d &&& c), (5 * i + 1) % 16)
  else if i < 48 then (b ^^^ c ^^^ d, (3 * i + 5) % 16)
  else (c ^^^ (b ||| ~~~d), 7 * i % 16)

/-- A step. -/
def step4 (block : Array UInt32) (s : List UInt32) (i : Nat) : List UInt32 :=
  match s with
  | [a, b, c, d] =>
    let (f, place) := choice4 i b c d
    let turn := ((turns4[i / 16]?).getD []).getD (i % 4) 0
    let sum := a + f + (sineWords[i]?).getD 0 + (block[place]?).getD 0
    [d, b + turned sum turn, b, c]
  | _ => s

/-- The digest of 128 bits. -/
def short (bytes : List Nat) : Chars :=
  shown false <| (blocks false bytes).foldl
    (fun s block => added s ((List.range 64).foldl (step4 block) s)) start4

/-! ## The digest of five words -/

/-- The state before the first block. -/
def start5 : List UInt32 := start4 ++ [0xc3d2e1f0]

/-- A block drawn out to so many words by mixing earlier words of it. -/
def drawn (mix : Array UInt32 → Nat → UInt32) (count : Nat) (block : Array UInt32) :
    Array UInt32 :=
  (List.range (count - 16)).foldl (fun w i => w.push (mix w (i + 16))) block

/-- A word of five further on. -/
def mix5 (w : Array UInt32) (i : Nat) : UInt32 :=
  let at_ := fun (n : Nat) => (w[i - n]?).getD 0
  turned (at_ 3 ^^^ at_ 8 ^^^ at_ 14 ^^^ at_ 16) 1

/-- The function of a step and what is added in it. -/
def choice5 (i : Nat) (b c d : UInt32) : UInt32 × UInt32 :=
  if i < 20 then ((b &&& c) ||| (~~~b &&& d), 0x5a827999)
  else if i < 40 then (b ^^^ c ^^^ d, 0x6ed9eba1)
  else if i < 60 then ((b &&& c) ||| (b &&& d) ||| (c &&& d), 0x8f1bbcdc)
  else (b ^^^ c ^^^ d, 0xca62c1d6)

/-- A step. -/
def step5 (words : Array UInt32) (s : List UInt32) (i : Nat) : List UInt32 :=
  match s with
  | [a, b, c, d, e] =>
    let (f, k) := choice5 i b c d
    [turned a 5 + f + e + k + (words[i]?).getD 0, a, turned b 30, c, d]
  | _ => s

/-- The digest of 160 bits. -/
def medium (bytes : List Nat) : Chars :=
  shown true <| (blocks true bytes).foldl
    (fun s block => added s ((List.range 80).foldl (step5 (drawn mix5 80 block)) s)) start5

/-! ## The digest of eight words -/

/-- What is added in each step. -/
def rootWords : Array UInt32 :=
  #[0x428a2f98, 0x71374491, 0xb5c0fbcf, 0xe9b5dba5, 0x3956c25b, 0x59f111f1, 0x923f82a4,
    0xab1c5ed5, 0xd807aa98, 0x12835b01, 0x243185be, 0x550c7dc3, 0x72be5d74, 0x80deb1fe,
    0x9bdc06a7, 0xc19bf174, 0xe49b69c1, 0xefbe4786, 0x0fc19dc6, 0x240ca1cc, 0x2de92c6f,
    0x4a7484aa, 0x5cb0a9dc, 0x76f988da, 0x983e5152, 0xa831c66d, 0xb00327c8, 0xbf597fc7,
    0xc6e00bf3, 0xd5a79147, 0x06ca6351, 0x14292967, 0x27b70a85, 0x2e1b2138, 0x4d2c6dfc,
    0x53380d13, 0x650a7354, 0x766a0abb, 0x81c2c92e, 0x92722c85, 0xa2bfe8a1, 0xa81a664b,
    0xc24b8b70, 0xc76c51a3, 0xd192e819, 0xd6990624, 0xf40e3585, 0x106aa070, 0x19a4c116,
    0x1e376c08, 0x2748774c, 0x34b0bcb5, 0x391c0cb3, 0x4ed8aa4a, 0x5b9cca4f, 0x682e6ff3,
    0x748f82ee, 0x78a5636f, 0x84c87814, 0x8cc70208, 0x90befffa, 0xa4506ceb, 0xbef9a3f7,
    0xc67178f2]

/-- The state before the first block. -/
def start8 : List UInt32 :=
  [0x6a09e667, 0xbb67ae85, 0x3c6ef372, 0xa54ff53a, 0x510e527f, 0x9b05688c, 0x1f83d9ab,
    0x5be0cd19]

/-- A word of sixteen further on. -/
def mix8 (w : Array UInt32) (i : Nat) : UInt32 :=
  let at_ := fun (n : Nat) => (w[i - n]?).getD 0
  let x := at_ 15
  let y := at_ 2
  at_ 16 + (turned x 25 ^^^ turned x 14 ^^^ (x >>> 3)) + at_ 7
    + (turned y 15 ^^^ turned y 13 ^^^ (y >>> 10))

/-- A step. -/
def step8 (words : Array UInt32) (s : List UInt32) (i : Nat) : List UInt32 :=
  match s with
  | [a, b, c, d, e, f, g, h] =>
    let first := h + (turned e 26 ^^^ turned e 21 ^^^ turned e 7) + ((e &&& f) ^^^ (~~~e &&& g))
      + (rootWords[i]?).getD 0 + (words[i]?).getD 0
    let second := (turned a 30 ^^^ turned a 19 ^^^ turned a 10)
      + ((a &&& b) ^^^ (a &&& c) ^^^ (b &&& c))
    [first + second, a, b, c, d + first, e, f, g]
  | _ => s

/-- The digest of 256 bits. -/
def long (bytes : List Nat) : Chars :=
  shown true <| (blocks true bytes).foldl
    (fun s block => added s ((List.range 64).foldl (step8 (drawn mix8 64 block)) s)) start8

/-! ## Sums -/

/-- The remainder by which a text and its length are divided as polynomials. -/
def polynomial : UInt32 := 0x04c11db7

/-- A bit of a division: what is left is moved up, and divided if a one falls out. -/
def divideBit (x : UInt32) : UInt32 :=
  if x &&& 0x80000000 = 0 then x <<< 1 else (x <<< 1) ^^^ polynomial

/-- What is left of a division after one more byte. -/
def divideByte (x : UInt32) (b : Nat) : UInt32 :=
  (List.range 8).foldl (fun x _ => divideBit x) (x ^^^ (b.toUInt32 <<< 24))

/-- The bytes of a number without zeros at the end, the lowest first. -/
def lengthBytes : Nat → Nat → List Nat
  | 0, _ => []
  | fuel + 1, n => if n = 0 then [] else n % 256 :: lengthBytes fuel (n / 256)

/-- The remainder of a text with its length behind it. -/
def remainder (bytes : List Nat) : Nat :=
  let all := bytes ++ lengthBytes 8 bytes.length
  (~~~(all.foldl divideByte 0)).toNat

/-- The sum of 16 bits that is turned to the right before each byte is added. -/
def turnedSum (bytes : List Nat) : Nat :=
  bytes.foldl (fun s b => (s / 2 + s % 2 * 32768 + b) % 65536) 0

/-- The sum of all bytes, whose carry is added to it. -/
def plainSum (bytes : List Nat) : Nat :=
  let s := bytes.foldl (· + ·) 0 % 4294967296
  let r := s % 65536 + s / 65536
  r % 65536 + r / 65536

end Shakedown.Digest
