import QuizBank.Random.Digest

/-!
# The key stream

ChaCha with eight rounds, a 64-bit block counter and a zero nonce. A key determines one block of
sixteen words for every counter value; `Keystream.word64` numbers the 64-bit words of the blocks
through.
-/

namespace QuizBank
namespace Keystream

/-- Sixteen words: the state of the cipher, and a block of its output. -/
structure Block where
  w0 : UInt32
  w1 : UInt32
  w2 : UInt32
  w3 : UInt32
  w4 : UInt32
  w5 : UInt32
  w6 : UInt32
  w7 : UInt32
  w8 : UInt32
  w9 : UInt32
  w10 : UInt32
  w11 : UInt32
  w12 : UInt32
  w13 : UInt32
  w14 : UInt32
  w15 : UInt32
  deriving DecidableEq

/-- Rotation to the left. -/
@[inline] def rotateLeft (x : UInt32) (n : UInt32) : UInt32 := (x <<< n) ||| (x >>> (32 - n))

/-- Mixes four words. -/
@[inline] def quarterRound (a b c d : UInt32) : UInt32 × UInt32 × UInt32 × UInt32 :=
  let a := a + b
  let d := rotateLeft (d ^^^ a) 16
  let c := c + d
  let b := rotateLeft (b ^^^ c) 12
  let a := a + b
  let d := rotateLeft (d ^^^ a) 8
  let c := c + d
  let b := rotateLeft (b ^^^ c) 7
  (a, b, c, d)

/-- A round over the columns and a round over the diagonals. -/
def doubleRound (s : Block) : Block :=
  let (x0, x4, x8, x12) := quarterRound s.w0 s.w4 s.w8 s.w12
  let (x1, x5, x9, x13) := quarterRound s.w1 s.w5 s.w9 s.w13
  let (x2, x6, x10, x14) := quarterRound s.w2 s.w6 s.w10 s.w14
  let (x3, x7, x11, x15) := quarterRound s.w3 s.w7 s.w11 s.w15
  let (x0, x5, x10, x15) := quarterRound x0 x5 x10 x15
  let (x1, x6, x11, x12) := quarterRound x1 x6 x11 x12
  let (x2, x7, x8, x13) := quarterRound x2 x7 x8 x13
  let (x3, x4, x9, x14) := quarterRound x3 x4 x9 x14
  ⟨x0, x1, x2, x3, x4, x5, x6, x7, x8, x9, x10, x11, x12, x13, x14, x15⟩

/-- Word by word addition. -/
def add (s t : Block) : Block :=
  ⟨s.w0 + t.w0, s.w1 + t.w1, s.w2 + t.w2, s.w3 + t.w3, s.w4 + t.w4, s.w5 + t.w5, s.w6 + t.w6,
    s.w7 + t.w7, s.w8 + t.w8, s.w9 + t.w9, s.w10 + t.w10, s.w11 + t.w11, s.w12 + t.w12,
    s.w13 + t.w13, s.w14 + t.w14, s.w15 + t.w15⟩

/-- The bytes of a word in reverse order. -/
def swapBytes (x : UInt32) : UInt32 :=
  let second : UInt32 := 0xff0000
  let third : UInt32 := 0xff00
  (x <<< 24) ||| ((x <<< 8) &&& second) ||| ((x >>> 8) &&& third) ||| (x >>> 24)

/-- The state before the rounds. The digest is a key of 32 bytes, and the cipher reads bytes in the
opposite order. -/
def start (key : Digest) (counter : Nat) : Block :=
  ⟨0x61707865, 0x3320646e, 0x79622d32, 0x6b206574,
    swapBytes key.a, swapBytes key.b, swapBytes key.c, swapBytes key.d,
    swapBytes key.e, swapBytes key.f, swapBytes key.g, swapBytes key.h,
    UInt32.ofNat counter, UInt32.ofNat (counter / Nat.pow 2 32), 0, 0⟩

/-- The block of a key for a counter value: eight rounds, and the start added. -/
def block (key : Digest) (counter : Nat) : Block :=
  let s := start key counter
  add (doubleRound (doubleRound (doubleRound (doubleRound s)))) s

/-- Two words as one, the first being the lower half. -/
def join (low high : UInt32) : UInt64 := low.toUInt64 ||| (high.toUInt64 <<< 32)

/-- The eight 64-bit words of a block. -/
def pair (b : Block) : Nat → UInt64
  | 0 => join b.w0 b.w1
  | 1 => join b.w2 b.w3
  | 2 => join b.w4 b.w5
  | 3 => join b.w6 b.w7
  | 4 => join b.w8 b.w9
  | 5 => join b.w10 b.w11
  | 6 => join b.w12 b.w13
  | _ => join b.w14 b.w15

/-- The 64-bit word number `n` of the stream of a key. -/
def word64 (key : Digest) (n : Nat) : UInt64 := pair (block key (n / 8)) (n % 8)

end Keystream
end QuizBank
