import FeatureFlags.Text.Octets

/-!
**The MD5 digest, which spreads subjects over shards and hides flag keys.**

The message is padded to whole blocks of 64 octets; each block moves a state of four 32-bit words
through 64 steps. All word arithmetic wraps.

* `Digest.md5`: the sixteen octets of the digest.
-/

namespace FeatureFlags.Digest

/-- The state between two steps. -/
structure State where
  a : UInt32
  b : UInt32
  c : UInt32
  d : UInt32
deriving DecidableEq, Repr

/-- The state before the first block. -/
def State.start : State := ⟨0x67452301, 0xefcdab89, 0x98badcfe, 0x10325476⟩

/-- The word added in each step: the first 32 bits of the fraction of a sine. -/
def sineWords : List UInt32 :=
  [
    0xd76aa478, 0xe8c7b756, 0x242070db, 0xc1bdceee, 0xf57c0faf, 0x4787c62a,
    0xa8304613, 0xfd469501, 0x698098d8, 0x8b44f7af, 0xffff5bb1, 0x895cd7be,
    0x6b901122, 0xfd987193, 0xa679438e, 0x49b40821, 0xf61e2562, 0xc040b340,
    0x265e5a51, 0xe9b6c7aa, 0xd62f105d, 0x02441453, 0xd8a1e681, 0xe7d3fbc8,
    0x21e1cde6, 0xc33707d6, 0xf4d50d87, 0x455a14ed, 0xa9e3e905, 0xfcefa3f8,
    0x676f02d9, 0x8d2a4c8a, 0xfffa3942, 0x8771f681, 0x6d9d6122, 0xfde5380c,
    0xa4beea44, 0x4bdecfa9, 0xf6bb4b60, 0xbebfbc70, 0x289b7ec6, 0xeaa127fa,
    0xd4ef3085, 0x04881d05, 0xd9d4d039, 0xe6db99e5, 0x1fa27cf8, 0xc4ac5665,
    0xf4292244, 0x432aff97, 0xab9423a7, 0xfc93a039, 0x655b59c3, 0x8f0ccc92,
    0xffeff47d, 0x85845dd1, 0x6fa87e4f, 0xfe2ce6e0, 0xa3014314, 0x4e0811a1,
    0xf7537e82, 0xbd3af235, 0x2ad7d2bb, 0xeb86d391]

/-- How far the steps of each of the four rounds rotate, in turn. -/
def rotations : List (List UInt32) :=
  [[7, 12, 17, 22], [5, 9, 14, 20], [4, 11, 16, 23], [6, 10, 15, 21]]

/-- A word rotated to the left. -/
def rotate (word amount : UInt32) : UInt32 := (word <<< amount) ||| (word >>> (32 - amount))

/-- The function of a round on three words of the state. -/
def mix (round : Nat) (x y z : UInt32) : UInt32 :=
  match round with
  | 0 => (x &&& y) ||| (~~~x &&& z)
  | 1 => (z &&& x) ||| (~~~z &&& y)
  | 2 => x ^^^ y ^^^ z
  | _ => y ^^^ (x ||| ~~~z)

/-- Which word of the block a step takes. -/
def wordIndex (step : Nat) : Nat :=
  match step / 16 with
  | 0 => step
  | 1 => (5 * step + 1) % 16
  | 2 => (3 * step + 5) % 16
  | _ => 7 * step % 16

/-- One step of a block. -/
def State.step (words : List UInt32) (state : State) (step : Nat) : State :=
  let round := step / 16
  let sum := state.a + mix round state.b state.c state.d + sineWords.getD step 0 +
    words.getD (wordIndex step) 0
  let amount := (rotations.getD round []).getD (step % 4) 0
  ⟨state.d, state.b + rotate sum amount, state.b, state.c⟩

/-- The state after a block of sixteen words. -/
def State.block (state : State) (words : List UInt32) : State :=
  let last := (List.range 64).foldl (State.step words) state
  ⟨state.a + last.a, state.b + last.b, state.c + last.c, state.d + last.d⟩

/-- The message with its padding: a one bit, zeros, and the length in bits. -/
def padded (message : Octets) : Octets :=
  let zeros := (119 - message.length % 64) % 64
  message ++ 0x80 :: (List.replicate zeros 0 ++ littleEndian 8 (message.length * 8))

/-- The words of a sequence of octets. -/
def wordsOf : Octets → List UInt32
  | a :: b :: c :: d :: rest => UInt32.ofNat (ofLittleEndian [a, b, c, d]) :: wordsOf rest
  | _ => []

/-- The state after a number of whole blocks. -/
def State.blocks (state : State) : Nat → List UInt32 → State
  | 0, _ => state
  | count + 1, words => State.blocks (state.block (words.take 16)) count (words.drop 16)

/-- The MD5 digest of a message. -/
def md5 (message : Octets) : Octets :=
  let words := wordsOf (padded message)
  let final := State.start.blocks (words.length / 16) words
  [final.a, final.b, final.c, final.d].flatMap fun word => littleEndian 4 word.toNat

end FeatureFlags.Digest
