import ReportBinding.Hash.Chaining

/-!
# SHA-256

The chained hash on 32-bit words with 64 rounds a block, and the width of
its digests.
-/

namespace ReportBinding
namespace Hash
namespace Sha256

/-- The eight working words. -/
structure State where
  a : UInt32
  b : UInt32
  c : UInt32
  d : UInt32
  e : UInt32
  f : UInt32
  g : UInt32
  h : UInt32

/-- The leading fraction bits of the square roots of the first eight primes. -/
def initial : State :=
  ⟨
    0x6a09e667, 0xbb67ae85, 0x3c6ef372, 0xa54ff53a,
    0x510e527f, 0x9b05688c, 0x1f83d9ab, 0x5be0cd19⟩

/-- The leading fraction bits of the cube roots of the first 64 primes. -/
def roundConstants : List UInt32 :=
  [
    0x428a2f98, 0x71374491, 0xb5c0fbcf, 0xe9b5dba5, 0x3956c25b, 0x59f111f1,
    0x923f82a4, 0xab1c5ed5, 0xd807aa98, 0x12835b01, 0x243185be, 0x550c7dc3,
    0x72be5d74, 0x80deb1fe, 0x9bdc06a7, 0xc19bf174, 0xe49b69c1, 0xefbe4786,
    0x0fc19dc6, 0x240ca1cc, 0x2de92c6f, 0x4a7484aa, 0x5cb0a9dc, 0x76f988da,
    0x983e5152, 0xa831c66d, 0xb00327c8, 0xbf597fc7, 0xc6e00bf3, 0xd5a79147,
    0x06ca6351, 0x14292967, 0x27b70a85, 0x2e1b2138, 0x4d2c6dfc, 0x53380d13,
    0x650a7354, 0x766a0abb, 0x81c2c92e, 0x92722c85, 0xa2bfe8a1, 0xa81a664b,
    0xc24b8b70, 0xc76c51a3, 0xd192e819, 0xd6990624, 0xf40e3585, 0x106aa070,
    0x19a4c116, 0x1e376c08, 0x2748774c, 0x34b0bcb5, 0x391c0cb3, 0x4ed8aa4a,
    0x5b9cca4f, 0x682e6ff3, 0x748f82ee, 0x78a5636f, 0x84c87814, 0x8cc70208,
    0x90befffa, 0xa4506ceb, 0xbef9a3f7, 0xc67178f2]

/-- Rotation of a word toward its low bits. -/
@[inline] def rotate (word amount : UInt32) : UInt32 :=
  (word >>> amount) ||| (word <<< (32 - amount))

/-- The first mixing function of the schedule. -/
@[inline] def smallSigma0 (word : UInt32) : UInt32 :=
  rotate word 7 ^^^ rotate word 18 ^^^ (word >>> 3)

/-- The second mixing function of the schedule. -/
@[inline] def smallSigma1 (word : UInt32) : UInt32 :=
  rotate word 17 ^^^ rotate word 19 ^^^ (word >>> 10)

/-- The mixing function of the first working word. -/
@[inline] def bigSigma0 (word : UInt32) : UInt32 :=
  rotate word 2 ^^^ rotate word 13 ^^^ rotate word 22

/-- The mixing function of the fifth working word. -/
@[inline] def bigSigma1 (word : UInt32) : UInt32 :=
  rotate word 6 ^^^ rotate word 11 ^^^ rotate word 25

/-- Bits of the second word where the first is set, else of the third. -/
@[inline] def choose (x y z : UInt32) : UInt32 :=
  (x &&& y) ^^^ (~~~x &&& z)

/-- The bits that two of three words agree on. -/
@[inline] def majority (x y z : UInt32) : UInt32 :=
  (x &&& y) ^^^ (x &&& z) ^^^ (y &&& z)

/-- The words of a block, greatest byte first. -/
def words : Bytes → List UInt32
  | b0 :: b1 :: b2 :: b3 :: rest =>
      UInt32.ofNat (Bytes.littleEndian [b3, b2, b1, b0]) ::
        words rest
  | _ => []

/-- The next word of the schedule, from the words so far, latest first. -/
def nextWord (latest : List UInt32) : UInt32 :=
  smallSigma1 (latest.getD 1 0) + latest.getD 6 0 +
    smallSigma0 (latest.getD 14 0) + latest.getD 15 0

/-- The schedule after `count` further words, latest first. -/
def extendSchedule : Nat → List UInt32 → List UInt32
  | 0, latest => latest
  | count + 1, latest => extendSchedule count (nextWord latest :: latest)

/-- The words of all rounds of a block. -/
def schedule (block : Bytes) : List UInt32 :=
  (extendSchedule 48 (words block).reverse).reverse

/-- One round, with its constant and its word of the schedule. -/
def round (state : State) (input : UInt32 × UInt32) : State :=
  let mixed := state.h + bigSigma1 state.e +
    choose state.e state.f state.g + input.1 + input.2
  let summed := bigSigma0 state.a + majority state.a state.b state.c
  ⟨mixed + summed, state.a, state.b, state.c,
    state.d + mixed, state.e, state.f, state.g⟩

/-- The word-wise sum of two states. -/
def State.add (left right : State) : State :=
  ⟨left.a + right.a, left.b + right.b, left.c + right.c, left.d + right.d,
    left.e + right.e, left.f + right.f, left.g + right.g, left.h + right.h⟩

/-- Take one block into the state. -/
def compress (state : State) (block : Bytes) : State :=
  state.add ((roundConstants.zip (schedule block)).foldl round state)

/-- The words of a state, greatest byte first. -/
def State.bytes (state : State) : Bytes :=
  [state.a, state.b, state.c, state.d, state.e, state.f, state.g, state.h].flatMap
    fun word => Bytes.ofBigEndian 4 word.toNat

/-- SHA-256 as a chained hash. -/
def chaining : Chaining where
  State := State
  initial := initial
  blockLength := 64
  lengthWidth := 8
  compress := compress
  digest := State.bytes

end Sha256

/-- The SHA-256 digest of a message. -/
def sha256 (message : Bytes) : Bytes :=
  Sha256.chaining.hash message

theorem Sha256.length_bytes (state : Sha256.State) :
    state.bytes.length = 32 := by
  simp [Sha256.State.bytes]

@[simp] theorem length_sha256 (message : Bytes) :
    (sha256 message).length = 32 :=
  Sha256.length_bytes _

-- The digest of "abc" that the standard gives.
example : sha256 [97, 98, 99] =
    [0xba7816bf, 0x8f01cfea, 0x414140de, 0x5dae2223, 0xb00361a3, 0x96177a9c,
      0xb410ff61, 0xf20015ad].flatMap (Bytes.ofBigEndian 4) := by
  decide +kernel

end Hash
end ReportBinding
