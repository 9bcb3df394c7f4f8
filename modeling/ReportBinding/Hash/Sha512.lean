import ReportBinding.Hash.Chaining

/-!
# SHA-512

The chained hash on 64-bit words with 80 rounds a block, and the width of
its digests.
-/

namespace ReportBinding
namespace Hash
namespace Sha512

/-- The eight working words. -/
structure State where
  a : UInt64
  b : UInt64
  c : UInt64
  d : UInt64
  e : UInt64
  f : UInt64
  g : UInt64
  h : UInt64

/-- The leading fraction bits of the square roots of the first eight primes. -/
def initial : State :=
  ⟨
    0x6a09e667f3bcc908, 0xbb67ae8584caa73b, 0x3c6ef372fe94f82b,
    0xa54ff53a5f1d36f1, 0x510e527fade682d1, 0x9b05688c2b3e6c1f,
    0x1f83d9abfb41bd6b, 0x5be0cd19137e2179⟩

/-- The leading fraction bits of the cube roots of the first 80 primes. -/
def roundConstants : List UInt64 :=
  [
    0x428a2f98d728ae22, 0x7137449123ef65cd, 0xb5c0fbcfec4d3b2f,
    0xe9b5dba58189dbbc, 0x3956c25bf348b538, 0x59f111f1b605d019,
    0x923f82a4af194f9b, 0xab1c5ed5da6d8118, 0xd807aa98a3030242,
    0x12835b0145706fbe, 0x243185be4ee4b28c, 0x550c7dc3d5ffb4e2,
    0x72be5d74f27b896f, 0x80deb1fe3b1696b1, 0x9bdc06a725c71235,
    0xc19bf174cf692694, 0xe49b69c19ef14ad2, 0xefbe4786384f25e3,
    0x0fc19dc68b8cd5b5, 0x240ca1cc77ac9c65, 0x2de92c6f592b0275,
    0x4a7484aa6ea6e483, 0x5cb0a9dcbd41fbd4, 0x76f988da831153b5,
    0x983e5152ee66dfab, 0xa831c66d2db43210, 0xb00327c898fb213f,
    0xbf597fc7beef0ee4, 0xc6e00bf33da88fc2, 0xd5a79147930aa725,
    0x06ca6351e003826f, 0x142929670a0e6e70, 0x27b70a8546d22ffc,
    0x2e1b21385c26c926, 0x4d2c6dfc5ac42aed, 0x53380d139d95b3df,
    0x650a73548baf63de, 0x766a0abb3c77b2a8, 0x81c2c92e47edaee6,
    0x92722c851482353b, 0xa2bfe8a14cf10364, 0xa81a664bbc423001,
    0xc24b8b70d0f89791, 0xc76c51a30654be30, 0xd192e819d6ef5218,
    0xd69906245565a910, 0xf40e35855771202a, 0x106aa07032bbd1b8,
    0x19a4c116b8d2d0c8, 0x1e376c085141ab53, 0x2748774cdf8eeb99,
    0x34b0bcb5e19b48a8, 0x391c0cb3c5c95a63, 0x4ed8aa4ae3418acb,
    0x5b9cca4f7763e373, 0x682e6ff3d6b2b8a3, 0x748f82ee5defb2fc,
    0x78a5636f43172f60, 0x84c87814a1f0ab72, 0x8cc702081a6439ec,
    0x90befffa23631e28, 0xa4506cebde82bde9, 0xbef9a3f7b2c67915,
    0xc67178f2e372532b, 0xca273eceea26619c, 0xd186b8c721c0c207,
    0xeada7dd6cde0eb1e, 0xf57d4f7fee6ed178, 0x06f067aa72176fba,
    0x0a637dc5a2c898a6, 0x113f9804bef90dae, 0x1b710b35131c471b,
    0x28db77f523047d84, 0x32caab7b40c72493, 0x3c9ebe0a15c9bebc,
    0x431d67c49c100d4c, 0x4cc5d4becb3e42b6, 0x597f299cfc657e2a,
    0x5fcb6fab3ad6faec, 0x6c44198c4a475817]

/-- Rotation of a word toward its low bits. -/
@[inline] def rotate (word amount : UInt64) : UInt64 :=
  (word >>> amount) ||| (word <<< (64 - amount))

/-- The first mixing function of the schedule. -/
@[inline] def smallSigma0 (word : UInt64) : UInt64 :=
  rotate word 1 ^^^ rotate word 8 ^^^ (word >>> 7)

/-- The second mixing function of the schedule. -/
@[inline] def smallSigma1 (word : UInt64) : UInt64 :=
  rotate word 19 ^^^ rotate word 61 ^^^ (word >>> 6)

/-- The mixing function of the first working word. -/
@[inline] def bigSigma0 (word : UInt64) : UInt64 :=
  rotate word 28 ^^^ rotate word 34 ^^^ rotate word 39

/-- The mixing function of the fifth working word. -/
@[inline] def bigSigma1 (word : UInt64) : UInt64 :=
  rotate word 14 ^^^ rotate word 18 ^^^ rotate word 41

/-- Bits of the second word where the first is set, else of the third. -/
@[inline] def choose (x y z : UInt64) : UInt64 :=
  (x &&& y) ^^^ (~~~x &&& z)

/-- The bits that two of three words agree on. -/
@[inline] def majority (x y z : UInt64) : UInt64 :=
  (x &&& y) ^^^ (x &&& z) ^^^ (y &&& z)

/-- The words of a block, greatest byte first. -/
def words : Bytes → List UInt64
  | b0 :: b1 :: b2 :: b3 :: b4 :: b5 :: b6 :: b7 :: rest =>
      UInt64.ofNat (Bytes.littleEndian [b7, b6, b5, b4, b3, b2, b1, b0]) ::
        words rest
  | _ => []

/-- The next word of the schedule, from the words so far, latest first. -/
def nextWord (latest : List UInt64) : UInt64 :=
  smallSigma1 (latest.getD 1 0) + latest.getD 6 0 +
    smallSigma0 (latest.getD 14 0) + latest.getD 15 0

/-- The schedule after `count` further words, latest first. -/
def extendSchedule : Nat → List UInt64 → List UInt64
  | 0, latest => latest
  | count + 1, latest => extendSchedule count (nextWord latest :: latest)

/-- The words of all rounds of a block. -/
def schedule (block : Bytes) : List UInt64 :=
  (extendSchedule 64 (words block).reverse).reverse

/-- One round, with its constant and its word of the schedule. -/
def round (state : State) (input : UInt64 × UInt64) : State :=
  let mixed := state.h + bigSigma1 state.e +
    choose state.e state.f state.g + input.1 + input.2
  let summed := bigSigma0 state.a + majority state.a state.b state.c
  ⟨mixed + summed, state.a, state.b, state.c,
    state.d + mixed, state.e, state.f, state.g⟩

/-- The word-wise sum of two states. -/
def State.add (left right : State) : State :=
  ⟨left.a + right.a, left.b + right.b, left.c + right.c, left.d + right.d,
    left.e + right.e, left.f + right.f, left.g + right.g, left.h + right.h⟩

/-- Take one block into the state. -/
def compress (state : State) (block : Bytes) : State :=
  state.add ((roundConstants.zip (schedule block)).foldl round state)

/-- The words of a state, greatest byte first. -/
def State.bytes (state : State) : Bytes :=
  [state.a, state.b, state.c, state.d, state.e, state.f, state.g, state.h].flatMap
    fun word => Bytes.ofBigEndian 8 word.toNat

/-- SHA-512 as a chained hash. -/
def chaining : Chaining where
  State := State
  initial := initial
  blockLength := 128
  lengthWidth := 16
  compress := compress
  digest := State.bytes

end Sha512

/-- The SHA-512 digest of a message. -/
def sha512 (message : Bytes) : Bytes :=
  Sha512.chaining.hash message

theorem Sha512.length_bytes (state : Sha512.State) :
    state.bytes.length = 64 := by
  simp [Sha512.State.bytes]

@[simp] theorem length_sha512 (message : Bytes) :
    (sha512 message).length = 64 :=
  Sha512.length_bytes _

-- The digest of "abc" that the standard gives.
example : sha512 [97, 98, 99] =
    [0xddaf35a193617aba, 0xcc417349ae204131, 0x12e6fa4e89a97ea2,
      0x0a9eeee64b55d39a, 0x2192992a274fc1a8, 0x36ba3c23a3feebbd,
      0x454d4423643ce80e, 0x2a9ac94fa54ca49f].flatMap
        (Bytes.ofBigEndian 8) := by
  decide +kernel

end Hash
end ReportBinding
