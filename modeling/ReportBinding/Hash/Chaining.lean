import ReportBinding.Bytes

/-!
# Chained block hashes

A chained hash pads a message to whole blocks, folds a compression function
over the blocks and renders the last chaining value.  A message may also be
fed piece by piece; `Stream.finish_update_start` says that the pieces do not
matter: a stream ends in the hash of all that was fed to it.
-/

namespace ReportBinding
namespace Hash

/-- The parts that make up a chained hash. -/
structure Chaining where
  /-- Chaining values. -/
  State : Type
  /-- The chaining value before the first block. -/
  initial : State
  /-- The number of bytes in a block. -/
  blockLength : Nat
  /-- The number of bytes that hold the message length in the padding. -/
  lengthWidth : Nat
  /-- Take one block into the chaining value. -/
  compress : State → Bytes → State
  /-- The bytes of the digest. -/
  digest : State → Bytes

namespace Chaining

/-- What follows a message of the given length: a set bit, zeros up to the
last field of a block, and the length in bits. -/
def padding (hash : Chaining) (messageLength : Nat) : Bytes :=
  let used := (messageLength + 1 + hash.lengthWidth) % hash.blockLength
  0x80 :: List.replicate ((hash.blockLength - used) % hash.blockLength) 0 ++
    Bytes.ofBigEndian hash.lengthWidth (8 * messageLength)

/-- The whole blocks of a byte sequence, when `pending` bytes (last first, and
`count` of them) already belong to the first block. -/
def blocksFrom (hash : Chaining) (pending : Bytes) (count : Nat) :
    Bytes → List Bytes
  | [] => []
  | byte :: rest =>
      if count + 1 = hash.blockLength then
        (byte :: pending).reverse :: blocksFrom hash [] 0 rest
      else blocksFrom hash (byte :: pending) (count + 1) rest

/-- The hash of a message. -/
def hash (hash : Chaining) (message : Bytes) : Bytes :=
  let padded := message ++ hash.padding message.length
  hash.digest ((hash.blocksFrom [] 0 padded).foldl hash.compress hash.initial)

/-- A message under way. -/
structure Stream (hash : Chaining) where
  /-- The chaining value of the whole blocks so far. -/
  chain : hash.State
  /-- The bytes of the block under way, last first. -/
  pending : Bytes
  /-- The number of bytes of the block under way. -/
  count : Nat
  /-- The number of bytes so far. -/
  total : Nat

namespace Stream

variable {hash : Chaining}

/-- The empty message under way. -/
def start : Stream hash := ⟨hash.initial, [], 0, 0⟩

/-- Feed one byte. -/
def push (stream : Stream hash) (byte : UInt8) : Stream hash :=
  if stream.count + 1 = hash.blockLength then
    ⟨hash.compress stream.chain (byte :: stream.pending).reverse, [], 0,
      stream.total + 1⟩
  else
    ⟨stream.chain, byte :: stream.pending, stream.count + 1, stream.total + 1⟩

/-- Feed a piece of the message. -/
def update (stream : Stream hash) (piece : Bytes) : Stream hash :=
  piece.foldl push stream

/-- The digest of all that was fed. -/
def finish (stream : Stream hash) : Bytes :=
  hash.digest (stream.update (hash.padding stream.total)).chain

@[simp] theorem update_nil (stream : Stream hash) :
    stream.update [] = stream := rfl

/-- Two pieces fed one after the other are one piece. -/
theorem update_append (stream : Stream hash) (first second : Bytes) :
    stream.update (first ++ second) = (stream.update first).update second := by
  simp [update]

/-- The chaining value takes in exactly the whole blocks. -/
theorem chain_update (stream : Stream hash) (piece : Bytes) :
    (stream.update piece).chain =
      (hash.blocksFrom stream.pending stream.count piece).foldl
        hash.compress stream.chain := by
  induction piece generalizing stream with
  | nil => rfl
  | cons byte piece inductionHypothesis =>
      have step : stream.update (byte :: piece) =
          (stream.push byte).update piece := rfl
      rw [step, inductionHypothesis]
      by_cases full : stream.count + 1 = hash.blockLength <;>
        simp [push, blocksFrom, full]

/-- A stream counts its bytes. -/
theorem total_update (stream : Stream hash) (piece : Bytes) :
    (stream.update piece).total = stream.total + piece.length := by
  induction piece generalizing stream with
  | nil => rfl
  | cons byte piece inductionHypothesis =>
      have step : stream.update (byte :: piece) =
          (stream.push byte).update piece := rfl
      have counted : (stream.push byte).total = stream.total + 1 := by
        by_cases full : stream.count + 1 = hash.blockLength <;>
          simp [push, full]
      rw [step, inductionHypothesis, counted, List.length_cons]
      omega

/-- A stream ends in the hash of the message that was fed to it. -/
theorem finish_update_start (message : Bytes) :
    ((start : Stream hash).update message).finish = hash.hash message := by
  have counted : ((start : Stream hash).update message).total =
      message.length := by
    rw [total_update]
    simp [start]
  simp only [finish, Chaining.hash, counted, ← update_append, chain_update]
  rfl

end Stream
end Chaining
end Hash
end ReportBinding
