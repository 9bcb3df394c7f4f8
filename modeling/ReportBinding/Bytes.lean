/-!
# Bytes

File contents, digests and quotes are lists of bytes.  This module fixes the
byte orders in which numbers are laid out and the test that a list of bytes
fills a field of a given width.
-/

namespace ReportBinding

/-- A sequence of bytes, first byte first. -/
abbrev Bytes := List UInt8

namespace Bytes

/-- The value of a byte sequence whose first byte weighs least. -/
def littleEndian : Bytes → Nat
  | [] => 0
  | byte :: rest => byte.toNat + 256 * littleEndian rest

/-- The `width` lowest bytes of a number, least byte first. -/
def ofLittleEndian : Nat → Nat → Bytes
  | 0, _ => []
  | width + 1, value => UInt8.ofNat value :: ofLittleEndian width (value / 256)

/-- The `width` lowest bytes of a number, greatest byte first. -/
def ofBigEndian (width value : Nat) : Bytes :=
  (ofLittleEndian width value).reverse

@[simp] theorem littleEndian_nil : littleEndian [] = 0 := rfl

@[simp] theorem littleEndian_cons (byte : UInt8) (rest : Bytes) :
    littleEndian (byte :: rest) = byte.toNat + 256 * littleEndian rest := rfl

@[simp] theorem length_ofLittleEndian (width value : Nat) :
    (ofLittleEndian width value).length = width := by
  induction width generalizing value with
  | zero => rfl
  | succ width inductionHypothesis =>
      simp [ofLittleEndian, inductionHypothesis]

@[simp] theorem length_ofBigEndian (width value : Nat) :
    (ofBigEndian width value).length = width := by
  simp [ofBigEndian]

/-- The number of values that a field of a width can hold. -/
def capacity : Nat → Nat
  | 0 => 1
  | width + 1 => 256 * capacity width

/-- Writing a number that fits and reading it back gives the number. -/
theorem littleEndian_ofLittleEndian (width value : Nat)
    (fits : value < capacity width) :
    littleEndian (ofLittleEndian width value) = value := by
  induction width generalizing value with
  | zero =>
      simp only [capacity, Nat.lt_one_iff] at fits
      simp [ofLittleEndian, fits]
  | succ width inductionHypothesis =>
      have quotientFits : value / 256 < capacity width := by
        simp only [capacity] at fits
        omega
      simp only [ofLittleEndian, littleEndian_cons,
        inductionHypothesis _ quotientFits]
      simp only [UInt8.toNat_ofNat']
      omega

/-- The bytes of `content` from `start` on, up to `width` of them. -/
def slice (start width : Nat) (content : Bytes) : Bytes :=
  (content.drop start).take width

/-- Replace the bytes that follow position `start` by those of `field`. -/
def overwrite (start : Nat) (field content : Bytes) : Bytes :=
  content.take start ++ field ++ content.drop (start + field.length)

/-- The pieces that a reader with room for `size` bytes delivers, when `count`
bytes (last first in `pending`) already lie in its room. -/
def piecesFrom (size : Nat) (pending : Bytes) (count : Nat) :
    Bytes → List Bytes
  | [] => if pending.isEmpty then [] else [pending.reverse]
  | byte :: rest =>
      if count + 1 = size then
        (byte :: pending).reverse :: piecesFrom size [] 0 rest
      else piecesFrom size (byte :: pending) (count + 1) rest

/-- The pieces that a reader with room for `size` bytes delivers. -/
def pieces (size : Nat) (content : Bytes) : List Bytes :=
  piecesFrom size [] 0 content

theorem flatten_piecesFrom (size : Nat) (pending : Bytes) (count : Nat)
    (content : Bytes) :
    (piecesFrom size pending count content).flatten =
      pending.reverse ++ content := by
  induction content generalizing pending count with
  | nil => cases pending <;> simp [piecesFrom]
  | cons byte rest inductionHypothesis =>
      by_cases full : count + 1 = size <;>
        simp [piecesFrom, full, inductionHypothesis]

/-- The pieces make up the content. -/
@[simp] theorem flatten_pieces (size : Nat) (content : Bytes) :
    (pieces size content).flatten = content := by
  simp [pieces, flatten_piecesFrom]

end Bytes
end ReportBinding
