import ReportBinding.Hash.Sha256
import ReportBinding.Text.Hex

/-!
# File digests

A file digest is the SHA-256 digest of a file's content.  It is written in
lowercase hexadecimal digits.
-/

namespace ReportBinding

/-- The 32 bytes of a SHA-256 digest. -/
@[ext] structure FileDigest where
  bytes : Bytes
  length_bytes : bytes.length = 32
deriving DecidableEq

namespace FileDigest

/-- Why a text is no file digest. -/
inductive Fault where
  /-- The text is no sequence of hexadecimal digit pairs. -/
  | notHex (fault : Hex.Fault)
  /-- The text spells a wrong number of bytes. -/
  | wrongLength (length : Nat)
deriving DecidableEq, Repr

/-- The wording of a refusal. -/
def Fault.message : Fault → String
  | .notHex fault => "invalid digest hex: " ++ fault.message
  | .wrongLength length =>
      "digest must be 32 bytes, got " ++ toString length

/-- The digest with the given bytes, if there are 32 of them. -/
def ofBytes (bytes : Bytes) : Except Fault FileDigest :=
  if fits : bytes.length = 32 then .ok ⟨bytes, fits⟩
  else .error (.wrongLength bytes.length)

/-- The digest of a file with the given content. -/
def ofContent (content : Bytes) : FileDigest :=
  ⟨Hash.sha256 content, Hash.length_sha256 content⟩

/-- The text of a digest. -/
def toHex (digest : FileDigest) : String :=
  Hex.encode digest.bytes

/-- The digest that a text spells. -/
def ofHex (text : String) : Except Fault FileDigest :=
  match Hex.decode text with
  | .ok bytes => ofBytes bytes
  | .error fault => .error (.notHex fault)

end FileDigest
end ReportBinding
