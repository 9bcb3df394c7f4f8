import ReportBinding.Proofs.Files.Access
import ReportBinding.Provenance.Hashing

/-!
# Digests of input files

Hashing an input succeeds exactly for the paths that hold a content, and then
gives the digest of that content, however it was delivered in pieces.
-/

namespace ReportBinding
namespace Hash.Chaining.Stream

variable {hash : Chaining}

theorem foldl_update (stream : Stream hash) (pieces : List Bytes) :
    pieces.foldl update stream = stream.update pieces.flatten := by
  induction pieces generalizing stream with
  | nil => rfl
  | cons piece pieces inductionHypothesis =>
      rw [List.foldl_cons, inductionHypothesis, List.flatten_cons,
        update_append]

end Hash.Chaining.Stream

namespace FileDigest

/-- The digest of a stream that was fed a whole content. -/
theorem ofStream_update_start (content : Bytes) :
    ofStream (Hash.Chaining.Stream.start.update content) =
      ofContent content := by
  apply FileDigest.ext
  exact @Hash.Chaining.Stream.finish_update_start Hash.Sha256.chaining content

/-- A source that delivers a content at once ends in the digest of it. -/
theorem hashEvents_data (content : Bytes) :
    hashEvents [.data content] = .ok (ofContent content) := by
  cases content with
  | nil => exact congrArg Except.ok (ofStream_update_start [])
  | cons byte rest =>
      rw [hashEvents, hashEventsFrom, hashEventsFrom,
        Hash.Chaining.Stream.foldl_update, Bytes.flatten_pieces,
        ofStream_update_start]
      exact List.cons_ne_nil byte rest

end FileDigest

namespace FileSystem

/-- Hashing succeeds exactly for paths that hold a content, and gives the
digest of it. -/
theorem hashFile_eq_ok_iff (files : FileSystem) (input : Input)
    (path : HostText) (digest : FileDigest) :
    files.hashFile input path = .ok digest ↔
      ∃ content, files.Holds path content ∧ digest = .ofContent content := by
  unfold hashFile isFile openToRead Holds
  cases found : files.find path with
  | error fault => simp
  | ok entry =>
      cases entry with
      | file content executable =>
          simp [FileDigest.hashEvents_data, eq_comm]
      | damaged lead =>
          cases lead <;>
            simp [FileDigest.hashEvents, FileDigest.hashEventsFrom]
      | sealed => simp
      | directory => simp
      | link target => simp

end FileSystem
end ReportBinding
