import ReportBinding.Proofs.Provenance.Hashing

/-!
# What sources of bytes deliver

A source delivers bytes up to its end, which is a read of no bytes or the last
of its events.  Hashing comes to the first read that fails before the end, or
else to the digest of all that was delivered: `FileDigest.hashEvents_eq`.  So
neither the pieces that the bytes arrive in nor interruptions make a
difference, and no digest comes of a read that failed.
-/

namespace ReportBinding
namespace ReadEvent

/-- The bytes that an event brings. -/
def bytes : ReadEvent → Bytes
  | .data bytes => bytes
  | _ => []

/-- The fault of a read that fails. -/
def fault? : ReadEvent → Option Files.Fault
  | .failed fault => some fault
  | _ => none

/-- Whether an event is a read of no bytes. -/
def isEnd : ReadEvent → Bool
  | .data [] => true
  | _ => false

/-- The events before the end. -/
def beforeEnd (events : List ReadEvent) : List ReadEvent :=
  events.takeWhile fun event => !event.isEnd

/-- All bytes that arrive before the end. -/
def delivered (events : List ReadEvent) : Bytes :=
  (beforeEnd events).flatMap bytes

/-- The fault of the first read that fails before the end. -/
def failure? (events : List ReadEvent) : Option Files.Fault :=
  (beforeEnd events).findSome? fault?

end ReadEvent

namespace FileDigest

open ReadEvent

/-! ## Events -/

/-- A digest under way ends in the digest of what it has taken so far and all
that is still delivered. -/
theorem hashEventsFrom_eq (stream : Stream) (events : List ReadEvent) :
    hashEventsFrom stream events =
      (failure? events).elim
        (.ok (ofStream (stream.update (delivered events)))) .error := by
  induction events generalizing stream with
  | nil => rfl
  | cons event events inductionHypothesis =>
      cases event with
      | interrupted => exact inductionHypothesis stream
      | failed fault => rfl
      | data bytes =>
          cases bytes with
          | nil => rfl
          | cons byte rest =>
              -- The pieces of one event are fed one after the other.
              have taken : delivered (.data (byte :: rest) :: events) =
                  (byte :: rest) ++ delivered events := rfl
              have sameFailure :
                  failure? (.data (byte :: rest) :: events) =
                    failure? events := rfl
              rw [hashEventsFrom, inductionHypothesis,
                Hash.Chaining.Stream.foldl_update, Bytes.flatten_pieces,
                ← Hash.Chaining.Stream.update_append, taken, sameFailure]
              exact List.cons_ne_nil byte rest

/-- Hashing comes to the first fault, or else to the digest of all that is
delivered. -/
theorem hashEvents_eq (events : List ReadEvent) :
    hashEvents events =
      (failure? events).elim (.ok (ofContent (delivered events)))
        .error := by
  rw [hashEvents, hashEventsFrom_eq, ofStream_update_start]

theorem hashEvents_eq_ok_iff {events : List ReadEvent}
    {digest : FileDigest} :
    hashEvents events = .ok digest ↔
      failure? events = none ∧
        digest = .ofContent (delivered events) := by
  rw [hashEvents_eq]
  cases failure? events <;> simp [eq_comm]

theorem hashEvents_eq_error_iff {events : List ReadEvent}
    {fault : Files.Fault} :
    hashEvents events = .error fault ↔ failure? events = some fault := by
  rw [hashEvents_eq]
  cases failure? events <;> simp

end FileDigest

/-! ## Files -/

namespace FileSystem

open ReadEvent FileDigest

/-- How hashing the file for an input comes out. -/
inductive Hashes (files : FileSystem) (input : Input) (path : HostText) :
    Except Error FileDigest → Prop where
  /-- All that a regular file delivers is read. -/
  | whole {events : List ReadEvent} (isFile : files.isFile path = true)
      (opens : files.openToRead path = .ok events)
      (noFailure : failure? events = none) :
      Hashes files input path (.ok (.ofContent (delivered events)))
  /-- A regular file is opened, but a read fails. -/
  | broken {events : List ReadEvent} {fault : Files.Fault}
      (isFile : files.isFile path = true)
      (opens : files.openToRead path = .ok events)
      (fails : failure? events = some fault) :
      Hashes files input path (.error (.io input path fault))
  /-- There is no regular file. -/
  | noFile (isNoFile : files.isFile path = false) :
      Hashes files input path (.error (.inputNotFound input path))
  /-- There is a regular file, but it cannot be opened. -/
  | unopened {fault : Files.Fault} (isFile : files.isFile path = true)
      (refused : files.openToRead path = .error fault) :
      Hashes files input path (.error (.inputNotFound input path))

variable (files : FileSystem) (input : Input) (path : HostText)

theorem hashes_hashFile :
    files.Hashes input path (files.hashFile input path) := by
  unfold hashFile
  split
  · next isFile =>
      cases opens : files.openToRead path with
      | error fault => exact .unopened isFile opens
      | ok events =>
          dsimp only
          rw [hashEvents_eq]
          cases fails : failure? events with
          | none => exact .whole isFile opens fails
          | some fault => exact .broken isFile opens fails
  · next isNoFile => exact .noFile (Bool.eq_false_iff.mpr isNoFile)

/-- A file that fails behind its first bytes is opened, and a read fails. -/
theorem hashFile_of_damaged {lead : Bytes}
    (found : files.find path = .ok (.damaged lead)) :
    files.hashFile input path = .error (.io input path .inputOutput) := by
  have isFile : files.isFile path = true := by rw [FileSystem.isFile, found]
  rw [hashFile, if_pos isFile]
  cases lead <;> simp only [openToRead, found, hashEvents_eq] <;> rfl

/-- An input is not found unless its path holds a content, or leads to a file
that fails to be read. -/
theorem hashFile_of_not_holds
    (holdsNothing : ∀ content, ¬files.Holds path content)
    (notDamaged : ∀ lead, files.find path ≠ .ok (.damaged lead)) :
    files.hashFile input path = .error (.inputNotFound input path) := by
  unfold hashFile isFile openToRead
  cases found : files.find path with
  | error fault => rfl
  | ok entry =>
      cases entry with
      | directory => rfl
      | file content executable =>
          exact absurd ⟨executable, found⟩ (holdsNothing content)
      | damaged lead => exact absurd found (notDamaged lead)
      | sealed => rfl
      | link target => rfl

end FileSystem

namespace FileDigest

open ReadEvent

/-- Hashing gives a digest exactly if no read fails before the end, namely that
of all bytes delivered until then, and otherwise the fault of the first read
that fails.  So sources that deliver the same bytes have the same digest,
whatever pieces the bytes arrive in and wherever reads are interrupted.

For the file of an input, the digest is that of what a regular file delivers
that can be opened.  A fault on the way is put down to the input and its path,
and in all other cases the input is not found there.  In particular a path that
holds a content has the digest of all of it, and an input whose file cannot be
opened is not found. -/
theorem hashing_follows_delivery :
    (∀ events digest, hashEvents events = .ok digest ↔
      failure? events = none ∧
        digest = .ofContent (delivered events)) ∧
    (∀ events fault, hashEvents events = .error fault ↔
      failure? events = some fault) ∧
    (∀ first second, failure? first = none → failure? second = none →
      delivered first = delivered second →
        ∃ digest, hashEvents first = .ok digest ∧
          hashEvents second = .ok digest) ∧
    ∀ (files : FileSystem) (input : Input) (path : HostText),
      files.Hashes input path (files.hashFile input path) ∧
      (∀ content, files.Holds path content →
        files.hashFile input path = .ok (.ofContent content)) ∧
      (∀ lead, files.find path = .ok (.damaged lead) →
        files.hashFile input path = .error (.io input path .inputOutput)) ∧
      ((∀ content, ¬files.Holds path content) →
        (∀ lead, files.find path ≠ .ok (.damaged lead)) →
          files.hashFile input path = .error (.inputNotFound input path)) := by
  refine ⟨fun _ _ => hashEvents_eq_ok_iff,
    fun _ _ => hashEvents_eq_error_iff, ?_, ?_⟩
  · intro first second firstWhole secondWhole same
    refine ⟨.ofContent (delivered first), ?_, ?_⟩
    · exact hashEvents_eq_ok_iff.mpr ⟨firstWhole, rfl⟩
    · exact hashEvents_eq_ok_iff.mpr ⟨secondWhole, by rw [same]⟩
  · intro files input path
    refine ⟨files.hashes_hashFile input path, ?_,
      fun _ => files.hashFile_of_damaged input path,
      files.hashFile_of_not_holds input path⟩
    intro content holds
    exact (files.hashFile_eq_ok_iff input path _).mpr ⟨content, holds, rfl⟩

/-- A program, a file that fails behind its first bytes and one that nobody may
open. -/
def mixedFiles : FileSystem :=
  ((FileSystem.empty.put ["tool"] (.file [1, 2, 3] true)).put ["torn"]
    (.damaged [1, 2])).put ["shut"] .sealed

/-- The same three bytes, arriving in two pieces with an interruption in
between or at once in front of a read that would fail behind the end, have the
same digest.  A program has the digest of its content, a file that fails to be
read has none, and one that nobody may open is not found. -/
theorem hashing_follows_delivery_samples :
    let pieces : List ReadEvent := [.data [1, 2], .interrupted, .data [3]]
    let whole : List ReadEvent :=
      [.interrupted, .data [1, 2, 3], .data [], .failed .inputOutput]
    (∃ digest, hashEvents pieces = .ok digest ∧
      hashEvents whole = .ok digest) ∧
    mixedFiles.hashFile .toolchain "tool" = .ok (.ofContent [1, 2, 3]) ∧
    mixedFiles.hashFile .proof "torn" =
      .error (.io .proof "torn" .inputOutput) ∧
    mixedFiles.isFile "shut" = true ∧
    mixedFiles.hashFile .proof "shut" =
      .error (.inputNotFound .proof "shut") := by
  intro pieces whole
  obtain ⟨-, -, alike, ofFiles⟩ := hashing_follows_delivery
  refine ⟨alike pieces whole rfl rfl rfl, ?_, ?_, rfl, ?_⟩
  · exact (ofFiles mixedFiles .toolchain "tool").2.1 [1, 2, 3] ⟨true, rfl⟩
  · exact (ofFiles mixedFiles .proof "torn").2.2.1 [1, 2] rfl
  · have isSealed : mixedFiles.find "shut" = .ok .sealed := rfl
    refine (ofFiles mixedFiles .proof "shut").2.2.2 ?_ ?_
    · rintro content ⟨executable, found⟩
      rw [isSealed] at found
      cases found
    · intro lead found
      rw [isSealed] at found
      cases found

end FileDigest
end ReportBinding
