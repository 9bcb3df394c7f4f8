import ReportBinding.Checkout.Resolver
import ReportBinding.Proofs.Files.Access
import ReportBinding.Proofs.Provenance.Identifiers

/-!
# What resolvers refuse

A checkout without metadata of its own is refused by both resolvers, whatever
stands in the directories around it, and before the program is started.  All
that is ever answered is a full commit id, and all that is refused is put down
to the checkout: `resolvers_failClosed`.
-/

namespace ReportBinding

theorem RevisionId.isCommitDigit_of_mem (id : RevisionId) {character : Char}
    (isMember : character ∈ id.text.toList) :
    isCommitDigit character = true :=
  List.all_eq_true.mp id.isCommitId.2 character isMember

/-- There are no blanks around a commit id. -/
theorem RevisionId.trim_text (id : RevisionId) :
    Text.trim id.text = id.text := by
  have noBlank : ∀ character ∈ id.text.toList,
      Text.isBlank character = false := by
    intro character isMember
    have isDigit := id.isCommitDigit_of_mem isMember
    exact (Text.plain_of_isCommitDigit character isDigit).1
  rw [Text.trim, Text.trimmed_eq_self noBlank, String.ofList_toList]

namespace Checkout

open Files

variable {files : FileSystem} {checkout : HostText}

/-! ## Metadata of its own -/

/-- The text of a pointer file points to a path: behind the mark there is more
than blanks. -/
def PointsTo (text target : String) : Prop :=
  ∃ rest, Text.trimmed text.toList = pointerMark.toList ++ rest ∧
    Text.trimmed rest = target.toList ∧ target.toList ≠ []

theorem pointerTarget?_eq_some_iff (text target : String) :
    pointerTarget? text = some target ↔ PointsTo text target := by
  unfold pointerTarget?
  constructor
  · intro points
    split at points
    · next rest isMarked =>
        dsimp only at points
        split at points
        · cases points
        · next notEmpty =>
            cases points
            refine
              ⟨rest, (Text.after?_eq_some_iff _ _ _).mp isMarked, ?_, ?_⟩
            · rw [String.toList_ofList]
            · rw [String.toList_ofList]
              intro isEmpty
              rw [isEmpty] at notEmpty
              exact notEmpty rfl
    · cases points
  · rintro ⟨rest, begins, isTarget, notEmpty⟩
    rw [(Text.after?_eq_some_iff _ _ _).mpr begins]
    dsimp only
    rw [isTarget, if_neg (by simpa using notEmpty), String.ofList_toList]

/-- A checkout has metadata in a directory: its own `.git`, or the one that a
file of this name points to. -/
inductive Owns (files : FileSystem) (checkout : HostText) :
    HostText → Prop where
  | directory
      (isDirectory : files.isDirectory checkout = true)
      (isMetadata : files.isDirectory (Path.join checkout ".git") = true) :
      Owns files checkout (Path.join checkout ".git")
  | pointer {text target : String}
      (isDirectory : files.isDirectory checkout = true)
      (isText : files.readText (Path.join checkout ".git") = .ok text)
      (points : PointsTo text target)
      (isMetadata : files.isDirectory (Path.join checkout target) = true) :
      Owns files checkout (Path.join checkout target)

/-- A checkout has no metadata of its own. -/
inductive Uninitialized (files : FileSystem) (checkout : HostText) : Prop where
  | notDirectory (noDirectory : files.isDirectory checkout = false)
  | noMetadata
      (noEntry : files.hasEntry (Path.join checkout ".git") = false)
  | unreadablePointer {fault : Files.Fault}
      (noDirectory : files.isDirectory (Path.join checkout ".git") = false)
      (unreadable :
        files.readText (Path.join checkout ".git") = .error fault)
  | noPointer {text : String}
      (isText : files.readText (Path.join checkout ".git") = .ok text)
      (pointsNowhere : ∀ target, ¬PointsTo text target)
  | danglingPointer {text target : String}
      (isText : files.readText (Path.join checkout ".git") = .ok text)
      (points : PointsTo text target)
      (noDirectory : files.isDirectory (Path.join checkout target) = false)

/-- A path whose text can be read leads to something, but to no directory. -/
theorem leadsToFile_of_readText {path : HostText} {text : String}
    (isText : files.readText path = .ok text) :
    files.hasEntry path = true ∧ files.isDirectory path = false := by
  unfold FileSystem.readText at isText
  split at isText
  · next content isRead =>
      obtain ⟨executable, found⟩ :=
        (files.read_eq_ok_iff path content).mp isRead
      simp only [FileSystem.hasEntry, FileSystem.isDirectory, found, and_self]
  · cases isText

theorem hasEntry_of_isDirectory {path : HostText}
    (isDirectory : files.isDirectory path = true) :
    files.hasEntry path = true := by
  unfold FileSystem.isDirectory at isDirectory
  split at isDirectory
  · next found => simp only [FileSystem.hasEntry, found]
  · cases isDirectory

/-- The metadata that is found is the checkout's own. -/
theorem metadataDirectory_eq_ok_iff (metadata : HostText) :
    metadataDirectory files checkout = .ok metadata ↔
      Owns files checkout metadata := by
  unfold metadataDirectory
  dsimp only
  constructor
  · intro found
    split at found
    · cases found
    next isDirectory =>
    rw [Bool.not_eq_true, Bool.not_eq_false'] at isDirectory
    split at found
    · cases found
    split at found
    · next isMetadata =>
        cases found
        exact .directory isDirectory isMetadata
    split at found
    · cases found
    next text isText =>
    split at found
    · cases found
    next target points =>
    split at found
    · next isMetadata =>
        cases found
        exact .pointer isDirectory isText
          ((pointerTarget?_eq_some_iff _ _).mp points) isMetadata
    · cases found
  · intro owns
    cases owns with
    | directory isDirectory isMetadata =>
        simp [isDirectory, hasEntry_of_isDirectory isMetadata, isMetadata]
    | pointer isDirectory isText points isMetadata =>
        obtain ⟨hasEntry, isFile⟩ := leadsToFile_of_readText isText
        simp [isDirectory, hasEntry, isFile, isText,
          (pointerTarget?_eq_some_iff _ _).mpr points, isMetadata]

/-- One reason is enough for there to be no metadata. -/
theorem Uninitialized.refused (uninitialized : Uninitialized files checkout) :
    ∃ fault, metadataDirectory files checkout = .error fault := by
  unfold metadataDirectory
  dsimp only
  -- A reason that is looked at earlier may hold as well, and is given then.
  split
  · exact ⟨_, rfl⟩
  next isDirectory =>
  split
  · exact ⟨_, rfl⟩
  next hasEntry =>
  cases uninitialized with
  | notDirectory noDirectory => simp [noDirectory] at isDirectory
  | noMetadata noEntry => simp [noEntry] at hasEntry
  | unreadablePointer noDirectory unreadable =>
      simp [noDirectory, unreadable]
  | @noPointer text isText pointsNowhere =>
      obtain ⟨-, isFile⟩ := leadsToFile_of_readText isText
      have noTarget : pointerTarget? text = none := by
        rw [Option.eq_none_iff_forall_ne_some]
        intro target points
        exact pointsNowhere target
          ((pointerTarget?_eq_some_iff _ _).mp points)
      simp [isFile, isText, noTarget]
  | danglingPointer isText points noDirectory =>
      obtain ⟨-, isFile⟩ := leadsToFile_of_readText isText
      simp [isFile, isText, (pointerTarget?_eq_some_iff _ _).mpr points,
        noDirectory]

/-- Whatever is refused is refused for one of the reasons. -/
theorem uninitialized_of_error {fault : Fault}
    (refused : metadataDirectory files checkout = .error fault) :
    Uninitialized files checkout := by
  unfold metadataDirectory at refused
  dsimp only at refused
  split at refused
  · next noDirectory => exact .notDirectory (by simpa using noDirectory)
  split at refused
  · next noEntry => exact .noMetadata (by simpa using noEntry)
  split at refused
  · cases refused
  next noDirectory =>
  rw [Bool.not_eq_true] at noDirectory
  split at refused
  · next unreadable => exact .unreadablePointer noDirectory unreadable
  next text isText =>
  split at refused
  · next noTarget =>
      refine .noPointer isText ?_
      intro target points
      rw [(pointerTarget?_eq_some_iff _ _).mpr points] at noTarget
      cases noTarget
  next target points =>
  split at refused
  · cases refused
  · next noMetadata =>
      exact .danglingPointer isText ((pointerTarget?_eq_some_iff _ _).mp points)
        (by simpa using noMetadata)

/-- A checkout either has metadata of its own or is not initialized. -/
theorem not_uninitialized_iff :
    ¬Uninitialized files checkout ↔
      ∃ metadata, Owns files checkout metadata := by
  simp only [← metadataDirectory_eq_ok_iff]
  cases found : metadataDirectory files checkout with
  | ok metadata =>
      refine ⟨fun _ => ⟨metadata, rfl⟩, ?_⟩
      rintro - uninitialized
      obtain ⟨fault, refused⟩ := uninitialized.refused
      rw [found] at refused
      cases refused
  | error fault => simp [uninitialized_of_error found]

/-! ## What resolvers answer -/

/-- A commit id refers to nothing further. -/
theorem referred?_text (id : RevisionId) : referred? id.text = none := by
  unfold referred?
  rw [Option.map_eq_none_iff, Option.eq_none_iff_forall_ne_some]
  intro rest refers
  rw [Text.after?_eq_some_iff] at refers
  have isMember : 'r' ∈ id.text.toList := by
    rw [refers]
    exact List.mem_append_left _ (by decide)
  exact absurd (id.isCommitDigit_of_mem isMember) (by decide)

/-- A head that is a commit id stands for itself. -/
theorem headText_of_id {metadata : HostText} {id : RevisionId}
    (isHead : files.readText (Path.join metadata "HEAD") = .ok id.text) :
    headText files metadata = .ok id.text := by
  unfold headText
  simp only [isHead, id.trim_text, referred?_text]

theorem blame_eq_ok_iff {α : Type} (checkout : HostText)
    (result : Except Fault α) (value : α) :
    blame checkout result = .ok value ↔ result = .ok value := by
  cases result <;> simp [blame]

/-- The resolver that reads metadata answers what the head stands for in the
checkout's own metadata. -/
theorem metadataResolver_eq_ok_iff (id : RevisionId) :
    (metadataResolver files checkout).1 = .ok id ↔
      ∃ metadata, Owns files checkout metadata ∧
        headText files metadata = .ok id.text := by
  simp only [← metadataDirectory_eq_ok_iff]
  unfold metadataResolver readRevision
  cases located : metadataDirectory files checkout with
  | error fault => simp [bind, Except.bind, blame]
  | ok metadata =>
      cases told : headText files metadata with
      | error fault => simp [bind, Except.bind, told, blame]
      | ok text =>
          simp only [bind, Except.bind, told, Except.ok.injEq,
            exists_eq_left', eq_comm (a := text),
            ← RevisionId.parse_eq_ok_iff]
          cases RevisionId.parse text <;> simp [blame]

theorem GitProgram.answer_eq_ok_iff (program : GitProgram)
    (outcome : Program.Outcome) (id : RevisionId) :
    program.answer outcome = .ok id ↔
      outcome.succeeded = true ∧
        Text.trim (Text.Utf8.lossy outcome.output) = id.text := by
  unfold answer
  rw [eq_comm (b := id.text), ← RevisionId.parse_eq_ok_iff]
  split
  · next succeeded =>
      simp only [succeeded, true_and]
      cases RevisionId.parse (Text.trim (Text.Utf8.lossy outcome.output)) <;>
        simp
  · next failed => simp [failed]

/-- The resolver that asks a program answers what the program has written, if
the program reports success, and asks only for checkouts with metadata of their
own. -/
theorem GitProgram.resolver_eq_ok_iff (program : GitProgram)
    (host : Program.Host) (id : RevisionId) (after : FileSystem) :
    program.resolver host files checkout = (.ok id, after) ↔
      (∃ metadata, Owns files checkout metadata) ∧
        ∃ outcome,
          host program.name (program.request checkout) files =
            .ok (outcome, after) ∧
          outcome.succeeded = true ∧
            Text.trim (Text.Utf8.lossy outcome.output) = id.text := by
  simp only [← metadataDirectory_eq_ok_iff, ← program.answer_eq_ok_iff]
  unfold resolver
  cases located : metadataDirectory files checkout with
  | error fault => simp [blame]
  | ok metadata =>
      cases host program.name (program.request checkout) files with
      | error fault => simp [blame]
      | ok ended =>
          obtain ⟨outcome, left⟩ := ended
          simp only [Prod.mk.injEq, Except.ok.injEq, blame_eq_ok_iff]
          constructor
          · rintro ⟨answers, rfl⟩
            exact ⟨⟨metadata, rfl⟩, outcome, ⟨rfl, rfl⟩, answers⟩
          · rintro ⟨-, _, ⟨rfl, rfl⟩, answers⟩
            exact ⟨answers, rfl⟩

/-- What the program does makes a difference exactly for the checkouts that have
metadata of their own.  It is asked for no others. -/
theorem GitProgram.uninitialized_iff_unasked (program : GitProgram) :
    Uninitialized files checkout ↔
      ∀ host other : Program.Host,
        program.resolver host files checkout =
          program.resolver other files checkout := by
  constructor
  · intro uninitialized host other
    obtain ⟨fault, refused⟩ := uninitialized.refused
    simp only [resolver, refused]
  · intro unasked
    apply Classical.byContradiction
    intro initialized
    obtain ⟨metadata, owns⟩ := not_uninitialized_iff.mp initialized
    have located := (metadataDirectory_eq_ok_iff metadata).mpr owns
    -- Two hosts that refuse to start programs for different reasons.
    have same := unasked (fun _ _ _ => .error .notFound)
      (fun _ _ _ => .error .permissionDenied)
    simp [resolver, located, blame] at same

/-! ## Failing closed -/

/-- A result is a full commit id, or a refusal of a checkout that is put down to
the revision. -/
inductive FailsClosed (checkout : HostText) :
    Except Error RevisionId → Prop where
  | told {id : RevisionId}
      (isFull : id.text.length = 40 ∨ id.text.length = 64)
      (areDigits : ∀ character ∈ id.text.toList,
        ('0' ≤ character ∧ character ≤ '9') ∨
          ('a' ≤ character ∧ character ≤ 'f')) :
      FailsClosed checkout (.ok id)
  | refused {fault : Fault}
      (isInput : (Error.repositoryNotInitialized checkout fault).input? =
        some .revision) :
      FailsClosed checkout
        (.error (.repositoryNotInitialized checkout fault))

/-- Whatever a checkout is blamed for, its result fails closed. -/
theorem failsClosed_blame (checkout : HostText)
    (result : Except Fault RevisionId) :
    FailsClosed checkout (blame checkout result) := by
  cases result with
  | error fault => exact .refused rfl
  | ok id =>
      refine .told id.isCommitId.1 ?_
      intro character isMember
      simpa [isCommitDigit] using id.isCommitDigit_of_mem isMember

/-- A checkout without metadata of its own is refused by both resolvers, for the
same reason.  The program is not asked: whatever it would do, the files stay as
they are.  For any checkout, the resolvers answer a full commit id or refuse
that checkout. -/
theorem resolvers_failClosed (files : FileSystem) (checkout : HostText) :
    (Uninitialized files checkout → ∃ fault,
      metadataResolver files checkout =
          (.error (.repositoryNotInitialized checkout fault), files) ∧
        ∀ (program : GitProgram) (host : Program.Host),
          program.resolver host files checkout =
            (.error (.repositoryNotInitialized checkout fault), files)) ∧
      FailsClosed checkout (metadataResolver files checkout).1 ∧
        ∀ (program : GitProgram) (host : Program.Host),
          FailsClosed checkout (program.resolver host files checkout).1 := by
  refine ⟨?_, failsClosed_blame _ _, ?_⟩
  · intro uninitialized
    obtain ⟨fault, refused⟩ := uninitialized.refused
    refine ⟨fault, ?_, ?_⟩
    · simp only [metadataResolver, readRevision, refused, bind, Except.bind,
        blame]
    · intro program host
      simp only [GitProgram.resolver, refused, blame]
  · intro program host
    unfold GitProgram.resolver
    split
    · exact failsClosed_blame checkout (.error _)
    · split
      · exact failsClosed_blame checkout (.error _)
      · exact failsClosed_blame checkout _

/-- A commit id of 64 digits. -/
def outerId : RevisionId :=
  ⟨String.ofList (List.replicate 64 'e'), by decide⟩

/-- A checkout with an empty directory in it, as a submodule leaves it that has
not been initialized. -/
def nested : FileSystem :=
  (((FileSystem.empty.put [".git"] .directory).put [".git", "HEAD"]
    (.file (Text.Utf8.encode outerId.text) false)).put ["sdk"] .directory)

theorem readText_nested :
    nested.readText (Path.join "./.git" "HEAD") = .ok outerId.text := by
  have found : nested.find (Path.join "./.git" "HEAD") =
      .ok (.file (Text.Utf8.encode outerId.text) false) := rfl
  exact FileSystem.Holds.readText_eq_ok ⟨false, found⟩

/-- The checkout around the empty directory has a revision, but the directory is
refused. -/
theorem resolvers_failClosed_nested :
    (metadataResolver nested ".").1 = .ok outerId ∧
      ∃ fault,
        metadataResolver nested "sdk" =
            (.error (.repositoryNotInitialized "sdk" fault), nested) ∧
          ∀ (program : GitProgram) (host : Program.Host),
            program.resolver host nested "sdk" =
              (.error (.repositoryNotInitialized "sdk" fault), nested) := by
  constructor
  · rw [metadataResolver_eq_ok_iff]
    exact ⟨"./.git", .directory rfl rfl, headText_of_id readText_nested⟩
  · exact (resolvers_failClosed nested "sdk").1 (.noMetadata rfl)

end Checkout
end ReportBinding
