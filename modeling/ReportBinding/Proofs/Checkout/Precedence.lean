import ReportBinding.Proofs.Checkout.References
import ReportBinding.Proofs.Files.Content

/-!
# References with files of their own

A reference that has a file of its own is told by that file as long as its text
can be read, whatever the packed references list.  A file that is there but
cannot be read as text counts for nothing, so that the packed references tell
the revision in its place: `loose_precedes_packed` states both.
-/

namespace ReportBinding
namespace Checkout

open Files

variable {files first second : FileSystem}
  {checkout metadata shared path : HostText} {name : String}

/-- The path of the packed references in a shared directory. -/
def packedList (shared : HostText) : HostText :=
  Path.join shared "packed-refs"

/-- The names that are visited while the head is followed. -/
def visited (files : FileSystem) (metadata shared : HostText) :
    List String :=
  match files.readText (Path.join metadata "HEAD") with
  | .ok head =>
      match referred? (Text.trim head) with
      | some name =>
          namesFrom (next? files metadata shared) maximumReferences name
      | none => []
  | .error _ => []

/-- The file that a reference has of its own: the one in the metadata, or else
the one in the shared directory. -/
inductive LooseFile (files : FileSystem) (metadata shared : HostText)
    (name : String) : HostText → Prop where
  | own (isFile : files.isFile (Path.join metadata name) = true) :
      LooseFile files metadata shared name (Path.join metadata name)
  | shared (noOwn : files.isFile (Path.join metadata name) = false)
      (isFile : files.isFile (Path.join shared name) = true) :
      LooseFile files metadata shared name (Path.join shared name)

/-- A reference has a file of its own that cannot be read, and the packed
references list it with an id. -/
inductive ListedBehindDamage (files : FileSystem)
    (metadata shared : HostText) (name id : String) : Prop where
  | intro {path : HostText} {packed : String} {fault : Files.Fault}
      (loose : LooseFile files metadata shared name path)
      (isDamaged : files.readText path = .error fault)
      (isList : files.readText (packedList shared) = .ok packed)
      (isListed : packedId? packed name = some id)

/-- The list of packed references is a file apart from the head and from the
files that tell where the metadata and the shared directory are. -/
structure ListApart (files : FileSystem)
    (checkout metadata shared : HostText) : Prop where
  pointer : ¬files.SamePlace (packedList shared) (Path.join checkout ".git")
  head : ¬files.SamePlace (packedList shared) (Path.join metadata "HEAD")
  shared : ¬files.SamePlace (packedList shared)
    (Path.join metadata "commondir")

/-! ## What a file of its own tells -/

theorem LooseFile.looseText? (loose : LooseFile files metadata shared name
    path) :
    looseText? files metadata shared name =
      (files.readText path).toOption := by
  rw [looseText?_eq]
  cases loose with
  | own isFile => rw [if_pos isFile]
  | shared noOwn isFile =>
      rw [noOwn, if_neg Bool.false_ne_true, if_pos isFile]

/-- A file that can be read tells what the reference holds. -/
theorem LooseFile.held? {text : String}
    (loose : LooseFile files metadata shared name path)
    (isText : files.readText path = .ok text) :
    held? files metadata shared name = some (Text.trim text) := by
  unfold Checkout.held?
  rw [loose.looseText?, isText]
  rfl

/-- If the file cannot be read, the packed references tell what the reference
holds. -/
theorem LooseFile.held?_of_damaged {fault : Files.Fault}
    (loose : LooseFile files metadata shared name path)
    (isDamaged : files.readText path = .error fault) :
    Checkout.held? files metadata shared name =
      lookUpPacked files shared name := by
  unfold Checkout.held?
  rw [loose.looseText?, isDamaged]
  rfl

theorem ListedBehindDamage.held? {id : String}
    (listed : ListedBehindDamage files metadata shared name id) :
    held? files metadata shared name = some id := by
  obtain ⟨loose, isDamaged, isList, isListed⟩ := listed
  unfold packedList at isList
  rw [loose.held?_of_damaged isDamaged, lookUpPacked_eq, isList]
  exact isListed

/-! ## Lists that differ -/

/-- A reference has a file of its own that is not the list at the given path and
can be read. -/
def HasReadableFile (files : FileSystem) (list metadata shared : HostText)
    (name : String) : Prop :=
  ∃ path text, LooseFile files metadata shared name path ∧
    ¬files.SamePlace list path ∧ files.readText path = .ok text

section

variable {list : HostText}

theorem LooseFile.of_differ
    (differ : FileSystem.DifferInContent list first second)
    (loose : LooseFile first metadata shared name path) :
    LooseFile second metadata shared name path := by
  cases loose with
  | own isFile =>
      rw [← (differ.kind _).1] at isFile
      exact .own isFile
  | shared noOwn isFile =>
      rw [← (differ.kind _).1] at noOwn isFile
      exact .shared noOwn isFile

/-- A file that can be read and is not the list tells the same reference. -/
theorem held?_of_differ
    (differ : FileSystem.DifferInContent list first second)
    (readable : HasReadableFile first list metadata shared name) :
    held? second metadata shared name = held? first metadata shared name := by
  obtain ⟨path, text, loose, isApart, isText⟩ := readable
  have isTextOther : second.readText path = .ok text := by
    rw [differ.readText isApart, isText]
  rw [(loose.of_differ differ).held? isTextOther, loose.held? isText]

/-- Names are followed to the same end if all that are visited have files that
can be read. -/
theorem follow_of_differ
    (differ : FileSystem.DifferInContent list first second) {count : Nat}
    {name : String}
    (readable : ∀ visited ∈
      namesFrom (next? first metadata shared) count name,
        HasReadableFile first list metadata shared visited) :
    follow second metadata shared count name =
      follow first metadata shared count name := by
  induction count generalizing name with
  | zero => rfl
  | succ count inductionHypothesis =>
      rw [namesFrom] at readable
      have held := held?_of_differ differ (readable name List.mem_cons_self)
      rw [follow_succ, follow_succ, held]
      cases holds : held? first metadata shared name with
      | none => rfl
      | some text =>
          dsimp only
          cases refers : referred? text with
          | none => rfl
          | some next =>
              have isNext : next? first metadata shared name = some next := by
                rw [next?, holds, Option.bind_some, refers]
              rw [isNext] at readable
              apply inductionHypothesis
              intro visited isVisited
              exact readable visited (List.mem_cons_of_mem _ isVisited)

theorem Owns.of_differ
    (differ : FileSystem.DifferInContent list first second)
    (isApart : ¬first.SamePlace list (Path.join checkout ".git"))
    (owns : Owns first checkout metadata) :
    Owns second checkout metadata := by
  cases owns with
  | directory isDirectory isMetadata =>
      rw [← (differ.kind _).2.1] at isDirectory isMetadata
      exact .directory isDirectory isMetadata
  | pointer isDirectory isText points isMetadata =>
      rw [← (differ.kind _).2.1] at isDirectory isMetadata
      rw [← differ.readText isApart] at isText
      exact .pointer isDirectory isText points isMetadata

end

/-- A head stands for the same text if all names that are visited have files
that can be read. -/
theorem headText_of_differ
    (shares : Shares first metadata shared)
    (differ : FileSystem.DifferInContent (packedList shared) first second)
    (apart : ListApart first checkout metadata shared)
    (readable : ∀ name ∈ visited first metadata shared,
      HasReadableFile first (packedList shared) metadata shared name) :
    headText second metadata = headText first metadata := by
  have isShared : sharedDirectory first metadata = shared :=
    shares_iff.mp shares
  have sameShared : sharedDirectory second metadata = shared := by
    rw [← isShared]
    unfold sharedDirectory
    rw [differ.readText apart.shared]
  unfold visited at readable
  unfold headText
  rw [differ.readText apart.head, sameShared, isShared]
  cases isHead : first.readText (Path.join metadata "HEAD") with
  | error fault => rfl
  | ok head =>
      rw [isHead] at readable
      dsimp only at readable ⊢
      cases refers : referred? (Text.trim head) with
      | none => rfl
      | some name =>
          rw [refers] at readable
          exact follow_of_differ differ readable

/-- File systems that differ only in what the list of packed references holds
tell the same revision, if every name that is visited has a file of its own that
can be read.  If a chain of names leads to one whose file is there but cannot be
read, the packed references tell the revision. -/
theorem loose_precedes_packed (first second : FileSystem)
    (checkout metadata shared : HostText)
    (owns : Owns first checkout metadata)
    (shares : Shares first metadata shared)
    (differ : FileSystem.DifferInContent (packedList shared) first second)
    (apart : ListApart first checkout metadata shared) :
    ((∀ name ∈ visited first metadata shared,
        HasReadableFile first (packedList shared) metadata shared name) →
      (metadataResolver first checkout).1 =
        (metadataResolver second checkout).1) ∧
      ∀ head start steps name id,
        first.readText (Path.join metadata "HEAD") = .ok head →
          RefersTo (Text.trim head) start →
            Leads first metadata shared steps start name →
              steps + 1 ≤ 5 →
                ListedBehindDamage first metadata shared name id →
                  ¬IsReference id →
                    Answers checkout id
                      (metadataResolver first checkout).1 := by
  constructor
  · intro readable
    have located := (metadataDirectory_eq_ok_iff metadata).mpr owns
    have locatedOther := (metadataDirectory_eq_ok_iff metadata).mpr
      (owns.of_differ differ apart.pointer)
    have sameHead := headText_of_differ shares differ apart readable
    simp only [metadataResolver, readRevision, located, locatedOther, bind,
      Except.bind, sameHead]
  · intro head start steps name id isHead refersTo leads isShort listed isLast
    have stands := leads.follow_of_held isShort listed.held? isLast
    exact answers_of_headText owns
      ((headText_of_refersTo shares isHead refersTo).trans stands)

/-- If the first name of a chain refers to nothing, it is all that is
visited. -/
theorem visited_eq_singleton {head : String}
    (isHead : files.readText (Path.join metadata "HEAD") = .ok head)
    (refersTo : RefersTo (Text.trim head) name)
    (noNext : next? files metadata shared name = none) :
    visited files metadata shared = [name] := by
  unfold visited
  rw [isHead]
  simp only [(referred?_eq_some_iff _ _).mpr refersTo, maximumReferences,
    namesFrom, noNext]

/-- A checkout on a branch that has a file of its own and may be packed. -/
def tracked (loose : Bytes) (list : String) : FileSystem :=
  (((((FileSystem.empty.put [".git"] .directory).put [".git", "HEAD"]
    (.file (Text.Utf8.encode "ref: refs/heads/main\n") false)).put
      [".git", "refs"] .directory).put [".git", "refs", "heads"]
        .directory).put [".git", "refs", "heads", "main"]
          (.file loose false)).put [".git", "packed-refs"]
            (.file (Text.Utf8.encode list) false)

/-- A list that has the branch. -/
def staleList : String := outerId.text ++ " refs/heads/main\n"

section

variable (loose : Bytes) (list : String)

theorem owns_tracked : Owns (tracked loose list) "." "./.git" :=
  .directory rfl rfl

theorem readText_tracked :
    (tracked loose list).readText (Path.join "./.git" "HEAD") =
        .ok "ref: refs/heads/main\n" ∧
      (tracked loose list).readText (packedList "./.git") = .ok list :=
  ⟨FileSystem.Holds.readText_eq_ok ⟨false, rfl⟩,
    FileSystem.Holds.readText_eq_ok ⟨false, rfl⟩⟩

theorem shares_tracked : Shares (tracked loose list) "./.git" "./.git" := by
  have noFile : (tracked loose list).readText
      (Path.join "./.git" "commondir") = .error .notFound := rfl
  exact .unreadable noFile

/-- Where the list of packed references stands in a tracked checkout. -/
def listLocation : Location := [".git", "packed-refs"]

theorem differInContent_tracked (other : String) :
    FileSystem.DifferInContent (packedList "./.git") (tracked loose list)
      (tracked loose other) := by
  refine ⟨listLocation, .file (Text.Utf8.encode list) false,
    .file (Text.Utf8.encode other) false, rfl, trivial, trivial, ?_⟩
  exact (FileSystem.put_put _ _ _ _).symm

theorem looseFile_tracked :
    LooseFile (tracked loose list) "./.git" "./.git" "refs/heads/main"
      "./.git/refs/heads/main" :=
  .own rfl

/-- The list is none of the other files of a tracked checkout. -/
theorem apart_tracked :
    ListApart (tracked loose list) "." "./.git" "./.git" ∧
      ¬(tracked loose list).SamePlace (packedList "./.git")
        "./.git/refs/heads/main" := by
  have isApart {path : HostText} (location : Location)
      (leads : (tracked loose list).location? path = some location)
      (isOther : location ≠ listLocation) :
      ¬(tracked loose list).SamePlace (packedList "./.git") path := by
    have leadsToList : (tracked loose list).location?
        (packedList "./.git") = some listLocation := rfl
    intro same
    have sameLocation := same.location?_eq
    rw [leadsToList, leads] at sameLocation
    exact isOther (Option.some.inj sameLocation).symm
  refine ⟨⟨?_, ?_, ?_⟩, ?_⟩
  case refine_1 => exact isApart [".git"] rfl (by decide)
  case refine_2 => exact isApart [".git", "HEAD"] rfl (by decide)
  case refine_3 => exact isApart [".git", "commondir"] rfl (by decide)
  case refine_4 =>
    exact isApart [".git", "refs", "heads", "main"] rfl (by decide)

/-- In a tracked checkout whose branch refers to nothing, only the branch is
visited. -/
theorem visited_tracked
    (noNext : next? (tracked loose list) "./.git" "./.git"
      "refs/heads/main" = none) :
    visited (tracked loose list) "./.git" "./.git" = ["refs/heads/main"] :=
  visited_eq_singleton (readText_tracked loose list).1
    ((referred?_eq_some_iff _ _).mp (by decide)) noNext

end

/-- The bytes of a file that is no text. -/
def noText : Bytes := [255]

theorem readText_noText (list : String) :
    (tracked noText list).readText "./.git/refs/heads/main" =
      .error .invalidText := by
  have holds : (tracked noText list).Holds "./.git/refs/heads/main"
      noText := ⟨false, rfl⟩
  have noUtf8 : Text.Utf8.decode? noText = none := by decide
  rw [FileSystem.readText, (FileSystem.read_eq_ok_iff _ _ _).mpr holds]
  simp only [noUtf8]

/-- A branch whose file is no text holds what the list has for it. -/
theorem held?_noText (list : String) :
    held? (tracked noText list) "./.git" "./.git" "refs/heads/main" =
      packedId? list "refs/heads/main" := by
  have isList := (readText_tracked noText list).2
  unfold packedList at isList
  rw [(looseFile_tracked noText list).held?_of_damaged (readText_noText list),
    lookUpPacked_eq, isList]
  rfl

theorem packedId?_staleList :
    packedId? staleList "refs/heads/main" = some outerId.text := by
  decide

/-- A branch whose file has a commit id is not told by the list.  If the file is
no text, it is. -/
theorem loose_precedes_packed_samples :
    let loose := Text.Utf8.encode
      (String.ofList (List.replicate 40 'd') ++ "\n")
    (metadataResolver (tracked loose staleList) ".").1 =
        (metadataResolver (tracked loose "") ".").1 ∧
      (metadataResolver (tracked noText staleList) ".").1 = .ok outerId := by
  intro loose
  constructor
  · have apart := apart_tracked loose staleList
    have precedes := loose_precedes_packed _ (tracked loose "") "." "./.git"
      "./.git" (owns_tracked loose staleList) (shares_tracked _ _)
      (differInContent_tracked _ _ _) apart.1
    refine precedes.1 ?_
    have isText : (tracked loose staleList).readText
        "./.git/refs/heads/main" =
          .ok (String.ofList (List.replicate 40 'd') ++ "\n") :=
      FileSystem.Holds.readText_eq_ok ⟨false, rfl⟩
    have held := (looseFile_tracked loose staleList).held? isText
    have visits := visited_tracked loose staleList (by
      rw [next?, held]
      decide)
    rw [visits]
    intro name isVisited
    rw [List.mem_singleton.mp isVisited]
    exact ⟨_, _, looseFile_tracked _ _, apart.2, isText⟩
  · have precedes := loose_precedes_packed _ (tracked noText "") "." "./.git"
      "./.git" (owns_tracked noText staleList) (shares_tracked _ _)
      (differInContent_tracked _ _ _) (apart_tracked _ _).1
    obtain ⟨isHead, isList⟩ := readText_tracked noText staleList
    have listed : ListedBehindDamage (tracked noText staleList) "./.git"
        "./.git" "refs/heads/main" outerId.text :=
      .intro (looseFile_tracked _ _) (readText_noText staleList) isList
        packedId?_staleList
    have refersTo : RefersTo (Text.trim "ref: refs/heads/main\n")
        "refs/heads/main" := (referred?_eq_some_iff _ _).mp (by decide)
    exact (precedes.2 _ _ 0 _ _ isHead refersTo (.here _) (by decide) listed
      ((referred?_eq_none_iff _).mp (referred?_text outerId))).eq_ok

/-- The branch of a checkout has a file of its own, but as the file is no text,
the list of packed references decides on the revision. -/
theorem packed_decides_of_damaged :
    let first := tracked noText staleList
    let second := tracked noText ""
    Owns first "." "./.git" ∧ Shares first "./.git" "./.git" ∧
      FileSystem.DifferInContent (packedList "./.git") first second ∧
        ListApart first "." "./.git" "./.git" ∧
          visited first "./.git" "./.git" = ["refs/heads/main"] ∧
            visited second "./.git" "./.git" = ["refs/heads/main"] ∧
              LooseFile first "./.git" "./.git" "refs/heads/main"
                "./.git/refs/heads/main" ∧
                ¬first.SamePlace (packedList "./.git")
                  "./.git/refs/heads/main" ∧
                  (metadataResolver first ".").1 = .ok outerId ∧
                    (metadataResolver second ".").1 =
                      .error (.repositoryNotInitialized "."
                        (.unborn "refs/heads/main")) := by
  intro first second
  have heldFirst : held? first "./.git" "./.git" "refs/heads/main" =
      some outerId.text := by
    rw [held?_noText, packedId?_staleList]
  have heldSecond : held? second "./.git" "./.git" "refs/heads/main" =
      none := held?_noText ""
  have refersTo : RefersTo (Text.trim "ref: refs/heads/main\n")
      "refs/heads/main" := (referred?_eq_some_iff _ _).mp (by decide)
  have follows (list : String) :
      headText (tracked noText list) "./.git" =
        follow (tracked noText list) "./.git" "./.git" maximumReferences
          "refs/heads/main" :=
    headText_of_refersTo (shares_tracked _ _) (readText_tracked noText list).1
      refersTo
  have isShort : 0 < maximumReferences := by decide
  obtain ⟨apart, looseApart⟩ := apart_tracked noText staleList
  refine ⟨owns_tracked _ _, shares_tracked _ _, differInContent_tracked _ _ _,
    apart, ?_, ?_, looseFile_tracked _ _, looseApart, ?_, ?_⟩
  · apply visited_tracked
    rw [next?, heldFirst]
    exact referred?_text outerId
  · apply visited_tracked
    rw [next?, heldSecond]
    rfl
  · have here : Leads first "./.git" "./.git" 0 "refs/heads/main"
      "refs/heads/main" := .here _
    have stands := here.follow_of_held isShort heldFirst
      ((referred?_eq_none_iff _).mp (referred?_text outerId))
    exact (answers_of_headText (owns_tracked _ _)
      ((follows staleList).trans stands)).eq_ok
  · have here : Leads second "./.git" "./.git" 0 "refs/heads/main"
      "refs/heads/main" := .here _
    have unborn := here.follow_of_not_held isShort heldSecond
    exact metadataResolver_of_headText_error (owns_tracked _ _)
      ((follows "").trans unborn)

end Checkout
end ReportBinding
