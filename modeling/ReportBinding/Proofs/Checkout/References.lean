import ReportBinding.Proofs.Checkout.Metadata
import ReportBinding.Proofs.Checkout.Refusals

/-!
# Following references

A head that is no reference is taken for a commit id as it stands.  Otherwise
references are followed from name to name, each held by the first of three
places, until one holds something else.  At most five names are followed, so
chains that go on longer or run in a circle are refused:
`resolver_follows_references`.
-/

namespace ReportBinding
namespace Checkout

open Files

variable {files : FileSystem} {checkout metadata shared : HostText}

/-! ## The shared directory -/

/-- Work trees share a directory: the one that the file `commondir` in the
metadata names, seen from there, or else the metadata itself. -/
inductive Shares (files : FileSystem) (metadata : HostText) :
    HostText → Prop where
  | named {text name : String}
      (isText : files.readText (Path.join metadata "commondir") = .ok text)
      (isName : Text.trim text = name)
      (notEmpty : name ≠ "") :
      Shares files metadata (Path.join metadata name)
  | blank {text : String}
      (isText : files.readText (Path.join metadata "commondir") = .ok text)
      (isBlank : Text.trim text = "") :
      Shares files metadata metadata
  | unreadable {fault : Files.Fault}
      (noText : files.readText (Path.join metadata "commondir") =
        .error fault) :
      Shares files metadata metadata

theorem trimmed_isEmpty_iff (text : String) :
    (Text.trimmed text.toList).isEmpty = true ↔ Text.trim text = "" := by
  rw [List.isEmpty_iff, Text.trim, String.ofList_eq_empty_iff]

/-- There is one such directory, and it is the one that references are looked
up in. -/
theorem shares_iff :
    Shares files metadata shared ↔
      sharedDirectory files metadata = shared := by
  unfold sharedDirectory
  constructor
  · intro shares
    cases shares with
    | named isText isName notEmpty =>
        subst isName
        have notBlank := (not_congr (trimmed_isEmpty_iff _)).mpr notEmpty
        simp only [isText, if_neg notBlank]
        rfl
    | blank isText isBlank =>
        simp only [isText, if_pos ((trimmed_isEmpty_iff _).mpr isBlank)]
    | unreadable noText => simp only [noText]
  · rintro rfl
    cases isText : files.readText (Path.join metadata "commondir") with
    | error fault => exact .unreadable isText
    | ok text =>
        dsimp only
        split
        · next isBlank =>
            exact .blank isText ((trimmed_isEmpty_iff text).mp isBlank)
        · next notBlank =>
            exact .named isText rfl fun isBlank =>
              notBlank ((trimmed_isEmpty_iff text).mpr isBlank)

/-! ## What references hold -/

/-- A text refers to a name: the name stands behind the mark, with or without
blanks around it. -/
def RefersTo (text name : String) : Prop :=
  ∃ rest, text.toList = referenceMark.toList ++ rest ∧
    Text.trimmed rest = name.toList

/-- A text refers to something further. -/
def IsReference (text : String) : Prop :=
  referenceMark.toList <+: text.toList

theorem referred?_eq_some_iff (text name : String) :
    referred? text = some name ↔ RefersTo text name := by
  unfold referred? RefersTo
  simp only [Option.map_eq_some_iff, Text.after?_eq_some_iff]
  constructor
  · rintro ⟨rest, begins, rfl⟩
    exact ⟨rest, begins, String.toList_ofList.symm⟩
  · rintro ⟨rest, begins, isName⟩
    refine ⟨rest, begins, ?_⟩
    rw [isName, String.ofList_toList]

theorem referred?_eq_none_iff (text : String) :
    referred? text = none ↔ ¬IsReference text := by
  unfold referred? IsReference
  rw [Option.map_eq_none_iff, Option.eq_none_iff_forall_ne_some]
  simp only [ne_eq, Text.after?_eq_some_iff]
  constructor
  · rintro noRest ⟨rest, begins⟩
    exact noRest rest begins.symm
  · rintro noMark rest begins
    exact noMark ⟨rest, begins.symm⟩

/-- A name holds a text: the trimmed text of its file in the metadata, or else
in the shared directory, or else the id that the packed references list. -/
inductive Holding (files : FileSystem) (metadata shared : HostText)
    (name : String) : String → Prop where
  | own {text : String}
      (isText : files.readText (Path.join metadata name) = .ok text) :
      Holding files metadata shared name (Text.trim text)
  | shared {text : String}
      (noOwn : files.isFile (Path.join metadata name) = false)
      (isText : files.readText (Path.join shared name) = .ok text) :
      Holding files metadata shared name (Text.trim text)
  | packed {packed id : String}
      (noOwn : files.isFile (Path.join metadata name) = false)
      (noShared : files.isFile (Path.join shared name) = false)
      (isText : files.readText (Path.join shared "packed-refs") = .ok packed)
      (isListed : packedId? packed name = some id) :
      Holding files metadata shared name id

/-- A name holds nothing: there is no file in either place, and no packed
references list it. -/
structure HoldsNothing (files : FileSystem)
    (metadata shared : HostText) (name : String) : Prop where
  noOwn : files.isFile (Path.join metadata name) = false
  noShared : files.isFile (Path.join shared name) = false
  notListed : ∀ packed,
    files.readText (Path.join shared "packed-refs") = .ok packed →
      packedId? packed name = none

theorem isFile_of_readText {path : HostText} {text : String}
    (isText : files.readText path = .ok text) : files.isFile path = true := by
  unfold FileSystem.readText at isText
  split at isText
  · next content isRead =>
      obtain ⟨executable, found⟩ :=
        (files.read_eq_ok_iff path content).mp isRead
      rw [FileSystem.isFile, found]
  · cases isText

theorem Holding.held? {name text : String}
    (holding : Holding files metadata shared name text) :
    held? files metadata shared name = some text := by
  unfold Checkout.held?
  rw [looseText?_eq]
  cases holding with
  | own isText =>
      rw [if_pos (isFile_of_readText isText), isText]
      rfl
  | shared noOwn isText =>
      rw [noOwn, if_neg Bool.false_ne_true,
        if_pos (isFile_of_readText isText), isText]
      rfl
  | packed noOwn noShared isText isListed =>
      rw [noOwn, noShared, if_neg Bool.false_ne_true,
        if_neg Bool.false_ne_true, lookUpPacked_eq, isText]
      exact isListed

theorem HoldsNothing.held? {name : String}
    (nothing : HoldsNothing files metadata shared name) :
    held? files metadata shared name = none := by
  unfold Checkout.held?
  rw [looseText?_eq, nothing.noOwn, nothing.noShared,
    if_neg Bool.false_ne_true, if_neg Bool.false_ne_true, lookUpPacked_eq]
  cases isText : files.readText (Path.join shared "packed-refs") with
  | error fault => rfl
  | ok packed => exact nothing.notListed packed isText

/-! ## Chains of names -/

/-- A name refers to another one: it holds a text that does. -/
def Refers (files : FileSystem) (metadata shared : HostText)
    (name next : String) : Prop :=
  ∃ text, Holding files metadata shared name text ∧ RefersTo text next

/-- A chain of names leads from one to another, in the given number of steps.
Each refers to the one behind it. -/
inductive Leads (files : FileSystem) (metadata shared : HostText) :
    Nat → String → String → Prop where
  | here (name : String) : Leads files metadata shared 0 name name
  | onward {steps : Nat} {name next last : String}
      (refers : Refers files metadata shared name next)
      (leads : Leads files metadata shared steps next last) :
      Leads files metadata shared (steps + 1) name last

section

variable {steps : Nat} {first last : String}

theorem Leads.append {further : Nat} {name : String}
    (leads : Leads files metadata shared steps first name)
    (continues : Leads files metadata shared further name last) :
    Leads files metadata shared (steps + further) first last := by
  induction leads with
  | here name => rwa [Nat.zero_add]
  | @onward steps first next name refers leads inductionHypothesis =>
      rw [Nat.add_right_comm]
      exact .onward refers (inductionHypothesis continues)

/-- A chain that leads back to its first name goes round any number of
times. -/
theorem Leads.round (circles : Leads files metadata shared steps first first)
    (rounds : Nat) :
    Leads files metadata shared (rounds * steps) first first := by
  induction rounds with
  | zero =>
      rw [Nat.zero_mul]
      exact .here first
  | succ rounds inductionHypothesis =>
      rw [Nat.succ_mul]
      exact inductionHypothesis.append circles

/-- A name that refers to another one is followed there. -/
theorem follow_of_refers {name next : String}
    (refers : Refers files metadata shared name next) (count : Nat) :
    follow files metadata shared (count + 1) name =
      follow files metadata shared count next := by
  obtain ⟨text, holding, refersTo⟩ := refers
  rw [follow_succ, holding.held?]
  simp only [(referred?_eq_some_iff text next).mpr refersTo]

/-- A chain is followed to its last name. -/
theorem Leads.follow (leads : Leads files metadata shared steps first last)
    (count : Nat) :
    follow files metadata shared (steps + count) first =
      follow files metadata shared count last := by
  induction leads with
  | here name => rw [Nat.zero_add]
  | onward refers leads inductionHypothesis =>
      rw [Nat.add_right_comm, follow_of_refers refers, inductionHypothesis]

/-- A chain that takes more steps than names may be followed is given up. -/
theorem Leads.follow_of_le (leads : Leads files metadata shared steps first
    last) {count : Nat} (isLong : count ≤ steps) :
    ∃ name, Checkout.follow files metadata shared count first =
      .error (.endless name) := by
  induction leads generalizing count with
  | here name =>
      rw [Nat.le_zero.mp isLong]
      exact ⟨name, rfl⟩
  | @onward steps name next last refers leads inductionHypothesis =>
      cases count with
      | zero => exact ⟨name, rfl⟩
      | succ count =>
          rw [follow_of_refers refers]
          exact inductionHypothesis (Nat.le_of_succ_le_succ isLong)

/-- A short chain stands for the text that its last name holds, if that refers
to nothing further. -/
theorem Leads.follow_of_held
    (leads : Leads files metadata shared steps first last) {count : Nat}
    (isShort : steps < count) {text : String}
    (held : held? files metadata shared last = some text)
    (isLast : ¬IsReference text) :
    Checkout.follow files metadata shared count first = .ok text := by
  obtain ⟨left, rfl⟩ := Nat.exists_eq_add_of_lt isShort
  rw [Nat.add_assoc, leads.follow, follow_succ, held]
  simp only [(referred?_eq_none_iff text).mpr isLast]

/-- A short chain to a name that holds nothing is refused with that name. -/
theorem Leads.follow_of_not_held
    (leads : Leads files metadata shared steps first last) {count : Nat}
    (isShort : steps < count)
    (notHeld : held? files metadata shared last = none) :
    Checkout.follow files metadata shared count first =
      .error (.unborn last) := by
  obtain ⟨left, rfl⟩ := Nat.exists_eq_add_of_lt isShort
  rw [Nat.add_assoc, leads.follow, follow_succ, notHeld]

end

/-! ## Answers -/

/-- A result is what a text comes to as a revision: the text itself if it is a
full commit id, and else a refusal of the checkout. -/
inductive Answers (checkout : HostText) (text : String) :
    Except Error RevisionId → Prop where
  | told (id : RevisionId) (isText : id.text = text) :
      Answers checkout text (.ok id)
  | refused (fault : Fault) (noId : ¬IsCommitId text.toList) :
      Answers checkout text (.error (.repositoryNotInitialized checkout fault))

/-- A result is a refusal of a checkout. -/
def Refuses (checkout : HostText) (result : Except Error RevisionId) : Prop :=
  ∃ fault, result = .error (.repositoryNotInitialized checkout fault)

/-- What the head of a checkout stands for is taken for its revision. -/
theorem answers_of_headText (owns : Owns files checkout metadata)
    {text : String} (told : headText files metadata = .ok text) :
    Answers checkout text (metadataResolver files checkout).1 := by
  have located := (metadataDirectory_eq_ok_iff metadata).mpr owns
  simp only [metadataResolver, readRevision, located, told, bind, Except.bind]
  cases parsed : RevisionId.parse text with
  | ok id => exact .told id ((RevisionId.parse_eq_ok_iff text id).mp parsed)
  | error fault =>
      refine .refused (.invalidId fault) ?_
      intro isCommitId
      have readBack := RevisionId.parse_text ⟨text, isCommitId⟩
      rw [readBack] at parsed
      cases parsed

/-- A text that is a full commit id comes to that id. -/
theorem Answers.eq_ok {id : RevisionId} {result : Except Error RevisionId}
    (answers : Answers checkout id.text result) : result = .ok id := by
  cases answers with
  | told other isText => rw [RevisionId.ext isText]
  | refused fault noId => exact absurd id.isCommitId noId

/-- A checkout is refused for the reason that its head stands for nothing. -/
theorem metadataResolver_of_headText_error
    (owns : Owns files checkout metadata) {fault : Fault}
    (failed : headText files metadata = .error fault) :
    (metadataResolver files checkout).1 =
      .error (.repositoryNotInitialized checkout fault) := by
  have located := (metadataDirectory_eq_ok_iff metadata).mpr owns
  simp only [metadataResolver, readRevision, located, failed, bind,
    Except.bind, blame]

/-- A head that refers to a name is followed from there. -/
theorem headText_of_refersTo {head first : String}
    (shares : Shares files metadata shared)
    (isHead : files.readText (Path.join metadata "HEAD") = .ok head)
    (refersTo : RefersTo (Text.trim head) first) :
    headText files metadata =
      follow files metadata shared maximumReferences first := by
  unfold headText
  simp only [isHead, (referred?_eq_some_iff _ first).mpr refersTo,
    shares_iff.mp shares]

/-- A head that refers to nothing stands for itself. -/
theorem headText_of_not_isReference {head : String}
    (isHead : files.readText (Path.join metadata "HEAD") = .ok head)
    (noReference : ¬IsReference (Text.trim head)) :
    headText files metadata = .ok (Text.trim head) := by
  unfold headText
  simp only [isHead, (referred?_eq_none_iff _).mpr noReference]

/-- The resolver that reads metadata takes a head without a reference for the
revision.  If the head refers to the first name of a chain, the resolver takes
what the last one holds for the revision if the chain has at most five names,
and refuses the checkout otherwise.  It refuses the checkout as well if the last
name holds nothing or leads back to itself. -/
theorem resolver_follows_references (files : FileSystem)
    (checkout metadata shared : HostText) (head : String)
    (owns : Owns files checkout metadata)
    (shares : Shares files metadata shared)
    (isHead : files.readText (Path.join metadata "HEAD") = .ok head) :
    (¬IsReference (Text.trim head) →
      Answers checkout (Text.trim head) (metadataResolver files checkout).1) ∧
      ∀ steps first last, RefersTo (Text.trim head) first →
        Leads files metadata shared steps first last →
          (∀ text, Holding files metadata shared last text →
            ¬IsReference text → steps + 1 ≤ 5 →
              Answers checkout text (metadataResolver files checkout).1) ∧
            (5 < steps + 1 →
              Refuses checkout (metadataResolver files checkout).1) ∧
            (HoldsNothing files metadata shared last →
              Refuses checkout (metadataResolver files checkout).1) ∧
            ∀ further,
              Leads files metadata shared (further + 1) last last →
                Refuses checkout (metadataResolver files checkout).1 := by
  constructor
  · intro noReference
    exact answers_of_headText owns
      (headText_of_not_isReference isHead noReference)
  intro steps first last refersTo leads
  have follows := headText_of_refersTo shares isHead refersTo
  have refusesLong {steps : Nat} {last : String}
      (leads : Leads files metadata shared steps first last)
      (isLong : 5 < steps + 1) :
      Refuses checkout (metadataResolver files checkout).1 := by
    obtain ⟨name, endless⟩ :=
      leads.follow_of_le (Nat.le_of_lt_succ isLong)
    exact ⟨_, metadataResolver_of_headText_error owns
      (follows.trans endless)⟩
  refine ⟨?_, refusesLong leads, ?_, ?_⟩
  · intro text holding isLast isShort
    have stands := leads.follow_of_held isShort holding.held? isLast
    exact answers_of_headText owns (follows.trans stands)
  · intro nothing
    by_cases isShort : steps < 5
    · have unborn := leads.follow_of_not_held isShort nothing.held?
      exact ⟨_, metadataResolver_of_headText_error owns
        (follows.trans unborn)⟩
    · exact refusesLong leads (by omega)
  · intro further circles
    refine refusesLong (leads.append (circles.round 5)) ?_
    omega

/-- A checkout whose head refers to a branch, which refers to one that is packed
and to itself. -/
def branched (reference : String) : FileSystem :=
  (((FileSystem.empty.put [".git"] .directory).put [".git", "HEAD"]
    (.file (Text.Utf8.encode "ref: main\n") false)).put [".git", "main"]
      (.file (Text.Utf8.encode reference) false)).put
        [".git", "packed-refs"]
        (.file (Text.Utf8.encode (outerId.text ++ " trunk\n")) false)

theorem readText_branched (reference : String) :
    (branched reference).readText (Path.join "./.git" "HEAD") =
        .ok "ref: main\n" ∧
      (branched reference).readText (Path.join "./.git" "main") =
        .ok reference ∧
      (branched reference).readText (Path.join "./.git" "packed-refs") =
        .ok (outerId.text ++ " trunk\n") :=
  ⟨FileSystem.Holds.readText_eq_ok ⟨false, rfl⟩,
    FileSystem.Holds.readText_eq_ok ⟨false, rfl⟩,
    FileSystem.Holds.readText_eq_ok ⟨false, rfl⟩⟩

theorem shares_branched (reference : String) :
    Shares (branched reference) "./.git" "./.git" := by
  have noFile : (branched reference).readText
      (Path.join "./.git" "commondir") = .error .notFound := rfl
  exact .unreadable noFile

/-- A work tree that is linked to a checkout next to it.  Its metadata stands in
that of the checkout, which it shares, and its head refers to a branch that is
packed there. -/
def linkedTree : FileSystem :=
  let metadata : Location := ["main", ".git", "worktrees", "tree"]
  let directories : List Location :=
    [["tree"], ["main"], ["main", ".git"], ["main", ".git", "worktrees"],
      metadata]
  let files := directories.foldl (fun files directory =>
    files.put directory .directory) FileSystem.empty
  (((files.put ["tree", ".git"]
      (.file (Text.Utf8.encode "gitdir: ../main/.git/worktrees/tree\n")
        false)).put (metadata ++ [.ofText "HEAD"])
      (.file (Text.Utf8.encode "ref: trunk\n") false)).put
      (metadata ++ [.ofText "commondir"])
      (.file (Text.Utf8.encode "../..\n") false)).put
    ["main", ".git", "packed-refs"]
    (.file (Text.Utf8.encode (outerId.text ++ " trunk\n")) false)

/-- The metadata of the linked work tree. -/
def linkedMetadata : HostText := "tree/../main/.git/worktrees/tree"

theorem readText_linkedTree :
    linkedTree.readText "tree/.git" =
        .ok "gitdir: ../main/.git/worktrees/tree\n" ∧
      linkedTree.readText (Path.join linkedMetadata "HEAD") =
        .ok "ref: trunk\n" ∧
      linkedTree.readText (Path.join linkedMetadata "commondir") =
        .ok "../..\n" ∧
      linkedTree.readText
        (Path.join (Path.join linkedMetadata "../..") "packed-refs") =
          .ok (outerId.text ++ " trunk\n") :=
  ⟨FileSystem.Holds.readText_eq_ok ⟨false, rfl⟩,
    FileSystem.Holds.readText_eq_ok ⟨false, rfl⟩,
    FileSystem.Holds.readText_eq_ok ⟨false, rfl⟩,
    FileSystem.Holds.readText_eq_ok ⟨false, rfl⟩⟩

/-- The branch that is packed is found behind the other one, a branch that
refers to itself is refused, and the branch of a linked work tree is found in
the directory that it shares. -/
theorem resolver_follows_branches :
    (metadataResolver (branched "ref:\ttrunk\r\n") ".").1 = .ok outerId ∧
      Refuses "." (metadataResolver (branched "ref:main") ".").1 ∧
      (metadataResolver linkedTree "tree").1 = .ok outerId := by
  have owns (reference : String) : Owns (branched reference) "." "./.git" :=
    .directory rfl rfl
  have refersToMain : RefersTo (Text.trim "ref: main\n") "main" :=
    (referred?_eq_some_iff _ _).mp (by decide)
  have noReference : ¬IsReference outerId.text :=
    (referred?_eq_none_iff _).mp (referred?_text outerId)
  refine ⟨?_, ?_, ?_⟩
  · obtain ⟨isHead, isMain, isPacked⟩ := readText_branched "ref:\ttrunk\r\n"
    have refers : Refers (branched "ref:\ttrunk\r\n") "./.git" "./.git"
        "main" "trunk" :=
      ⟨_, .own isMain, (referred?_eq_some_iff _ _).mp (by decide)⟩
    have holding : Holding (branched "ref:\ttrunk\r\n") "./.git" "./.git"
        "trunk" outerId.text :=
      .packed rfl rfl isPacked (by decide)
    obtain ⟨-, follows⟩ := resolver_follows_references _ "." "./.git"
      "./.git" _ (owns _) (shares_branched _) isHead
    obtain ⟨answers, -⟩ :=
      follows 1 "main" "trunk" refersToMain (.onward refers (.here _))
    exact (answers _ holding noReference (by decide)).eq_ok
  · obtain ⟨isHead, isMain, -⟩ := readText_branched "ref:main"
    have refers : Refers (branched "ref:main") "./.git" "./.git" "main"
        "main" :=
      ⟨_, .own isMain, (referred?_eq_some_iff _ _).mp (by decide)⟩
    obtain ⟨-, follows⟩ := resolver_follows_references _ "." "./.git"
      "./.git" _ (owns _) (shares_branched _) isHead
    obtain ⟨-, -, -, circles⟩ :=
      follows 0 "main" "main" refersToMain (.here _)
    exact circles 0 (.onward refers (.here _))
  · obtain ⟨isPointer, isHead, isShared, isPacked⟩ := readText_linkedTree
    have pointsTo : PointsTo "gitdir: ../main/.git/worktrees/tree\n"
        "../main/.git/worktrees/tree" :=
      (pointerTarget?_eq_some_iff _ _).mp (by decide)
    have owns : Owns linkedTree "tree" linkedMetadata :=
      .pointer rfl isPointer pointsTo rfl
    have shares : Shares linkedTree linkedMetadata
        (Path.join linkedMetadata "../..") :=
      .named isShared (by decide) (by decide)
    have refersToTrunk : RefersTo (Text.trim "ref: trunk\n") "trunk" :=
      (referred?_eq_some_iff _ _).mp (by decide)
    have holding : Holding linkedTree linkedMetadata
        (Path.join linkedMetadata "../..") "trunk" outerId.text :=
      .packed rfl rfl isPacked (by decide)
    obtain ⟨-, follows⟩ := resolver_follows_references _ "tree" _ _ _ owns
      shares isHead
    obtain ⟨answers, -⟩ := follows 0 "trunk" "trunk" refersToTrunk (.here _)
    exact (answers _ holding noReference (by decide)).eq_ok

end Checkout
end ReportBinding
