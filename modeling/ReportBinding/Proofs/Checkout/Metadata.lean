import ReportBinding.Checkout.Metadata
import ReportBinding.Proofs.Files.Access

/-!
# Where a revision is told

The metadata of a checkout is read under a few paths only, which `consulted`
lists.  File systems that agree on them tell the same revision:
`readRevision_of_agree`.
-/

namespace ReportBinding
namespace Checkout

open Files

/-! ## Paths -/

/-- The paths that tell where the metadata of a checkout is. -/
def markers (files : FileSystem) (checkout : HostText) : List HostText :=
  checkout :: Path.join checkout ".git" ::
    match files.readText (Path.join checkout ".git") with
    | .ok text =>
        ((pointerTarget? text).map fun target =>
          Path.join checkout target).toList
    | .error _ => []

/-- The paths that tell what a reference holds. -/
def holders (metadata shared : HostText) (name : String) : List HostText :=
  [Path.join metadata name, Path.join shared name,
    Path.join shared "packed-refs"]

/-- The names on the way from a reference, each found from the one before. -/
def namesFrom (next? : String → Option String) : Nat → String → List String
  | 0, _ => []
  | count + 1, name =>
      name ::
        match next? name with
        | some next => namesFrom next? count next
        | none => []

/-- The reference that a reference refers to. -/
def next? (files : FileSystem) (metadata shared : HostText) (name : String) :
    Option String :=
  (held? files metadata shared name).bind referred?

/-- The paths that tell what a reference stands for. -/
def followed (files : FileSystem) (metadata shared : HostText) (count : Nat)
    (name : String) : List HostText :=
  (namesFrom (next? files metadata shared) count name).flatMap
    (holders metadata shared)

/-- The paths that tell what the head of a checkout stands for. -/
def heads (files : FileSystem) (metadata : HostText) : List HostText :=
  Path.join metadata "HEAD" :: Path.join metadata "commondir" ::
    match files.readText (Path.join metadata "HEAD") with
    | .ok text =>
        match referred? (Text.trim text) with
        | some name =>
            followed files metadata (sharedDirectory files metadata)
              maximumReferences name
        | none => []
    | .error _ => []

/-- The paths that tell the revision of a checkout. -/
def consulted (files : FileSystem) (checkout : HostText) : List HostText :=
  markers files checkout ++
    match metadataDirectory files checkout with
    | .ok metadata => heads files metadata
    | .error _ => []

/-! ## Agreement -/

variable {files other : FileSystem}

/-- The metadata stands where it stood if the paths agree that tell so. -/
theorem metadataDirectory_of_agree {checkout metadata : HostText}
    (agree : ∀ path ∈ markers files checkout, files.Agree other path)
    (found : metadataDirectory files checkout = .ok metadata) :
    metadataDirectory other checkout = .ok metadata := by
  have agreeCheckout : files.Agree other checkout :=
    agree checkout (by simp [markers])
  have agreeMarker : files.Agree other (Path.join checkout ".git") :=
    agree _ (by simp [markers])
  unfold metadataDirectory at found ⊢
  dsimp only at found ⊢
  rw [agreeCheckout.isDirectory, agreeMarker.hasEntry,
    agreeMarker.isDirectory]
  split at found
  · cases found
  next isDirectory =>
  rw [if_neg isDirectory]
  split at found
  · cases found
  next hasMarker =>
  rw [if_neg hasMarker]
  split at found
  · next isOwn => rw [if_pos isOwn, found]
  next isPointer =>
  rw [if_neg isPointer]
  cases isRead : files.readText (Path.join checkout ".git") with
  | error fault =>
      rw [isRead] at found
      cases found
  | ok text =>
      rw [isRead] at found
      rw [agreeMarker.readText_eq_ok isRead]
      cases points : pointerTarget? text with
      | none =>
          simp only [points] at found
          cases found
      | some target =>
          have agreeTarget : files.Agree other (Path.join checkout target) :=
            agree _ (by simp [markers, isRead, points])
          simp only [points] at found ⊢
          rw [agreeTarget.isDirectory]
          exact found

theorem sharedDirectory_of_agree {metadata : HostText}
    (agree : files.Agree other (Path.join metadata "commondir")) :
    sharedDirectory other metadata = sharedDirectory files metadata := by
  have same := agree.toOption_readText
  unfold sharedDirectory
  cases isRead : files.readText (Path.join metadata "commondir") with
  | ok text => rw [agree.readText_eq_ok isRead]
  | error fault =>
      rw [isRead] at same
      cases readOther : other.readText (Path.join metadata "commondir") with
      | error fault => rfl
      | ok text =>
          rw [readOther] at same
          cases same

theorem looseText?_eq (files : FileSystem) (metadata shared : HostText)
    (name : String) :
    looseText? files metadata shared name =
      if files.isFile (Path.join metadata name) then
        (files.readText (Path.join metadata name)).toOption
      else if files.isFile (Path.join shared name) then
        (files.readText (Path.join shared name)).toOption
      else none := by
  unfold looseText?
  rw [List.find?_cons, List.find?_cons, List.find?_nil]
  cases files.isFile (Path.join metadata name) with
  | true =>
      dsimp only
      cases files.readText (Path.join metadata name) <;> rfl
  | false =>
      cases files.isFile (Path.join shared name) with
      | true =>
          dsimp only
          cases files.readText (Path.join shared name) <;> rfl
      | false => rfl

/-- Packed references are looked up in the text of their list, if any. -/
theorem lookUpPacked_eq (files : FileSystem) (shared : HostText)
    (name : String) :
    lookUpPacked files shared name =
      (files.readText (Path.join shared "packed-refs")).toOption.bind
        (packedId? · name) := by
  unfold lookUpPacked
  cases files.readText (Path.join shared "packed-refs") <;> rfl

theorem held?_of_agree {metadata shared : HostText} {name : String}
    (agree : ∀ path ∈ holders metadata shared name,
      files.Agree other path) :
    held? other metadata shared name = held? files metadata shared name := by
  have agreeOwn : files.Agree other (Path.join metadata name) :=
    agree _ (by simp [holders])
  have agreeShared : files.Agree other (Path.join shared name) :=
    agree _ (by simp [holders])
  have agreePacked : files.Agree other (Path.join shared "packed-refs") :=
    agree _ (by simp [holders])
  have loose : looseText? other metadata shared name =
      looseText? files metadata shared name := by
    rw [looseText?_eq, looseText?_eq, agreeOwn.isFile, agreeShared.isFile,
      agreeOwn.toOption_readText, agreeShared.toOption_readText]
  have packed : lookUpPacked other shared name =
      lookUpPacked files shared name := by
    rw [lookUpPacked_eq, lookUpPacked_eq, agreePacked.toOption_readText]
  unfold held?
  rw [loose, packed]

/-- A reference is followed to what the text that it holds refers to. -/
theorem follow_succ (files : FileSystem) (metadata shared : HostText)
    (count : Nat) (name : String) :
    follow files metadata shared (count + 1) name =
      match held? files metadata shared name with
      | none => .error (.unborn name)
      | some text =>
          match referred? text with
          | some next => follow files metadata shared count next
          | none => .ok text := by
  rfl

/-- A reference stands for what it stood for if the paths agree that tell
so. -/
theorem follow_of_agree {metadata shared : HostText} {count : Nat}
    {name : String}
    (agree : ∀ path ∈ followed files metadata shared count name,
      files.Agree other path) :
    follow other metadata shared count name =
      follow files metadata shared count name := by
  induction count generalizing name with
  | zero => rfl
  | succ count inductionHypothesis =>
      rw [followed, namesFrom, List.flatMap_cons] at agree
      have held : held? other metadata shared name =
          held? files metadata shared name := by
        apply held?_of_agree
        intro path isHolder
        exact agree path (List.mem_append_left _ isHolder)
      rw [follow_succ, follow_succ, held]
      cases holds : held? files metadata shared name with
      | none => rfl
      | some text =>
          dsimp only
          cases refers : referred? text with
          | none => rfl
          | some next =>
              have isNext : next? files metadata shared name = some next := by
                rw [next?, holds, Option.bind_some, refers]
              rw [isNext] at agree
              apply inductionHypothesis
              intro path isFollowed
              exact agree path (List.mem_append_right _ isFollowed)

theorem headText_of_agree {metadata : HostText} {text : String}
    (agree : ∀ path ∈ heads files metadata, files.Agree other path)
    (told : headText files metadata = .ok text) :
    headText other metadata = .ok text := by
  have agreeHead : files.Agree other (Path.join metadata "HEAD") :=
    agree _ (by simp [heads])
  have agreeShared : files.Agree other (Path.join metadata "commondir") :=
    agree _ (by simp [heads])
  unfold headText at told ⊢
  cases isRead : files.readText (Path.join metadata "HEAD") with
  | error fault =>
      rw [isRead] at told
      cases told
  | ok head =>
      rw [isRead] at told
      rw [agreeHead.readText_eq_ok isRead,
        sharedDirectory_of_agree agreeShared]
      dsimp only at told ⊢
      cases refers : referred? (Text.trim head) with
      | none =>
          rw [refers] at told
          exact told
      | some name =>
          rw [refers] at told
          dsimp only at told ⊢
          rw [follow_of_agree, told]
          intro path isFollowed
          apply agree path
          simp only [heads, isRead, refers, List.mem_cons]
          exact .inr (.inr isFollowed)

/-- File systems that agree on the paths that tell the revision of a checkout
tell the same one. -/
theorem readRevision_of_agree {checkout : HostText} {id : RevisionId}
    (agree : ∀ path ∈ consulted files checkout, files.Agree other path)
    (told : readRevision files checkout = .ok id) :
    readRevision other checkout = .ok id := by
  unfold readRevision at told ⊢
  cases located : metadataDirectory files checkout with
  | error fault =>
      rw [located] at told
      cases told
  | ok metadata =>
      have locatedOther : metadataDirectory other checkout = .ok metadata := by
        refine metadataDirectory_of_agree ?_ located
        intro path isMarker
        apply agree path
        rw [consulted]
        exact List.mem_append_left _ isMarker
      rw [located] at told
      rw [locatedOther]
      cases stands : headText files metadata with
      | error fault =>
          simp only [bind, Except.bind, stands] at told
          cases told
      | ok text =>
          have standsOther : headText other metadata = .ok text := by
            refine headText_of_agree ?_ stands
            intro path isHead
            apply agree path
            rw [consulted, located]
            exact List.mem_append_right _ isHead
          simp only [bind, Except.bind, stands, standsOther] at told ⊢
          exact told

end Checkout
end ReportBinding
