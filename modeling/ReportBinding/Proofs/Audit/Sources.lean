import ReportBinding.Audit

/-!
# Sources of an audit

A source gives the value that its path leads to, or else the one that its text
spells, or else the one on record: `Audit.Source.Gives`.  An audit finds the
provenance whose three values the sources give (`Audit.provenance_eq_ok_iff`),
and is incomplete if some of them give none (`Audit.provenance_of_lacking`).
-/

namespace ReportBinding
namespace Audit

theorem bind_eq_ok_iff {α β : Type} {result : Except Failure α}
    {next : α → Except Failure β} {value : β} :
    (result >>= next) = .ok value ↔
      ∃ found, result = .ok found ∧ next found = .ok value := by
  cases result <;> simp [bind, Except.bind]

theorem mapError_eq_ok_iff {α ε : Type} {result : Except ε α}
    {f : ε → Failure} {value : α} :
    result.mapError f = .ok value ↔ result = .ok value := by
  cases result with
  | error error =>
      constructor
      · intro failed
        cases failed
      · intro failed
        cases failed
  | ok found =>
      constructor
      · intro isFound
        cases isFound
        rfl
      · intro isFound
        cases isFound
        rfl

theorem map_some_eq_ok_iff {α : Type} {result : Except Failure α}
    {value : α} :
    result.map some = .ok (some value) ↔ result = .ok value := by
  cases result <;> simp [Except.map]

/-! ## Single sources -/

namespace Source

variable {α : Type}

/-- The value of a source, given what paths lead to, what texts spell and what
is on record. -/
inductive Gives (reads : HostText → α → Prop) (spells : String → α → Prop)
    (recorded : Option α) : Source → α → Prop where
  /-- A path counts before all else, whatever text there is. -/
  | read {path : HostText} {text : Option String} {value : α}
      (isRead : reads path value) :
      Gives reads spells recorded ⟨some path, text⟩ value
  /-- A text counts if there is no path. -/
  | spelled {text : String} {value : α} (isSpelled : spells text value) :
      Gives reads spells recorded ⟨Option.none, some text⟩ value
  /-- Only a source with neither takes what is on record. -/
  | recorded {value : α} (isRecorded : recorded = some value) :
      Gives reads spells recorded ⟨Option.none, Option.none⟩ value

/-- A source has a path or a text. -/
def IsExplicit (source : Source) : Prop :=
  source ≠ Source.none

instance (source : Source) : Decidable source.IsExplicit :=
  inferInstanceAs (Decidable (_ ≠ _))

/-- Two sources have the same path, or none both and then the same text. -/
structure Alike (source other : Source) : Prop where
  path : source.path = other.path
  value : source.path = Option.none → source.value = other.value

theorem Alike.refl (source : Source) : source.Alike source :=
  ⟨rfl, fun _ => rfl⟩

theorem Alike.symm {source other : Source} (alike : source.Alike other) :
    other.Alike source :=
  ⟨alike.path.symm, fun noPath =>
    (alike.value (alike.path.trans noPath)).symm⟩

/-- Look up the value of a source. -/
def consult (read : HostText → Except Failure α)
    (spell : String → Except Failure α) (recorded : Option α) :
    Source → Except Failure (Option α)
  | ⟨some path, _⟩ => (read path).map some
  | ⟨Option.none, some text⟩ => (spell text).map some
  | ⟨Option.none, Option.none⟩ => .ok recorded

variable {reads : HostText → α → Prop} {spells : String → α → Prop}
  {recorded : Option α} {source other : Source} {value : α}

/-- What is on record does not count for an explicit source. -/
theorem Gives.anyRecord (gives : source.Gives reads spells recorded value)
    (isExplicit : source.IsExplicit) (others : Option α) :
    source.Gives reads spells others value := by
  cases gives with
  | read isRead => exact .read isRead
  | spelled isSpelled => exact .spelled isSpelled
  | recorded isRecorded => exact absurd rfl isExplicit

/-- A source that is not explicit gives what is on record. -/
theorem Gives.eq_recorded (gives : source.Gives reads spells recorded value)
    (isImplicit : ¬source.IsExplicit) : recorded = some value := by
  have isNone : source = Source.none := Decidable.of_not_not isImplicit
  cases gives with
  | read isRead => cases isNone
  | spelled isSpelled => cases isNone
  | recorded isRecorded => exact isRecorded

/-- The text of a source with a path does not count. -/
theorem Gives.alike (gives : source.Gives reads spells recorded value)
    (alike : source.Alike other) :
    other.Gives reads spells recorded value := by
  obtain ⟨path, text⟩ := other
  cases gives with
  | read isRead =>
      cases alike.path
      exact .read isRead
  | spelled isSpelled =>
      cases alike.path
      cases alike.value rfl
      exact .spelled isSpelled
  | recorded isRecorded =>
      cases alike.path
      cases alike.value rfl
      exact .recorded isRecorded

theorem Alike.isExplicit (alike : source.Alike other)
    (isExplicit : source.IsExplicit) : other.IsExplicit := by
  rintro rfl
  apply isExplicit
  obtain ⟨path, text⟩ := source
  cases alike.path
  cases alike.value rfl
  rfl

theorem consult_alike (alike : source.Alike other)
    (read : HostText → Except Failure α)
    (spell : String → Except Failure α) (recorded : Option α) :
    source.consult read spell recorded =
      other.consult read spell recorded := by
  obtain ⟨path, text⟩ := source
  obtain ⟨otherPath, otherText⟩ := other
  cases alike.path
  cases path with
  | some path => rfl
  | none =>
      cases alike.value rfl
      rfl

/-- A source gives one value at the most, if paths and texts do. -/
theorem Gives.unique {otherValue : α}
    (gives : source.Gives reads spells recorded value)
    (givesOther : source.Gives reads spells recorded otherValue)
    (readsOne : ∀ path value other,
      reads path value → reads path other → value = other)
    (spellsOne : ∀ text value other,
      spells text value → spells text other → value = other) :
    value = otherValue := by
  cases gives with
  | read isRead =>
      cases givesOther with
      | read otherRead => exact readsOne _ _ _ isRead otherRead
  | spelled isSpelled =>
      cases givesOther with
      | spelled otherSpelled => exact spellsOne _ _ _ isSpelled otherSpelled
  | recorded isRecorded =>
      cases givesOther with
      | recorded otherRecorded =>
          exact Option.some.inj (isRecorded.symm.trans otherRecorded)

/-- A look-up finds the value that the source gives. -/
theorem consult_eq_some_iff {read : HostText → Except Failure α}
    {spell : String → Except Failure α}
    (isRead : ∀ path value, read path = .ok value ↔ reads path value)
    (isSpelled : ∀ text value, spell text = .ok value ↔ spells text value) :
    source.consult read spell recorded = .ok (some value) ↔
      source.Gives reads spells recorded value := by
  obtain ⟨path, text⟩ := source
  cases path with
  | some path =>
      rw [consult, map_some_eq_ok_iff, isRead]
      constructor
      · exact .read
      · intro gives
        cases gives with
        | read isRead => exact isRead
  | none =>
      cases text with
      | some text =>
          rw [consult, map_some_eq_ok_iff, isSpelled]
          constructor
          · exact .spelled
          · intro gives
            cases gives with
            | spelled isSpelled => exact isSpelled
      | none =>
          rw [consult, Except.ok.injEq]
          constructor
          · exact .recorded
          · intro gives
            cases gives with
            | recorded isRecorded => exact isRecorded

/-- A look-up without a source finds what is on record. -/
theorem consult_of_not_isExplicit (isImplicit : ¬source.IsExplicit)
    (read : HostText → Except Failure α)
    (spell : String → Except Failure α) (recorded : Option α) :
    source.consult read spell recorded = .ok recorded := by
  have isNone : source = Source.none := Decidable.of_not_not isImplicit
  rw [isNone]
  rfl

end Source

/-! ## The sources of a request -/

variable (files : FileSystem)

/-- The digest that a source gives for an input. -/
def Source.GivesDigest (input : Input) (source : Source)
    (recorded : Option FileDigest) (digest : FileDigest) : Prop :=
  source.Gives (fun path digest => files.hashFile input path = .ok digest)
    (fun text digest => FileDigest.ofHex text = .ok digest) recorded digest

/-- The revision that a source gives. -/
def Source.GivesRevision (source : Source) (recorded : Option RevisionId)
    (id : RevisionId) : Prop :=
  source.Gives
    (fun path id => (Checkout.metadataResolver files path).1 = .ok id)
    (fun text id => RevisionId.parse text = .ok id) recorded id

/-- The source of an input. -/
def Request.source (request : Request) : Input → Source
  | .toolchain => request.toolchain
  | .proof => request.proof
  | .revision => request.sdk

/-- The sources of a request give the three values of a provenance. -/
structure Request.Gives (request : Request) (recorded : Option Provenance)
    (provenance : Provenance) : Prop where
  toolchain : request.toolchain.GivesDigest files .toolchain
    (recorded.map Provenance.toolchain) provenance.toolchain
  proof : request.proof.GivesDigest files .proof
    (recorded.map Provenance.proof) provenance.proof
  revision : request.sdk.GivesRevision files
    (recorded.map Provenance.revision) provenance.revision

/-- Two requests have the same sources, but for the texts of those that have a
path. -/
def Request.Alike (request other : Request) : Prop :=
  ∀ input, (request.source input).Alike (other.source input)

variable {files}

theorem Request.Alike.of_eq {request other : Request}
    (same : request.source = other.source) : request.Alike other := by
  intro input
  rw [same]
  exact .refl _

/-- Requests with the same sources are given the same values. -/
theorem Request.Gives.alike {request other : Request}
    {recorded : Option Provenance} {provenance : Provenance}
    (gives : request.Gives files recorded provenance)
    (alike : request.Alike other) :
    other.Gives files recorded provenance where
  toolchain := Source.Gives.alike gives.toolchain (alike .toolchain)
  proof := Source.Gives.alike gives.proof (alike .proof)
  revision := Source.Gives.alike gives.revision (alike .revision)

theorem fileDigest_eq_consult (input : Input) (source : Source)
    (recorded : Option FileDigest) :
    fileDigest files input source recorded =
      source.consult
        (fun path => (files.hashFile input path).mapError .plain)
        (fun text => (FileDigest.ofHex text).mapError (.invalidDigest input))
        recorded := by
  obtain ⟨path, text⟩ := source
  cases path with
  | some path =>
      simp only [fileDigest, Source.consult]
      cases files.hashFile input path <;> rfl
  | none =>
      cases text with
      | some text =>
          simp only [fileDigest, Source.consult]
          cases FileDigest.ofHex text <;> rfl
      | none => rfl

theorem revision_eq_consult (source : Source)
    (recorded : Option RevisionId) :
    revision files source recorded =
      source.consult
        (fun path =>
          (Checkout.metadataResolver files path).1.mapError .plain)
        (fun text => (RevisionId.parse text).mapError .invalidRevision)
        recorded := by
  obtain ⟨path, text⟩ := source
  cases path with
  | some path =>
      simp only [revision, Source.consult]
      cases (Checkout.metadataResolver files path).1 <;> rfl
  | none =>
      cases text with
      | some text =>
          simp only [revision, Source.consult]
          cases RevisionId.parse text <;> rfl
      | none => rfl

/-- The digest that is found for an input is the one that its source gives. -/
theorem fileDigest_eq_some_iff {input : Input} {source : Source}
    {recorded : Option FileDigest} {digest : FileDigest} :
    fileDigest files input source recorded = .ok (some digest) ↔
      source.GivesDigest files input recorded digest := by
  rw [fileDigest_eq_consult]
  exact Source.consult_eq_some_iff (fun _ _ => mapError_eq_ok_iff)
    fun _ _ => mapError_eq_ok_iff

theorem revision_eq_some_iff {source : Source}
    {recorded : Option RevisionId} {id : RevisionId} :
    revision files source recorded = .ok (some id) ↔
      source.GivesRevision files recorded id := by
  rw [revision_eq_consult]
  exact Source.consult_eq_some_iff (fun _ _ => mapError_eq_ok_iff)
    fun _ _ => mapError_eq_ok_iff

variable {request : Request} {receipt : Option Receipt}

theorem parts_eq_ok_iff (values : Provenance.Parts) :
    parts files request receipt = .ok values ↔
      fileDigest files .toolchain request.toolchain
          ((receipt.map Receipt.provenance).map Provenance.toolchain) =
            .ok values.toolchain ∧
        fileDigest files .proof request.proof
          ((receipt.map Receipt.provenance).map Provenance.proof) =
            .ok values.proof ∧
          revision files request.sdk
            ((receipt.map Receipt.provenance).map Provenance.revision) =
              .ok values.revision := by
  obtain ⟨toolchain, proof, revision⟩ := values
  unfold parts
  simp only [bind_eq_ok_iff, Except.ok.injEq, Provenance.Parts.mk.injEq]
  constructor
  · rintro ⟨_, isToolchain, _, isProof, _, isRevision, rfl, rfl, rfl⟩
    exact ⟨isToolchain, isProof, isRevision⟩
  · rintro ⟨isToolchain, isProof, isRevision⟩
    exact ⟨_, isToolchain, _, isProof, _, isRevision, rfl, rfl, rfl⟩

theorem complete_eq_ok_iff (values : Provenance.Parts)
    (provenance : Provenance) :
    values.complete = .ok provenance ↔
      values = ⟨some provenance.toolchain, some provenance.proof,
        some provenance.revision⟩ := by
  obtain ⟨toolchain, proof, revision⟩ := values
  obtain ⟨isToolchain, isProof, isRevision⟩ := provenance
  cases toolchain <;> cases proof <;> cases revision <;>
    simp [Provenance.Parts.complete]

/-- The provenance that an audit finds is the one whose values the sources
give. -/
theorem provenance_eq_ok_iff (values : Provenance) :
    provenance files request receipt = .ok values ↔
      request.Gives files (receipt.map Receipt.provenance) values := by
  have isFound : provenance files request receipt = .ok values ↔
      parts files request receipt =
        .ok ⟨some values.toolchain, some values.proof,
          some values.revision⟩ := by
    unfold provenance
    rw [bind_eq_ok_iff]
    constructor
    · rintro ⟨found, isFound, completes⟩
      split at completes
      · next complete isComplete =>
          cases completes
          rw [(complete_eq_ok_iff found values).mp isComplete] at isFound
          exact isFound
      · cases completes
    · intro isFound
      refine ⟨_, isFound, ?_⟩
      rw [(complete_eq_ok_iff _ values).mpr rfl]
  rw [isFound, parts_eq_ok_iff, fileDigest_eq_some_iff,
    fileDigest_eq_some_iff, revision_eq_some_iff]
  constructor
  · rintro ⟨toolchain, proof, revision⟩
    exact ⟨toolchain, proof, revision⟩
  · rintro ⟨toolchain, proof, revision⟩
    exact ⟨toolchain, proof, revision⟩

/-! ## Missing inputs -/

/-- The inputs that have neither a path nor a text, and no receipt to fall back
on, in binding order. -/
def Request.lacking (request : Request) (receipt : Option Receipt) :
    List Input :=
  Input.all.filter fun input =>
    receipt.isNone && !decide (request.source input).IsExplicit

/-- The source of an input gives a value. -/
def Request.Tells (files : FileSystem) (request : Request)
    (recorded : Option Provenance) : Input → Prop
  | .toolchain => ∃ digest, request.toolchain.GivesDigest files .toolchain
      (recorded.map Provenance.toolchain) digest
  | .proof => ∃ digest, request.proof.GivesDigest files .proof
      (recorded.map Provenance.proof) digest
  | .revision => ∃ id, request.sdk.GivesRevision files
      (recorded.map Provenance.revision) id

theorem mem_lacking_iff {input : Input} :
    input ∈ request.lacking receipt ↔
      receipt = none ∧ ¬(request.source input).IsExplicit := by
  have isInput : input ∈ Input.all := by cases input <;> decide
  simp [Request.lacking, isInput]

/-- Parts are incomplete as soon as one of them is missing. -/
theorem complete_of_missing {values : Provenance.Parts}
    (lacks : values.missing ≠ []) :
    values.complete = .error values.missing := by
  obtain ⟨toolchain, proof, revision⟩ := values
  cases toolchain with
  | none => rfl
  | some toolchain =>
      cases proof with
      | none => rfl
      | some proof =>
          cases revision with
          | none => rfl
          | some revision => exact absurd rfl lacks

theorem exists_found {α : Type} {found : Except Failure (Option α)}
    {source : Source}
    (finds : source.IsExplicit → ∃ value, found = .ok (some value))
    (findsNothing : ¬source.IsExplicit → found = .ok none) :
    ∃ value, found = .ok value ∧ value.isSome = decide source.IsExplicit := by
  by_cases isExplicit : source.IsExplicit
  · obtain ⟨value, isFound⟩ := finds isExplicit
    exact ⟨some value, isFound, (decide_eq_true isExplicit).symm⟩
  · exact ⟨none, findsNothing isExplicit, (decide_eq_false isExplicit).symm⟩

theorem exists_fileDigest {input : Input} {source : Source}
    (gives : source.IsExplicit →
      ∃ digest, source.GivesDigest files input none digest) :
    ∃ found, fileDigest files input source none = .ok found ∧
      found.isSome = decide source.IsExplicit := by
  apply exists_found
  · intro isExplicit
    obtain ⟨digest, givesDigest⟩ := gives isExplicit
    exact ⟨digest, fileDigest_eq_some_iff.mpr givesDigest⟩
  · intro isImplicit
    rw [fileDigest_eq_consult]
    exact Source.consult_of_not_isExplicit isImplicit _ _ _

theorem exists_revision {source : Source}
    (gives : source.IsExplicit → ∃ id, source.GivesRevision files none id) :
    ∃ found, revision files source none = .ok found ∧
      found.isSome = decide source.IsExplicit := by
  apply exists_found
  · intro isExplicit
    obtain ⟨id, givesRevision⟩ := gives isExplicit
    exact ⟨id, revision_eq_some_iff.mpr givesRevision⟩
  · intro isImplicit
    rw [revision_eq_consult]
    exact Source.consult_of_not_isExplicit isImplicit _ _ _

/-- Without a receipt, and with a value from every explicit source, just the
inputs with an explicit source are found. -/
theorem exists_parts
    (tells : ∀ input, (request.source input).IsExplicit →
      request.Tells files none input) :
    ∃ values, parts files request none = .ok values ∧
      ∀ input, values.has input =
        decide (request.source input).IsExplicit := by
  obtain ⟨toolchain, isToolchain, hasToolchain⟩ :=
    exists_fileDigest (tells .toolchain)
  obtain ⟨proof, isProof, hasProof⟩ := exists_fileDigest (tells .proof)
  obtain ⟨revision, isRevision, hasRevision⟩ :=
    exists_revision (tells .revision)
  refine ⟨⟨toolchain, proof, revision⟩,
    (parts_eq_ok_iff _).mpr ⟨isToolchain, isProof, isRevision⟩, ?_⟩
  intro input
  cases input with
  | toolchain => exact hasToolchain
  | proof => exact hasProof
  | revision => exact hasRevision

/-- An audit is incomplete if inputs are lacking and all others give values, and
names those that are lacking. -/
theorem provenance_of_lacking (lacks : request.lacking receipt ≠ [])
    (tells : ∀ input, input ∉ request.lacking receipt →
      request.Tells files (receipt.map Receipt.provenance) input) :
    provenance files request receipt =
      .error (.plain (.bindingIncomplete (request.lacking receipt))) := by
  obtain ⟨input, isLacking⟩ := List.exists_mem_of_ne_nil _ lacks
  obtain ⟨rfl, -⟩ := mem_lacking_iff.mp isLacking
  have tellsExplicit : ∀ input, (request.source input).IsExplicit →
      request.Tells files none input := by
    intro input isExplicit
    apply tells
    intro isMember
    exact (mem_lacking_iff.mp isMember).2 isExplicit
  obtain ⟨values, areParts, hasValues⟩ := exists_parts tellsExplicit
  have areMissing : values.missing = request.lacking none := by
    unfold Provenance.Parts.missing Request.lacking
    simp [hasValues]
  have incomplete := complete_of_missing (areMissing ▸ lacks)
  unfold provenance
  simp only [areParts, bind, Except.bind, incomplete, areMissing]

end Audit
end ReportBinding
