import ReportBinding.Proofs.Pipeline.Landing
import ReportBinding.Proofs.Provenance.Binding

/-!
# What preparing binds

Preparing with a resolver that only reads succeeds exactly if both files can be
read and the revision is found, and binds the contents of the files and the
revision.  Two calls that bind the same report data had the same material, or
exhibit a collision of one of the two digests.
-/

namespace ReportBinding

/-- A call of `prepare` in any state of a run, with a resolver that only
reads. -/
structure Preparation where
  pipeline : Pipeline
  schedule : Schedule
  paths : InputPaths
  lookUp : FileSystem → HostText → Except Error RevisionId
  world : World

namespace Preparation

/-- What the call does. -/
def step (call : Preparation) : Step BoundProvenance :=
  call.pipeline.prepare call.schedule call.paths (.reading call.lookUp)
    call.world

/-- The contents of the files and the revision that the call comes upon. -/
structure Finds (call : Preparation) (material : Material) : Prop where
  toolchain :
    call.world.files.Holds call.paths.toolchain material.toolchain
  proof : call.world.files.Holds call.paths.proof material.proof
  revision :
    call.lookUp call.world.files call.paths.sdk = .ok material.revision

theorem Finds.unique {call : Preparation} {first second : Material}
    (findsFirst : call.Finds first) (findsSecond : call.Finds second) :
    first = second := by
  have revisions := findsFirst.revision.symm.trans findsSecond.revision
  injection revisions with revision
  exact Material.ext
    (findsFirst.toolchain.unique findsSecond.toolchain)
    (findsFirst.proof.unique findsSecond.proof) revision

/-- A provenance comes out of what the call finds exactly if there is material
for it. -/
theorem outcome_direct_iff (call : Preparation) (provenance : Provenance) :
    (Findings.direct call.paths call.lookUp call.world.files).outcome =
        .ok provenance ↔
      ∃ material, call.Finds material ∧
        provenance = material.provenance := by
  rw [Findings.outcome_eq_ok_iff]
  simp only [Findings.direct, FileSystem.hashFile_eq_ok_iff]
  constructor
  · rintro ⟨⟨toolchain, holdsToolchain, isToolchain⟩,
      ⟨proof, holdsProof, isProof⟩, isRevision⟩
    refine ⟨⟨toolchain, proof, provenance.revision⟩,
      ⟨holdsToolchain, holdsProof, isRevision⟩, ?_⟩
    exact Provenance.ext isToolchain isProof rfl
  · rintro ⟨material, finds, rfl⟩
    exact ⟨⟨_, finds.toolchain, rfl⟩, ⟨_, finds.proof, rfl⟩,
      finds.revision⟩

/-- A call succeeds with a result exactly if it finds the material of the
result. -/
theorem result_eq_ok_iff (call : Preparation) (bound : BoundProvenance) :
    call.step.result = .ok bound ↔
      ∃ material, call.Finds material ∧
        bound = ⟨material.provenance, material.provenance.reportData⟩ := by
  have searched := Findings.search_reading call.pipeline.mode call.schedule
    call.paths call.lookUp call.world.files
  have outcomeIff := call.outcome_direct_iff
  unfold step
  cases outcome : (Findings.direct call.paths call.lookUp
      call.world.files).outcome with
  | error error =>
      rw [call.pipeline.prepare_of_error call.world.requests searched outcome]
      constructor
      · intro impossible
        cases impossible
      · rintro ⟨material, finds, -⟩
        have succeeds := (outcomeIff _).mpr ⟨material, finds, rfl⟩
        rw [outcome] at succeeds
        cases succeeds
  | ok provenance =>
      rw [call.pipeline.prepare_of_ok call.world.requests searched outcome]
      obtain ⟨material, finds, rfl⟩ := (outcomeIff provenance).mp outcome
      constructor
      · intro equal
        injection equal with equal
        exact ⟨material, finds, equal.symm⟩
      · rintro ⟨other, findsOther, rfl⟩
        rw [finds.unique findsOther]

theorem exists_finds_iff (call : Preparation) :
    (∃ material, call.Finds material) ↔
      (∃ content, call.world.files.Holds call.paths.toolchain content) ∧
        (∃ content, call.world.files.Holds call.paths.proof content) ∧
          ∃ id, call.lookUp call.world.files call.paths.sdk = .ok id := by
  constructor
  · rintro ⟨material, finds⟩
    exact ⟨⟨_, finds.toolchain⟩, ⟨_, finds.proof⟩, ⟨_, finds.revision⟩⟩
  · rintro ⟨⟨toolchain, holdsToolchain⟩, ⟨proof, holdsProof⟩, id, isId⟩
    exact ⟨⟨toolchain, proof, id⟩, holdsToolchain, holdsProof, isId⟩

/-- Preparing succeeds exactly if both files can be read and the revision is
found, and the report data is the SHA-512 digest of the hexadecimal SHA-256
digests of the contents and the revision, separated by bars.  Of two calls that
succeed, in whatever modes and states and on whatever files, the report data is
the same if the material is, and only then, unless two contents of a file
collide under SHA-256 or the two bound strings under SHA-512. -/
theorem reportData_binds_material (call other : Preparation) :
    ((∃ bound, call.step.result = .ok bound) ↔
      (∃ content, call.world.files.Holds call.paths.toolchain content) ∧
        (∃ content, call.world.files.Holds call.paths.proof content) ∧
          ∃ id, call.lookUp call.world.files call.paths.sdk = .ok id) ∧
    (∀ bound, call.step.result = .ok bound →
      ∃ material, call.Finds material ∧
        bound.provenance = material.provenance ∧
          bound.reportData.bytes =
            Hash.sha512 (Text.Utf8.encode
              (Hex.encode (Hash.sha256 material.toolchain) ++ "||" ++
                Hex.encode (Hash.sha256 material.proof) ++ "||" ++
                  material.revision.text))) ∧
    ∀ bound otherBound material otherMaterial,
      call.step.result = .ok bound →
      other.step.result = .ok otherBound →
      call.Finds material → other.Finds otherMaterial →
        (material = otherMaterial →
          bound.reportData = otherBound.reportData) ∧
        (bound.reportData = otherBound.reportData →
          material = otherMaterial ∨
            Collides Hash.sha256 material.toolchain
              otherMaterial.toolchain ∨
            Collides Hash.sha256 material.proof otherMaterial.proof ∨
            Collides (fun text => Hash.sha512 (Text.Utf8.encode text))
              material.boundString otherMaterial.boundString) := by
  refine ⟨?_, ?_, ?_⟩
  · rw [← call.exists_finds_iff]
    constructor
    · rintro ⟨bound, succeeds⟩
      obtain ⟨material, finds, -⟩ := (call.result_eq_ok_iff bound).mp succeeds
      exact ⟨material, finds⟩
    · rintro ⟨material, finds⟩
      exact ⟨_, (call.result_eq_ok_iff _).mpr ⟨material, finds, rfl⟩⟩
  · intro bound succeeds
    obtain ⟨material, finds, rfl⟩ := (call.result_eq_ok_iff bound).mp succeeds
    exact ⟨material, finds, rfl, rfl⟩
  · intro bound otherBound material otherMaterial succeeds otherSucceeds finds
      otherFinds
    obtain ⟨found, findsFound, rfl⟩ :=
      (call.result_eq_ok_iff bound).mp succeeds
    obtain ⟨otherFound, otherFindsFound, rfl⟩ :=
      (other.result_eq_ok_iff otherBound).mp otherSucceeds
    rw [findsFound.unique finds, otherFindsFound.unique otherFinds]
    constructor
    · rintro rfl
      rfl
    · exact Material.eq_or_collide_of_reportData

/-- A small toolchain and an empty proof. -/
def sampleFiles : FileSystem :=
  (FileSystem.empty.put ["proof"] (.file [] false)).put ["tool"]
    (.file [1] true)

/-- A call on the two files, in a checkout with a revision given. -/
def sample (mode : HashingMode) (revision : RevisionId) : Preparation where
  pipeline := Pipeline.unresolved mode 1
  schedule := .binding
  paths := ⟨"tool", "proof", "sdk"⟩
  lookUp _ _ := .ok revision
  world := ⟨sampleFiles, []⟩

theorem finds_sample (mode : HashingMode) (revision : RevisionId) :
    (sample mode revision).Finds ⟨[1], [], revision⟩ := by
  have tool : sampleFiles.find "tool" = .ok (.file [1] true) := rfl
  have proof : sampleFiles.find "proof" = .ok (.file [] false) := rfl
  exact ⟨⟨true, tool⟩, ⟨false, proof⟩, rfl⟩

/-- A commit id of 40 digits. -/
def shortId : RevisionId :=
  ⟨String.ofList (List.replicate 40 'a'), by decide⟩

/-- A commit id of 64 digits. -/
def longId : RevisionId :=
  ⟨String.ofList (List.replicate 64 'a'), by decide⟩

/-- A call for a short revision and one for a long revision succeed, and bind
different report data unless their bound strings collide. -/
theorem reportData_binds_samples :
    (∃ bound, (sample .sequential shortId).step.result = .ok bound) ∧
    (∃ bound, (sample .concurrent longId).step.result = .ok bound) ∧
    ∀ bound otherBound,
      (sample .sequential shortId).step.result = .ok bound →
      (sample .concurrent longId).step.result = .ok otherBound →
      bound.reportData = otherBound.reportData →
        Collides (fun text => Hash.sha512 (Text.Utf8.encode text))
          (Material.boundString ⟨[1], [], shortId⟩)
          (Material.boundString ⟨[1], [], longId⟩) := by
  obtain ⟨succeedsIff, -, binds⟩ := reportData_binds_material
    (sample .sequential shortId) (sample .concurrent longId)
  obtain ⟨otherSucceedsIff, -, -⟩ := reportData_binds_material
    (sample .concurrent longId) (sample .concurrent longId)
  refine ⟨?_, ?_, ?_⟩
  · exact succeedsIff.mpr ((exists_finds_iff _).mp ⟨_, finds_sample _ _⟩)
  · exact otherSucceedsIff.mpr
      ((exists_finds_iff _).mp ⟨_, finds_sample _ _⟩)
  · intro bound otherBound succeeds otherSucceeds equal
    obtain ⟨-, only⟩ := binds bound otherBound _ _ succeeds otherSucceeds
      (finds_sample _ _) (finds_sample _ _)
    rcases only equal with same | ⟨different, -⟩ | ⟨different, -⟩ | collision
    · exact absurd (congrArg Material.revision same) (by decide)
    · exact absurd rfl different
    · exact absurd rfl different
    · exact collision

end Preparation
end ReportBinding
