import ReportBinding.Pipeline.Basic
import ReportBinding.Proofs.Provenance.Hashing

/-!
# What runs find out about their inputs

Both ways of resolving the inputs come down to findings that are put down in
binding order.  `Findings.search` says what is found and which files are left,
and `Findings.outcome` what becomes of it: the first failure, or a provenance.
A resolver that only reads finds the same in both modes and on every schedule.
-/

namespace ReportBinding

/-- The resolver that reads files by a look-up and changes none of them. -/
def Resolver.reading
    (lookUp : FileSystem → HostText → Except Error RevisionId) : Resolver :=
  fun files checkout => (lookUp files checkout, files)

namespace Findings

/-- What a run finds out about its inputs, and the files that it leaves. -/
def search (mode : HashingMode) (schedule : Schedule) (paths : InputPaths)
    (resolver : Resolver) (files : FileSystem) : Findings × FileSystem :=
  match mode with
  | .concurrent => gather schedule paths resolver files
  | .sequential =>
      let toolchain := files.hashFile .toolchain paths.toolchain
      let proof := files.hashFile .proof paths.proof
      let (revision, left) := resolver files paths.sdk
      (⟨toolchain, proof, revision⟩,
        match toolchain, proof with
        | .ok _, .ok _ => left
        | _, _ => files)

/-- What becomes of findings: the first failure in binding order, or else the
provenance. -/
def outcome : Findings → Except Error Provenance
  | ⟨.error error, _, _⟩ => .error error
  | ⟨.ok _, .error error, _⟩ => .error error
  | ⟨.ok _, .ok _, .error error⟩ => .error error
  | ⟨.ok toolchain, .ok proof, .ok revision⟩ =>
      .ok ⟨toolchain, proof, revision⟩

/-- The number of inputs that are found before the first failure. -/
def found : Findings → Nat
  | ⟨.error _, _, _⟩ => 0
  | ⟨.ok _, .error _, _⟩ => 1
  | ⟨.ok _, .ok _, .error _⟩ => 2
  | ⟨.ok _, .ok _, .ok _⟩ => 3

/-- One of the three inputs is not found. -/
def Fail (findings : Findings) : Prop :=
  (∃ error, findings.toolchain = .error error) ∨
    (∃ error, findings.proof = .error error) ∨
      ∃ error, findings.revision = .error error

/-- A provenance comes out exactly if its three values are found. -/
theorem outcome_eq_ok_iff (findings : Findings) (provenance : Provenance) :
    findings.outcome = .ok provenance ↔
      findings.toolchain = .ok provenance.toolchain ∧
        findings.proof = .ok provenance.proof ∧
          findings.revision = .ok provenance.revision := by
  obtain ⟨toolchain, proof, revision⟩ := findings
  cases toolchain with
  | error error => simp [outcome]
  | ok toolchain =>
      cases proof with
      | error error => simp [outcome]
      | ok proof =>
          cases revision with
          | error error => simp [outcome]
          | ok revision => simp [outcome, Provenance.ext_iff]

theorem outcome_isError_iff (findings : Findings) :
    (∃ error, findings.outcome = .error error) ↔ findings.Fail := by
  obtain ⟨toolchain, proof, revision⟩ := findings
  cases toolchain with
  | error error => simp [outcome, Fail]
  | ok toolchain =>
      cases proof with
      | error error => simp [outcome, Fail]
      | ok proof => cases revision <;> simp [outcome, Fail]

theorem found_lt_of_outcome {findings : Findings} {error : Error}
    (failed : findings.outcome = .error error) : findings.found < 3 := by
  obtain ⟨toolchain, proof, revision⟩ := findings
  cases toolchain with
  | error error => simp [found]
  | ok toolchain =>
      cases proof with
      | error error => simp [found]
      | ok proof =>
          cases revision with
          | error error => simp [found]
          | ok revision => simp [outcome] at failed

/-- What a reading resolver lets be found, task by task. -/
def direct (paths : InputPaths)
    (lookUp : FileSystem → HostText → Except Error RevisionId)
    (files : FileSystem) : Findings :=
  ⟨files.hashFile .toolchain paths.toolchain,
    files.hashFile .proof paths.proof, lookUp files paths.sdk⟩

/-- Tasks that only read put down what they find, in whatever order they are
carried out, and leave all else as it was. -/
theorem foldl_find_reading (paths : InputPaths)
    (lookUp : FileSystem → HostText → Except Error RevisionId)
    (files : FileSystem) (order : List Input) (findings : Findings) :
    order.foldl (find paths (.reading lookUp)) (findings, files) =
      (⟨if .toolchain ∈ order then (direct paths lookUp files).toolchain
          else findings.toolchain,
        if .proof ∈ order then (direct paths lookUp files).proof
          else findings.proof,
        if .revision ∈ order then (direct paths lookUp files).revision
          else findings.revision⟩, files) := by
  induction order generalizing findings with
  | nil => simp
  | cons input order inductionHypothesis =>
      rw [List.foldl_cons]
      cases input with
      | toolchain =>
          rw [find, inductionHypothesis]
          simp [direct]
      | proof =>
          rw [find, inductionHypothesis]
          simp [direct]
      | revision =>
          have read : find paths (.reading lookUp) (findings, files)
              .revision =
                ({ findings with revision := lookUp files paths.sdk },
                  files) := rfl
          rw [read, inductionHypothesis]
          simp [direct]

theorem mem_order (schedule : Schedule) (input : Input) :
    input ∈ schedule.order := by
  apply schedule.isComplete.mem_iff.mpr
  cases input <;> simp [Input.all]

/-- A reading resolver finds the same in both modes and on every schedule, and
leaves the files as they were. -/
theorem search_reading (mode : HashingMode) (schedule : Schedule)
    (paths : InputPaths)
    (lookUp : FileSystem → HostText → Except Error RevisionId)
    (files : FileSystem) :
    search mode schedule paths (.reading lookUp) files =
      (direct paths lookUp files, files) := by
  cases mode with
  | sequential =>
      unfold search Resolver.reading direct
      cases files.hashFile .toolchain paths.toolchain with
      | error error => rfl
      | ok toolchain =>
          cases files.hashFile .proof paths.proof <;> rfl
  | concurrent =>
      simp [search, gather, foldl_find_reading, mem_order]

/-- Carrying tasks out changes files only where the revision is resolved, which
happens at most once. -/
theorem files_foldl_find (paths : InputPaths) (resolver : Resolver)
    {order : List Input} (distinct : order.Nodup) (findings : Findings)
    (files : FileSystem) :
    (order.foldl (find paths resolver) (findings, files)).2 =
      if .revision ∈ order then (resolver files paths.sdk).2 else files := by
  induction order generalizing findings files with
  | nil => rfl
  | cons input order inductionHypothesis =>
      obtain ⟨notAgain, distinctLeft⟩ := List.nodup_cons.mp distinct
      rw [List.foldl_cons]
      cases input with
      | toolchain =>
          rw [find, inductionHypothesis distinctLeft]
          simp
      | proof =>
          rw [find, inductionHypothesis distinctLeft]
          simp
      | revision =>
          rw [find, inductionHypothesis distinctLeft, if_neg notAgain,
            if_pos List.mem_cons_self]

/-- A search leaves what the resolver leaves, or else it has failed before the
resolver and left the files as they were. -/
theorem files_search (mode : HashingMode) (schedule : Schedule)
    (paths : InputPaths) (resolver : Resolver) (files : FileSystem) :
    (search mode schedule paths resolver files).2 =
        (resolver files paths.sdk).2 ∨
      (search mode schedule paths resolver files).2 = files ∧
        (search mode schedule paths resolver files).1.Fail := by
  cases mode with
  | sequential =>
      unfold search Fail
      cases files.hashFile .toolchain paths.toolchain with
      | error error => exact .inr ⟨rfl, .inl ⟨error, rfl⟩⟩
      | ok toolchain =>
          cases files.hashFile .proof paths.proof with
          | error error => exact .inr ⟨rfl, .inr (.inl ⟨error, rfl⟩)⟩
          | ok proof => exact .inl rfl
  | concurrent =>
      left
      have distinct : schedule.order.Nodup :=
        schedule.isComplete.nodup_iff.mpr (by decide)
      have left := files_foldl_find paths resolver distinct unknown files
      rw [if_pos (mem_order schedule .revision)] at left
      exact left

end Findings
end ReportBinding
