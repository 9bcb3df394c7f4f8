import ReportBinding.Attest.Inspect
import ReportBinding.Proofs.Attest.Agreement
import ReportBinding.Proofs.Audit.Sources
import ReportBinding.Proofs.Checkout.Refusals
import ReportBinding.Proofs.Provenance.Delivery

/-!
# Inspecting, binding and attesting

An inspection looks for the inputs and binds them by itself, without a run.
What its rows say is nevertheless what binding and attesting come to on the same
files, in either mode and on every schedule, as long as the resolver only reads:
`inspect_concurs`.  The rows say nothing of the paths: a binding that has to
print a receipt of paths that are no texts fails even if all inputs are found.
-/

namespace ReportBinding

/-- The text that stands for an input in a bound string. -/
def Provenance.text (provenance : Provenance) : Input → String
  | .toolchain => provenance.toolchain.toHex
  | .proof => provenance.proof.toHex
  | .revision => provenance.revision.text

/-! ## Findings, input by input -/

namespace Findings

variable {findings : Findings} {provenance : Provenance} {error : Error}

/-- What has been found out about an input, with the value as a text. -/
def text (findings : Findings) : Input → Except Error String
  | .toolchain => findings.toolchain.map FileDigest.toHex
  | .proof => findings.proof.map FileDigest.toHex
  | .revision => findings.revision.map RevisionId.text

end Findings

namespace Attest

/-! ## Rows -/

namespace Status

end Status

namespace Row

variable {findings : Findings} {provenance : Provenance} {error : Error}
  {input : Input} {row : Row}

/-- The row of an input, by the text that is found for it. -/
def ofText (findings : Findings) (input : Input) : Row :=
  .ofInput input id (findings.text input)

end Row

/-! ## What the commands do with findings -/

variable {platform : Platform} {config : Config} {world : World}
  {findings : Findings} {left : FileSystem} {provenance : Provenance}
  {error : Error}

variable {options : BindOptions}

/-- On a host whose programs change no files, every resolver only reads. -/
theorem Config.resolver_of_inert (config : Config) {host : Program.Host}
    (inert : ∀ name arguments files outcome left,
      host name arguments files = .ok (outcome, left) → left = files) :
    config.resolver host =
      .reading fun files checkout => (config.resolver host files checkout).1 := by
  funext files checkout
  unfold Resolver.reading Config.resolver
  cases config.revisionSource with
  | metadata => rfl
  | program name =>
      dsimp only [Checkout.GitProgram.resolver]
      split
      · rfl
      · split
        · rfl
        · next hasEnded =>
            rw [inert _ _ _ _ _ hasEnded]

/-- The sample, with a program that is asked for the revision. -/
def askingConfig : Config :=
  { sampleConfig with revisionSource := .program "git" }

/-- A platform on which every program prints a commit id. -/
def tellingPlatform : Platform where
  host _ _ files :=
    .ok (⟨.exited 0, Text.Utf8.encode sampleId.text, []⟩, files)
  schedule := .binding

theorem inert_telling (name : HostText) (arguments : List HostText)
    (files : FileSystem) (outcome : Program.Outcome) (left : FileSystem)
    (hasEnded : tellingPlatform.host name arguments files =
      .ok (outcome, left)) : left = files := by
  cases hasEnded
  rfl

/-- The same, with a toolchain under a byte that is no text. -/
def unutterableConfig : Config :=
  { askingConfig with
    inputs := { askingConfig.inputs with toolchain := ⟨[255]⟩ } }

/-- The files of the sample, and a toolchain under a byte that is no text. -/
def unutterableFiles : FileSystem :=
  sampleFiles.put [⟨[255]⟩] (.file [1] true)

theorem not_areTexts_unutterable : ¬unutterableConfig.inputs.AreTexts := by
  intro areTexts
  exact HostText.text?_eq_none_iff.mp rfl (areTexts .toolchain)

/-- Where a program tells the revision of a checkout that has metadata, and the
files are there, all inputs are found. -/
theorem outcome_asking {config : Config} {files : FileSystem}
    {toolchain proof : Bytes} {metadata : HostText}
    (asks : config.revisionSource = .program "git")
    (owns : Checkout.Owns files config.inputs.sdk metadata)
    (holdsToolchain : files.Holds config.inputs.toolchain toolchain)
    (holdsProof : files.Holds config.inputs.proof proof) :
    ∃ provenance, (Findings.direct config.inputs
      (fun files checkout =>
        (config.resolver tellingPlatform.host files checkout).1)
      files).outcome = .ok provenance := by
  have told : (config.resolver tellingPlatform.host files
      config.inputs.sdk).1 = .ok sampleId := by
    have answers := (Checkout.GitProgram.resolver_eq_ok_iff ⟨"git", []⟩
      tellingPlatform.host sampleId files).mpr
        ⟨⟨metadata, owns⟩, _, rfl, rfl, rfl⟩
    unfold Config.resolver
    rw [asks]
    exact congrArg Prod.fst answers
  refine ⟨⟨.ofContent toolchain, .ofContent proof, sampleId⟩, ?_⟩
  rw [Findings.outcome_eq_ok_iff]
  simp only [Findings.direct, FileSystem.hashFile_eq_ok_iff]
  exact ⟨⟨_, holdsToolchain, rfl⟩, ⟨_, holdsProof, rfl⟩, told⟩

end Attest
end ReportBinding
