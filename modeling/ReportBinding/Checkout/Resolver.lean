import ReportBinding.Checkout.Metadata
import ReportBinding.Error
import ReportBinding.Program.Basic

/-!
# Resolvers

A resolver tells the revision of a checkout: from its metadata, or by asking a
program.  Either way the checkout needs metadata of its own, so that no
repository around it answers in its place.
-/

namespace ReportBinding

/-- A way to tell the revision of a checkout.  It may change files. -/
abbrev Resolver :=
  FileSystem → HostText → Except Error RevisionId × FileSystem

namespace Checkout

/-- A result for a checkout, with its path put to a refusal. -/
def blame {α : Type} (checkout : HostText) (result : Except Fault α) :
    Except Error α :=
  match result with
  | .ok value => .ok value
  | .error fault => .error (.repositoryNotInitialized checkout fault)

/-- The resolver that reads metadata. -/
def metadataResolver : Resolver := fun files checkout =>
  (blame checkout (readRevision files checkout), files)

/-- A program that is asked for revisions, and its first arguments. -/
structure GitProgram where
  name : String
  arguments : List String
deriving DecidableEq, Repr

namespace GitProgram

/-- The program that is asked unless another one is given. -/
def standard : GitProgram := ⟨"git", []⟩

/-- The arguments that ask for the revision of a checkout. -/
def request (program : GitProgram) (checkout : HostText) : List HostText :=
  program.arguments.map HostText.ofText ++
    [HostText.ofText "-C", checkout, "rev-parse", "--verify", "HEAD"]

/-- What the end of the program tells about the revision. -/
def answer (program : GitProgram) (outcome : Program.Outcome) :
    Except Fault RevisionId :=
  if outcome.succeeded then
    match RevisionId.parse (Text.trim (Text.Utf8.lossy outcome.output)) with
    | .ok id => .ok id
    | .error fault => .error (.invalidId fault)
  else
    .error (.exited program.name outcome.statusText
      (Text.trim (Text.Utf8.lossy outcome.errors)))

/-- The resolver that asks a program. -/
def resolver (host : Program.Host) (program : GitProgram) : Resolver :=
  fun files checkout =>
    match metadataDirectory files checkout with
    | .error fault => (blame checkout (.error fault), files)
    | .ok _ =>
        match host program.name (program.request checkout) files with
        | .error fault =>
            (blame checkout (.error (.notStarted program.name fault)),
              files)
        | .ok (outcome, files) =>
            (blame checkout (program.answer outcome), files)

end GitProgram
end Checkout
end ReportBinding
