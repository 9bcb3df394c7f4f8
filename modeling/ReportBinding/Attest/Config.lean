import ReportBinding.Quote.Generator.Basic
import ReportBinding.Pipeline.Inputs

/-!
# Configurations

What a run is configured with, and what runs use unless told otherwise.
-/

namespace ReportBinding
namespace Attest

/-- How the revision is told. -/
inductive RevisionSource where
  /-- From the metadata of the checkout. -/
  | metadata
  /-- By a program with this name. -/
  | program (name : String)
deriving DecidableEq, Repr

/-- The generator that is called unless another one is given. -/
def standardGenerator : String := "tdx_quote_generation"

/-- The configuration of a run. -/
structure Config where
  inputs : InputPaths
  generator : HostText
  generatorArguments : List String
  reportDataArgument : String
  sink : Generator.Sink
  mode : HashingMode
  revisionSource : RevisionSource
deriving DecidableEq, Repr

namespace Config

/-- The configuration that has been told nothing. -/
def standard : Config where
  inputs := ⟨"", "", ""⟩
  generator := standardGenerator
  generatorArguments := []
  reportDataArgument := Generator.standardReportDataArgument
  sink := .transcript
  mode := .standard
  revisionSource := .metadata

/-- The way to tell the revision. -/
def resolver (host : Program.Host) (config : Config) : Resolver :=
  match config.revisionSource with
  | .metadata => Checkout.metadataResolver
  | .program name => (⟨name, []⟩ : Checkout.GitProgram).resolver host

/-- The call of the generator. -/
def command (config : Config) : Generator.Command where
  program := config.generator
  arguments := config.generatorArguments
  reportDataArgument := config.reportDataArgument
  sink := config.sink

end Config
end Attest
end ReportBinding
