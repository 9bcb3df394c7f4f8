import ReportBinding.Audit.Document
import ReportBinding.CommandLine.Attest
import ReportBinding.CommandLine.Verify

/-!
# Whole programs

Either program reads its command line, does its work, and ends with a status:
zero for success, one for a failure, and two for a command line that it cannot
carry out.
-/

namespace ReportBinding
namespace CommandLine

/-- The two programs. -/
inductive Tool where
  /-- Attests, binds and inspects. -/
  | attest
  /-- Verifies. -/
  | verify
deriving DecidableEq, Repr

/-- The names of the programs. -/
def Tool.name : Tool → String
  | .attest => "tdx-attest"
  | .verify => "tdx-provenance-verify"

/-- The version that a program says it has. -/
def versionText : String := "0.1.0"

/-- How a program ends. -/
structure Exit where
  status : Nat
  output : String
  /-- What is printed to the standard error besides the failure. -/
  remarks : String
  /-- What is said about the failure. -/
  errorText : Option String
  files : FileSystem

/-- End on a command line that is not carried out. -/
def Exit.ofUsage (tool : Tool) (files : FileSystem) (fault : UsageFault) :
    Exit :=
  match fault with
  | .helpRequested => ⟨0, "", "", none, files⟩
  | .versionRequested =>
      ⟨0, tool.name ++ " " ++ versionText ++ "\n", "", none, files⟩
  | fault => ⟨2, "", "error: " ++ fault.message ++ "\n", none, files⟩

/-- End as a command does. -/
def Exit.ofEnding {α : Type} (ending : Attest.Ending α) : Exit :=
  match ending.result with
  | .ok _ => ⟨0, ending.output, ending.errors, none, ending.world.files⟩
  | .error failure =>
      ⟨1, ending.output, ending.errors, some failure.report,
        ending.world.files⟩

/-- Carry out what the attesting program is asked to do. -/
def Invocation.carryOut (platform : Attest.Platform) (files : FileSystem) :
    Invocation → Exit
  | .attest config quoteOut receiptOut =>
      .ofEnding (Attest.attest platform config quoteOut receiptOut ⟨files, []⟩)
  | .bind config options =>
      .ofEnding (Attest.bind platform config options ⟨files, []⟩)
  | .inspect config =>
      .ofEnding (Attest.printInspection platform config ⟨files, []⟩)

/-- What the verifying program says about itself. -/
def verifyHeading : String :=
  "TDX Provenance Verifier v" ++ versionText ++ "\n"

/-- Carry out an audit. -/
def carryOutAudit (files : FileSystem) (request : Audit.Request) : Exit :=
  match audit files request with
  | .error failure => ⟨1, "", verifyHeading, some failure.report, files⟩
  | .ok verdict =>
      let output := verdict.toNode.toText ++ "\n"
      if verdict.ok then ⟨0, output, verifyHeading, none, files⟩
      else
        ⟨1, output, verifyHeading, some Failure.mismatch.report, files⟩

/-- Run a program. -/
def Tool.run (tool : Tool) (platform : Attest.Platform)
    (environment : Environment) (arguments : List HostText)
    (files : FileSystem) : Exit :=
  match tool with
  | .attest =>
      match Invocation.ofArguments environment arguments with
      | .ok invocation => invocation.carryOut platform files
      | .error fault => .ofUsage tool files fault
  | .verify =>
      match auditRequest environment arguments with
      | .ok request => carryOutAudit files request
      | .error fault => .ofUsage tool files fault

end CommandLine
end ReportBinding
