import ReportBinding.Quote.Layout
import ReportBinding.Scenario.Basic
import ReportBinding.Text.Lines

/-!
# Sample inputs and programs

Small checkouts, a whole set of inputs, and scripts that stand in for a quote
generator and for git.  The scripts keep a log of the arguments that they are
called with.
-/

namespace ReportBinding
namespace Scenario

open Files

/-- The revision of the sample SDK. -/
def sampleRevision : String := "c0ffee1234567890abcdef1234567890abcdef12"

/-- The revision of the checkout around the sample SDK. -/
def outerRevision : String := "1111111111111111111111111111111111111111"

/-- A checkout whose head is a commit. -/
def detachedCheckout (directory : HostText) (revision : String) :
    Setup Unit := do
  let git := Path.join directory ".git"
  createDirectories git
  writeText (Path.join git "HEAD") (revision ++ "\n")

/-- A checkout whose head is a branch. -/
def branchCheckout (directory : HostText) (branch revision : String) :
    Setup Unit := do
  let git := Path.join directory ".git"
  let heads := Path.join (Path.join git "refs") "heads"
  createDirectories heads
  writeText (Path.join git "HEAD") ("ref: refs/heads/" ++ branch ++ "\n")
  writeText (Path.join heads branch) (revision ++ "\n")

/-- A checkout inside of another one, which holds its metadata. -/
def submoduleCheckout (outer : HostText) (name revision : String) :
    Setup Unit := do
  detachedCheckout outer outerRevision
  let metadata :=
    Path.join (Path.join (Path.join outer ".git") "modules") name
  createDirectories metadata
  writeText (Path.join metadata "HEAD") (revision ++ "\n")
  let checkout := Path.join outer name
  createDirectories checkout
  writeText (Path.join checkout ".git")
    ("gitdir: ../.git/modules/" ++ name ++ "\n")

/-- The bytes of the sample toolchain. -/
def sampleToolchain : Bytes :=
  [0x7F, 0x45, 0x4C, 0x46] ++
    (List.range 4096).map fun index => UInt8.ofNat (index * 31 % 256)

/-- The bytes of the sample proof. -/
def sampleProof : Bytes :=
  (List.range 2048).map fun index => UInt8.ofNat (index % 7)

/-- A toolchain, a proof and a checkout of the SDK. -/
def sampleInputs (directory : HostText) : Setup Unit := do
  let files ← get
  if !files.hasEntry directory then createDirectories directory
  let programs := Path.join directory "bin"
  createDirectories programs
  writeFile (Path.join programs "cargo-prove") sampleToolchain
  writeFile (Path.join directory "proof-with-pis.bin") sampleProof
  submoduleCheckout directory "tdx-sdk" sampleRevision

/-- The name of the log that scripts keep. -/
def logName : String := "invocations.log"

/-- The lines that a script begins with. -/
def scriptHeading (log : HostText) : String :=
  "#!/bin/sh\necho \"$@\" >> '" ++ log.display ++ "'\n"

/-- What a sample generator does. -/
inductive Behavior where
  /-- Print a quote over the report data. -/
  | printQuote
  /-- Report failure. -/
  | fail
  /-- Print an error line and report success. -/
  | printError
  /-- Copy a file and print no quote. -/
  | copy (source target : HostText)
deriving DecidableEq, Repr

/-- The digits in front of the report data of a bare quote, and behind it. -/
def quoteFrame : String × String :=
  let offset := Quote.headerLength + Quote.bodyLeadLength
  let bytes :=
    (Quote.bare 4 ⟨List.replicate ReportData.width 0, by
      simp [ReportData.width]⟩).bytes
  (Hex.encode (bytes.take offset),
    Hex.encode (bytes.drop (offset + ReportData.width)))

/-- The lines of a script that do what it is for. -/
def Behavior.lines : Behavior → String
  | .printQuote =>
      "echo \"report_data: $2\"\n" ++
        "printf 'tdx raw quote: \"%s%s%s\"\\n' '" ++ quoteFrame.1 ++
          "' \"$2\" '" ++ quoteFrame.2 ++ "'\n"
  | .fail => "echo 'failed to open /dev/tdx_guest' >&2\nexit 1\n"
  | .printError =>
      "echo '[ERROR] get_attestation_report_raw_with_options meets error: " ++
        "NotSupported'\n"
  | .copy source target =>
      "cp '" ++ source.display ++ "' '" ++ target.display ++ "'\necho done\n"

/-- The script of a sample generator.  It takes nothing but report data. -/
def generatorScript (log : HostText) (behavior : Behavior) : String :=
  scriptHeading log ++
    "[ \"$1\" = \"--report_data\" ] || \x7b echo " ++
      "\"unexpected argument $1\" >&2; exit 2; \x7d\n" ++ behavior.lines

/-- A script that stands in for a quote generator. -/
def sampleGenerator (directory : HostText) (behavior : Behavior) :
    Setup Unit := do
  createDirectories directory
  writeText (Path.join directory "tdx_quote_generation.sh")
    (generatorScript (Path.join directory logName) behavior)

/-- The script of a sample git. -/
def gitScript (log : HostText) (output : String) (status : Int) : String :=
  scriptHeading log ++
    (if output.isEmpty then "" else "echo '" ++ output ++ "'\n") ++
      (if status = 0 then ""
      else
        "echo \"fatal: ambiguous argument 'HEAD': unknown revision\" >&2\n") ++
        "exit " ++ toString status ++ "\n"

/-- A script that stands in for git, with what it prints and its status. -/
def sampleGit (directory : HostText) (output : String) (status : Int) :
    Setup Unit := do
  createDirectories directory
  writeText (Path.join directory "git.sh")
    (gitScript (Path.join directory logName) output status)

/-- The lines of the log in a directory, none if there is no log. -/
def logLines (files : FileSystem) (directory : HostText) : List String :=
  match files.readText (Path.join directory logName) with
  | .ok text => Text.lines text
  | .error _ => []

end Scenario
end ReportBinding
