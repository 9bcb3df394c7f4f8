import ReportBinding.Audit
import ReportBinding.CommandLine.Arguments

/-!
# The command line of the verifying program

Each input is given by a path or by its value, but not by both.
-/

namespace ReportBinding
namespace CommandLine

/-- The options of the verifying program. -/
def verifyDialect : Dialect :=
  ⟨[(OptionRule.path "toolchain").excluding "toolchain-digest",
    .text "toolchain-digest",
    (OptionRule.path "proof").excluding "proof-digest",
    .text "proof-digest",
    (OptionRule.path "sdk-dir").excluding "revision",
    .text "revision",
    .path "quote",
    .path "receipt",
    .text "expected"], true⟩

/-- What a command line asks to verify. -/
def auditRequest (environment : Environment) (arguments : List HostText) :
    Except UsageFault Audit.Request := do
  let settings ← readArguments verifyDialect environment arguments
  .ok
    { toolchain :=
        ⟨settings.value? "toolchain", settings.text? "toolchain-digest"⟩
      proof := ⟨settings.value? "proof", settings.text? "proof-digest"⟩
      sdk := ⟨settings.value? "sdk-dir", settings.text? "revision"⟩
      quote := settings.value? "quote"
      receipt := settings.value? "receipt"
      expected := settings.text? "expected" }

end CommandLine
end ReportBinding
