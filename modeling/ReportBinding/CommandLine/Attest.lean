import ReportBinding.Attest.Inspect
import ReportBinding.CommandLine.Arguments

/-!
# The command line of the attesting program

The program has three commands.  All of them take the options for the inputs,
and attesting takes those for the generator and its outputs too.
-/

namespace ReportBinding
namespace CommandLine

open Attest

/-- The options for the inputs. -/
def inputRules : List OptionRule :=
  [((OptionRule.path "toolchain").orVariable "TDX_TOOLCHAIN").asRequired,
    ((OptionRule.path "proof").orVariable "TDX_PROOF").asRequired,
    ((OptionRule.path "sdk-dir").orVariable "TDX_SDK_DIR").asRequired,
    .flag "sequential",
    (OptionRule.text "git").orVariable "TDX_GIT"]

/-- The options for the generator. -/
def generatorRules : List OptionRule :=
  [((OptionRule.path "generator").orVariable
      "TDX_QUOTE_GENERATOR").orFallback standardGenerator,
    (OptionRule.text "generator-arg").withDashes.asRepeated,
    (OptionRule.text "report-data-arg").withDashes.orFallback
      Generator.standardReportDataArgument,
    (OptionRule.path "quote-file").orVariable "TDX_QUOTE_FILE"]

/-- The configuration that the options for the inputs make. -/
def inputConfig (settings : Settings) : Config :=
  { Config.standard with
    inputs :=
      ⟨settings.value "toolchain", settings.value "proof",
        settings.value "sdk-dir"⟩
    mode := if settings.has "sequential" then .sequential else .concurrent
    revisionSource :=
      match settings.text? "git" with
      | some name => .program name
      | none => .metadata }

/-- The configuration with the options for the generator put in. -/
def withGenerator (config : Config) (settings : Settings) : Config :=
  { config with
    generator := settings.value "generator"
    generatorArguments := settings.texts "generator-arg"
    reportDataArgument := settings.text "report-data-arg"
    sink :=
      match settings.value? "quote-file" with
      | some path => .file path
      | none => .transcript }

/-- The options for inputs and generator, without a command. -/
def configDialect : Dialect := ⟨inputRules ++ generatorRules, false⟩

/-- The options of the command that attests. -/
def attestDialect : Dialect :=
  ⟨inputRules ++ generatorRules ++
    [.path "quote-out", .path "receipt-out"], false⟩

/-- The options of the command that binds. -/
def bindDialect : Dialect :=
  ⟨inputRules ++ [.flag "show-preimage", .flag "json"], false⟩

/-- The options of the command that inspects. -/
def inspectDialect : Dialect := ⟨inputRules, false⟩

/-- What the program is asked to do. -/
inductive Invocation where
  | attest (config : Config) (quoteOut receiptOut : Option HostText)
  | bind (config : Config) (options : BindOptions)
  | inspect (config : Config)
deriving DecidableEq, Repr

/-- The names of the commands. -/
def commandNames : List String := ["attest", "bind", "inspect"]

/-- The fault of a request for help on commands. -/
def helpFault : List HostText → UsageFault
  | [] => .helpRequested
  | name :: rest =>
      if (("help" :: commandNames).map HostText.ofText).contains name then
        if rest.isEmpty then .helpRequested else .unknownCommand
      else .unknownCommand

/-- What a command asks for, with its arguments. -/
def Invocation.ofCommand (environment : Environment)
    (arguments : List HostText) : String → Except UsageFault Invocation
  | "attest" => do
      let settings ← readArguments attestDialect environment arguments
      .ok (.attest (withGenerator (inputConfig settings) settings)
        (settings.value? "quote-out") (settings.value? "receipt-out"))
  | "bind" => do
      let settings ← readArguments bindDialect environment arguments
      .ok (.bind (inputConfig settings)
        ⟨settings.has "show-preimage", settings.has "json"⟩)
  | "inspect" => do
      let settings ← readArguments inspectDialect environment arguments
      .ok (.inspect (inputConfig settings))
  | "help" => .error (helpFault arguments)
  | _ => .error .unknownCommand

/-- What a command line asks for. -/
def Invocation.ofArguments (environment : Environment) :
    List HostText → Except UsageFault Invocation
  | [] => .error .missingCommand
  | argument :: rest =>
      match Argument.ofHost argument with
      | .plain =>
          match argument.text? with
          | some name => Invocation.ofCommand environment rest name
          | none => .error .unknownCommand
      | .long name value? =>
          .error (if name ≠ "help" then .unknownArgument
            else if value?.isSome then .tooManyValues else .helpRequested)
      | .short letter =>
          .error (if letter = Reading.helpLetter then .helpRequested
            else .unknownArgument)
      | .separator =>
          .error (if rest.isEmpty then .missingCommand else .unknownArgument)

end CommandLine
end ReportBinding
