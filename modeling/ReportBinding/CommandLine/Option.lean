import ReportBinding.Text.Host

/-!
# Command line options

An option is written with two dashes, and its value follows as the next
argument or behind an equals sign.  Options that are not given may be set by
the environment or by a fallback.
-/

namespace ReportBinding
namespace CommandLine

/-- How often an option may be given, and whether it has a value. -/
inductive Arity where
  /-- At most once, without a value. -/
  | flag
  /-- At most once, with a value. -/
  | single
  /-- Any number of times, with a value each. -/
  | repeated
deriving DecidableEq, Repr

/-- What the value of an option has to be. -/
inductive ValueKind where
  /-- A text, which is well-formed UTF-8. -/
  | text
  /-- A path, which is not empty. -/
  | path
deriving DecidableEq, Repr

/-- Whether a value is what it has to be. -/
def ValueKind.accepts : ValueKind → HostText → Bool
  | .text, value => value.text?.isSome
  | .path, value => !value.octets.isEmpty

/-- The rules for an option. -/
structure OptionRule where
  /-- The name, without dashes. -/
  name : String
  arity : Arity
  valueKind : ValueKind
  /-- Whether the value may begin with a dash. -/
  takesDashes : Bool
  /-- The environment variable that sets the option. -/
  variableName? : Option String
  /-- The value that the option has unless it is set. -/
  fallback? : Option String
  required : Bool
  /-- The names of options that exclude this one. -/
  conflicts : List String
deriving DecidableEq, Repr

namespace OptionRule

/-- An option that is there or not. -/
def flag (name : String) : OptionRule :=
  ⟨name, .flag, .text, false, none, none, false, []⟩

/-- An option with a path. -/
def path (name : String) : OptionRule :=
  ⟨name, .single, .path, false, none, none, false, []⟩

/-- An option with a text. -/
def text (name : String) : OptionRule :=
  ⟨name, .single, .text, false, none, none, false, []⟩

/-- The option, set by an environment variable too. -/
def orVariable (rule : OptionRule) (named : String) : OptionRule :=
  { rule with variableName? := some named }

/-- The option, with a value that it has unless it is set. -/
def orFallback (rule : OptionRule) (value : String) : OptionRule :=
  { rule with fallback? := some value }

/-- The option, which has to be set. -/
def asRequired (rule : OptionRule) : OptionRule :=
  { rule with required := true }

/-- The option, whose value may begin with a dash. -/
def withDashes (rule : OptionRule) : OptionRule :=
  { rule with takesDashes := true }

/-- The option, which may be given any number of times. -/
def asRepeated (rule : OptionRule) : OptionRule :=
  { rule with arity := .repeated }

/-- The option, which excludes another one. -/
def excluding (rule : OptionRule) (name : String) : OptionRule :=
  { rule with conflicts := name :: rule.conflicts }

end OptionRule

/-- Why a command line is not carried out. -/
inductive UsageFault where
  /-- An argument stands for nothing. -/
  | unknownArgument
  /-- A value is missing or not allowed. -/
  | invalidValue
  /-- An option is given twice, or together with one that excludes it. -/
  | argumentConflict
  /-- An option without a value has one. -/
  | tooManyValues
  /-- An option that is needed is not given. -/
  | missingRequired
  /-- No command is given. -/
  | missingCommand
  /-- The command is unknown. -/
  | unknownCommand
  /-- Help is asked for. -/
  | helpRequested
  /-- The version is asked for. -/
  | versionRequested
deriving DecidableEq, Repr

/-- The wording of a fault. -/
def UsageFault.message : UsageFault → String
  | .unknownArgument => "an argument is unknown"
  | .invalidValue => "a value is missing or not allowed"
  | .argumentConflict => "an option excludes another or is given twice"
  | .tooManyValues => "an option takes no value"
  | .missingRequired => "a required option is missing"
  | .missingCommand => "a command is missing"
  | .unknownCommand => "the command is unknown"
  | .helpRequested => "help"
  | .versionRequested => "version"

/-- The environment of a program, as pairs of variables and values. -/
abbrev Environment := List (String × HostText)

/-- The options that are set, each with its values. -/
abbrev Settings := List (String × List HostText)

namespace Settings

/-- Whether an option is set. -/
def has (settings : Settings) (name : String) : Bool :=
  settings.any fun setting => setting.1 == name

/-- The values of an option. -/
def values (settings : Settings) (name : String) : List HostText :=
  ((settings.filter fun setting => setting.1 == name).map Prod.snd).flatten

/-- The only value of an option. -/
def value? (settings : Settings) (name : String) : Option HostText :=
  (settings.values name).head?

/-- The only value of an option that is set. -/
def value (settings : Settings) (name : String) : HostText :=
  (settings.value? name).getD ""

/-- The values of an option whose values are texts. -/
def texts (settings : Settings) (name : String) : List String :=
  (settings.values name).filterMap HostText.text?

/-- The only value of an option whose value is a text. -/
def text? (settings : Settings) (name : String) : Option String :=
  (settings.texts name).head?

/-- The only value of an option that is set and whose value is a text. -/
def text (settings : Settings) (name : String) : String :=
  (settings.text? name).getD ""

end Settings
end CommandLine
end ReportBinding
