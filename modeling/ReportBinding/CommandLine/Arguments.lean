import ReportBinding.CommandLine.Option

/-!
# Reading arguments

Arguments are read from left to right.  An option whose value is the next
argument is settled when the one after it is looked at, so that an argument
that stands for nothing counts before a bad value right in front of it.
-/

namespace ReportBinding
namespace CommandLine

/-- What an argument looks like. -/
inductive Argument where
  /-- Two dashes alone. -/
  | separator
  /-- Two dashes and a name, perhaps with a value behind an equals sign. -/
  | long (name : HostText) (value? : Option HostText)
  /-- One dash and letters. -/
  | short (letter : UInt8)
  /-- Anything else. -/
  | plain
deriving DecidableEq, Repr

/-- The byte that options begin with. -/
def dash : UInt8 := 0x2D

/-- The byte between an option and its value. -/
def equalsSign : UInt8 := 0x3D

/-- The parts of an argument before and behind its first equals sign. -/
def splitAtEquals : Bytes → Bytes × Option Bytes
  | [] => ([], none)
  | octet :: rest =>
      if octet = equalsSign then ([], some rest)
      else
        let (name, value?) := splitAtEquals rest
        (octet :: name, value?)

/-- What an argument looks like. -/
def Argument.ofHost (argument : HostText) : Argument :=
  match argument.octets with
  | first :: second :: rest =>
      if first ≠ dash then .plain
      else if second ≠ dash then .short second
      else if rest.isEmpty then .separator
      else
        let (name, value?) := splitAtEquals rest
        .long ⟨name⟩ (value?.map HostText.mk)
  | _ => .plain

/-- Whether options are asked about with a version too. -/
structure Dialect where
  rules : List OptionRule
  hasVersion : Bool

/-- The reading of arguments, as far as it has come. -/
structure Reading where
  settings : Settings
  /-- The option to be settled next, and its values. -/
  pending : Option (OptionRule × List HostText)
  /-- Whether the pending option waits for its value. -/
  isWaiting : Bool

namespace Reading

/-- Nothing has been read. -/
def start : Reading := ⟨[], none, false⟩

/-- Set an option. -/
def set (settings : Settings) (rule : OptionRule) (values : List HostText) :
    Except UsageFault Settings :=
  if rule.arity ≠ .flag ∧ values.length ≠ 1 then .error .invalidValue
  else if rule.arity ≠ .repeated ∧ settings.has rule.name then
    .error .argumentConflict
  else if !values.all rule.valueKind.accepts then
    .error .invalidValue
  else .ok (settings ++ [(rule.name, values)])

/-- Settle the pending option. -/
def settle (reading : Reading) : Except UsageFault Settings :=
  match reading.pending with
  | none => .ok reading.settings
  | some (rule, values) => set reading.settings rule values

/-- Take a value for the pending option. -/
def takeValue (reading : Reading) (value : HostText) : Reading :=
  { reading with
    pending := reading.pending.map fun (rule, values) =>
      (rule, values ++ [value])
    isWaiting := false }

/-- Settle the pending option and set another one. -/
def settleAndSet (reading : Reading) (rule : OptionRule)
    (values : List HostText) : Except UsageFault Reading := do
  let settings ← reading.settle
  let settings ← set settings rule values
  .ok ⟨settings, none, false⟩

/-- Settle the pending option and end with a fault. -/
def settleAndStop (reading : Reading) (fault : UsageFault) :
    Except UsageFault Reading :=
  match reading.settle with
  | .ok _ => .error fault
  | .error earlier => .error earlier

/-- Take a long option. -/
def takeLong (dialect : Dialect) (reading : Reading) (name : HostText)
    (value? : Option HostText) : Except UsageFault Reading :=
  match dialect.rules.find? fun rule => .ofText rule.name == name with
  | some rule =>
      match rule.arity, value? with
      | .flag, none => reading.settleAndSet rule []
      | .flag, some _ => .error .tooManyValues
      | _, some value => reading.settleAndSet rule [value]
      | _, none => do
          let settings ← reading.settle
          .ok ⟨settings, some (rule, []), true⟩
  | none =>
      if name = "help" ∨ (name = "version" ∧ dialect.hasVersion) then
        if value?.isSome then .error .tooManyValues
        else
          reading.settleAndStop
            (if name = "help" then .helpRequested else .versionRequested)
      else .error .unknownArgument

/-- The letter that asks for help. -/
def helpLetter : UInt8 := 0x68

/-- The letter that asks for the version. -/
def versionLetter : UInt8 := 0x56

/-- Take a short option. -/
def takeShort (dialect : Dialect) (reading : Reading) (letter : UInt8) :
    Except UsageFault Reading :=
  if letter = helpLetter then reading.settleAndStop .helpRequested
  else if letter = versionLetter ∧ dialect.hasVersion then
    reading.settleAndStop .versionRequested
  else .error .unknownArgument

/-- Whether the pending option takes any argument as its value. -/
def takesAnything (reading : Reading) : Bool :=
  reading.isWaiting &&
    match reading.pending with
    | some (rule, _) => rule.takesDashes
    | none => false

/-- Take arguments up to two dashes alone, behind which none may follow. -/
def takeAll (dialect : Dialect) (reading : Reading) :
    List HostText → Except UsageFault Settings
  | [] => reading.settle
  | argument :: rest =>
      if reading.takesAnything then
        takeAll dialect (reading.takeValue argument) rest
      else match Argument.ofHost argument with
        | .separator =>
            if rest.isEmpty then reading.settle else .error .unknownArgument
        | .long name value? => do
            let reading ← reading.takeLong dialect name value?
            takeAll dialect reading rest
        | .short letter => do
            let reading ← reading.takeShort dialect letter
            takeAll dialect reading rest
        | .plain =>
            if reading.isWaiting then
              takeAll dialect (reading.takeValue argument) rest
            else .error .unknownArgument

end Reading

/-- Set options that are not set by the environment. -/
def applyEnvironment (environment : Environment) :
    List OptionRule → Settings → Except UsageFault Settings
  | [], settings => .ok settings
  | rule :: rules, settings =>
      match rule.variableName?.bind fun named => environment.lookup named with
      | some value =>
          if settings.has rule.name then
            applyEnvironment environment rules settings
          else do
            let settings ← Reading.set settings rule [value]
            applyEnvironment environment rules settings
      | none => applyEnvironment environment rules settings

/-- Refuse settings that exclude each other, and then such that lack
something. -/
def validate (rules : List OptionRule) (settings : Settings) :
    Except UsageFault Unit :=
  if rules.any fun rule =>
      settings.has rule.name && rule.conflicts.any settings.has then
    .error .argumentConflict
  else if rules.any fun rule => rule.required && !settings.has rule.name then
    .error .missingRequired
  else .ok ()

/-- Set options that are still not set to their fallbacks. -/
def applyFallbacks (rules : List OptionRule) (settings : Settings) :
    Settings :=
  settings ++ rules.filterMap fun rule =>
    if settings.has rule.name then none
    else rule.fallback?.map fun value =>
      (rule.name, [.ofText value])

/-- The settings that arguments and the environment make. -/
def readArguments (dialect : Dialect) (environment : Environment)
    (arguments : List HostText) : Except UsageFault Settings := do
  let settings ← Reading.start.takeAll dialect arguments
  let settings ← applyEnvironment environment dialect.rules settings
  validate dialect.rules settings
  .ok (applyFallbacks dialect.rules settings)

end CommandLine
end ReportBinding
