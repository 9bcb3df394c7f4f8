import ReportBinding.Error
import ReportBinding.Files.Access
import ReportBinding.Program.Basic
import ReportBinding.Text.Ending

/-!
# Quote generators

A generator makes a quote over report data.  The usual one is a program that is
given the report data as an argument, and prints the quote or leaves it in a
file.
-/

namespace ReportBinding

/-- A way to obtain quotes.  It may change files. -/
structure Generator where
  name : String
  generate : FileSystem → ReportData → Except Error Quote × FileSystem

namespace Generator

/-- Where a program leaves its quote. -/
inductive Sink where
  /-- Among the lines that it prints. -/
  | transcript
  /-- In a file. -/
  | file (path : HostText)
deriving DecidableEq, Repr

/-- The argument that announces report data unless another one is given. -/
def standardReportDataArgument : String := "--report_data"

/-- A program that makes quotes, and how it is called. -/
structure Command where
  program : HostText
  /-- What stands in front of the report data. -/
  arguments : List String
  /-- The argument that announces the report data. -/
  reportDataArgument : String
  sink : Sink
deriving DecidableEq, Repr

namespace Command

/-- The arguments that ask for a quote over report data. -/
def request (command : Command) (reportData : ReportData) : List HostText :=
  (command.arguments ++ [command.reportDataArgument, reportData.toHex]).map
    HostText.ofText

/-- Remove the quote of an earlier run. -/
def clear (command : Command) (files : FileSystem) :
    Except Fault FileSystem :=
  match command.sink with
  | .transcript => .ok files
  | .file path =>
      match files.remove path with
      | .ok files => .ok files
      | .error .notFound => .ok files
      | .error fault => .error (.staleFile path fault)

/-- The quote that a finished program has left behind. -/
def collect (command : Command) (files : FileSystem)
    (outcome : Program.Outcome) : Except Fault Quote :=
  if !outcome.succeeded then
    .error (.exited outcome.statusText
      (Text.ending (Text.Utf8.lossy outcome.errors)))
  else
    let transcript := Text.Utf8.lossy outcome.output
    match command.sink with
    | .transcript =>
        match Transcript.parse transcript with
        | .ok bytes => .ok ⟨bytes⟩
        | .error fault => .error (.transcript fault)
    | .file path =>
        match Transcript.errorLine? transcript with
        | some line => .error (.transcript (.errorLine line))
        | none =>
            match files.read path with
            | .error fault => .error (.noFile path fault)
            | .ok [] => .error (.emptyFile path)
            | .ok bytes => .ok ⟨bytes⟩

/-- A result of the program, with its name put to a failure. -/
def blame (command : Command) (result : Except Fault Quote) :
    Except Error Quote :=
  match result with
  | .ok quote => .ok quote
  | .error fault => .error (.generatorFailed command.program.display fault)

/-- Ask the program for a quote. -/
def generate (host : Program.Host) (command : Command) (files : FileSystem)
    (reportData : ReportData) : Except Error Quote × FileSystem :=
  match command.clear files with
  | .error fault => (command.blame (.error fault), files)
  | .ok files =>
      match host command.program (command.request reportData) files with
      | .error fault => (command.blame (.error (.notStarted fault)), files)
      | .ok (outcome, files) =>
          (command.blame (command.collect files outcome), files)

/-- The program as a generator. -/
def generator (host : Program.Host) (command : Command) : Generator :=
  ⟨command.program.display, command.generate host⟩

end Command
end Generator
end ReportBinding
