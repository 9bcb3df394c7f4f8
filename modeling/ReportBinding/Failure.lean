import ReportBinding.Error

/-!
# Failures of whole runs

A command or an audit fails with an error, or because a file for its answers
cannot be read or written.  A failure tells what was attempted and what caused
it, the outermost first.
-/

namespace ReportBinding

/-- The wordings of an error and of what caused it. -/
def Error.messages (error : Error) : List String :=
  error.message ::
    match error with
    | .io _ _ fault => [fault.message]
    | _ => []

/-- Why a command or an audit fails. -/
inductive Failure where
  /-- An error by itself. -/
  | plain (error : Error)
  /-- An error that ended a binding. -/
  | bindingAborted (error : Error)
  /-- An error that ended an attestation. -/
  | attestationAborted (error : Error)
  /-- The quote cannot be written. -/
  | quoteUnwritten (path : HostText) (fault : Files.Fault)
  /-- The receipt cannot be written. -/
  | receiptUnwritten (path : HostText) (fault : Files.Fault)
  /-- The quote cannot be read. -/
  | quoteUnreadable (path : HostText) (fault : Files.Fault)
  /-- The receipt cannot be read. -/
  | receiptUnreadable (path : HostText) (fault : Files.Fault)
  /-- A digest that is given for an input is none. -/
  | invalidDigest (input : Input) (fault : FileDigest.Fault)
  /-- A revision that is given is none. -/
  | invalidRevision (fault : RevisionId.Fault)
  /-- There is no claim to compare with. -/
  | nothingToCompare
  /-- A claim is not borne out. -/
  | mismatch

namespace Failure

/-- The error at the root of a failure, if it has one. -/
def error? : Failure → Option Error
  | .plain error => some error
  | .bindingAborted error => some error
  | .attestationAborted error => some error
  | _ => none

/-- The wordings of a failure and of its causes, outermost first. -/
def messages : Failure → List String
  | .plain error => error.messages
  | .bindingAborted error => "binding aborted" :: error.messages
  | .attestationAborted error =>
      "attestation aborted, no quote produced" :: error.messages
  | .quoteUnwritten path fault =>
      ["Failed to write quote to " ++ path.display, fault.message]
  | .receiptUnwritten path fault =>
      ["Failed to write receipt to " ++ path.display, fault.message]
  | .quoteUnreadable path fault =>
      ["Failed to read quote " ++ path.display, fault.message]
  | .receiptUnreadable path fault =>
      ["Failed to read receipt " ++ path.display, fault.message]
  | .invalidDigest input fault => [input.label ++ ": " ++ fault.message]
  | .invalidRevision fault => [Input.revision.label ++ ": " ++ fault.message]
  | .nothingToCompare =>
      ["nothing to compare against: pass --quote, --receipt or --expected"]
  | .mismatch => ["report_data mismatch"]

/-- The wording of a failure on one line. -/
def message (failure : Failure) : String :=
  ": ".intercalate failure.messages

/-- A text whose lines but the first are indented. -/
def indent (margin text : String) : String :=
  ("\n" ++ margin).intercalate (text.splitOn "\n")

/-- The wording of a failure over several lines.  Its causes stand under it,
and are numbered if there are several. -/
def report (failure : Failure) : String :=
  match failure.messages with
  | [] => "Error: \n"
  | [message] => "Error: " ++ message ++ "\n"
  | [message, cause] =>
      "Error: " ++ message ++ "\n\nCaused by:\n    " ++ indent "    " cause ++
        "\n"
  | message :: causes =>
      "Error: " ++ message ++ "\n\nCaused by:\n" ++
        String.join (causes.zipIdx.map fun (cause, number) =>
          "    " ++ toString number ++ ": " ++ indent "       " cause ++ "\n")

end Failure
end ReportBinding
