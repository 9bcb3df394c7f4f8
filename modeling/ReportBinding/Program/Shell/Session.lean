import ReportBinding.Files.Access
import ReportBinding.Program.Basic
import ReportBinding.Program.Shell.Grammar

/-!
# Shell sessions

A session is what running commands can see and change: the files, the names
that a dollar sign looks up, the status of the latest command and the bytes
written so far.
-/

namespace ReportBinding
namespace Program
namespace Shell

/-- Where a command's writing goes. -/
inductive Sink where
  /-- The standard output of the session. -/
  | output
  /-- The standard error of the session. -/
  | errors
  /-- The end of a file. -/
  | file (path : HostText)
  /-- Nowhere. -/
  | nowhere
deriving DecidableEq, Repr

/-- What a command's three streams are connected to. -/
structure Streams where
  input : Octets
  output : Sink
  errors : Sink
deriving DecidableEq, Repr

/-- The streams of a session whose own input is empty. -/
def Streams.standard : Streams := ⟨[], .output, .errors⟩

/-- A shell at work. -/
structure Session where
  files : FileSystem
  /-- How the session calls itself in its complaints. -/
  label : Octets
  /-- The name under which a script finds itself. -/
  name : Octets
  arguments : List Octets
  assigned : List (Octets × Octets)
  status : Nat
  output : Octets
  errors : Octets
  /-- Whether the session has been told to end. -/
  ended : Bool
  /-- Whether a command that fails ends the session. -/
  isStrict : Bool

namespace Session

/-- A session before its first command. -/
def start (files : FileSystem) (label name : Octets)
    (arguments : List Octets) : Session :=
  ⟨files, label, name, arguments, [], 0, [], [], false, false⟩

/-- The value of a variable, which is empty when it was never assigned. -/
def variableValue (session : Session) (name : Octets) : Octets :=
  (session.assigned.lookup name).getD []

/-- Assign a variable. -/
def assign (session : Session) (name value : Octets) : Session :=
  { session with assigned := (name, value) :: session.assigned }

/-- Set the status of the latest command. -/
def withStatus (session : Session) (status : Nat) : Session :=
  { session with status := status }

/-- End the session with a status. -/
def finish (session : Session) (status : Nat) : Session :=
  { session with status := status, ended := true }

/-- Write to a sink. -/
def write (session : Session) (sink : Sink) (octets : Octets) : Session :=
  match sink with
  | .output => { session with output := session.output ++ octets }
  | .errors => { session with errors := session.errors ++ octets }
  | .nowhere => session
  | .file path =>
      match session.files.append path octets.toBytes with
      | .ok files => { session with files := files }
      | .error _ => session

/-- Write a complaint of the shell itself about a line. -/
def complain (session : Session) (sink : Sink) (line : Nat)
    (complaint : Octets) : Session :=
  session.write sink
    (session.label ++ [':', ' '] ++ Octets.ofNat line ++ [':', ' '] ++
      complaint ++ ['\n'])

/-- The session behind commands that ran in isolation: what they have written
and done to files stays, and so does their status. -/
def isolate (before after : Session) : Session :=
  { before with
    files :=
      { after.files with workingDirectory := before.files.workingDirectory }
    status := after.status
    output := after.output
    errors := after.errors }

/-- The session behind commands whose output was caught, and that output. -/
def catchOutput (before : Session) (run : Session → Session) :
    Session × Octets :=
  let after := run { before with output := [] }
  ({ before.isolate after with output := before.output }, after.output)

/-- What the session leaves behind. -/
def outcome (session : Session) : Outcome :=
  ⟨.exited session.status, session.output.toBytes, session.errors.toBytes⟩

/-- The files that the session leaves behind, seen from the working directory
that it was started in. -/
def filesLeft (session : Session) (before : FileSystem) : FileSystem :=
  { session.files with workingDirectory := before.workingDirectory }

end Session

/-- The values of a parameter: one for all but the arguments as such. -/
def Session.values (session : Session) : Parameter → List Octets
  | .position 0 => [session.name]
  | .position (index + 1) => [(session.arguments[index]?).getD []]
  | .all => session.arguments
  | .joined => [[' '].intercalate session.arguments]
  | .count => [Octets.ofNat session.arguments.length]
  | .status => [Octets.ofNat session.status]
  | .variable name => [session.variableValue name]

/-- The fields that a word has expanded to so far: the finished ones, last
first, and the one under way if there is one. -/
structure Fields where
  finished : List Octets
  current : Option Octets

namespace Fields

/-- No field so far. -/
def empty : Fields := ⟨[], none⟩

/-- Add to the field under way, or begin one. -/
def add (fields : Fields) (octets : Octets) : Fields :=
  { fields with current := some (fields.current.getD [] ++ octets) }

/-- Finish the field under way. -/
def close (fields : Fields) : Fields :=
  match fields.current with
  | some field => ⟨field :: fields.finished, none⟩
  | none => fields

/-- Add an unquoted text, which falls into fields at its blanks. -/
def addSplit (fields : Fields) (octets : Octets) : Fields :=
  octets.foldl (fun fields octet =>
    if octet = ' ' ∨ octet = '\t' ∨ octet = '\n' then fields.close
    else fields.add [octet]) fields

/-- Add texts that begin a new field each, but for the first of them. -/
def addEach (fields : Fields) (add : Fields → Octets → Fields) :
    List Octets → Fields
  | [] => fields
  | [octets] => add fields octets
  | octets :: rest => addEach (add fields octets).close add rest

/-- All fields. -/
def toList (fields : Fields) : List Octets :=
  fields.close.finished.reverse

end Fields

/-- Octets without the line ends at their end. -/
def dropLineEnds (octets : Octets) : Octets :=
  (octets.reverse.dropWhile (· == '\n')).reverse

/-- How the scripts in words are run. -/
abbrev Substitute := Octets → Session → Session

/-- What a script in a word prints, without the line ends behind it. -/
def Session.substitute (session : Session) (substitute : Substitute)
    (script : Octets) : Session × Octets :=
  let (session, output) := session.catchOutput (substitute script)
  (session, dropLineEnds output)

/-- Add a segment to the fields of a word. -/
def addSegment (substitute : Substitute) (state : Session × Fields) :
    Segment → Session × Fields
  | .text octets _ => (state.1, state.2.add octets)
  | .expansion parameter true =>
      (state.1, state.2.addEach Fields.add (state.1.values parameter))
  | .expansion parameter false =>
      (state.1, state.2.addEach Fields.addSplit (state.1.values parameter))
  | .substitution script quoted =>
      let (session, output) := state.1.substitute substitute script
      (session,
        if quoted then state.2.add output else state.2.addSplit output)

/-- Whether a segment is nothing but a pair of quotes. -/
def isBareQuote : Segment → Bool
  | .text [] _ => true
  | _ => false

/-- The fields that a word expands to.  All arguments, of which there are
none, leave no field even between quotes. -/
def Session.expand (session : Session) (substitute : Substitute)
    (word : Word) : Session × List Octets :=
  let word :=
    if session.arguments.isEmpty && word.contains (.expansion .all true) then
      word.filter fun segment => !isBareQuote segment
    else word
  let (session, fields) :=
    word.foldl (addSegment substitute) (session, Fields.empty)
  (session, fields.toList)

/-- The fields that several words expand to. -/
def Session.expandAll (session : Session) (substitute : Substitute)
    (words : List Word) : Session × List Octets :=
  words.foldl (fun state word =>
    let (session, fields) := state.1.expand substitute word
    (session, state.2 ++ fields)) (session, [])

/-- The one text that a word expands to where no fields are made. -/
def Session.expandWhole (session : Session) (substitute : Substitute)
    (word : Word) : Session × Octets :=
  word.foldl (fun state segment =>
    match segment with
    | .text octets _ => (state.1, state.2 ++ octets)
    | .expansion parameter _ =>
        (state.1,
          state.2 ++ [' '].intercalate (state.1.values parameter))
    | .substitution script _ =>
        let (session, output) := state.1.substitute substitute script
        (session, state.2 ++ output)) (session, [])

end Shell
end Program
end ReportBinding
