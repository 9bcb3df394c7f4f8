import ReportBinding.Program.Shell.Session
import ReportBinding.Program.Utility.Catalogue

/-!
# Running commands

Commands run against a session.  Words are expanded, streams are redirected,
and a name is looked up among the shell's own commands first, then among its
utilities, and last among the programs of the host.
-/

namespace ReportBinding
namespace Program
namespace Shell

/-- How a program is started with bytes to read. -/
abbrev Launcher :=
  Octets → HostText → List HostText → FileSystem →
    Except Files.Fault (Outcome × FileSystem)

/-- Where writing to a file of the host itself goes. -/
def hostSink? (streams : Streams) : String → Option Sink
  | "/dev/null" => some .nowhere
  | "/dev/stdout" => some streams.output
  | "/dev/stderr" => some streams.errors
  | _ => none

/-- The complaint about a file that cannot be created. -/
def creationComplaint (target : Octets) (fault : Files.Fault) : Octets :=
  let wording := match fault with
    | .notFound => "Directory nonexistent"
    | .notDirectory => "Directory nonexistent"
    | fault => fault.wording
  Utility.remark ("cannot create ".toList ++ target) wording

/-- The complaint about a file that cannot be opened. -/
def openingComplaint (target : Octets) (fault : Files.Fault) : Octets :=
  let wording := match fault with
    | .notFound => "No such file"
    | .notDirectory => "No such file"
    | fault => fault.wording
  Utility.remark ("cannot open ".toList ++ target) wording

/-- Connect a stream that is written to. -/
def Streams.connect (streams : Streams) (stream : Nat) (sink : Sink) :
    Streams :=
  match stream with
  | 1 => { streams with output := sink }
  | 2 => { streams with errors := sink }
  | _ => streams

/-- Redirect one stream to a target, or complain. -/
def redirect (session : Session) (streams : Streams) (stream : Nat)
    (direction : Direction) (target : Octets) :
    Except Octets (Session × Streams) :=
  let path := target.toHost
  let toFile (opened : Except Files.Fault FileSystem) :=
    match hostSink? streams target.toText, opened with
    | some sink, _ => .ok (session, streams.connect stream sink)
    | none, .ok files =>
        .ok ({ session with files := files },
          streams.connect stream (.file path))
    | none, .error fault => .error (creationComplaint target fault)
  match direction with
  | .create => toFile (session.files.write path [])
  | .append => toFile (session.files.append path [])
  | .source =>
      match session.files.read path with
        | .ok content =>
            .ok (session, { streams with input := Octets.ofBytes content })
        | .error .isDirectory => .ok (session, { streams with input := [] })
        | .error fault => .error (openingComplaint target fault)
  | .duplicate =>
      match target with
      | ['1'] => .ok (session, streams.connect stream streams.output)
      | ['2'] => .ok (session, streams.connect stream streams.errors)
      | ['-'] => .ok (session, streams.connect stream .nowhere)
      | _ => .error (target ++ ": bad fd number".toList)

/-- Redirect several streams, one after the other. -/
def redirectAll (substitute : Substitute) (streams : Streams) :
    List Redirection → Session → Except (Session × Octets) (Session × Streams)
  | [], session => .ok (session, streams)
  | ⟨stream, direction, word⟩ :: rest, session =>
      let (session, target) := session.expandWhole substitute word
      match redirect session streams stream direction target with
      | .ok (session, streams) => redirectAll substitute streams rest session
      | .error complaint => .error (session, complaint)

/-- Put the effect of a utility into the session. -/
def Session.absorb (session : Session) (streams : Streams)
    (complain : Session → Octets → Session) (effect : Effect) : Session :=
  let session := { session with files := effect.files }
  let session := effect.complaints.foldl complain session
  (session.write streams.output effect.output).withStatus effect.status

/-- Run a program of the host.  `caller` stands before its name in
complaints. -/
def runProgram (launch : Launcher) (session : Session) (streams : Streams)
    (line : Nat) (caller name : Octets) (arguments : List Octets) : Session :=
  let refuse (wording : String) (status : Nat) :=
    (session.complain streams.errors line
      (Utility.remark (caller ++ name) wording)).withStatus status
  let texts := arguments.map Octets.toHost
  let started :=
    match launch streams.input name.toHost texts session.files with
    | .error .executableFormat =>
        launch streams.input "/bin/sh" (name.toHost :: texts) session.files
    | started => started
  match started with
  | .ok (outcome, files) =>
      (({ session with files := files }.write streams.output
        (Octets.ofBytes outcome.output)).write streams.errors
          (Octets.ofBytes outcome.errors)).withStatus outcome.status.number
  | .error .permissionDenied => refuse "Permission denied" 126
  | .error .notFound =>
      if name.isEmpty then refuse "Permission denied" 127
      else refuse "not found" 127
  | .error .notDirectory => refuse "not found" 127
  | .error fault => refuse fault.wording 126

/-- A status that a script may give, which fits into 31 bits. -/
def givenStatus? (octets : Octets) : Option Nat :=
  (Octets.number? octets).bind fun status =>
    if status < 0x80000000 then some (status % 256) else none

/-- The commands that belong to the shell itself. -/
inductive Special where
  | colon
  | exit
  | shift
  | set
  | unset
  | export
  | directory
  | replacement
deriving DecidableEq, Repr

/-- The command with a name that belongs to the shell itself. -/
def special (name : Octets) : Option Special :=
  match name.toText with
  | ":" => some .colon
  | "exit" => some .exit
  | "return" => some .exit
  | "shift" => some .shift
  | "set" => some .set
  | "unset" => some .unset
  | "export" => some .export
  | "cd" => some .directory
  | "exec" => some .replacement
  | _ => none

/-- End a session with the status that its first argument gives. -/
def runExit (session : Session) (streams : Streams) (line : Nat)
    (arguments : List Octets) : Session :=
  match arguments with
  | [] => session.finish session.status
  | status :: _ =>
      match givenStatus? status with
      | some status => session.finish status
      | none =>
          (session.complain streams.errors line
            ("exit: Illegal number: ".toList ++ status)).finish 2

/-- Drop arguments. -/
def runShift (session : Session) (streams : Streams) (line : Nat)
    (arguments : List Octets) : Session :=
  let count := (arguments.head?.bind Octets.number?).getD 1
  if session.arguments.length < count then
    (session.complain streams.errors line
      "shift: can\x27t shift that many".toList).finish 2
  else
    { session with
      arguments := session.arguments.drop count
      status := 0 }

/-- Assign the variables that arguments spell. -/
def runExport (session : Session) (arguments : List Octets) : Session :=
  (arguments.foldl (fun session argument =>
    match argument.dropWhile (· ≠ '=') with
    | '=' :: value => session.assign (argument.takeWhile (· ≠ '=')) value
    | _ => session) session).withStatus 0

/-- Go to another working directory. -/
def runDirectory (session : Session) (streams : Streams) (line : Nat)
    (arguments : List Octets) : Session :=
  let target := arguments.headD ['/']
  match session.files.resolve true target.toHost with
  | .ok (.occupied location .directory) =>
      { session with
        files := { session.files with workingDirectory := location }
        status := 0 }
  | _ =>
      (session.complain streams.errors line
        ("cd: can\x27t cd to ".toList ++ target)).withStatus 2

/-- Run a program in place of the session. -/
def runReplacement (launch : Launcher) (session : Session) (streams : Streams)
    (line : Nat) : List Octets → Session
  | [] => session.withStatus 0
  | name :: arguments =>
      let session :=
        runProgram launch session streams line "exec: ".toList name arguments
      session.finish session.status

/-- Run a command that belongs to the shell itself. -/
def runSpecial (launch : Launcher) (session : Session) (streams : Streams)
    (line : Nat) (arguments : List Octets) : Special → Session
  | .colon => session.withStatus 0
  | .exit => runExit session streams line arguments
  | .shift => runShift session streams line arguments
  | .set =>
      { session with
        isStrict := session.isStrict || arguments.any fun argument =>
          argument.head? == some '-' && argument.contains 'e'
        status := 0 }
  | .unset =>
      (arguments.foldl (·.assign · []) session).withStatus 0
  | .export => runExport session arguments
  | .replacement => runReplacement launch session streams line arguments
  | .directory => runDirectory session streams line arguments

/-- Run the words of a simple command whose streams are connected. -/
def runWords (launch : Launcher) (session : Session) (streams : Streams)
    (line : Nat) : List Octets → Session
  | [] => session
  | name :: arguments =>
      match special name with
      | some special =>
          runSpecial launch session streams line arguments special
      | none =>
          let spelled := name.toText
          match Utility.builtin? spelled with
          | some utility =>
              session.absorb streams (fun session complaint =>
                session.complain streams.errors line
                  (Utility.remark name "" ++ complaint))
                (utility ⟨arguments, streams.input, session.files⟩)
          | none => runProgram launch session streams line [] name arguments

/-- Whether a redirection that fails ends the session for a command. -/
def endsSession (words : List Octets) : Bool :=
  match words with
  | [] => false
  | name :: _ => (special name).isSome && special name != some .directory

/-- Assign variables one after the other. -/
def assignAll (substitute : Substitute) (session : Session)
    (assignments : List (Octets × Word)) : Session :=
  assignments.foldl (fun session (name, word) =>
    let (session, value) := session.expandWhole substitute word
    session.assign name value) session

/-- End a strict session whose command has failed, unless the failure is
tolerated. -/
def Session.settle (session : Session) (isTolerant : Bool) : Session :=
  if session.isStrict && !isTolerant && session.status != 0 then
    session.finish session.status
  else session

/-- Run with streams redirected. -/
def redirected (substitute : Substitute) (redirections : List Redirection)
    (line : Nat) (streams : Streams) (session : Session)
    (run : Streams → Session → Session) : Session :=
  match redirectAll substitute streams redirections session with
  | .ok (session, streams) => run streams session
  | .error (session, complaint) =>
      (session.complain streams.errors line complaint).withStatus 2

/-- Run a command.  `isTolerant` says that its failure is provided for. -/
def run (launch : Launcher) (substitute : Substitute) :
    Command → Bool → Streams → Session → Session
  | .simple assignments words redirections line, isTolerant, streams, session =>
      if session.ended then session
      else
        let (session, fields) := session.expandAll substitute words
        let session :=
          if fields.isEmpty then
            assignAll substitute (session.withStatus 0) assignments
          else session
        let session :=
          match redirectAll substitute streams redirections session with
          | .ok (session, streams) =>
              runWords launch session streams line fields
          | .error (session, complaint) =>
              let session := session.complain streams.errors line complaint
              if endsSession fields then session.finish 2
              else session.withStatus 2
        session.settle isTolerant
  | .group body redirections line, isTolerant, streams, session =>
      if session.ended then session
      else
        redirected substitute redirections line streams session
          (run launch substitute body isTolerant)
  | .isolated body redirections line, isTolerant, streams, session =>
      if session.ended then session
      else
        (redirected substitute redirections line streams session
          fun streams session => session.isolate
            (run launch substitute body isTolerant streams session)).settle
          isTolerant
  | .sequence first second, isTolerant, streams, session =>
      run launch substitute second isTolerant streams
        (run launch substitute first isTolerant streams session)
  | .both first second, isTolerant, streams, session =>
      let session := run launch substitute first true streams session
      if session.status = 0 then
        run launch substitute second isTolerant streams session
      else session
  | .either first second, isTolerant, streams, session =>
      let session := run launch substitute first true streams session
      if session.status = 0 then session
      else run launch substitute second isTolerant streams session
  | .pipe first second, isTolerant, streams, session =>
      if session.ended then session
      else
        let (session, output) := session.catchOutput
          (run launch substitute first true { streams with output := .output })
        (session.isolate (run launch substitute second true
          { streams with input := output } session)).settle isTolerant
  | .negated body, _, streams, session =>
      let session := run launch substitute body true streams session
      if session.ended then session
      else session.withStatus (if session.status = 0 then 1 else 0)
  | .choice condition yes no, isTolerant, streams, session =>
      let session := run launch substitute condition true streams session
      if session.status = 0 then
        run launch substitute yes isTolerant streams session
      else run launch substitute no isTolerant streams session
  | .repetition name words body, isTolerant, streams, session =>
      if session.ended then session
      else
        let (session, fields) := session.expandAll substitute words
        fields.foldl (fun session field =>
          run launch substitute body isTolerant streams
            (session.assign name field)) (session.withStatus 0)
  | .nothing, _, _, session =>
      if session.ended then session else session.withStatus 0

/-- Run a source line by line.  The first argument bounds the number of
lines. -/
def runLines (launch : Launcher) (substitute : Substitute)
    (streams : Streams) : Nat → Source → Session → Session
  | 0, _, session => session
  | fuel + 1, source, session =>
      if session.ended then session
      else match readLine? source with
        | none => session
        | some (.error fault) =>
            (session.complain streams.errors fault.line
              ("Syntax error: " ++ fault.complaint).toList).finish 2
        | some (.ok (command, rest)) =>
            runLines launch substitute streams fuel rest
              (run launch substitute command false streams session)

/-- Run a script from its beginning to its end.  The first argument bounds the
depth of scripts in words. -/
def runScript (launch : Launcher) :
    Nat → Octets → Octets → Session → Session
  | 0, _, _, session => session
  | depth + 1, input, script, session =>
      let source := Source.ofScript script
      runLines launch (runScript launch depth [])
        { Streams.standard with input := input }
        (source.tokens.length + 1) source session

end Shell
end Program
end ReportBinding
