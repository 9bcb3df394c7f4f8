import ReportBinding.Program.Shell.Run
import ReportBinding.Text.Blank

/-!
# The standard host

The standard host has a command shell and a few utilities under `/bin`, and
runs files that are marked as programs and name their interpreter in the first
line.  Programs whose name holds no slash are looked up under `/bin`.
-/

namespace ReportBinding
namespace Program

/-- Where the programs of the host stand. -/
def programDirectory : Location := ["bin"]

/-- The name of the shell program. -/
def shellName : String := "sh"

/-- The names of the programs that the host comes with. -/
def programNames : List String :=
  shellName :: Utility.programs.map (·.1)

/-- How a shell has been asked to run. -/
inductive ShellRequest where
  /-- Run a text. -/
  | text (script name : Octets) (arguments : List Octets)
  /-- Run a file. -/
  | file (path : Octets) (arguments : List Octets)
  /-- Do nothing. -/
  | idle
  /-- Refuse, with a complaint. -/
  | refused (complaint : Octets)
deriving DecidableEq, Repr

/-- Whether a letter is an option of the shell. -/
def isShellOption (letter : Char) : Bool :=
  "efImnsvVExCabuc".toList.contains letter

/-- What the arguments of a shell ask for.  `fromText` says whether an option
has asked for a text to be run. -/
def ShellRequest.ofArguments (shell : Octets) (fromText : Bool) :
    List Octets → ShellRequest
  | [] =>
      if fromText then .refused "-c requires an argument".toList else .idle
  | argument :: rest =>
      let finish (operands : List Octets) : ShellRequest :=
        match fromText, operands with
        | true, [] => .refused "-c requires an argument".toList
        | true, [script] => .text script shell []
        | true, script :: name :: arguments => .text script name arguments
        | false, [] => .idle
        | false, path :: arguments => .file path arguments
      match argument with
      | ['-'] => finish rest
      | ['-', '-'] => finish rest
      | '-' :: letters =>
          match letters.find? fun letter => !isShellOption letter with
          | some letter => .refused ("Illegal option -".toList ++ [letter])
          | none =>
              ShellRequest.ofArguments shell
                (fromText || letters.contains 'c') rest
      | '+' :: letters =>
          match letters.find? fun letter => !isShellOption letter with
          | some letter => .refused ("Illegal option -".toList ++ [letter])
          | none => ShellRequest.ofArguments shell fromText rest
      | _ => finish (argument :: rest)

/-- How deep scripts stand in words of scripts. -/
def substitutionDepth : Nat := 32

/-- Run the shell, under the name that it was called by. -/
def runShell (launch : Shell.Launcher) (input : Octets) (shell : Octets)
    (arguments : List Octets) (files : FileSystem) : Outcome × FileSystem :=
  let refuse (complaint : Octets) : Outcome × FileSystem :=
    (⟨.exited 2, [],
      Octets.toBytes (shell ++ ": 0: ".toList ++ complaint ++ ['\n'])⟩, files)
  let run (script label name : Octets) (arguments : List Octets) :
      Outcome × FileSystem :=
    let session := Shell.runScript launch substitutionDepth input script
      (Shell.Session.start files label name arguments)
    (session.outcome, session.filesLeft files)
  match ShellRequest.ofArguments shell false arguments with
  | .idle => (⟨.exited 0, [], []⟩, files)
  | .refused complaint => refuse complaint
  | .text script name arguments =>
      run script name name arguments
  | .file path arguments =>
      match files.read path.toHost with
      | .ok content =>
          run (Octets.ofBytes content) path path arguments
      | .error .isDirectory => (⟨.exited 0, [], []⟩, files)
      | .error fault => refuse (Shell.openingComplaint path fault)

/-- Run an installed utility, under the name that it was called by. -/
def runUtility (utility : Utility) (name : Octets) (input : Octets)
    (arguments : List Octets) (files : FileSystem) : Outcome × FileSystem :=
  let effect := utility ⟨arguments, input, files⟩
  (⟨.exited effect.status, effect.output.toBytes,
    Octets.toBytes (effect.complaints.flatMap fun complaint =>
      Utility.remark name "" ++ complaint ++ ['\n'])⟩, effect.files)

/-- The interpreter that the first line of a script names, and the argument
that it gives to it. -/
def interpreter? (content : Octets) : Option (Octets × List Octets) :=
  match Text.after? ['#', '!'] content with
  | some rest =>
      let line := (rest.takeWhile (· ≠ '\n')).dropWhile fun octet =>
        octet == ' ' || octet == '\t'
      let path := line.takeWhile fun octet => octet != ' ' && octet != '\t'
      let argument := Text.trimmed (line.drop path.length)
      if path.isEmpty then none
      else some (path, if argument.isEmpty then [] else [argument])
  | none => none

/-- The path that a program name is looked up under. -/
def programPath (name : HostText) : HostText :=
  if name.octets.contains Files.Path.slash then name
  else Files.Path.join (Files.Path.ofNames true programDirectory) name

/-- Run the program that a name stands for.  The first argument bounds the
depth to which programs run programs. -/
def launch : Nat → Shell.Launcher
  | 0 => fun _ _ _ _ => .error .tooManyLinks
  | depth + 1 => fun input name arguments files =>
      let octets := arguments.map Octets.ofHost
      if name.octets.isEmpty then .error .notFound
      else
        match files.resolve true (programPath name) with
        | .error fault => .error fault
        | .ok (.vacant _) => .error .notFound
        | .ok (.occupied location entry) =>
            match entry with
            | .file content true =>
                let program :=
                  if location.dropLast = programDirectory then
                    (location.getLast?).bind HostText.text?
                  else none
                if program = some shellName then
                  .ok (runShell (launch depth) input (Octets.ofHost name)
                    octets files)
                else match program.bind Utility.installed? with
                  | some utility =>
                      .ok (runUtility utility (Octets.ofHost name) input
                        octets files)
                  | none =>
                      match interpreter? (Octets.ofBytes content) with
                      | some (path, extra) =>
                          launch depth input
                            (Files.Path.join Files.Path.here path.toHost)
                            (extra.map Octets.toHost ++ name :: arguments)
                            files
                      | none => .error .executableFormat
            | _ => .error .permissionDenied

/-- How deep programs run programs. -/
def maximumDepth : Nat := 64

/-- Whether a text of the host holds a NUL character. -/
def holdsNul (host : HostText) : Bool :=
  host.octets.contains 0

/-- The standard host.  Programs find nothing to read on their input. -/
def standardHost : Host := fun name arguments files =>
  if holdsNul name || arguments.any holdsNul then .error .nulInArgument
  else launch maximumDepth [] name arguments files

/-- The files that the host comes with: its programs, a file that cannot be
read, and a file to write nowhere; and an empty working directory. -/
def standardFiles : FileSystem :=
  let workingDirectory : Location := ["tmp", "work"]
  let directories : List Location :=
    [["bin"], ["dev"], ["proc"], ["proc", "self"], ["tmp"], workingDirectory]
  let files := directories.foldl (fun files location =>
    files.put location .directory) FileSystem.empty
  let files := programNames.foldl (fun files name =>
    files.put (programDirectory ++ [.ofText name]) (.file [] true)) files
  { (files.put ["proc", "self", "mem"] (.damaged [])).put ["dev", "null"]
      (.file [] false) with workingDirectory := workingDirectory }

end Program
end ReportBinding
