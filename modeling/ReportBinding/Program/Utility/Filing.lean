import ReportBinding.Program.Utility.Basic

/-!
# Utilities that change files

These utilities copy, move, link, create and remove files and directories.
-/

namespace ReportBinding
namespace Program
namespace Utility

/-- The path that a source ends up under: the target, or its own name inside a
target that is a directory. -/
def destination (files : FileSystem) (source target : Octets) :
    HostText :=
  let target := target.toHost
  if files.isDirectory target then
    Files.Path.join target ((Files.Path.lastName? source.toHost).getD "")
  else target

/-- The complaint that a file would be put over itself. -/
def sameFile (source : Octets) (path : HostText) : Octets :=
  quoted source ++ " and ".toList ++ quoted (Octets.ofHost path) ++
    " are the same file".toList

/-- Whether two paths lead to one location. -/
def leadsTogether (files : FileSystem) (first second : HostText) : Bool :=
  match files.resolve true first, files.resolve true second with
  | .ok (.occupied location _), .ok (.occupied other _) => location == other
  | _, _ => false

/-- Copy one file over another, or into a directory. -/
def copy (target : Octets) (files : FileSystem) (source : Octets) :
    Except Octets FileSystem :=
  match files.find source.toHost with
  | .error fault => .error (inability "cannot stat" source fault)
  | .ok .directory =>
      .error ("-r not specified; omitting directory ".toList ++ quoted source)
  | .ok (.damaged _) =>
      .error (inability "error reading" source .inputOutput)
  | .ok .sealed =>
      .error (remark
        ("cannot open ".toList ++ quoted source ++ " for reading".toList)
        Files.Fault.permissionDenied.wording)
  | .ok (.link _) => .error (inability "cannot stat" source .notFound)
  | .ok (.file content executable) =>
      let path := destination files source target
      if leadsTogether files source.toHost path then
        .error (sameFile source path)
      else
        let refusal (fault : Files.Fault) : Octets :=
          inability "cannot create regular file" (Octets.ofHost path)
            (if fault = .isDirectory then .notDirectory else fault)
        let existed := files.hasEntry path
        match files.write path content with
        | .error fault => .error (refusal fault)
        | .ok written =>
            if executable && !existed then
              (written.markExecutable path).mapError refusal
            else .ok written

/-- Move one file over another, or a file or directory to another place. -/
def move (target : Octets) (files : FileSystem) (source : Octets) :
    Except Octets FileSystem :=
  let path := destination files source target
  let refusal (fault : Files.Fault) : Octets :=
    remark ("cannot move ".toList ++ quoted source ++ " to ".toList ++
      quoted (Octets.ofHost path)) fault.wording
  match files.findNamed source.toHost, files.findNamed path with
  | .error fault, _ => .error (inability "cannot stat" source fault)
  | .ok (.vacant _), _ => .error (inability "cannot stat" source .notFound)
  | .ok (.occupied _ _), .error fault => .error (refusal fault)
  | .ok (.occupied location entry), .ok (.vacant place) =>
      if location.isPrefixOf place then
        .error ("cannot move ".toList ++ quoted source ++
          " to a subdirectory of itself, ".toList ++
          quoted (Octets.ofHost path))
      else if Files.Path.endsInSlash path && entry != .directory then
        .error (refusal .notDirectory)
      else .ok (files.moveTree location place)
  | .ok (.occupied location entry), .ok (.occupied place present) =>
      if location = place then .error (sameFile source path)
      else if present = .directory then
        .error (refusal .directoryNotEmpty)
      else if entry = .directory then
        .error ("cannot overwrite non-directory ".toList ++
          quoted (Octets.ofHost path) ++ " with directory ".toList ++
          quoted source)
      else .ok (files.moveTree location place)

/-- Bring sources to a target with a way to bring one of them there. -/
def bring (name : String)
    (work : Octets → FileSystem → Octets → Except Octets FileSystem) :
    Utility := fun call =>
  match (operands call).reverse with
  | [] => misused name "missing file operand".toList call
  | [operand] =>
      misused name
        ("missing destination file operand after ".toList ++ quoted operand)
        call
  | target :: [source] => eachChange (work target) [source] call.files
  | target :: sources =>
      match call.files.find target.toHost with
      | .ok .directory =>
          eachChange (work target) sources.reverse call.files
      | .ok _ => failing 1 (inability "target" target .notDirectory) call
      | .error fault => failing 1 (inability "target" target fault) call

/-- Copy files. -/
def cp : Utility := bring "cp" copy

/-- Move files and directories. -/
def mv : Utility := bring "mv" move

/-- Create links: symbolic ones, or else second copies. -/
def ln : Utility := fun call =>
  let isSymbolic := hasLetter call 's'
  let isForced := hasLetter call 'f'
  let link (source target : Octets) : Effect :=
    eachChange (fun files source =>
      let path := destination files source target
      let files :=
        if isForced then (files.remove path).toOption.getD files else files
      if isSymbolic then
        (files.createLink source.toHost path).mapError
          (inability "failed to create symbolic link" (Octets.ofHost path))
      else match files.findNamed source.toHost with
        | .ok (.occupied _ .directory) =>
            .error (source ++ ": hard link not allowed for directory".toList)
        | .ok (.occupied _ entry) =>
            (files.createEntry path entry).mapError
              (inability "failed to create hard link" (Octets.ofHost path))
        | .ok (.vacant _) =>
            .error (inability "failed to access" source .notFound)
        | .error fault => .error (inability "failed to access" source fault))
      [source] call.files
  match operands call with
  | [source] => link source ['.']
  | [source, target] => link source target
  | [] => misused "ln" "missing file operand".toList call
  | _ => ending 1 call

/-- Whether a mode marks a file as a program, if it is a mode at all. -/
def marksProgram? (mode : Octets) : Option Bool :=
  if mode.all Octets.isOctalDigit then
    some ((mode.reverse.take 3).any fun digit => digit.toNat % 2 = 1)
  else match mode.dropWhile fun octet => "ugoa".toList.contains octet with
    | '+' :: letters => if letters.contains 'x' then some true else none
    | '-' :: letters => if letters.contains 'x' then some false else none
    | _ => none

/-- Mark files as programs or as no programs. -/
def chmod : Utility := fun call =>
  match call.arguments with
  | [] => misused "chmod" "missing operand".toList call
  | [mode] =>
      misused "chmod" ("missing operand after ".toList ++ quoted mode) call
  | mode :: operands =>
      match marksProgram? mode with
      | none =>
          misused "chmod" ("invalid mode: ".toList ++ quoted mode) call
      | some isProgram =>
          eachChange (fun files operand =>
            (files.mark operand.toHost isProgram).mapError
              (inability "cannot access" operand))
            operands call.files

/-- Create directories. -/
def mkdir : Utility := fun call =>
  let refusal := inability "cannot create directory"
  if (operands call).isEmpty then
    misused "mkdir" "missing operand".toList call
  else if hasLetter call 'p' then
    eachChange (fun files operand =>
      match files.createDirectories operand.toHost with
      | (.ok (), files) => .ok files
      | (.error fault, _) => .error (refusal operand fault))
      (operands call) call.files
  else
    eachChange (fun files operand =>
      (files.createDirectory operand.toHost).mapError (refusal operand))
      (operands call) call.files

/-- Remove directories that hold nothing. -/
def rmdir : Utility := fun call =>
  if (operands call).isEmpty then
    misused "rmdir" "missing operand".toList call
  else
    eachChange (fun files operand =>
      (files.removeDirectory operand.toHost).mapError
        (inability "failed to remove" operand))
      (operands call) call.files

/-- Remove files, and directories if asked to. -/
def rm : Utility := fun call =>
  let isForced := hasLetter call 'f'
  let isDeep := hasLetter call 'r' || hasLetter call 'R'
  if (operands call).isEmpty && !isForced then
    misused "rm" "missing operand".toList call
  else
    eachChange (fun files operand =>
      let path := operand.toHost
      match if isDeep then files.removeAll path else files.remove path with
      | .ok files => .ok files
      | .error fault =>
          if isForced && (fault == .notFound || fault == .notDirectory) then
            .ok files
          else .error (inability "cannot remove" operand fault))
      (operands call) call.files

/-- Create files that are missing. -/
def touch : Utility := fun call =>
  if (operands call).isEmpty then
    misused "touch" "missing file operand".toList call
  else
    eachChange (fun files operand =>
      let path := operand.toHost
      if files.isDirectory path then .ok files
      else (files.append path []).mapError (inability "cannot touch" operand))
      (operands call) call.files

end Utility
end Program
end ReportBinding
