import ReportBinding.Files.Access
import ReportBinding.Program.Octets

/-!
# Utilities

The small programs that scripts are made of.  A utility is a function of its
arguments, its input and the files.  Complaints are kept apart from the bytes
written to the standard error, because whoever calls the utility puts its own
name in front of them.
-/

namespace ReportBinding
namespace Program

/-- What a utility is called with. -/
structure Call where
  arguments : List Octets
  input : Octets
  files : FileSystem

/-- What a utility leaves behind. -/
structure Effect where
  status : Nat
  output : Octets
  complaints : List Octets
  files : FileSystem

/-- A utility. -/
abbrev Utility := Call → Effect

namespace Utility

/-- End with a status and write nothing. -/
def ending (status : Nat) : Utility := fun call =>
  ⟨status, [], [], call.files⟩

/-- End with a status and a complaint. -/
def failing (status : Nat) (complaint : Octets) : Utility := fun call =>
  ⟨status, [], [complaint], call.files⟩

/-- End with a complaint about the call of the utility with a name, and with a
hint where to learn more. -/
def misused (name : String) (complaint : Octets) : Utility :=
  failing 1 (complaint ++
    ("\nTry \x27" ++ name ++ " --help\x27 for more information.").toList)

/-- A name between single quotes. -/
def quoted (name : Octets) : Octets :=
  '\'' :: name ++ ['\'']

/-- What is said about a subject. -/
def remark (subject : Octets) (wording : String) : Octets :=
  subject ++ [':', ' '] ++ wording.toList

/-- A complaint about what cannot be done to a name. -/
def inability (task : String) (name : Octets) (fault : Files.Fault) : Octets :=
  remark (task.toList ++ ' ' :: quoted name) fault.wording

/-- The outcome of working through operands one by one.  An operand that fails
leaves a complaint, and the rest is worked through all the same. -/
def each (work : FileSystem → Octets → Except Octets (Octets × FileSystem))
    (operands : List Octets) (files : FileSystem) : Effect :=
  operands.foldl (fun effect operand =>
    match work effect.files operand with
    | .ok (written, files) =>
        { effect with output := effect.output ++ written, files := files }
    | .error complaint =>
        { effect with
          status := 1
          complaints := effect.complaints ++ [complaint] })
    ⟨0, [], [], files⟩

/-- As `each`, for work that changes files and writes nothing. -/
def eachChange (work : FileSystem → Octets → Except Octets FileSystem) :
    List Octets → FileSystem → Effect :=
  each fun files operand => (work files operand).map (([], ·))

/-- Whether an argument is an option. -/
def isOption : Octets → Bool
  | '-' :: _ :: _ => true
  | _ => false

/-- The arguments that are no options. -/
def operands (call : Call) : List Octets :=
  call.arguments.filter fun argument => !isOption argument

/-- Whether a letter stands in one of the options. -/
def hasLetter (call : Call) (letter : Char) : Bool :=
  (call.arguments.filter isOption).any (·.contains letter)

end Utility
end Program
end ReportBinding
