import ReportBinding.Program.Utility.Condition
import ReportBinding.Program.Utility.Filing
import ReportBinding.Program.Utility.Writing

/-!
# The catalogue of utilities

Some utilities belong to the shell, some are programs on their own, and some
are both.
-/

namespace ReportBinding
namespace Program
namespace Utility

/-- The utilities that the shell runs itself. -/
def builtin? : String → Option Utility
  | "echo" => some (echo true)
  | "printf" => some printf
  | "true" => some (ending 0)
  | "false" => some (ending 1)
  | "test" => some test
  | "[" => some bracket
  | _ => none

/-- The utilities that are programs on their own. -/
def programs : List (String × Utility) :=
  [("echo", echo false), ("printf", printf), ("true", ending 0),
    ("false", ending 1), ("test", test), ("[", bracket), ("cat", cat),
    ("head", head), ("cp", cp), ("mv", mv), ("ln", ln), ("chmod", chmod),
    ("mkdir", mkdir), ("rmdir", rmdir), ("rm", rm), ("touch", touch),
    ("sleep", ending 0)]

/-- The utility that is a program with a name. -/
def installed? (name : String) : Option Utility :=
  programs.lookup name

end Utility
end Program
end ReportBinding
