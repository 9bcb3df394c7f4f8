import ReportBinding.Program.Octets

/-!
# Shell commands

The commands of the small shell that runs scripts: simple commands with
redirections, groups, choices and repetitions, and the ways to chain commands.
-/

namespace ReportBinding
namespace Program
namespace Shell

/-- What a dollar sign can stand for. -/
inductive Parameter where
  /-- The script's name, at zero, or one of its arguments. -/
  | position (index : Nat)
  /-- All arguments, each on its own. -/
  | all
  /-- All arguments in one text. -/
  | joined
  /-- The number of arguments. -/
  | count
  /-- The status of the latest command. -/
  | status
  /-- A variable. -/
  | variable (name : Octets)
deriving DecidableEq, Repr

/-- A piece of a word. -/
inductive Segment where
  /-- Octets that stand for themselves. -/
  | text (octets : Octets) (quoted : Bool)
  /-- The value of a parameter. -/
  | expansion (parameter : Parameter) (quoted : Bool)
  /-- What a script prints. -/
  | substitution (script : Octets) (quoted : Bool)
deriving DecidableEq, Repr

/-- A word before expansion. -/
abbrev Word := List Segment

/-- The ways to redirect a stream. -/
inductive Direction where
  | create
  | append
  | source
  | duplicate
deriving DecidableEq, Repr

/-- A redirection of the stream with a number. -/
structure Redirection where
  stream : Nat
  direction : Direction
  target : Word
deriving DecidableEq, Repr

/-- A command. -/
inductive Command where
  /-- Assignments, words and redirections, with the line that they stand on. -/
  | simple (assignments : List (Octets × Word)) (words : List Word)
      (redirections : List Redirection) (line : Nat)
  /-- A list of commands in braces. -/
  | group (body : Command) (redirections : List Redirection) (line : Nat)
  /-- A list of commands in parentheses, which changes nothing but files. -/
  | isolated (body : Command) (redirections : List Redirection) (line : Nat)
  /-- One command after the other. -/
  | sequence (first second : Command)
  /-- The second command runs if the first succeeds. -/
  | both (first second : Command)
  /-- The second command runs if the first fails. -/
  | either (first second : Command)
  /-- The second command reads what the first one prints. -/
  | pipe (first second : Command)
  /-- A command whose success counts as failure and the reverse. -/
  | negated (body : Command)
  /-- One of two commands, as a condition decides. -/
  | choice (condition yes no : Command)
  /-- A command that runs for each of several words. -/
  | repetition (name : Octets) (words : List Word) (body : Command)
  /-- No command, which succeeds. -/
  | nothing
deriving Repr

/-- The octets of a word that is written plainly, without quotes. -/
def plain? : Word → Option Octets
  | [.text octets false] => some octets
  | _ => none

end Shell
end Program
end ReportBinding
