import ReportBinding.Program.Shell.Format
import ReportBinding.Program.Utility.Basic

/-!
# Utilities that write text

These utilities write their arguments, the content of files, or the beginning
of either, and change no file.
-/

namespace ReportBinding
namespace Program
namespace Utility

/-- Write the arguments, with blanks between them and a line end behind them
unless the first argument suppresses it.  `interpreted` replaces escapes. -/
def echo (interpreted : Bool) : Utility := fun call =>
  let (words, ending) := match call.arguments with
    | ['-', 'n'] :: words => (words, [])
    | words => (words, ['\n'])
  let text := [' '].intercalate words
  let (written, stopped) :=
    if interpreted then Shell.unescape text else (text, false)
  ⟨0, if stopped then written else written ++ ending, [], call.files⟩

/-- Write arguments as a format says. -/
def printfBehindOptions : Utility := fun call =>
  match call.arguments with
  | [] => failing 2 "usage: printf format [arg ...]".toList call
  | format :: arguments =>
      let formatted := Shell.format format arguments
      ⟨formatted.status, formatted.text, formatted.complaints, call.files⟩

/-- Write the arguments as the first of them says. -/
def printf : Utility := fun call =>
  match call.arguments with
  | ['-', '-'] :: arguments =>
      printfBehindOptions { call with arguments := arguments }
  | ('-' :: letter :: _) :: _ =>
      failing 2 ("Illegal option -".toList ++ [letter]) call
  | _ => printfBehindOptions call

/-- The content of the file that an operand names, or the input. -/
def contentOf (input : Octets) (files : FileSystem) (operand : Octets) :
    Except Files.Fault Octets :=
  if operand = ['-'] then .ok input
  else (files.read operand.toHost).map Octets.ofBytes

/-- Write the content of files, or else the input. -/
def cat : Utility := fun call =>
  if call.arguments.isEmpty then ⟨0, call.input, [], call.files⟩
  else
    each (fun files operand =>
      match contentOf call.input files operand with
      | .ok content => .ok (content, files)
      | .error fault => .error (remark operand fault.wording))
      call.arguments call.files

/-- The first lines of a text. -/
def firstLines : Nat → Octets → Octets
  | 0, _ => []
  | _ + 1, [] => []
  | count + 1, octet :: rest =>
      octet :: firstLines (if octet = '\n' then count else count + 1) rest

/-- What the beginning of a text is, and the operands behind the options that
say so. -/
def beginning (arguments : List Octets) :
    (Octets → Octets) × List Octets :=
  let counted (letter : Char) (digits : Octets) : Octets → Octets :=
    let count := (Octets.number? digits).getD 0
    if letter = 'c' then List.take count else firstLines count
  match arguments with
  | ['-', letter] :: digits :: operands =>
      if letter.isDigit then (counted 'n' [letter], digits :: operands)
      else (counted letter digits, operands)
  | ('-' :: letter :: digits) :: operands =>
      if letter.isDigit then (counted 'n' (letter :: digits), operands)
      else (counted letter digits, operands)
  | operands => (firstLines 10, operands)

/-- Write the beginning of files, or else of the input. -/
def head : Utility := fun call =>
  let (cut, operands) := beginning call.arguments
  if operands.isEmpty then ⟨0, cut call.input, [], call.files⟩
  else
    each (fun files operand =>
      match contentOf call.input files operand with
      | .ok content => .ok (cut content, files)
      | .error fault =>
          .error (remark
            ("cannot open ".toList ++ quoted operand ++ " for reading".toList)
            fault.wording))
      operands call.files

end Utility
end Program
end ReportBinding
