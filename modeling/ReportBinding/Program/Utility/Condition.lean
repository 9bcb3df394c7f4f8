import ReportBinding.Program.Utility.Basic

/-!
# Conditions

A condition judges texts, numbers and files, and ends with the verdict as its
status.
-/

namespace ReportBinding
namespace Program
namespace Utility

/-- Judge one operand by a letter. -/
def testOne (files : FileSystem) (letter : Octets) (operand : Octets) :
    Option Bool :=
  let path := operand.toHost
  match letter with
  | ['-', 'n'] => some (!operand.isEmpty)
  | ['-', 'z'] => some operand.isEmpty
  | ['-', 'e'] => some (files.hasEntry path)
  | ['-', 'r'] | ['-', 'w'] => some (
      match files.find path with
      | .ok .sealed => false
      | .ok _ => true
      | .error _ => false)
  | ['-', 'f'] => some (files.isFile path)
  | ['-', 'd'] => some (files.isDirectory path)
  | ['-', 's'] => some (
      match files.find path with
      | .ok (.file content _) => !content.isEmpty
      | .ok _ => true
      | .error _ => false)
  | ['-', 'x'] => some (
      match files.find path with
      | .ok (.file _ executable) => executable
      | .ok .directory => true
      | _ => false)
  | ['-', 'h'] | ['-', 'L'] => some (
      match files.findNamed path with
      | .ok (.occupied _ (.link _)) => true
      | _ => false)
  | _ => none

/-- Judge a pair of numbers by the name of a relation. -/
def testNumbers (relation : Octets) (left right : Nat) : Option Bool :=
  match relation with
  | ['-', 'e', 'q'] => some (left == right)
  | ['-', 'n', 'e'] => some (left != right)
  | ['-', 'l', 't'] => some (decide (left < right))
  | ['-', 'l', 'e'] => some (decide (left ≤ right))
  | ['-', 'g', 't'] => some (decide (right < left))
  | ['-', 'g', 'e'] => some (decide (right ≤ left))
  | _ => none

/-- Whether an operand is the name of a relation between two others. -/
def isRelation (operand : Octets) : Bool :=
  operand == ['='] || operand == ['!', '='] ||
    (testNumbers operand 0 0).isSome

/-- Judge a condition, or complain about it. -/
def judge (files : FileSystem) : List Octets → Except Octets Bool
  | [] => .ok false
  | ['!'] :: operand :: rest =>
      if rest.length = 1 ∧ (operand = ['='] ∨ operand = ['!', '=']) then
        .ok (decide (operand = ['=']) == decide (rest = [['!']]))
      else (judge files (operand :: rest)).map (!·)
  | [operand] => .ok (!operand.isEmpty)
  | [letter, operand] =>
      match testOne files letter operand with
      | some verdict => .ok verdict
      | none =>
          if isRelation operand then
            .error (remark operand "argument expected")
          else .error (remark letter "unexpected operator")
  | [left, ['='], right] => .ok (decide (left = right))
  | [left, ['!', '='], right] => .ok (decide (left ≠ right))
  | [left, relation, right] =>
      match Octets.number? left, Octets.number? right with
      | some first, some second =>
          match testNumbers relation first second with
          | some verdict => .ok verdict
          | none => .error (remark relation "unexpected operator")
      | none, _ => .error ("Illegal number: ".toList ++ left)
      | _, none => .error ("Illegal number: ".toList ++ right)
  | _ :: operand :: _ => .error (remark operand "unexpected operator")

/-- Turn a verdict into a status. -/
def test : Utility := fun call =>
  match judge call.files call.arguments with
  | .ok true => ending 0 call
  | .ok false => ending 1 call
  | .error complaint => failing 2 complaint call

/-- As `test`, with a closing bracket behind the condition. -/
def bracket : Utility := fun call =>
  if call.arguments.getLast? = some [']'] then
    test { call with arguments := call.arguments.dropLast }
  else failing 2 "missing ]".toList call

end Utility
end Program
end ReportBinding
