import ReportBinding.Json.Document

/-!
# Writing JSON documents

Documents are written with one member or item on a line and two spaces for each
level.  Strings escape quotes, backslashes and control characters and nothing
else.
-/

namespace ReportBinding
namespace Json

/-- A lowercase hexadecimal digit. -/
def hexDigit (value : Nat) : Char :=
  if value < 10 then Char.ofNat (0x30 + value) else Char.ofNat (0x57 + value)

/-- The spelling of a character in a string. -/
def spellChar (character : Char) : List Char :=
  match character with
  | '"' => ['\\', '"']
  | '\\' => ['\\', '\\']
  | '\x08' => ['\\', 'b']
  | '\t' => ['\\', 't']
  | '\n' => ['\\', 'n']
  | '\x0c' => ['\\', 'f']
  | '\r' => ['\\', 'r']
  | _ =>
      let code := character.toNat
      if code < 0x20 then
        ['\\', 'u', '0', '0', hexDigit (code / 16), hexDigit (code % 16)]
      else [character]

/-- The spelling of a string. -/
def spellString (text : String) : List Char :=
  '"' :: text.toList.flatMap spellChar ++ ['"']

/-- A line end and the spaces of a level. -/
def newLine (level : Nat) : List Char :=
  '\n' :: List.replicate (2 * level) ' '

mutual

/-- The text of a value whose first line is already indented. -/
def Node.write (level : Nat) : Node → List Char
  | .null => ['n', 'u', 'l', 'l']
  | .boolean true => ['t', 'r', 'u', 'e']
  | .boolean false => ['f', 'a', 'l', 's', 'e']
  | .number numeral => numeral.spelling
  | .string text => spellString (text.getD "")
  | .array (.cons head tail) =>
      '[' :: newLine (level + 1) ++ head.write (level + 1) ++
        tail.write (level + 1) ++ newLine level ++ [']']
  | .array _ => ['[', ']']
  | .object (.cons name value tail) =>
      '\x7b' :: newLine (level + 1) ++ spellString (name.getD "") ++
        [':', ' '] ++ value.write (level + 1) ++ tail.write (level + 1) ++
          newLine level ++ ['\x7d']
  | .object _ => ['\x7b', '\x7d']
  | .absent => []

/-- The text of items that follow others. -/
def Items.write (level : Nat) : Items → List Char
  | .cons head tail =>
      ',' :: newLine level ++ head.write level ++ tail.write level
  | _ => []

/-- The text of members that follow others. -/
def Members.write (level : Nat) : Members → List Char
  | .cons name value tail =>
      ',' :: newLine level ++ spellString (name.getD "") ++ [':', ' '] ++
        value.write level ++ tail.write level
  | _ => []

end

/-- The text of a document. -/
def Node.toText (node : Node) : String :=
  String.ofList (node.write 0)

/-- An object with the given members. -/
def Node.ofMembers (members : List (String × Node)) : Node :=
  .object (members.foldr
    (fun (name, value) tail => .cons (some name) value tail) .closed)

/-- A string. -/
def Node.ofText (text : String) : Node :=
  .string (some text)

/-- A whole number. -/
def Node.ofNat (value : Nat) : Node :=
  .number (Numeral.ofNat value)

end Json
end ReportBinding
