import ReportBinding.Program.Shell.Syntax

/-!
# Shell tokens

A script is cut into words, operators and line ends.  Each token carries the
number of the line that the script has reached behind it.  Where the script
breaks off inside a quotation, a last token says so.
-/

namespace ReportBinding
namespace Program
namespace Shell

/-- A token of a script. -/
inductive Token where
  | word (word : Word)
  | redirect (stream : Option Nat) (direction : Direction)
  | newline
  | operator (spelling : String)
  | broken (complaint : String)
deriving DecidableEq, Repr

/-- A token and the line reached behind it. -/
structure Placed where
  token : Token
  line : Nat
deriving DecidableEq, Repr

/-- The quotation that a script is in. -/
inductive Quotation where
  | none
  | single
  | double
deriving DecidableEq, Repr

/-- A word under way: its finished segments and the octets of the next, both
last first, and whether there is a word at all. -/
structure Draft where
  segments : Word
  octets : Octets
  octetsQuoted : Bool
  started : Bool
deriving Repr

namespace Draft

/-- No word under way. -/
def empty : Draft := ⟨[], [], false, false⟩

/-- Close the octets under way into a segment. -/
def close (draft : Draft) : Draft :=
  if draft.octets.isEmpty then draft
  else
    { draft with
      segments := .text draft.octets.reverse draft.octetsQuoted :: draft.segments
      octets := [] }

/-- Add one octet. -/
def push (draft : Draft) (octet : Char) (quoted : Bool) : Draft :=
  let draft := if draft.octetsQuoted = quoted then draft else draft.close
  { draft with
    octets := octet :: draft.octets
    octetsQuoted := quoted
    started := true }

/-- Add a segment. -/
def add (draft : Draft) (segment : Segment) : Draft :=
  let draft := draft.close
  { draft with segments := segment :: draft.segments, started := true }

/-- A quotation starts or ends, which makes a word even of nothing. -/
def markQuoted (draft : Draft) : Draft :=
  draft.add (.text [] true)

/-- The word under way. -/
def word (draft : Draft) : Word :=
  draft.close.segments.reverse

/-- The number that the word under way is, if it is a plain number. -/
def number? (draft : Draft) : Option Nat :=
  match plain? draft.word with
  | some octets => Octets.number? octets
  | none => none

end Draft

/-- Whether an octet can begin the name of a variable. -/
def beginsName (octet : Char) : Bool :=
  octet.isAlpha || octet == '_'

/-- Whether an octet can stand in the name of a variable. -/
def inName (octet : Char) : Bool :=
  octet.isAlphanum || octet == '_'

/-- The parameter that follows a dollar sign, and the script behind it. -/
def parameter? : Octets → Option (Parameter × Octets)
  | '@' :: rest => some (.all, rest)
  | '*' :: rest => some (.joined, rest)
  | '#' :: rest => some (.count, rest)
  | '?' :: rest => some (.status, rest)
  | '\x7b' :: rest =>
      let name := rest.takeWhile (· ≠ '\x7d')
      match rest.dropWhile (· ≠ '\x7d') with
      | _ :: behind =>
          match Octets.number? name with
          | some index => some (.position index, behind)
          | none =>
              if name = ['@'] then some (.all, behind)
              else if name = ['*'] then some (.joined, behind)
              else if name = ['#'] then some (.count, behind)
              else if name = ['?'] then some (.status, behind)
              else some (.variable name, behind)
      | [] => none
  | octet :: rest =>
      if octet.isDigit then
        some (.position (octet.toNat - 0x30), rest)
      else if beginsName octet then
        some (.variable (octet :: rest.takeWhile inName),
          rest.dropWhile inName)
      else none
  | [] => none

/-- The octets up to the parenthesis that closes, and the octets behind it.
`depth` parentheses have been opened before. -/
def enclosed : Nat → Quotation → Octets → Option (Octets × Octets)
  | _, _, [] => none
  | depth, quotation, octet :: rest =>
      let goOn (depth : Nat) (quotation : Quotation) :
          Option (Octets × Octets) :=
        (enclosed depth quotation rest).map fun (inside, behind) =>
          (octet :: inside, behind)
      match quotation, octet with
      | .single, '\'' => goOn depth .none
      | .single, _ => goOn depth .single
      | .double, '"' => goOn depth .none
      | .double, _ => goOn depth .double
      | .none, '\'' => goOn depth .single
      | .none, '"' => goOn depth .double
      | .none, '(' => goOn (depth + 1) .none
      | .none, ')' =>
          match depth with
          | 0 => some ([], rest)
          | depth + 1 => goOn depth .none
      | .none, _ => goOn depth .none

/-- The octets up to the next backquote, and the octets behind it.  A backslash
before a dollar sign, a backslash or a backquote is dropped. -/
def backquoted : Octets → Option (Octets × Octets)
  | [] => none
  | '\x60' :: rest => some ([], rest)
  | '\\' :: '$' :: rest => (backquoted rest).map (Prod.map ('$' :: ·) id)
  | '\\' :: '\\' :: rest => (backquoted rest).map (Prod.map ('\\' :: ·) id)
  | '\\' :: '\x60' :: rest => (backquoted rest).map (Prod.map ('\x60' :: ·) id)
  | octet :: rest => (backquoted rest).map (Prod.map (octet :: ·) id)

/-- The segment that a dollar sign or a backquote begins, and what follows
it. -/
def special? (quoted : Bool) (octet : Char) (rest : Octets) :
    Option (Segment × Octets) :=
  if octet = '$' then
    match rest with
    | '(' :: inside =>
        (enclosed 0 .none inside).map fun (script, behind) =>
          (.substitution script quoted, behind)
    | _ =>
        (parameter? rest).map fun (parameter, behind) =>
          (.expansion parameter quoted, behind)
  else if octet = '\x60' then
    (backquoted rest).map fun (script, behind) =>
      (.substitution script quoted, behind)
  else none

/-- The token of the word under way, if there is one. -/
def wordToken (draft : Draft) (line : Nat) : List Placed :=
  if draft.started then [⟨.word draft.word, line⟩] else []

/-- The tokens of a script, given the quotation, the word under way and the
line.  The first argument bounds the number of steps. -/
def tokensFrom : Nat → Quotation → Draft → Nat → Octets → List Placed
  | 0, _, _, _, _ => []
  | _ + 1, quotation, draft, line, [] =>
      if quotation = .none then wordToken draft line
      else [⟨.broken "Unterminated quoted string", line⟩]
  | fuel + 1, .single, draft, line, octet :: rest =>
      if octet = '\'' then tokensFrom fuel .none draft.markQuoted line rest
      else
        let line := if octet = '\n' then line + 1 else line
        tokensFrom fuel .single (draft.push octet true) line rest
  | fuel + 1, .double, draft, line, octet :: rest =>
      match octet, rest with
      | '"', _ => tokensFrom fuel .none draft.markQuoted line rest
      | '\\', '\n' :: rest => tokensFrom fuel .double draft (line + 1) rest
      | '\\', escaped :: behind =>
          if escaped = '$' ∨ escaped = '"' ∨ escaped = '\\' ∨
              escaped = '\x60' then
            tokensFrom fuel .double (draft.push escaped true) line behind
          else tokensFrom fuel .double (draft.push '\\' true) line rest
      | _, _ =>
          match special? true octet rest with
          | some (segment, behind) =>
              tokensFrom fuel .double (draft.add segment) line behind
          | none =>
              let line := if octet = '\n' then line + 1 else line
              tokensFrom fuel .double (draft.push octet true) line rest
  | fuel + 1, .none, draft, line, octet :: rest =>
      let finish (tokens : List Token) (line : Nat) (rest : Octets) :=
        wordToken draft line ++ tokens.map (⟨·, line⟩) ++
          tokensFrom fuel .none Draft.empty line rest
      let redirect (direction : Direction) (rest : Octets) :=
        match draft.number? with
        | some stream =>
            ⟨.redirect (some stream) direction, line⟩ ::
              tokensFrom fuel .none Draft.empty line rest
        | none => finish [.redirect none direction] line rest
      match octet, rest with
      | '\n', _ =>
          wordToken draft line ++ ⟨.newline, line + 1⟩ ::
            tokensFrom fuel .none Draft.empty (line + 1) rest
      | '\'', _ => tokensFrom fuel .single draft.markQuoted line rest
      | '"', _ => tokensFrom fuel .double draft.markQuoted line rest
      | '\\', '\n' :: rest => tokensFrom fuel .none draft (line + 1) rest
      | '\\', escaped :: rest =>
          tokensFrom fuel .none (draft.push escaped true) line rest
      | '#', _ =>
          if draft.started then
            tokensFrom fuel .none (draft.push '#' false) line rest
          else
            tokensFrom fuel .none draft line (rest.dropWhile (· ≠ '\n'))
      | '&', '&' :: rest => finish [.operator "&&"] line rest
      | '|', '|' :: rest => finish [.operator "||"] line rest
      | ';', ';' :: rest => finish [.operator ";;"] line rest
      | '&', _ => finish [.operator "&"] line rest
      | '|', _ => finish [.operator "|"] line rest
      | ';', _ => finish [.operator ";"] line rest
      | '(', _ => finish [.operator "("] line rest
      | ')', _ => finish [.operator ")"] line rest
      | '>', '>' :: rest => redirect .append rest
      | '>', '&' :: rest => redirect .duplicate rest
      | '>', _ => redirect .create rest
      | '<', _ => redirect .source rest
      | _, _ =>
          if octet = ' ' ∨ octet = '\t' then finish [] line rest
          else match special? false octet rest with
            | some (segment, behind) =>
                tokensFrom fuel .none (draft.add segment) line behind
            | none =>
                tokensFrom fuel .none (draft.push octet false) line rest

/-- The tokens of a script. -/
def tokens (script : Octets) : List Placed :=
  tokensFrom (script.length + 1) .none Draft.empty 1 script

end Shell
end Program
end ReportBinding
