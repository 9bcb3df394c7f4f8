import ReportBinding.Program.Shell.Token

/-!
# Reading shell commands

Commands are read one complete line at a time, so that what stands before a
syntax error is still run.
-/

namespace ReportBinding
namespace Program
namespace Shell

/-- A syntax error: what is wrong and the line reached. -/
structure SyntaxFault where
  complaint : String
  line : Nat
deriving DecidableEq, Repr

/-- Tokens still to be read, and the line reached at the end of the script. -/
structure Source where
  tokens : List Placed
  lastLine : Nat
deriving Repr

namespace Source

/-- The source behind its first token. -/
def tail (source : Source) : Source :=
  { source with tokens := source.tokens.tail }

/-- How an unexpected token is named. -/
def nameOf : Token → String
  | .word _ => "word"
  | .redirect _ _ => "redirection"
  | .newline => "newline"
  | .operator spelling => "\"" ++ spelling ++ "\""
  | .broken complaint => complaint

/-- The words that have a meaning of their own where a command begins. -/
def reservedWords : List Octets :=
  ["if", "then", "else", "elif", "fi", "for", "do", "done", "\x7b", "\x7d",
    "!"].map String.toList

/-- The complaint about the token that stands next. -/
def unexpected (source : Source) (expecting : Option String) : SyntaxFault :=
  let suffix := match expecting with
    | some token => " (expecting \"" ++ token ++ "\")"
    | none => ""
  match source.tokens with
  | [] => ⟨"end of file unexpected" ++ suffix, source.lastLine⟩
  | ⟨.broken complaint, line⟩ :: _ => ⟨complaint, line⟩
  | ⟨.word word, line⟩ :: _ =>
      match plain? word with
      | some octets =>
          if reservedWords.contains octets then
            ⟨"\"" ++ Octets.toText octets ++ "\" unexpected" ++ suffix, line⟩
          else ⟨"word unexpected" ++ suffix, line⟩
      | none => ⟨"word unexpected" ++ suffix, line⟩
  | ⟨token, line⟩ :: _ => ⟨nameOf token ++ " unexpected" ++ suffix, line⟩

/-- Whether a plainly written word stands next. -/
def startsWith (source : Source) (octets : Octets) : Bool :=
  match source.tokens with
  | ⟨.word word, _⟩ :: _ => plain? word == some octets
  | _ => false

/-- Whether an operator stands next. -/
def startsWithOperator (source : Source) (spelling : String) : Bool :=
  match source.tokens with
  | ⟨.operator found, _⟩ :: _ => found == spelling
  | _ => false

/-- Whether a line end stands next. -/
def startsWithNewline (source : Source) : Bool :=
  match source.tokens with
  | placed :: _ => placed.token == .newline
  | [] => false

/-- The source behind all line ends that stand next. -/
def skipNewlines (source : Source) : Source :=
  { source with
    tokens := source.tokens.dropWhile fun placed => placed.token == .newline }

end Source

/-- The variable and the value that a word assigns, if it assigns. -/
def assignment? : Word → Option (Octets × Word)
  | .text octets false :: rest =>
      let name := octets.takeWhile inName
      match octets.dropWhile inName, name with
      | '=' :: value, first :: _ =>
          if beginsName first then
            some (name,
              if value.isEmpty then rest else .text value false :: rest)
          else none
      | _, _ => none
  | _ => none

/-- The stream that a direction redirects by default. -/
def defaultStream : Direction → Nat
  | .source => 0
  | _ => 1

/-- The words and redirections of a simple command, as far as they go. -/
def readParts : Nat → Source → List Word → List Redirection →
    Except SyntaxFault ((List Word × List Redirection) × Source)
  | 0, source, words, redirections =>
      .ok ((words.reverse, redirections.reverse), source)
  | fuel + 1, source, words, redirections =>
      match source.tokens with
      | ⟨.word word, _⟩ :: _ =>
          readParts fuel source.tail (word :: words) redirections
      | ⟨.redirect stream direction, _⟩ :: _ =>
          match source.tail.tokens with
          | ⟨.word target, _⟩ :: _ =>
              readParts fuel source.tail.tail words
                (⟨stream.getD (defaultStream direction), direction, target⟩ ::
                  redirections)
          | _ => .error (source.tail.unexpected none)
      | _ => .ok ((words.reverse, redirections.reverse), source)

/-- The line that the first token of a source stands on. -/
def Source.line (source : Source) : Nat :=
  match source.tokens with
  | placed :: _ => placed.line
  | [] => source.lastLine

/-- A simple command. -/
def readSimple (source : Source) : Except SyntaxFault (Command × Source) := do
  let ((words, redirections), rest) ←
    readParts (source.tokens.length + 1) source [] []
  if words.isEmpty && redirections.isEmpty then
    .error (source.unexpected none)
  else
    let assigning := words.takeWhile fun word => (assignment? word).isSome
    .ok (.simple (assigning.filterMap assignment?)
      (words.drop assigning.length) redirections source.line, rest)

/-- The words that end a list of commands. -/
def closingWords : List Octets :=
  ["then", "else", "elif", "fi", "do", "done", "\x7d"].map String.toList

/-- Whether a list of commands ends where a source stands. -/
def Source.atClosing (source : Source) : Bool :=
  closingWords.any source.startsWith || source.startsWithOperator ")"

/-- The source behind a word that has to stand next. -/
def Source.behindWord (source : Source) (word : String) :
    Except SyntaxFault Source :=
  if source.startsWith word.toList then .ok source.tail
  else .error (source.unexpected (some word))

/-- The source behind an operator that has to stand next. -/
def Source.behindOperator (source : Source) (spelling : String) :
    Except SyntaxFault Source :=
  if source.startsWithOperator spelling then .ok source.tail
  else .error (source.unexpected (some spelling))

/-- The words up to the end of a line or a semicolon. -/
def readWords : Nat → Source → List Word → List Word × Source
  | 0, source, words => (words.reverse, source)
  | fuel + 1, source, words =>
      match source.tokens with
      | ⟨.word word, _⟩ :: _ => readWords fuel source.tail (word :: words)
      | _ => (words.reverse, source)

/-- The redirections that stand behind a compound command. -/
def readRedirections (source : Source) :
    Except SyntaxFault (List Redirection × Source) := do
  let ((words, redirections), rest) ←
    readParts (source.tokens.length + 1) source [] []
  if words.isEmpty then .ok (redirections, rest)
  else .error (source.unexpected none)

/-- What can be read from a source. -/
inductive Form where
  /-- One command. -/
  | command
  /-- Commands that read what others print. -/
  | pipeline
  /-- The rest of a pipeline behind a first command. -/
  | pipelineBehind (first : Command)
  /-- Pipelines that depend on each other's success. -/
  | chain
  /-- The rest of a chain behind a first command. -/
  | chainBehind (first : Command)
  /-- The commands up to the end of the line. -/
  | line
  /-- The commands up to a word or a parenthesis that closes. -/
  | body
  /-- A choice behind its first word, up to its end. -/
  | choice

/-- Read a form.  The first argument bounds the depth of the reading. -/
def read : Nat → Form → Source → Except SyntaxFault (Command × Source)
  | 0, _, source => .error (source.unexpected none)
  | fuel + 1, .command, source =>
      if source.startsWith ['\x7b'] then do
        let (body, rest) ← read fuel .body source.tail.skipNewlines
        let rest ← rest.behindWord "\x7d"
        let (redirections, rest) ← readRedirections rest
        .ok (.group body redirections source.line, rest)
      else if source.startsWithOperator "(" then do
        let (body, rest) ← read fuel .body source.tail.skipNewlines
        let rest ← rest.behindOperator ")"
        let (redirections, rest) ← readRedirections rest
        .ok (.isolated body redirections source.line, rest)
      else if source.startsWith "if".toList then
        read fuel .choice source.tail.skipNewlines
      else if source.startsWith "for".toList then do
        match source.tail.tokens with
        | ⟨.word word, _⟩ :: _ =>
            let rest ← source.tail.tail.skipNewlines.behindWord "in"
            let (words, rest) := readWords (rest.tokens.length + 1) rest []
            let rest :=
              if rest.startsWithOperator ";" then rest.tail else rest
            let rest ← rest.skipNewlines.behindWord "do"
            let (body, rest) ← read fuel .body rest.skipNewlines
            let rest ← rest.behindWord "done"
            .ok (.repetition ((plain? word).getD []) words body, rest)
        | _ => .error (source.tail.unexpected none)
      else if source.atClosing then .error (source.unexpected none)
      else readSimple source
  | fuel + 1, .choice, source => do
      let (condition, rest) ← read fuel .body source
      let rest ← rest.behindWord "then"
      let (yes, rest) ← read fuel .body rest.skipNewlines
      if rest.startsWith "elif".toList then
        let (no, rest) ← read fuel .choice rest.tail.skipNewlines
        .ok (.choice condition yes no, rest)
      else if rest.startsWith "else".toList then
        let (no, rest) ← read fuel .body rest.tail.skipNewlines
        let rest ← rest.behindWord "fi"
        .ok (.choice condition yes no, rest)
      else
        let rest ← rest.behindWord "fi"
        .ok (.choice condition yes .nothing, rest)
  | fuel + 1, .pipeline, source =>
      if source.startsWith ['!'] then do
        let (body, rest) ← read fuel .pipeline source.tail
        .ok (.negated body, rest)
      else do
        let (first, rest) ← read fuel .command source
        read fuel (.pipelineBehind first) rest
  | fuel + 1, .pipelineBehind first, source =>
      if source.startsWithOperator "|" then do
        let (second, rest) ← read fuel .command source.tail.skipNewlines
        read fuel (.pipelineBehind (.pipe first second)) rest
      else .ok (first, source)
  | fuel + 1, .chain, source => do
      let (first, rest) ← read fuel .pipeline source
      read fuel (.chainBehind first) rest
  | fuel + 1, .chainBehind first, source =>
      if source.startsWithOperator "&&" then do
        let (second, rest) ← read fuel .pipeline source.tail.skipNewlines
        read fuel (.chainBehind (.both first second)) rest
      else if source.startsWithOperator "||" then do
        let (second, rest) ← read fuel .pipeline source.tail.skipNewlines
        read fuel (.chainBehind (.either first second)) rest
      else .ok (first, source)
  | fuel + 1, .line, source => do
      let (first, rest) ← read fuel .chain source
      match rest.tokens with
      | ⟨.operator ";", _⟩ :: _ =>
          let rest := rest.tail
          match rest.tokens with
          | [] => .ok (first, rest)
          | ⟨.newline, _⟩ :: _ => .ok (first, rest.tail)
          | _ =>
              let (second, rest) ← read fuel .line rest
              .ok (.sequence first second, rest)
      | ⟨.newline, _⟩ :: _ => .ok (first, rest.tail)
      | [] => .ok (first, rest)
      | _ => .error (rest.unexpected none)
  | fuel + 1, .body, source => do
      let (first, rest) ← read fuel .chain source
      if rest.startsWithOperator ";" || rest.startsWithNewline then
        let rest := rest.tail.skipNewlines
        if rest.atClosing || rest.tokens.isEmpty then .ok (first, rest)
        else
          let (second, rest) ← read fuel .body rest
          .ok (.sequence first second, rest)
      else .ok (first, rest)

/-- The next complete line of commands, unless the source is at its end. -/
def readLine? (source : Source) :
    Option (Except SyntaxFault (Command × Source)) :=
  let source := source.skipNewlines
  if source.tokens.isEmpty then none
  else some (read (4 * source.tokens.length + 4) .line source)

/-- A script as a source of commands. -/
def Source.ofScript (script : Octets) : Source :=
  ⟨Shell.tokens script, 1 + script.count '\n'⟩

end Shell
end Program
end ReportBinding
