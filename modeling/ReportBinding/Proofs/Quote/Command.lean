import ReportBinding.Proofs.Files.Removal
import ReportBinding.Proofs.Provenance.Binding
import ReportBinding.Proofs.Quote.Transcript
import ReportBinding.Quote.Generator.Basic

/-!
# What generator commands deliver

A command starts its program once, on files from which the quote of an earlier
run has been cleared, and delivers what that one run has left: `generate_eq_ok_iff`.
So no quote is delivered that was there before, and every failure is put down to
the program: `generate_failsClosed`.
-/

namespace ReportBinding

/-- A start of a program: its name, its arguments and the files that it comes
upon. -/
structure Program.Start where
  name : HostText
  arguments : List HostText
  files : FileSystem

/-- What a host makes of a start. -/
def Program.Start.ending (start : Start) (host : Host) :
    Except Files.Fault (Outcome × FileSystem) :=
  host start.name start.arguments start.files

namespace Generator.Command

variable {host : Program.Host} {command : Command}
  {files cleared left : FileSystem} {reportData : ReportData}
  {outcome : Program.Outcome} {quote : Quote} {path : HostText}

/-! ## Collecting the quote -/

/-- A finished program has left a quote: it reports success, has printed no
error line, and the quote stands where the command has it left. -/
structure Leaves (command : Command) (outcome : Program.Outcome)
    (left : FileSystem) (quote : Quote) : Prop where
  succeeded : outcome.status = .exited 0
  noErrorLine : ∀ line ∈
    Transcript.linesOf (Text.Utf8.lossy outcome.output),
      ¬Transcript.errorMarker.toList <+: line
  notEmpty : quote.bytes ≠ []
  transcript : command.sink = .transcript →
    Transcript.parse (Text.Utf8.lossy outcome.output) = .ok quote.bytes
  file : ∀ path, command.sink = .file path →
    left.read path = .ok quote.bytes

theorem succeeded_iff (outcome : Program.Outcome) :
    outcome.succeeded = true ↔ outcome.status = .exited 0 := by
  rw [Program.Outcome.succeeded, beq_iff_eq]

/-- What is collected has been left. -/
theorem leaves_of_collect (collected : command.collect left outcome = .ok quote) :
    command.Leaves outcome left quote := by
  unfold collect at collected
  split at collected
  · cases collected
  next notFailed =>
  have succeeded : outcome.status = .exited 0 := by
    simpa [succeeded_iff] using notFailed
  dsimp only at collected
  split at collected
  · next isTranscript =>
      split at collected
      · next bytes parsed =>
          cases collected
          obtain ⟨noErrorLine, notEmpty⟩ := Transcript.of_parse parsed
          refine ⟨succeeded, ?_, notEmpty, fun _ => parsed, ?_⟩
          · exact (Transcript.errorLine?_eq_none_iff _).mp noErrorLine
          · intro path isFile
            rw [isTranscript] at isFile
            cases isFile
      · cases collected
  · next path isFile =>
      split at collected
      · cases collected
      next noErrorLine =>
      split at collected
      · cases collected
      · cases collected
      · next bytes notEmpty isRead =>
          cases collected
          refine ⟨succeeded, ?_, notEmpty, ?_, ?_⟩
          · exact (Transcript.errorLine?_eq_none_iff _).mp noErrorLine
          · intro isTranscript
            rw [isFile] at isTranscript
            cases isTranscript
          · intro other isOther
            rw [isFile] at isOther
            cases isOther
            exact isRead

/-- What has been left is collected. -/
theorem Leaves.collect (leaves : command.Leaves outcome left quote) :
    command.collect left outcome = .ok quote := by
  have succeeded := (succeeded_iff outcome).mpr leaves.succeeded
  have noErrorLine :=
    (Transcript.errorLine?_eq_none_iff _).mpr leaves.noErrorLine
  unfold Command.collect
  rw [if_neg (by simp [succeeded])]
  dsimp only
  split
  · next isTranscript => rw [leaves.transcript isTranscript]
  · next path isFile =>
      simp only [noErrorLine, leaves.file path isFile]
      split
      · next impossible => cases impossible
      · next isEmpty =>
          injection isEmpty with isEmpty
          exact absurd isEmpty leaves.notEmpty
      · next isRead =>
          cases isRead
          rfl

/-! ## The start of the program -/

/-- The starts of the program that asking for a quote makes. -/
def starts (command : Command) (files : FileSystem)
    (reportData : ReportData) : List Program.Start :=
  match command.clear files with
  | .ok cleared => [⟨command.program, command.request reportData, cleared⟩]
  | .error _ => []

/-- How asking for a quote comes out. -/
inductive ComesOut (host : Program.Host) (command : Command)
    (files : FileSystem) (reportData : ReportData) :
    Except Error Quote × FileSystem → Prop where
  /-- What is left of an earlier run cannot be cleared. -/
  | uncleared {fault : Fault} (refused : command.clear files = .error fault) :
      ComesOut host command files reportData
        (.error (.generatorFailed command.program.display fault), files)
  /-- The program cannot be started. -/
  | notStarted {cleared : FileSystem} {fault : Files.Fault}
      (isCleared : command.clear files = .ok cleared)
      (refused : host command.program (command.request reportData) cleared =
        .error fault) :
      ComesOut host command files reportData
        (.error (.generatorFailed command.program.display (.notStarted fault)),
          cleared)
  /-- The program has run to its end. -/
  | ended {cleared left : FileSystem} {outcome : Program.Outcome}
      (isCleared : command.clear files = .ok cleared)
      (hasEnded : host command.program (command.request reportData) cleared =
        .ok (outcome, left)) :
      ComesOut host command files reportData
        (command.blame (command.collect left outcome), left)

theorem generate_comesOut (host : Program.Host) (command : Command)
    (files : FileSystem) (reportData : ReportData) :
    ComesOut host command files reportData
      (command.generate host files reportData) := by
  unfold generate
  split
  · next refused => exact .uncleared refused
  next isCleared =>
  split
  · next refused => exact .notStarted isCleared refused
  · next hasEnded => exact .ended isCleared hasEnded

/-- A quote that is delivered has been left by the one run of the program. -/
theorem generate_eq_ok_iff :
    command.generate host files reportData = (.ok quote, left) ↔
      ∃ cleared outcome, command.clear files = .ok cleared ∧
        host command.program (command.request reportData) cleared =
          .ok (outcome, left) ∧ command.Leaves outcome left quote := by
  constructor
  · intro delivered
    have comesOut := generate_comesOut host command files reportData
    rw [delivered] at comesOut
    generalize isResult : (Except.ok quote, left) = result at comesOut
    cases comesOut with
    | uncleared refused => cases isResult
    | notStarted isCleared refused => cases isResult
    | @ended cleared after outcome isCleared hasEnded =>
        injection isResult with isQuote isLeft
        subst isLeft
        refine ⟨cleared, outcome, isCleared, hasEnded, leaves_of_collect ?_⟩
        cases collected : command.collect left outcome with
        | error fault =>
            rw [collected] at isQuote
            cases isQuote
        | ok other =>
            rw [collected] at isQuote
            cases isQuote
            rfl
  · rintro ⟨cleared, outcome, isCleared, hasEnded, leaves⟩
    simp only [generate, isCleared, hasEnded, leaves.collect, blame]

theorem blame_eq_error {result : Except Fault Quote} {error : Error}
    (failed : command.blame result = .error error) :
    ∃ fault, error = .generatorFailed command.program.display fault := by
  cases result with
  | ok quote => cases failed
  | error fault =>
      cases failed
      exact ⟨fault, rfl⟩

/-- Every failure is put down to the program. -/
theorem generate_eq_error {error : Error}
    (failed : (command.generate host files reportData).1 = .error error) :
    ∃ fault, error = .generatorFailed command.program.display fault := by
  have comesOut := generate_comesOut host command files reportData
  generalize command.generate host files reportData = result
    at comesOut failed
  cases comesOut with
  | uncleared refused =>
      cases failed
      exact ⟨_, rfl⟩
  | notStarted isCleared refused =>
      cases failed
      exact ⟨_, rfl⟩
  | ended isCleared hasEnded => exact blame_eq_error failed

/-- File systems from which the same is left once they are cleared make no
difference. -/
theorem generate_of_clear {first second : FileSystem}
    (firstCleared : command.clear first = .ok cleared)
    (secondCleared : command.clear second = .ok cleared) :
    command.generate host first reportData =
      command.generate host second reportData := by
  simp only [generate, firstCleared, secondCleared]

/-- Hosts make no difference that do the same at the starts that are made. -/
theorem generate_of_ending {other : Program.Host}
    (alike : ∀ start ∈ command.starts files reportData,
      start.ending other = start.ending host) :
    command.generate other files reportData =
      command.generate host files reportData := by
  unfold generate
  split
  · rfl
  · next cleared isCleared =>
      have same := alike ⟨command.program, command.request reportData,
        cleared⟩ (by simp [starts, isCleared])
      unfold Program.Start.ending at same
      rw [same]

/-! ## Clearing what an earlier run has left -/

/-- What stands under the path of the quote is removed, if that is a regular
file, and nothing else. -/
theorem clear_of_namesFile {target : Location}
    (isFile : command.sink = .file path)
    (names : files.NamesFile path target) :
    command.clear files = .ok (files.drop target) := by
  simp only [clear, isFile]
  rcases FileSystem.remove_of_namesFile names with
    removed | ⟨nothingThere, unchanged⟩
  · rw [removed]
  · rw [nothingThere, unchanged]

/-- What cannot be removed is in the way. -/
theorem clear_of_remove {fault : Files.Fault}
    (isFile : command.sink = .file path)
    (refused : files.remove path = .error fault)
    (isThere : fault ≠ .notFound) :
    command.clear files = .error (.staleFile path fault) := by
  simp only [clear, isFile, refused]

/-! ## Failing closed -/

/-- A text asks for a quote over report data: it is made of the 128 lowercase
hexadecimal digits of it. -/
structure Asks (digits : String) (reportData : ReportData) : Prop where
  length : digits.length = 128
  areDigits : ∀ character ∈ digits.toList,
    ('0' ≤ character ∧ character ≤ '9') ∨
      ('a' ≤ character ∧ character ≤ 'f')
  decodes : Hex.decode digits = .ok reportData.bytes

theorem asks_toHex (reportData : ReportData) :
    Asks reportData.toHex reportData where
  length := by
    rw [← String.length_toList]
    exact reportData.length_toHex
  areDigits := by
    intro character isMember
    rw [ReportData.toHex, Hex.toList_encode] at isMember
    simpa [isCommitDigit] using
      Hex.isCommitDigit_of_mem_encodeChars _ _ isMember
  decodes := Hex.decode_encode reportData.bytes

theorem starts_eq_singleton_iff (start : Program.Start) :
    command.starts files reportData = [start] ↔
      ∃ cleared, command.clear files = .ok cleared ∧
        start = ⟨command.program, command.request reportData, cleared⟩ := by
  unfold starts
  cases command.clear files with
  | error fault => simp
  | ok cleared => simp [eq_comm]

/-- What cannot be cleared fails before any start, and changes nothing. -/
theorem generate_of_uncleared {fault : Fault}
    (refused : command.clear files = .error fault) :
    command.starts files reportData = [] ∧
      command.generate host files reportData =
        (.error (.generatorFailed command.program.display fault), files) := by
  simp only [starts, generate, refused, blame, and_self]

/-- A command delivers a quote exactly if it starts its program once, over the
digits of the report data, and the program ends with success, prints no error
line and leaves the quote, which is not empty: in its transcript, or else in the
file that stands there once it has ended.  What the host would do at any other
start makes no difference.  Every failure is put down to the program.

If the quote is left in a file, it makes no difference whether a file was there
before and what it held.  What cannot be removed, such as a directory, fails
before any start and changes nothing. -/
theorem generate_failsClosed (host : Program.Host) (command : Command)
    (files : FileSystem) (reportData : ReportData) :
    (∀ quote left,
      command.generate host files reportData = (.ok quote, left) ↔
        ∃ cleared outcome digits arguments, Asks digits reportData ∧
          arguments =
            (command.arguments ++ [command.reportDataArgument, digits]).map
              HostText.ofText ∧
          command.starts files reportData =
            [⟨command.program, arguments, cleared⟩] ∧
          host command.program arguments cleared = .ok (outcome, left) ∧
          command.Leaves outcome left quote) ∧
    (∀ other : Program.Host,
      (∀ start ∈ command.starts files reportData,
        start.ending other = start.ending host) →
      command.generate other files reportData =
        command.generate host files reportData) ∧
    (∀ error,
      (command.generate host files reportData).1 = .error error →
        ∃ fault, error = .generatorFailed command.program.display fault) ∧
    ∀ path, command.sink = .file path →
      (∀ others, files.DifferInFile path others →
        command.generate host others reportData =
          command.generate host files reportData) ∧
      (∀ fault, files.remove path = .error fault → fault ≠ .notFound →
        command.starts files reportData = [] ∧
          command.generate host files reportData =
            (.error (.generatorFailed command.program.display
              (.staleFile path fault)), files)) ∧
      ∀ location,
        files.findNamed path = .ok (.occupied location .directory) →
          command.starts files reportData = [] ∧
            command.generate host files reportData =
              (.error (.generatorFailed command.program.display
                (.staleFile path .isDirectory)), files) := by
  refine ⟨?_, ?_, ?_, ?_⟩
  · intro quote left
    rw [generate_eq_ok_iff]
    constructor
    · rintro ⟨cleared, outcome, isCleared, hasEnded, leaves⟩
      refine ⟨cleared, outcome, reportData.toHex, _, asks_toHex reportData, rfl,
        ?_, hasEnded, leaves⟩
      exact (starts_eq_singleton_iff _).mpr ⟨cleared, isCleared, rfl⟩
    · rintro ⟨cleared, outcome, digits, arguments, -, -, started, hasEnded,
        leaves⟩
      obtain ⟨other, isCleared, same⟩ :=
        (starts_eq_singleton_iff _).mp started
      injection same with _ isRequest isOther
      rw [isRequest, isOther] at hasEnded
      exact ⟨other, outcome, isCleared, hasEnded, leaves⟩
  · intro other alike
    exact generate_of_ending alike
  · intro error failed
    exact generate_eq_error failed
  · intro path isFile
    refine ⟨?_, ?_, ?_⟩
    · rintro others ⟨target, names, othersName, same⟩
      apply generate_of_clear (clear_of_namesFile isFile othersName)
      rw [clear_of_namesFile isFile names, same]
    · intro fault refused isThere
      exact generate_of_uncleared (clear_of_remove isFile refused isThere)
    · intro location isDirectory
      have refused := FileSystem.remove_of_directory isDirectory
      apply generate_of_uncleared
      exact clear_of_remove isFile refused (by decide)

/-- A command that has its program leave the quote in a file. -/
def sample : Command where
  program := "generator"
  arguments := ["--quiet"]
  reportDataArgument := standardReportDataArgument
  sink := .file "quote"

/-- A host whose programs all leave one byte in that file. -/
def sampleHost : Program.Host := fun _ _ files =>
  .ok (⟨.exited 0, [], []⟩, files.put ["quote"] (.file [4] false))

/-- What a program prints that has met an error. -/
def erringTranscript : String := "done\n  [ERROR] no device\n"

/-- A host whose programs leave the byte as well and report success, but print
an error line. -/
def erringHost : Program.Host := fun _ _ files =>
  .ok (⟨.exited 0, Text.Utf8.encode erringTranscript, []⟩,
    files.put ["quote"] (.file [4] false))

def sampleReportData : ReportData where
  bytes := List.replicate 64 7
  length_bytes := by decide

/-- The files that have one entry in place of the quote. -/
def occupiedBy (entry : Entry) : FileSystem :=
  FileSystem.empty.put ["quote"] entry

/-- The quote of an earlier run is not delivered again, and there is no start
where a directory is in the way of the quote.  The quote of a program that
prints an error line is not delivered, although it is there. -/
theorem generate_failsClosed_stale :
    sample.generate sampleHost (occupiedBy (.file [1] false))
        sampleReportData =
      sample.generate sampleHost FileSystem.empty sampleReportData ∧
    (sample.generate sampleHost FileSystem.empty sampleReportData).1 =
      .ok ⟨[4]⟩ ∧
    sample.starts (occupiedBy .directory) sampleReportData = [] ∧
    sample.generate sampleHost (occupiedBy .directory) sampleReportData =
      (.error (.generatorFailed "generator" (.staleFile "quote" .isDirectory)),
        occupiedBy .directory) ∧
    (∀ quote left, sample.generate erringHost FileSystem.empty
      sampleReportData ≠ (.ok quote, left)) ∧
    (sample.generate erringHost FileSystem.empty sampleReportData).1 =
      .error (.generatorFailed "generator"
        (.transcript (.errorLine "[ERROR] no device"))) := by
  have stale : FileSystem.empty.DifferInFile "quote"
      (occupiedBy (.file [1] false)) := by
    have names : (occupiedBy (.file [1] false)).NamesFile "quote" ["quote"] :=
      .file (show (Entry.file [1] false).IsRegular from trivial) (by rfl)
    exact ⟨["quote"], .vacant (by rfl), names,
      (FileSystem.drop_put _ _ _).symm⟩
  obtain ⟨-, -, -, onFile⟩ :=
    generate_failsClosed sampleHost sample FileSystem.empty sampleReportData
  obtain ⟨-, -, -, onDirectory⟩ :=
    generate_failsClosed sampleHost sample (occupiedBy .directory)
      sampleReportData
  obtain ⟨noStart, refused⟩ :=
    (onDirectory "quote" rfl).2.2 ["quote"] (by rfl)
  refine ⟨(onFile "quote" rfl).1 _ stale, by rfl, noStart, refused, ?_, ?_⟩
  · intro quote left delivered
    have delivers := (generate_failsClosed erringHost sample FileSystem.empty
      sampleReportData).1 quote left
    obtain ⟨_, outcome, _, _, -, -, -, hasEnded, leaves⟩ :=
      delivers.mp delivered
    cases hasEnded
    have isErrorLine := leaves.noErrorLine "[ERROR] no device".toList
    rw [Text.Utf8.lossy_encode] at isErrorLine
    exact isErrorLine (by decide +kernel) (by decide)
  · unfold generate
    rfl

end Generator.Command
end ReportBinding
