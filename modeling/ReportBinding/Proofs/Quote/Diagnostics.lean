import ReportBinding.Proofs.Quote.Command
import ReportBinding.Proofs.Text.Ending

/-!
# What failing generators report

When the program of a generator command reports failure, the error that comes
out is worded with the end of what the program has written to its standard
error.  That end is cut off between two characters and has all of them that are
kept: `failure_carries_ending`.
-/

namespace ReportBinding

/-- A text is the end of another one, which it is a part of from a byte position
between two characters on. -/
structure Text.IsEnding (core ending : String) : Prop where
  /-- The position is where a character begins, or where the text ends. -/
  isCut : ∃ position, String.Pos.Raw.IsValid core ⟨position⟩ ∧
    sliceFrom? core position = some ending
  /-- Nothing stands behind the end. -/
  isSuffix : ∃ lead, core = lead ++ ending
  length : ending.length = min 512 core.length
  whole : core.length ≤ 512 → ending = core

theorem Text.isEnding_ending (text : String) :
    IsEnding (trim text) (ending text) where
  isCut := by
    have parts := (leftOut_append_ending text).symm
    refine ⟨(leftOut text).utf8ByteSize, ?_, ?_⟩
    · exact String.Pos.Raw.isValid_iff_exists_append.mpr
        ⟨leftOut text, ending text, parts, rfl⟩
    · exact (sliceFrom?_eq_some_iff _ _ _).mpr ⟨leftOut text, parts, rfl⟩
  isSuffix := ⟨leftOut text, (leftOut_append_ending text).symm⟩
  length := length_ending text
  whole := ending_eq_trim

namespace Generator.Command

/-- What comes of a program that reports failure: the error names the program
and its exit status and closes with the end of its standard error. -/
theorem generate_of_exited {host : Program.Host} {command : Command}
    {files cleared left : FileSystem} {reportData : ReportData}
    {outcome : Program.Outcome}
    (isCleared : command.clear files = .ok cleared)
    (hasEnded : host command.program (command.request reportData) cleared =
      .ok (outcome, left))
    (failed : outcome.succeeded = false) :
    command.generate host files reportData =
      (.error (.generatorFailed command.program.display
        (.exited outcome.statusText
          (Text.ending (Text.Utf8.lossy outcome.errors)))), left) := by
  simp only [generate, isCleared, hasEnded, collect, failed, Bool.not_false,
    if_true, blame]

/-- The end of a text that a cut finds at a byte position is never refused, and
is all or the last 512 characters of the text without the blanks around it.  A
failing program has the end of its standard error reported. -/
theorem failure_carries_ending :
    (∀ text : String, Text.cutEnding? text = some (Text.ending text) ∧
      Text.IsEnding (Text.trim text) (Text.ending text)) ∧
    ∀ (host : Program.Host) (command : Command)
      (files cleared left : FileSystem) (reportData : ReportData)
      (outcome : Program.Outcome), command.clear files = .ok cleared →
      host command.program (command.request reportData) cleared =
        .ok (outcome, left) → outcome.succeeded = false →
      ∃ error, command.generate host files reportData = (.error error, left) ∧
        error.message =
          "quote generator " ++ command.program.display ++ " failed: " ++
            ("exited with " ++ outcome.statusText ++ ": " ++
              Text.ending (Text.Utf8.lossy outcome.errors)) := by
  refine ⟨fun text => ⟨Text.cutEnding?_eq text, Text.isEnding_ending text⟩, ?_⟩
  intro host command files cleared left reportData outcome isCleared hasEnded
    failed
  exact ⟨_, generate_of_exited isCleared hasEnded failed, rfl⟩

/-- Diagnostics of some characters of two bytes each, with blanks around
them. -/
def verbose (count : Nat) : String :=
  String.ofList (['\n'] ++ List.replicate count 'é' ++ ['\u2003', '\n'])

theorem trimmed_verbose (count : Nat) :
    Text.trimmed (verbose count).toList = List.replicate count 'é' := by
  rw [verbose, String.toList_ofList]
  apply Text.stripped_surrounded
  · exact List.forall_mem_singleton.mpr rfl
  · intro character isMember
    rw [List.eq_of_mem_replicate isMember]
    rfl
  · exact List.forall_mem_cons.mpr ⟨rfl, List.forall_mem_singleton.mpr rfl⟩

/-- A host on which every program ends in one way. -/
def endingHost (outcome : Program.Outcome) : Program.Host :=
  fun _ _ files => .ok (outcome, files)

/-- The end of a program that fails. -/
def failing : Program.Outcome :=
  ⟨.exited 3, [], [0x20, 0xC3, 0xA9, 0xFF, 0x0A]⟩

/-- The end of a program that is killed. -/
def killed : Program.Outcome :=
  ⟨.signaled 9 false, [], Text.Utf8.encode "no memory\n"⟩

/-- Six hundred characters are cut down to 512, and a program that fails or is
killed has its last words reported. -/
theorem failure_carries_ending_samples :
    (Text.cutEnding? (verbose 600) =
        some (String.ofList (List.replicate 512 'é')) ∧
      Text.IsEnding (Text.trim (verbose 600)) (Text.ending (verbose 600))) ∧
    let command : Command := ⟨"tool", [], "--report_data", .transcript⟩
    let reportData : ReportData := ⟨List.replicate 64 0, rfl⟩
    (∃ error,
      command.generate (endingHost failing) FileSystem.empty reportData =
        (.error error, FileSystem.empty) ∧
      error.message =
        "quote generator tool failed: exited with exit status: 3: é\uFFFD") ∧
    ∃ error,
      command.generate (endingHost killed) FileSystem.empty reportData =
        (.error error, FileSystem.empty) ∧
      error.message = "quote generator tool failed: exited with " ++
        "signal: 9 (SIGKILL): no memory" := by
  obtain ⟨isCut, isEnding⟩ := failure_carries_ending.1 (verbose 600)
  refine ⟨⟨?_, isEnding⟩, ?_⟩
  · rw [isCut, Text.ending, trimmed_verbose, Text.lastOf,
      List.length_replicate, List.drop_replicate]
    rfl
  intro command reportData
  constructor
  · obtain ⟨error, isFailure, message⟩ := failure_carries_ending.2
      (endingHost failing) command FileSystem.empty FileSystem.empty
      FileSystem.empty reportData failing rfl rfl rfl
    refine ⟨error, isFailure, message.trans ?_⟩
    decide +kernel
  · obtain ⟨error, isFailure, message⟩ := failure_carries_ending.2
      (endingHost killed) command FileSystem.empty FileSystem.empty
      FileSystem.empty reportData killed rfl rfl rfl
    refine ⟨error, isFailure, message.trans ?_⟩
    decide +kernel

end Generator.Command
end ReportBinding
