import ReportBinding.Proofs.Attest.Inspection
import ReportBinding.Proofs.Pipeline.Order
import ReportBinding.Proofs.Receipt.RoundTrip

/-!
# What attesting does to its outputs

The quote is written before the receipt, and neither before the run has come to
its end.  So a run that fails leaves both outputs alone, a receipt is never
left without its quote, and the two tell what was attested if all goes well:
`attest_keeps_outputs`.  A quote is left without a receipt if the receipt cannot
be written, be it that its file is refused or that it has no document.
-/

namespace ReportBinding
namespace Attest

variable {platform : Platform} {config : Config} {generator : Generator}
  {quoteOut receiptOut : Option HostText} {world : World}

/-- The run that attesting takes to its end. -/
def ran (platform : Platform) (config : Config) (generator : Generator)
    (world : World) : Step Attestation :=
  (Pipeline.new config.mode).run platform.schedule config.inputs
    (config.resolver platform.host) generator world

/-- What the run finds out about its inputs. -/
def searched (platform : Platform) (config : Config) (files : FileSystem) :
    Findings :=
  (Findings.search config.mode platform.schedule config.inputs
    (config.resolver platform.host) files).1

/-- The files once the revision has been resolved. -/
def resolved (platform : Platform) (config : Config) (files : FileSystem) :
    FileSystem :=
  (config.resolver platform.host files config.inputs.sdk).2

/-- Neither the resolver nor the generator writes or removes what a path leads
to. -/
structure Untouched (platform : Platform) (config : Config)
    (generator : Generator) (files : FileSystem) (path : HostText) : Prop where
  resolver : files.Agree (resolved platform config files) path
  generator : ∀ reportData,
    (resolved platform config files).Agree
      (generator.generate (resolved platform config files) reportData).2 path

/-- The paths of the outputs, as far as they are given. -/
def outputs (quoteOut receiptOut : Option HostText) : List HostText :=
  quoteOut.toList ++ receiptOut.toList

@[simp] theorem mem_outputs {path : HostText} :
    path ∈ outputs quoteOut receiptOut ↔
      path ∈ quoteOut ∨ path ∈ receiptOut := by
  simp [outputs]

/-- The outputs are kept apart from the run and from each other. -/
structure Separate (platform : Platform) (config : Config)
    (generator : Generator) (quoteOut receiptOut : Option HostText)
    (world : World) : Prop where
  untouched : ∀ path ∈ outputs quoteOut receiptOut,
    Untouched platform config generator world.files path
  /-- Where they are written, they are different files. -/
  apart : ∀ quotePath ∈ quoteOut, ∀ receiptPath ∈ receiptOut,
    ¬(ran platform config generator world).world.files.SamePlace quotePath
      receiptPath

/-- What attesting leaves of its outputs. -/
structure KeepsOutputs (platform : Platform) (config : Config)
    (generator : Generator) (quoteOut receiptOut : Option HostText)
    (world : World) (ending : Ending Receipt) : Prop where
  /-- If the run fails, so does attesting.  Both outputs are what they were and
  nothing is printed.  The generator was asked at most once, and never if an
  input was not found. -/
  aborted : ∀ error, (ran platform config generator world).result =
    .error error →
      ending.result = .error (.attestationAborted error) ∧
        (∀ path ∈ outputs quoteOut receiptOut,
          world.files.Agree ending.world.files path) ∧
          ending.output = "" ∧
            ∃ asked, ending.world.requests = world.requests ++ asked ∧
              asked.length ≤ 1 ∧
                ((searched platform config world.files).Fail → asked = [])
  /-- Whatever fails, the receipt is what it was and none is printed. -/
  failed : ∀ failure, ending.result = .error failure →
    (∀ path ∈ receiptOut, world.files.Agree ending.world.files path) ∧
      ending.output = ""
  /-- If the quote cannot be written, attesting ends there. -/
  unwritten : ∀ attestation path fault,
    (ran platform config generator world).result = .ok attestation →
      path ∈ quoteOut →
        (ran platform config generator world).world.files.write path
            attestation.quote.bytes = .error fault →
          ending = .failed (.quoteUnwritten path fault)
            (ran platform config generator world).world
  /-- If the receipt has no document, attesting ends once the quote is
  written. -/
  undocumented : ∀ attestation written,
    (ran platform config generator world).result = .ok attestation →
      writeQuote attestation.quote quoteOut
          (ran platform config generator world).world = .ok written →
        ¬config.inputs.AreTexts →
          ending = .failed (.plain (.invalidReceipt .illFormedPath)) written
  /-- If nothing fails, the quote stands in its file, and the receipt is read
  back from its own or from what was printed. -/
  completed : ∀ receipt, ending.result = .ok receipt →
    ∃ quote, receipt.quote = some quote ∧
      (∀ path ∈ quoteOut, ending.world.files.Holds path quote.bytes) ∧
        (∀ path ∈ receiptOut, ∃ text,
          ending.world.files.readText path = .ok text ∧
            Receipt.ofJson text = .ok receipt) ∧
          (receiptOut = none → Receipt.ofJson ending.output = .ok receipt)

/-! ## The run -/

/-- The run leaves the files as they were, as the resolver leaves them or as the
generator does. -/
theorem files_ran (platform : Platform) (config : Config)
    (generator : Generator) (world : World) :
    (ran platform config generator world).world.files = world.files ∨
      (ran platform config generator world).world.files =
        resolved platform config world.files ∨
          ∃ reportData,
            (ran platform config generator world).world.files =
              (generator.generate (resolved platform config world.files)
                reportData).2 := by
  have leaves := Findings.files_search config.mode platform.schedule
    config.inputs (config.resolver platform.host) world.files
  unfold ran
  rcases searched : Findings.search config.mode platform.schedule
    config.inputs (config.resolver platform.host) world.files with
    ⟨findings, left⟩
  rw [searched] at leaves
  dsimp only at leaves
  cases outcome : findings.outcome with
  | error error =>
      rw [(Pipeline.new config.mode).run_of_error world.requests searched
        outcome]
      rcases leaves with isResolved | ⟨isUnchanged, -⟩
      · exact .inr (.inl isResolved)
      · exact .inl isUnchanged
  | ok provenance =>
      have isResolved : left = resolved platform config world.files := by
        rcases leaves with isResolved | ⟨-, fails⟩
        · exact isResolved
        · obtain ⟨error, failed⟩ := findings.outcome_isError_iff.mpr fails
          rw [outcome] at failed
          cases failed
      rw [(Pipeline.new config.mode).run_of_ok world.requests searched outcome
        rfl, isResolved]
      exact .inr (.inr ⟨provenance.reportData, rfl⟩)

/-- The run leaves alone what neither the resolver nor the generator touches. -/
theorem Untouched.agree_ran {path : HostText}
    (untouched : Untouched platform config generator world.files path) :
    world.files.Agree (ran platform config generator world).world.files
      path := by
  rcases files_ran platform config generator world with
    isUnchanged | isResolved | ⟨reportData, isLeft⟩
  · rw [isUnchanged]
    exact rfl
  · rw [isResolved]
    exact untouched.resolver
  · rw [isLeft]
    exact untouched.resolver.trans (untouched.generator reportData)

/-- The run asks for one quote at most, and for none unless all inputs are
found. -/
theorem requests_ran (platform : Platform) (config : Config)
    (generator : Generator) (world : World) :
    ∃ asked, (ran platform config generator world).world.requests =
        world.requests ++ asked ∧ asked.length ≤ 1 ∧
      ((searched platform config world.files).Fail → asked = []) := by
  unfold ran searched
  rcases searched : Findings.search config.mode platform.schedule
    config.inputs (config.resolver platform.host) world.files with
    ⟨findings, left⟩
  cases outcome : findings.outcome with
  | error error =>
      rw [(Pipeline.new config.mode).run_of_error world.requests searched
        outcome]
      exact ⟨[], (List.append_nil _).symm, Nat.zero_le 1, fun _ => rfl⟩
  | ok provenance =>
      rw [(Pipeline.new config.mode).run_of_ok world.requests searched outcome
        rfl]
      refine ⟨[provenance.reportData], rfl, Nat.le_refl 1, ?_⟩
      intro fails
      obtain ⟨error, failed⟩ := findings.outcome_isError_iff.mpr fails
      rw [outcome] at failed
      cases failed

/-! ## What follows on the run -/

/-- Attesting ends with the run, or goes on to the quote and then to the
receipt. -/
theorem attestWith_eq (platform : Platform) (config : Config)
    (generator : Generator) (quoteOut receiptOut : Option HostText)
    (world : World) :
    attestWith platform config generator quoteOut receiptOut world =
      match (ran platform config generator world).result with
      | .error error =>
          .failed (.attestationAborted error)
            (ran platform config generator world).world
      | .ok attestation =>
          match writeQuote attestation.quote quoteOut
              (ran platform config generator world).world with
          | .error failure =>
              .failed failure (ran platform config generator world).world
          | .ok written =>
              deliver (Receipt.ofAttestation config.inputs attestation)
                receiptOut written := by
  unfold attestWith ran
  cases (Pipeline.new config.mode).run platform.schedule config.inputs
    (config.resolver platform.host) generator world with
  | mk result pipeline left =>
      cases result with
      | error error => rfl
      | ok attestation => rfl

theorem attestWith_of_aborted {error : Error}
    (quoteOut receiptOut : Option HostText)
    (aborted : (ran platform config generator world).result = .error error) :
    attestWith platform config generator quoteOut receiptOut world =
      .failed (.attestationAborted error)
        (ran platform config generator world).world := by
  rw [attestWith_eq, aborted]

theorem attestWith_of_unwritten {attestation : Attestation}
    {failure : Failure} (receiptOut : Option HostText)
    (attested : (ran platform config generator world).result =
      .ok attestation)
    (unwritten : writeQuote attestation.quote quoteOut
      (ran platform config generator world).world = .error failure) :
    attestWith platform config generator quoteOut receiptOut world =
      .failed failure (ran platform config generator world).world := by
  rw [attestWith_eq, attested]
  dsimp only
  rw [unwritten]

theorem attestWith_of_written {attestation : Attestation} {written : World}
    (receiptOut : Option HostText)
    (attested : (ran platform config generator world).result =
      .ok attestation)
    (isWritten : writeQuote attestation.quote quoteOut
      (ran platform config generator world).world = .ok written) :
    attestWith platform config generator quoteOut receiptOut world =
      deliver (Receipt.ofAttestation config.inputs attestation) receiptOut
        written := by
  rw [attestWith_eq, attested]
  dsimp only
  rw [isWritten]

/-! ## The order of operations -/

/-- Whatever way to tell the revision is configured, it never answers that an
operation is out of order. -/
theorem Config.isOrderly_resolver (config : Config) (host : Program.Host) :
    (config.resolver host).IsOrderly := by
  unfold Config.resolver
  cases config.revisionSource with
  | metadata => exact Checkout.isOrderly_metadataResolver
  | program name =>
      exact Checkout.GitProgram.isOrderly_resolver host ⟨name, []⟩

theorem Delivers.result_ne_aborted {receipt : Receipt}
    {ending : Ending Receipt}
    (delivers : Delivers receipt world receiptOut ending) (error : Error) :
    ending.result ≠ .error (.attestationAborted error) := by
  cases delivers <;> nofun

/-- Only a run that fails is given as the reason for aborting. -/
theorem result_ran_of_aborted {error : Error}
    (aborted : (attestWith platform config generator quoteOut receiptOut
      world).result = .error (.attestationAborted error)) :
    (ran platform config generator world).result = .error error := by
  rw [attestWith_eq] at aborted
  split at aborted
  · next failed =>
      cases aborted
      exact failed
  · split at aborted
    · next isRefused =>
        cases aborted
        cases writesQuote_of_eq isRefused
    · exact absurd aborted ((delivers_deliver _ _ _).result_ne_aborted error)

/-- Attesting as it is configured never ends because an operation is out of
order, whatever the programs do that it runs. -/
theorem attest_ne_outOfOrder (platform : Platform) (config : Config)
    (quoteOut receiptOut : Option HostText) (world : World)
    (source target : Stage) :
    (attest platform config quoteOut receiptOut world).result ≠
      .error (.attestationAborted (.invalidTransition source target)) := by
  intro aborted
  let generator := config.command.generator platform.host
  let operation : Operation := .run platform.schedule config.inputs
    (config.resolver platform.host) generator
  have failed : (ran platform config generator world).result =
      .error (.invalidTransition source target) :=
    result_ran_of_aborted aborted
  apply (Pipeline.Landed.new config.mode).result_ne_invalidTransition
    ⟨world.files, operation⟩
    ⟨config.isOrderly_resolver platform.host,
      config.command.isOrderly_generator platform.host⟩
    (Pipeline.isDue_of_beginsAgain rfl _) world.requests source target
  exact congrArg (Except.map Answer.attestation) failed

/-! ## The outputs -/

section

variable {quote : Quote} {written : World}

/-- A quote that is written stands in its file. -/
theorem WritesQuote.holds {path : HostText}
    (writes : WritesQuote quote world quoteOut (.ok written))
    (isGiven : path ∈ quoteOut) : written.files.Holds path quote.bytes := by
  cases writes with
  | unwanted => cases isGiven
  | written isPut =>
      cases isGiven
      exact FileSystem.holds_write isPut

/-- Writing a quote changes no file but its own. -/
theorem WritesQuote.agree {other : HostText}
    (writes : WritesQuote quote world quoteOut (.ok written))
    (elsewhere : ∀ path ∈ quoteOut, ¬world.files.SamePlace path other) :
    world.files.Agree written.files other := by
  cases writes with
  | unwanted => exact rfl
  | written isPut => exact FileSystem.agree_write isPut (elsewhere _ rfl)

/-- Paths lead to the same file after a quote is written if they did before. -/
theorem WritesQuote.samePlace_iff
    (writes : WritesQuote quote world quoteOut (.ok written))
    (first second : HostText) :
    written.files.SamePlace first second ↔
      world.files.SamePlace first second := by
  cases writes with
  | unwanted => exact Iff.rfl
  | written isPut => exact FileSystem.samePlace_write isPut first second

theorem writeQuote_of_fault {path : HostText} {fault : Files.Fault}
    (isGiven : path ∈ quoteOut)
    (refused : world.files.write path quote.bytes = .error fault) :
    writeQuote quote quoteOut world = .error (.quoteUnwritten path fault) := by
  cases isGiven
  rw [writeQuote, refused]

end

section

variable {receipt other : Receipt} {ending : Ending Receipt}

/-- Delivering a receipt changes no file but its own. -/
theorem Delivers.agree {path : HostText}
    (delivers : Delivers receipt world receiptOut ending)
    (elsewhere : ∀ receiptPath ∈ receiptOut,
      ¬world.files.SamePlace receiptPath path) :
    world.files.Agree ending.world.files path := by
  cases delivers with
  | undocumented noDocument => exact rfl
  | printed isDocument => exact rfl
  | written isDocument isPut =>
      exact FileSystem.agree_write isPut (elsewhere _ rfl)
  | refused isDocument isRefused => exact rfl

/-- A receipt that is delivered to a file is read back from it. -/
theorem Delivers.ofJson_readText {path : HostText}
    (delivers : Delivers receipt world receiptOut ending)
    (isGiven : path ∈ receiptOut) (succeeded : ending.result = .ok other) :
    ∃ text, ending.world.files.readText path = .ok text ∧
      Receipt.ofJson text = .ok receipt := by
  cases delivers with
  | undocumented noDocument => cases succeeded
  | printed isDocument => cases isGiven
  | written isDocument isPut =>
      cases isGiven
      have holds := FileSystem.holds_write isPut
      exact ⟨_, holds.readText_eq_ok, Receipt.ofJson_toJson isDocument⟩
  | refused isDocument isRefused => cases succeeded

/-- A receipt that is printed is read back from what is printed. -/
theorem Delivers.ofJson_output
    (delivers : Delivers receipt world none ending)
    (succeeded : ending.result = .ok other) :
    Receipt.ofJson ending.output = .ok receipt := by
  cases delivers with
  | undocumented noDocument => cases succeeded
  | printed isDocument =>
      obtain ⟨areTexts, rfl⟩ := Receipt.toJson_eq_ok_iff.mp isDocument
      apply Receipt.ofJson_append areTexts
      intro character isFeed
      rw [List.mem_singleton.mp isFeed]
      rfl

/-- A receipt without a document is not delivered. -/
theorem deliver_of_not_areTexts (notTexts : ¬receipt.inputs.AreTexts)
    (receiptOut : Option HostText) (world : World) :
    deliver receipt receiptOut world =
      .failed (.plain (.invalidReceipt .illFormedPath)) world := by
  rw [deliver, Receipt.toJson_of_not_areTexts notTexts]

end

/-! ## What attesting leaves of its outputs -/

/-- Whatever fails, the receipt is what it was and none is printed. -/
theorem Separate.of_failed {failure : Failure}
    (separate : Separate platform config generator quoteOut receiptOut world)
    (failed : (attestWith platform config generator quoteOut receiptOut
      world).result = .error failure) :
    (∀ path ∈ receiptOut, world.files.Agree
      (attestWith platform config generator quoteOut receiptOut
        world).world.files path) ∧
      (attestWith platform config generator quoteOut receiptOut
        world).output = "" := by
  have kept (path : HostText) (isGiven : path ∈ receiptOut) :
      world.files.Agree (ran platform config generator world).world.files
        path :=
    (separate.untouched path (mem_outputs.mpr (.inr isGiven))).agree_ran
  cases result : (ran platform config generator world).result with
  | error error =>
      rw [attestWith_of_aborted quoteOut receiptOut result]
      exact ⟨kept, rfl⟩
  | ok attestation =>
      cases isWritten : writeQuote attestation.quote quoteOut
          (ran platform config generator world).world with
      | error fault =>
          rw [attestWith_of_unwritten receiptOut result isWritten]
          exact ⟨kept, rfl⟩
      | ok written =>
          rw [attestWith_of_written receiptOut result isWritten] at failed ⊢
          rw [(delivers_deliver _ _ _).eq_failed failed]
          refine ⟨?_, rfl⟩
          intro path isGiven
          have elsewhere : ∀ quotePath ∈ quoteOut,
              ¬(ran platform config generator world).world.files.SamePlace
                quotePath path := by
            intro quotePath isQuote
            exact separate.apart quotePath isQuote path isGiven
          exact (kept path isGiven).trans
            ((writesQuote_of_eq isWritten).agree elsewhere)

/-- If nothing fails, both outputs are there. -/
theorem Separate.of_completed {receipt : Receipt}
    (separate : Separate platform config generator quoteOut receiptOut world)
    (succeeded : (attestWith platform config generator quoteOut receiptOut
      world).result = .ok receipt) :
    ∃ quote, receipt.quote = some quote ∧
      (∀ path ∈ quoteOut,
        (attestWith platform config generator quoteOut receiptOut
          world).world.files.Holds path quote.bytes) ∧
        (∀ path ∈ receiptOut, ∃ text,
          (attestWith platform config generator quoteOut receiptOut
            world).world.files.readText path = .ok text ∧
            Receipt.ofJson text = .ok receipt) ∧
          (receiptOut = none →
            Receipt.ofJson (attestWith platform config generator quoteOut
              receiptOut world).output = .ok receipt) := by
  cases result : (ran platform config generator world).result with
  | error error =>
      rw [attestWith_of_aborted quoteOut receiptOut result] at succeeded
      cases succeeded
  | ok attestation =>
      cases isWritten : writeQuote attestation.quote quoteOut
          (ran platform config generator world).world with
      | error fault =>
          rw [attestWith_of_unwritten receiptOut result isWritten] at succeeded
          cases succeeded
      | ok written =>
          rw [attestWith_of_written receiptOut result isWritten]
            at succeeded ⊢
          have writes := writesQuote_of_eq isWritten
          have delivers := delivers_deliver
            (Receipt.ofAttestation config.inputs attestation) receiptOut
            written
          obtain rfl := delivers.eq_of_ok succeeded
          refine ⟨attestation.quote, rfl, ?_, ?_, ?_⟩
          · intro path isQuote
            -- The receipt is not written over the quote.
            have elsewhere : ∀ receiptPath ∈ receiptOut,
                ¬written.files.SamePlace receiptPath path := by
              intro receiptPath isGiven
              rw [writes.samePlace_iff, FileSystem.samePlace_comm]
              exact separate.apart path isQuote receiptPath isGiven
            exact (delivers.agree elsewhere).holds (writes.holds isQuote)
          · intro path isGiven
            exact delivers.ofJson_readText isGiven succeeded
          · rintro rfl
            exact delivers.ofJson_output succeeded

/-- Attesting leaves a receipt exactly where it succeeds, and the quote with it;
a run that fails leaves both outputs what they were. -/
theorem attest_keeps_outputs (platform : Platform) (config : Config)
    (generator : Generator) (quoteOut receiptOut : Option HostText)
    (world : World)
    (separate :
      Separate platform config generator quoteOut receiptOut world) :
    KeepsOutputs platform config generator quoteOut receiptOut world
      (attestWith platform config generator quoteOut receiptOut world) := by
  constructor
  case aborted =>
    intro error result
    obtain ⟨asked, requests, atMostOne, notIfMissing⟩ :=
      requests_ran platform config generator world
    rw [attestWith_of_aborted quoteOut receiptOut result]
    refine ⟨rfl, ?_, rfl, asked, requests, atMostOne, notIfMissing⟩
    intro path isOutput
    exact (separate.untouched path isOutput).agree_ran
  case failed =>
    intro failure failed
    exact separate.of_failed failed
  case unwritten =>
    intro attestation path fault attested isGiven refused
    exact attestWith_of_unwritten receiptOut attested
      (writeQuote_of_fault isGiven refused)
  case undocumented =>
    intro attestation written attested isWritten notTexts
    rw [attestWith_of_written receiptOut attested isWritten]
    exact deliver_of_not_areTexts notTexts receiptOut written
  case completed =>
    intro receipt succeeded
    exact separate.of_completed succeeded

/-- Where the resolver only reads, a generator that changes no files keeps
outputs apart that are different files. -/
theorem separate_sample {files : FileSystem}
    {lookUp : FileSystem → HostText → Except Error RevisionId}
    (reads : config.resolver platform.host = .reading lookUp)
    (apart : ¬files.SamePlace "quote" "receipt") :
    Separate platform config sampleGenerator (some "quote")
      (some "receipt") ⟨files, []⟩ := by
  have isResolved : resolved platform config files = files := by
    rw [resolved, reads]
    rfl
  constructor
  case untouched =>
    intro path _
    refine ⟨?_, fun _ => rfl⟩
    rw [isResolved]
    exact rfl
  case apart =>
    rintro _ ⟨⟩ _ ⟨⟩
    rcases files_ran platform config sampleGenerator ⟨files, []⟩ with
      isLeft | isLeft | ⟨_, isLeft⟩
    · rw [isLeft]
      exact apart
    · rw [isLeft, isResolved]
      exact apart
    · rw [isLeft, isResolved]
      exact apart

/-- Outputs that lead to places of their own are different files. -/
theorem apart_outputs {files : FileSystem}
    (quote : files.location? "quote" = some (["quote"] : Location))
    (receipt : files.location? "receipt" = some (["receipt"] : Location)) :
    ¬files.SamePlace "quote" "receipt" := by
  intro same
  have sameLocation := same.location?_eq
  rw [quote, receipt] at sameLocation
  exact absurd sameLocation (by decide)

/-- Files without inputs, where a receipt was left before. -/
def leftoverFiles : FileSystem :=
  FileSystem.empty.put ["receipt"] (.file [1] false)

theorem aborted_leftover :
    (∃ error, (ran samplePlatform sampleConfig sampleGenerator
      ⟨leftoverFiles, []⟩).result = .error error) ∧
      (searched samplePlatform sampleConfig leftoverFiles).Fail := by
  have found := Findings.search_reading sampleConfig.mode
    samplePlatform.schedule sampleConfig.inputs lookUp leftoverFiles
  have isMissing : leftoverFiles.hashFile .toolchain "tool" =
      .error (.inputNotFound .toolchain "tool") := rfl
  have fails : (Findings.direct sampleConfig.inputs lookUp
      leftoverFiles).Fail := .inl ⟨_, isMissing⟩
  obtain ⟨error, outcome⟩ := Findings.outcome_isError_iff _ |>.mpr fails
  refine ⟨⟨error, ?_⟩, ?_⟩
  · exact congrArg Step.result
      ((Pipeline.new sampleConfig.mode).run_of_error [] found outcome)
  · have isFound := congrArg Prod.fst found
    change searched samplePlatform sampleConfig leftoverFiles = _ at isFound
    rw [isFound]
    exact fails

/-- Files with a toolchain whose path is no text, where a receipt was left
before. -/
def mutedFiles : FileSystem :=
  unutterableFiles.put ["receipt"] (.file [1] false)

/-- The run on these files is answered, and the quote can be written. -/
theorem attested_muted :
    ∃ attestation written,
      (ran tellingPlatform unutterableConfig sampleGenerator
        ⟨mutedFiles, []⟩).result = .ok attestation ∧
      writeQuote attestation.quote (some "quote")
        (ran tellingPlatform unutterableConfig sampleGenerator
          ⟨mutedFiles, []⟩).world = .ok written := by
  have reads := unutterableConfig.resolver_of_inert inert_telling
  obtain ⟨provenance, found⟩ := @outcome_asking unutterableConfig mutedFiles
    [1] [] _ rfl (.directory rfl rfl) ⟨true, rfl⟩ ⟨false, rfl⟩
  have search := Findings.search_reading unutterableConfig.mode
    tellingPlatform.schedule unutterableConfig.inputs
    (fun files checkout => (unutterableConfig.resolver tellingPlatform.host
      files checkout).1) mutedFiles
  rw [← reads] at search
  have isRan : ran tellingPlatform unutterableConfig sampleGenerator
      ⟨mutedFiles, []⟩ = _ :=
    (Pipeline.new unutterableConfig.mode).run_of_ok [] search found rfl
  rw [isRan]
  exact ⟨_, _, rfl, rfl⟩

/-- The sample leaves its quote and its receipt.  Where there are no inputs, a
receipt from before stays, and no quote is asked for.  It stays as well where
the path of the toolchain is no text, but the quote has been written by then. -/
theorem attest_keeps_outputs_samples :
    (∃ receipt quote text,
      let ending := attestWith samplePlatform sampleConfig sampleGenerator
        (some "quote") (some "receipt") ⟨sampleFiles, []⟩
      ending.result = .ok receipt ∧ receipt.quote = some quote ∧
        ending.world.files.Holds "quote" quote.bytes ∧
          ending.world.files.readText "receipt" = .ok text ∧
            Receipt.ofJson text = .ok receipt) ∧
    (∃ failure,
      let ending := attestWith samplePlatform sampleConfig sampleGenerator
        (some "quote") (some "receipt") ⟨leftoverFiles, []⟩
      ending.result = .error failure ∧
        ending.world.files.Holds "receipt" [1] ∧
          ending.world.requests = []) ∧
    ∃ quote : Quote,
      let ending := attestWith tellingPlatform unutterableConfig
        sampleGenerator (some "quote") (some "receipt") ⟨mutedFiles, []⟩
      ending.result = .error (.plain (.invalidReceipt .illFormedPath)) ∧
        ending.world.files.Holds "quote" quote.bytes ∧
          ending.world.files.Holds "receipt" [1] := by
  refine ⟨?_, ?_, ?_⟩
  · have keeps := attest_keeps_outputs samplePlatform sampleConfig
      sampleGenerator (some "quote") (some "receipt") ⟨sampleFiles, []⟩
      (separate_sample (resolver_of_metadata rfl _) apart_sample.outputs)
    obtain ⟨receipt, succeeded⟩ := attestWith_sample
    obtain ⟨quote, hasQuote, holds, tells, -⟩ :=
      keeps.completed receipt succeeded
    obtain ⟨text, isText, isReceipt⟩ := tells "receipt" rfl
    exact ⟨receipt, quote, text, succeeded, hasQuote, holds "quote" rfl,
      isText, isReceipt⟩
  · have keeps := attest_keeps_outputs samplePlatform sampleConfig
      sampleGenerator (some "quote") (some "receipt") ⟨leftoverFiles, []⟩
      (separate_sample (resolver_of_metadata rfl _) (apart_outputs rfl rfl))
    obtain ⟨⟨error, aborted⟩, fails⟩ := aborted_leftover
    obtain ⟨failed, kept, -, asked, requests, -, notAsked⟩ :=
      keeps.aborted error aborted
    have holds : leftoverFiles.Holds "receipt" [1] := ⟨false, rfl⟩
    rw [notAsked fails] at requests
    exact ⟨_, failed, (kept "receipt" (by simp)).holds holds, requests⟩
  · have keeps := attest_keeps_outputs tellingPlatform unutterableConfig
      sampleGenerator (some "quote") (some "receipt") ⟨mutedFiles, []⟩
      (separate_sample (unutterableConfig.resolver_of_inert inert_telling)
        (apart_outputs rfl rfl))
    obtain ⟨attestation, written, attested, isWritten⟩ := attested_muted
    have isEnded := keeps.undocumented attestation written attested isWritten
      not_areTexts_unutterable
    have failed := congrArg Ending.result isEnded
    obtain ⟨kept, -⟩ := keeps.failed _ failed
    have holds : mutedFiles.Holds "receipt" [1] := ⟨false, rfl⟩
    refine ⟨attestation.quote, failed, ?_, (kept "receipt" rfl).holds holds⟩
    rw [isEnded]
    exact (writesQuote_of_eq isWritten).holds rfl

end Attest
end ReportBinding
