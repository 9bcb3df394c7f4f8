import ReportBinding.Attest.Basic
import ReportBinding.Proofs.Pipeline.Landing

/-!
# What attesting leaves behind

Attesting with both output paths succeeds exactly if the inputs are found, the
generator answers, the quote can be written, the receipt has a document and the
document can be written, in this order.
`attestWith_of_ok` says what is left then, and `attestWith_eq_ok` that there is
no other way to succeed.  How either write comes out is said in `WritesQuote`
and `Delivers`.
-/

namespace ReportBinding
namespace Attest

/-! ## The two writes -/

/-- How writing a quote comes out, by the file that it is wanted in. -/
inductive WritesQuote (quote : Quote) (world : World) :
    Option HostText → Except Failure World → Prop where
  /-- It is wanted in no file. -/
  | unwanted : WritesQuote quote world none (.ok world)
  /-- It is written. -/
  | written {path : HostText} {files : FileSystem}
      (isPut : world.files.write path quote.bytes = .ok files) :
      WritesQuote quote world (some path) (.ok { world with files := files })
  /-- The write is refused. -/
  | refused {path : HostText} {fault : Files.Fault}
      (isRefused : world.files.write path quote.bytes = .error fault) :
      WritesQuote quote world (some path)
        (.error (.quoteUnwritten path fault))

/-- How delivering a receipt comes out, by the file that it is wanted in. -/
inductive Delivers (receipt : Receipt) (world : World) :
    Option HostText → Ending Receipt → Prop where
  /-- It has no document. -/
  | undocumented {path : Option HostText} {error : Error}
      (noDocument : receipt.toJson = .error error) :
      Delivers receipt world path (.failed (.plain error) world)
  /-- It is wanted in no file, and its document is printed. -/
  | printed {document : String}
      (isDocument : receipt.toJson = .ok document) :
      Delivers receipt world none
        ⟨.ok receipt, world, document ++ "\n", ""⟩
  /-- Its document is written. -/
  | written {path : HostText} {document : String} {files : FileSystem}
      (isDocument : receipt.toJson = .ok document)
      (isPut : world.files.write path (Text.Utf8.encode document) =
        .ok files) :
      Delivers receipt world (some path)
        ⟨.ok receipt, { world with files := files }, "", ""⟩
  /-- The write of its document is refused. -/
  | refused {path : HostText} {document : String} {fault : Files.Fault}
      (isDocument : receipt.toJson = .ok document)
      (isRefused : world.files.write path (Text.Utf8.encode document) =
        .error fault) :
      Delivers receipt world (some path)
        (.failed (.receiptUnwritten path fault) world)

section

variable {quote : Quote} {receipt : Receipt} {path : Option HostText}
  {world : World}

theorem writesQuote_of_eq {result : Except Failure World}
    (comesTo : writeQuote quote path world = result) :
    WritesQuote quote world path result := by
  rw [← comesTo]
  unfold writeQuote
  split
  · exact .unwanted
  · split
    · next isPut => exact .written isPut
    · next isRefused => exact .refused isRefused

theorem delivers_deliver (receipt : Receipt) (path : Option HostText)
    (world : World) :
    Delivers receipt world path (deliver receipt path world) := by
  unfold deliver
  split
  · next noDocument => exact .undocumented noDocument
  · next isDocument =>
      split
      · exact .printed isDocument
      · split
        · next isPut => exact .written isDocument isPut
        · next isRefused => exact .refused isDocument isRefused

variable {ending : Ending Receipt}

/-- What is delivered is the receipt. -/
theorem Delivers.eq_of_ok {other : Receipt}
    (delivers : Delivers receipt world path ending)
    (succeeded : ending.result = .ok other) : other = receipt := by
  cases delivers with
  | undocumented noDocument => cases succeeded
  | printed isDocument =>
      cases succeeded
      rfl
  | written isDocument isPut =>
      cases succeeded
      rfl
  | refused isDocument isRefused => cases succeeded

/-- A receipt that cannot be delivered changes nothing and is not printed. -/
theorem Delivers.eq_failed {failure : Failure}
    (delivers : Delivers receipt world path ending)
    (failed : ending.result = .error failure) :
    ending = .failed failure world := by
  cases delivers with
  | undocumented noDocument =>
      cases failed
      rfl
  | printed isDocument => cases failed
  | written isDocument isPut => cases failed
  | refused isDocument isRefused =>
      cases failed
      rfl

end

/-! ## Success -/

variable {platform : Platform} {config : Config} {generator : Generator}
  {quoteOut receiptOut : HostText} {world : World} {findings : Findings}
  {left : FileSystem}

/-- The receipt that a run leaves of what it found and was answered. -/
def receiptOf (config : Config) (provenance : Provenance) (quote : Quote) :
    Receipt :=
  .build config.inputs provenance provenance.reportData (some quote)

/-- A run that finds its inputs, is answered and can write both files leaves
them behind. -/
theorem attestWith_of_ok {provenance : Provenance} {quote : Quote}
    {document : String} {asked withQuote written : FileSystem}
    (searched : Findings.search config.mode platform.schedule config.inputs
      (config.resolver platform.host) world.files = (findings, left))
    (succeeded : findings.outcome = .ok provenance)
    (answered : generator.generate left provenance.reportData =
      (.ok quote, asked))
    (quoteWritten : asked.write quoteOut quote.bytes = .ok withQuote)
    (isDocument : (receiptOf config provenance quote).toJson = .ok document)
    (receiptWritten : withQuote.write receiptOut
      (Text.Utf8.encode document) = .ok written) :
    attestWith platform config generator (some quoteOut) (some receiptOut)
        world =
      ⟨.ok (receiptOf config provenance quote),
        ⟨written, world.requests ++ [provenance.reportData]⟩, "", ""⟩ := by
  unfold attestWith
  rw [(Pipeline.new config.mode).run_of_ok world.requests searched succeeded
    answered]
  simp only [Except.map, writeQuote, quoteWritten, deliver,
    Receipt.ofAttestation]
  unfold receiptOf at isDocument ⊢
  simp only [isDocument, receiptWritten]

/-- A run that succeeds has found its inputs, was answered and has written both
files. -/
theorem attestWith_eq_ok {receipt : Receipt}
    (searched : Findings.search config.mode platform.schedule config.inputs
      (config.resolver platform.host) world.files = (findings, left))
    (succeeded : (attestWith platform config generator (some quoteOut)
      (some receiptOut) world).result = .ok receipt) :
    ∃ provenance quote document asked withQuote written,
      findings.outcome = .ok provenance ∧
        generator.generate left provenance.reportData = (.ok quote, asked) ∧
          asked.write quoteOut quote.bytes = .ok withQuote ∧
            receipt.toJson = .ok document ∧
              withQuote.write receiptOut (Text.Utf8.encode document) =
                .ok written ∧
                receipt = receiptOf config provenance quote := by
  unfold attestWith at succeeded
  cases outcome : findings.outcome with
  | error error =>
      rw [(Pipeline.new config.mode).run_of_error world.requests searched
        outcome] at succeeded
      cases succeeded
  | ok provenance =>
      rcases answered : generator.generate left provenance.reportData with
        ⟨answer, asked⟩
      rw [(Pipeline.new config.mode).run_of_ok world.requests searched outcome
        answered] at succeeded
      cases answer with
      | error error => cases succeeded
      | ok quote =>
          simp only [Except.map, writeQuote] at succeeded
          cases quoteWritten : asked.write quoteOut quote.bytes with
          | error fault =>
              simp only [quoteWritten] at succeeded
              cases succeeded
          | ok withQuote =>
              simp only [quoteWritten, deliver] at succeeded
              split at succeeded
              · cases succeeded
              · next document isDocument =>
                  split at succeeded
                  · next written receiptWritten =>
                      cases succeeded
                      exact ⟨provenance, quote, document, asked, withQuote,
                        written, rfl, answered, quoteWritten, isDocument,
                        receiptWritten, rfl⟩
                  · cases succeeded

end Attest
end ReportBinding
