import ReportBinding.Attest.Config
import ReportBinding.Failure
import ReportBinding.Receipt.Document

/-!
# Attesting and binding

The two commands that make receipts.  Attesting takes a run to its end and
writes the quote and the receipt; a run that fails leaves neither.  What fails
after the run, a write or a receipt without a document, ends the command with
what has been written so far.  Binding stops where a quote would be asked for.
-/

namespace ReportBinding
namespace Attest

/-- What a run depends on besides its configuration and the files. -/
structure Platform where
  host : Program.Host
  /-- The order in which tasks take effect that run at the same time. -/
  schedule : Schedule

/-- What a command leaves behind. -/
structure Ending (α : Type) where
  result : Except Failure α
  world : World
  /-- What was printed to the standard output. -/
  output : String
  /-- What was printed to the standard error. -/
  errors : String

/-- End with a failure and print nothing. -/
def Ending.failed {α : Type} (failure : Failure) (world : World) :
    Ending α :=
  ⟨.error failure, world, "", ""⟩

/-- Write the document of a receipt to a file, or print it if there is no file.
A receipt may have no document. -/
def deliver (receipt : Receipt) (path : Option HostText) (world : World) :
    Ending Receipt :=
  match receipt.toJson with
  | .error error => .failed (.plain error) world
  | .ok json =>
      match path with
      | none => ⟨.ok receipt, world, json ++ "\n", ""⟩
      | some path =>
          match world.files.write path (Text.Utf8.encode json) with
          | .ok files => ⟨.ok receipt, { world with files := files }, "", ""⟩
          | .error fault => .failed (.receiptUnwritten path fault) world

/-- Write a quote to a file, if there is one. -/
def writeQuote (quote : Quote) (path : Option HostText) (world : World) :
    Except Failure World :=
  match path with
  | none => .ok world
  | some path =>
      match world.files.write path quote.bytes with
      | .ok files => .ok { world with files := files }
      | .error fault => .error (.quoteUnwritten path fault)

/-- Attest with a generator, and write the quote and the receipt. -/
def attestWith (platform : Platform) (config : Config)
    (generator : Generator) (quoteOut receiptOut : Option HostText)
    (world : World) : Ending Receipt :=
  match (Pipeline.new config.mode).run platform.schedule config.inputs
      (config.resolver platform.host) generator world with
  | ⟨.error error, _, world⟩ => .failed (.attestationAborted error) world
  | ⟨.ok attestation, _, world⟩ =>
      match writeQuote attestation.quote quoteOut world with
      | .error failure => .failed failure world
      | .ok world =>
          deliver (Receipt.ofAttestation config.inputs attestation) receiptOut
            world

/-- Attest with the generator that is configured. -/
def attest (platform : Platform) (config : Config)
    (quoteOut receiptOut : Option HostText) (world : World) : Ending Receipt :=
  attestWith platform config (config.command.generator platform.host)
    quoteOut receiptOut world

/-- What a binding prints. -/
structure BindOptions where
  /-- Print the bound string too. -/
  showBoundString : Bool
  /-- Print a receipt in place of the report data. -/
  asReceipt : Bool
deriving DecidableEq, Repr

/-- Bind the inputs. -/
def bind (platform : Platform) (config : Config) (options : BindOptions)
    (world : World) : Ending BoundProvenance :=
  match (Pipeline.new config.mode).prepare platform.schedule config.inputs
      (config.resolver platform.host) world with
  | ⟨.error error, _, world⟩ => .failed (.bindingAborted error) world
  | ⟨.ok bound, _, world⟩ =>
      if options.asReceipt then
        match (Receipt.ofBound config.inputs bound).toJson with
        | .ok json => ⟨.ok bound, world, json ++ "\n", ""⟩
        | .error error => .failed (.plain error) world
      else
        ⟨.ok bound, world, bound.reportData.toHex ++ "\n",
          if options.showBoundString then
            "bound string: " ++ bound.provenance.boundString ++ "\n"
          else ""⟩

end Attest
end ReportBinding
