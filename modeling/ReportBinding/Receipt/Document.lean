import ReportBinding.Receipt.Basic
import ReportBinding.Receipt.Values

/-!
# Receipt documents

A receipt is kept as a JSON document.  The member for the quote is left out
when there is no quote.
-/

namespace ReportBinding
namespace Receipt

open Json

/-- A member of a receipt document. -/
inductive Field where
  | version
  | fileDigest
  | reportDataDigest
  | separator
  | inputs
  | provenance
  | boundString
  | reportData
  | quote
deriving DecidableEq, Repr

/-- All members, in order. -/
def Field.all : List Field :=
  [.version, .fileDigest, .reportDataDigest, .separator, .inputs,
    .provenance, .boundString, .reportData, .quote]

/-- The name of a member. -/
def Field.name : Field → String
  | .version => "version"
  | .fileDigest => "file_digest"
  | .reportDataDigest => "report_data_digest"
  | .separator => "delimiter"
  | .inputs => "inputs"
  | .provenance => "provenance"
  | .boundString => "bound_string"
  | .reportData => "report_data"
  | .quote => "quote"

/-- A receipt as far as it has been read. -/
structure Draft where
  version : Option Nat
  fileDigest : Option String
  reportDataDigest : Option String
  separator : Option String
  inputs : Option InputPaths
  provenance : Option Provenance
  boundString : Option String
  reportData : Option ReportData
  /-- Whether there is a quote, once the member has been read. -/
  quote : Option (Option Quote)

/-- A receipt of which nothing has been read. -/
def Draft.empty : Draft :=
  ⟨none, none, none, none, none, none, none, none, none⟩

/-- Whether a member has been read. -/
def Draft.has (draft : Draft) : Field → Bool
  | .version => draft.version.isSome
  | .fileDigest => draft.fileDigest.isSome
  | .reportDataDigest => draft.reportDataDigest.isSome
  | .separator => draft.separator.isSome
  | .inputs => draft.inputs.isSome
  | .provenance => draft.provenance.isSome
  | .boundString => draft.boundString.isSome
  | .reportData => draft.reportData.isSome
  | .quote => draft.quote.isSome

/-- Read a quote, or null in its place. -/
def readQuote (node : Node) : Except Json.Fault (Option Quote) :=
  match node with
  | .null => .ok none
  | node => (Quote.read node).map some

/-- Read the value of a member. -/
def readField (field : Field) (node : Node) (draft : Draft) :
    Except Json.Fault Draft :=
  match field with
  | .version =>
      node.number32.map fun version => { draft with version := some version }
  | .fileDigest =>
      (node.text .text).map fun text => { draft with fileDigest := some text }
  | .reportDataDigest =>
      (node.text .text).map fun text =>
        { draft with reportDataDigest := some text }
  | .separator =>
      (node.text .text).map fun text => { draft with separator := some text }
  | .inputs =>
      (InputPaths.read node).map fun paths =>
        { draft with inputs := some paths }
  | .provenance =>
      (Provenance.read node).map fun provenance =>
        { draft with provenance := some provenance }
  | .boundString =>
      (node.text .text).map fun text => { draft with boundString := some text }
  | .reportData =>
      (ReportData.read node).map fun reportData =>
        { draft with reportData := some reportData }
  | .quote =>
      (readQuote node).map fun quote => { draft with quote := some quote }

/-- The receipt of a draft that has all members it needs. -/
def Draft.result? : Draft → Option Receipt
  | ⟨some version, some fileDigest, some reportDataDigest, some separator,
      some inputs, some provenance, some boundString, some reportData,
      quote⟩ =>
      if fits : version < numberBound then
        some ⟨version, fits, fileDigest, reportDataDigest, separator, inputs,
          provenance, boundString, reportData, quote.getD none⟩
      else none
  | _ => none

/-- The record type of receipts. -/
def recordType : RecordType Field Draft Receipt where
  name := "AttestationReceipt"
  fields := Field.all
  fieldName := Field.name
  isOptional field := field == .quote
  empty := Draft.empty
  has := Draft.has
  readField := readField
  result? := Draft.result?

/-- Read a receipt. -/
def read (node : Node) : Except Json.Fault Receipt :=
  recordType.read node

/-- Write a receipt whose input paths have been written. -/
def toNodeWith (receipt : Receipt) (inputs : Node) : Node :=
  .ofMembers
    ([(Field.version.name, .ofNat receipt.version),
      (Field.fileDigest.name, .ofText receipt.fileDigest),
      (Field.reportDataDigest.name, .ofText receipt.reportDataDigest),
      (Field.separator.name, .ofText receipt.separator),
      (Field.inputs.name, inputs),
      (Field.provenance.name, receipt.provenance.toNode),
      (Field.boundString.name, .ofText receipt.boundString),
      (Field.reportData.name, receipt.reportData.toNode)] ++
        match receipt.quote with
        | some quote => [(Field.quote.name, quote.toNode)]
        | none => [])

/-- The document of a receipt.  There is none if an input path is no text. -/
def toJson (receipt : Receipt) : Except Error String :=
  match receipt.inputs.toNode with
  | .ok inputs => .ok (receipt.toNodeWith inputs).toText
  | .error fault => .error (.invalidReceipt fault)

/-- The receipt of a document. -/
def ofJson (text : String) : Except Error Receipt :=
  match (Document.ofText text).read read with
  | .ok receipt => .ok receipt
  | .error fault => .error (.invalidReceipt (.unreadable fault))

end Receipt
end ReportBinding
