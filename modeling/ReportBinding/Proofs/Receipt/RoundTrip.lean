import ReportBinding.Proofs.Json.RoundTrip
import ReportBinding.Proofs.Receipt.Reading

/-!
# Reading receipts back

A receipt has a document exactly if its input paths are texts.  The document
tells the receipt, in whatever order its members stand, so the receipt is read
back from it: `Receipt.ofJson_toJson`.  What is told by any other text is
rewritten to this document.
-/

namespace ReportBinding
namespace Receipt

open Json

/-! ## Documents -/

/-- The value of a member in the document of a receipt. -/
def Field.node (receipt : Receipt) : Field → Node
  | .version => .ofNat receipt.version
  | .fileDigest => .ofText receipt.fileDigest
  | .reportDataDigest => .ofText receipt.reportDataDigest
  | .separator => .ofText receipt.separator
  | .inputs => receipt.inputs.node
  | .provenance => receipt.provenance.toNode
  | .boundString => .ofText receipt.boundString
  | .reportData => receipt.reportData.toNode
  | .quote => (receipt.quote.map Quote.toNode).getD .null

/-- The members that the document of a receipt has. -/
def fields (receipt : Receipt) : List Field :=
  if receipt.quote.isSome then Field.all else Field.all.dropLast

/-- The document that has some members of a receipt, as they stand. -/
def arranged (receipt : Receipt) (fields : List Field) : Node :=
  .ofMembers (fields.map fun field => (field.name, field.node receipt))

theorem toNodeWith_node (receipt : Receipt) :
    receipt.toNodeWith receipt.inputs.node =
      receipt.arranged receipt.fields := by
  obtain ⟨version, fits, fileDigest, reportDataDigest, separator, inputs,
    provenance, boundString, reportData, quote⟩ := receipt
  cases quote <;> rfl

/-- The text that has the members of a receipt in their order. -/
def document (receipt : Receipt) : String :=
  (receipt.arranged receipt.fields).toText

/-- A receipt whose input paths are texts has a document, with its members in
their order. -/
theorem toJson_of_areTexts {receipt : Receipt}
    (areTexts : receipt.inputs.AreTexts) :
    receipt.toJson = .ok receipt.document := by
  rw [document, ← toNodeWith_node, toJson,
    InputPaths.toNode_of_areTexts areTexts]

/-- A receipt with an input path that is no text has no document. -/
theorem toJson_of_not_areTexts {receipt : Receipt}
    (notTexts : ¬receipt.inputs.AreTexts) :
    receipt.toJson = .error (.invalidReceipt .illFormedPath) := by
  rw [toJson, InputPaths.toNode_of_not_areTexts notTexts]

theorem toJson_eq_ok_iff {receipt : Receipt} {text : String} :
    receipt.toJson = .ok text ↔
      receipt.inputs.AreTexts ∧ text = receipt.document := by
  by_cases areTexts : receipt.inputs.AreTexts
  · rw [toJson_of_areTexts areTexts, Except.ok.injEq, eq_comm]
    exact (and_iff_right areTexts).symm
  · simp [toJson_of_not_areTexts areTexts, areTexts]

variable {receipt : Receipt}

/-- The value that is written for a member stands for it. -/
theorem stands_node (areTexts : receipt.inputs.AreTexts) (field : Field) :
    receipt.Stands field (field.node receipt) := by
  cases field with
  | version => exact .version
  | fileDigest => exact .fileDigest
  | reportDataDigest => exact .reportDataDigest
  | separator => exact .separator
  | inputs => exact .inputs (InputPaths.tells_node areTexts)
  | provenance => exact .provenance receipt.provenance.tells_toNode
  | boundString => exact .boundString
  | reportData =>
      exact .reportData (.bare (Hex.spells_encodeChars receipt.reportData.bytes))
  | quote =>
      cases hasQuote : receipt.quote with
      | none =>
          rw [Field.node, hasQuote]
          exact .noQuote hasQuote
      | some quote =>
          rw [Field.node, hasQuote]
          exact .quote hasQuote (.bare (Hex.spells_encodeChars quote.bytes))

/-- The members of a receipt tell it, in whatever order they stand. -/
theorem tells_arranged (areTexts : receipt.inputs.AreTexts)
    {fields : List Field} (isPermuted : fields.Perm receipt.fields) :
    receipt.Tells (receipt.arranged fields) := by
  have lists := recordType.lists_map (stands_node areTexts) fields
  unfold Receipt.fields at isPermuted
  split at isPermuted
  · exact .whole (.object isPermuted lists)
  · next isNone =>
      exact .quoteless (Option.not_isSome_iff_eq_none.mp isNone)
        (.object isPermuted lists)

/-- The value of each member can be told from its text. -/
theorem Field.isPlain_node (receipt : Receipt) (field : Field) :
    (field.node receipt).IsPlain := by
  have version : (Node.ofNat receipt.version).IsPlain :=
    ⟨receipt.version, rfl⟩
  cases field with
  | version => exact version
  | quote =>
      cases hasQuote : receipt.quote <;>
        simp [Field.node, hasQuote, Quote.toNode, Node.ofText, Node.IsPlain]
  | _ =>
      simp [Field.node, Node.ofMembers, Node.ofText, InputPaths.node,
        Input.all, Provenance.toNode, FileDigest.toNode, RevisionId.toNode,
        ReportData.toNode, Node.IsPlain, Members.IsPlain]

theorem isPlain_arranged (receipt : Receipt) (fields : List Field) :
    (receipt.arranged fields).IsPlain := by
  apply Node.isPlain_ofMembers
  intro member isMember
  obtain ⟨field, -, rfl⟩ := List.mem_map.mp isMember
  exact field.isPlain_node receipt

/-- The members of a receipt are told by their text. -/
theorem ofText_arranged (receipt : Receipt) (fields : List Field) :
    Document.ofText (receipt.arranged fields).toText =
      ⟨receipt.arranged fields, true⟩ :=
  Document.ofText_toText (receipt.isPlain_arranged fields)

/-- A receipt is read back from a text that has its members, in whatever
order. -/
theorem ofJson_arranged (areTexts : receipt.inputs.AreTexts)
    {fields : List Field} (isPermuted : fields.Perm receipt.fields) :
    Receipt.ofJson (receipt.arranged fields).toText = .ok receipt := by
  rw [ofJson, receipt.ofText_arranged, Document.read,
    receipt.read_of_tells (tells_arranged areTexts isPermuted)]
  rfl

/-- A receipt is read back from its document. -/
theorem ofJson_document (areTexts : receipt.inputs.AreTexts) :
    Receipt.ofJson receipt.document = .ok receipt :=
  ofJson_arranged areTexts (.refl _)

theorem ofJson_toJson {text : String} (isDocument : receipt.toJson = .ok text) :
    Receipt.ofJson text = .ok receipt := by
  obtain ⟨areTexts, rfl⟩ := toJson_eq_ok_iff.mp isDocument
  exact ofJson_document areTexts

/-- A receipt is read back from its document with space behind it. -/
theorem ofJson_append (areTexts : receipt.inputs.AreTexts) {spaces : String}
    (areBetween : ∀ character ∈ spaces.toList, isSpace character = true) :
    Receipt.ofJson (receipt.document ++ spaces) = .ok receipt := by
  have isPlain := receipt.isPlain_arranged receipt.fields
  have same : Document.ofText (receipt.document ++ spaces) =
      Document.ofText receipt.document := by
    rw [document, Document.ofText_append isPlain areBetween,
      Document.ofText_toText isPlain]
  have readBack := ofJson_document areTexts
  rw [ofJson] at readBack ⊢
  rw [same]
  exact readBack

/-- The input paths of a receipt that a text tells are texts. -/
theorem areTexts_of_ofJson {text : String}
    (isRead : ofJson text = .ok receipt) : receipt.inputs.AreTexts := by
  unfold ofJson Document.read at isRead
  split at isRead
  · next isReceipt =>
      cases isRead
      split at isReceipt
      · next isNode =>
          split at isReceipt
          · cases isReceipt
            exact areTexts_of_read isNode
          · cases isReceipt
      · cases isReceipt
  · cases isRead

/-! ## Texts of receipts -/

/-- What a text is rewritten to: the document of the receipt that it tells. -/
def rewritten (text : String) : Except Error String :=
  (ofJson text).bind toJson

theorem rewritten_of_ofJson {text : String}
    (isRead : ofJson text = .ok receipt) :
    rewritten text = .ok receipt.document := by
  rw [rewritten, isRead]
  exact toJson_of_areTexts (areTexts_of_ofJson isRead)

/-- A receipt has a document that it is read back from if its input paths are
texts, and no document otherwise.  Any text that tells a receipt is rewritten to
a document that tells the same receipt and is not changed any more. -/
theorem toJson_isCanonical :
    (∀ receipt : Receipt, receipt.inputs.AreTexts →
      ∃ document, receipt.toJson = .ok document ∧
        ofJson document = .ok receipt) ∧
    (∀ receipt : Receipt, ¬receipt.inputs.AreTexts →
      receipt.toJson = .error (.invalidReceipt .illFormedPath)) ∧
      ∀ (text : String) (receipt : Receipt), ofJson text = .ok receipt →
        ∃ document, receipt.toJson = .ok document ∧
          rewritten text = .ok document ∧
            ofJson document = ofJson text ∧
              rewritten document = .ok document := by
  refine ⟨?_, fun receipt => toJson_of_not_areTexts, ?_⟩
  · intro receipt areTexts
    exact ⟨receipt.document, toJson_of_areTexts areTexts,
      ofJson_document areTexts⟩
  · intro text receipt tells
    have areTexts := areTexts_of_ofJson tells
    have readBack := ofJson_document areTexts
    exact ⟨receipt.document, toJson_of_areTexts areTexts,
      rewritten_of_ofJson tells, readBack.trans tells.symm,
      rewritten_of_ofJson readBack⟩

/-- A receipt that no run comes out with, of texts that have to be escaped and
with a quote of no bytes. -/
def strange : Receipt where
  version := numberBound - 1
  version_lt := by decide
  fileDigest := "\"\x00\\\n"
  reportDataDigest := ""
  separator := "\t𝔸\x7f"
  inputs := ⟨"tool \"chain\"", "", "sdk/é"⟩
  provenance := ⟨.ofContent [], .ofContent [0],
    ⟨String.ofList (List.replicate 64 'f'), by decide⟩⟩
  boundString := "\r/"
  reportData := ⟨List.replicate 64 255, by decide⟩
  quote := some ⟨[]⟩

/-- The strange receipt, of a proof whose path is a byte that is no text. -/
def unutterable : Receipt :=
  { strange with inputs := { strange.inputs with proof := ⟨[255]⟩ } }

theorem areTexts_strange : strange.inputs.AreTexts := by
  intro input
  cases input <;> exact HostText.isText_ofText _

theorem not_areTexts_unutterable : ¬unutterable.inputs.AreTexts := by
  intro areTexts
  exact HostText.text?_eq_none_iff.mp rfl (areTexts .proof)

/-- The strange receipt has a document.  It is told as well by a text that has
its members in reverse, which is rewritten to the document.  With a path that is
no text there is no document. -/
theorem toJson_isCanonical_strange :
    let reversed := (strange.arranged Field.all.reverse).toText
    (∃ document, strange.toJson = .ok document ∧
      ofJson document = .ok strange) ∧
    unutterable.toJson = .error (.invalidReceipt .illFormedPath) ∧
    ofJson reversed = .ok strange ∧
      ∃ document, strange.toJson = .ok document ∧ reversed ≠ document ∧
        rewritten reversed = .ok document ∧
          ofJson document = ofJson reversed ∧
            rewritten document = .ok document := by
  intro reversed
  obtain ⟨hasDocument, hasNone, isRewritten⟩ := toJson_isCanonical
  have tells : ofJson reversed = .ok strange :=
    ofJson_arranged areTexts_strange Field.all.reverse_perm
  obtain ⟨document, isDocument, rewrites⟩ :=
    isRewritten reversed strange tells
  refine ⟨hasDocument strange areTexts_strange,
    hasNone unutterable not_areTexts_unutterable, tells, document, isDocument,
    ?_, rewrites⟩
  rintro rfl
  obtain ⟨-, same⟩ := toJson_eq_ok_iff.mp isDocument
  have sameDocument := congrArg Document.ofText same
  rw [Receipt.document, strange.ofText_arranged, strange.ofText_arranged]
    at sameDocument
  injection sameDocument with sameNode
  injection sameNode with sameMembers
  injection sameMembers with sameName
  exact absurd sameName (by decide)

end Receipt
end ReportBinding
