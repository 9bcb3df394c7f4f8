import ReportBinding.Proofs.Json.Record
import ReportBinding.Proofs.Provenance.Identifiers
import ReportBinding.Receipt.Document

/-!
# Values that stand for receipts

Which JSON values stand for a receipt and for the records in it: texts as they
are, bytes in hexadecimal digits of either case, objects whose members stand in
any order and among others of unknown names.  A receipt is read from every value
that tells it: `Receipt.read_of_tells`.
-/

namespace ReportBinding

open Json

/-! ## Values -/

namespace Json

/-- A text is read back as it is. -/
@[simp] theorem Node.text_ofText (expectation : Expectation)
    (text : String) : (Node.ofText text).text expectation = .ok text := rfl

/-- A value that is parsed from its text is read back. -/
theorem Node.parsed_ofText {α : Type} {parse : String → Except String α}
    {text : String} {value : α} (isParsed : parse text = .ok value) :
    (Node.ofText text).parsed parse = .ok value := by
  rw [Node.parsed, Node.text_ofText]
  simp only [isParsed]

theorem Numeral.digitsValue_toDigits (value : Nat) :
    digitsValue (Nat.toDigits 10 value) = value := by
  have sameStep :
      (fun value digit => value * 10 + digitValue digit) =
        fun value digit => 10 * value + (digit.toNat - '0'.toNat) := by
    funext value digit
    rw [Nat.mul_comm]
    rfl
  rw [digitsValue, sameStep, ← Nat.ofDigitChars_eq_foldl]
  exact Nat.ofDigitChars_ten_toDigits

/-- A number of 32 bits is read back. -/
theorem Node.number32_ofNat {value : Nat} (fits : value < numberBound) :
    (Node.ofNat value).number32 = .ok value := by
  have fitsWord : value < Numeral.wordBound :=
    Nat.lt_trans fits (by decide)
  simp [Node.ofNat, Node.number32, Numeral.ofNat, Numeral.quantity?,
    Numeral.digitsValue_toDigits, fits, fitsWord]

end Json

/-- A file digest is read from every text that spells its bytes. -/
theorem FileDigest.read_of_spells {digest : FileDigest} {digits : List Char}
    (spells : Hex.Spells digest.bytes digits) :
    FileDigest.read (.ofText (String.ofList digits)) = .ok digest := by
  rw [← String.toList_ofList (l := digits), ← ofHex_eq_ok_iff] at spells
  apply Node.parsed_ofText
  rw [spells]
  rfl

theorem RevisionId.read_toNode (id : RevisionId) :
    RevisionId.read id.toNode = .ok id := by
  apply Node.parsed_ofText
  rw [id.parse_text]
  rfl

/-- Report data is read from every text that spells its bytes. -/
theorem ReportData.read_of_spells {reportData : ReportData} {text : List Char}
    (spells : Hex.SpellsMarked reportData.bytes text) :
    ReportData.read (.ofText (String.ofList text)) = .ok reportData := by
  have isCore : Hex.Spells reportData.bytes (digitsOf text) := by
    rw [digitsOf, spells.trimmed_eq]
    cases spells with
    | bare spells => rwa [spells.plain.2.1]
    | marked spells => exact spells
  rw [← String.toList_ofList (l := text), ← ofHex_eq_ok_iff] at isCore
  apply Node.parsed_ofText
  rw [isCore]
  rfl

/-- A quote is read from every text that spells its bytes. -/
theorem Quote.read_of_spells {bytes : Bytes} {text : List Char}
    (spells : Hex.SpellsMarked bytes text) :
    Quote.read (.ofText (String.ofList text)) = .ok ⟨bytes⟩ := by
  obtain ⟨digits, spelled, -, unmarked⟩ := spells.exists_digits
  have isQuote : ofHex (String.ofList text) = .ok ⟨bytes⟩ := by
    rw [ofHex, String.toList_ofList, unmarked, spelled.decode]
    rfl
  apply Node.parsed_ofText
  rw [isQuote]
  rfl

/-! ## Input paths -/

namespace InputPaths

/-- The path of an input. -/
def path (paths : InputPaths) : Input → HostText
  | .toolchain => paths.toolchain
  | .proof => paths.proof
  | .revision => paths.sdk

/-- The values that stand for the members of input paths: the texts that the
paths are. -/
def Stands (paths : InputPaths) (input : Input) (value : Node) : Prop :=
  ∃ text : String, paths.path input = text ∧ value = .ofText text

/-- A value tells input paths: an object of all of them. -/
def Tells (paths : InputPaths) : Node → Prop :=
  recordType.Tells paths.Stands Input.all

/-- A draft to which a path has been added. -/
def Draft.take (paths : InputPaths) (draft : Draft) : Input → Draft
  | .toolchain => { draft with toolchain := some paths.toolchain }
  | .proof => { draft with proof := some paths.proof }
  | .revision => { draft with sdk := some paths.sdk }

theorem isLawful : recordType.IsLawful where
  mem_fields input := by cases input <;> decide
  distinct := by decide
  has_empty input := by cases input <;> rfl
  has_readField {input value draft next} isRead other := by
    cases input <;>
      (obtain ⟨path, -, rfl⟩ := exists_of_map_eq_ok isRead
       cases other <;> rfl)

/-- Every value that stands for a path is read as that path. -/
theorem readField_of_stands (paths : InputPaths) {input : Input} {value : Node}
    (stands : paths.Stands input value) (draft : Draft) :
    recordType.readField input value draft = .ok (draft.take paths input) := by
  obtain ⟨text, isPath, rfl⟩ := stands
  cases input <;>
    (simp only [path] at isPath
     rw [Draft.take, isPath]
     rfl)

theorem Draft.take_comm (paths : InputPaths) (draft : Draft)
    (one other : Input) :
    (draft.take paths one).take paths other =
      (draft.take paths other).take paths one := by
  cases one <;> cases other <;> rfl

/-- Input paths are read from every value that tells them. -/
theorem read_of_tells (paths : InputPaths) {node : Node}
    (tells : paths.Tells node) : InputPaths.read node = .ok paths :=
  RecordType.read_of_tells isLawful paths.readField_of_stands
    (Draft.take_comm paths) tells (by decide)

/-- All input paths are texts. -/
def AreTexts (paths : InputPaths) : Prop :=
  ∀ input, (paths.path input).IsText

/-- The object of input paths, with what messages show of them. -/
def node (paths : InputPaths) : Node :=
  .ofMembers (Input.all.map fun input =>
    (recordType.fieldName input, .ofText (paths.path input).display))

/-- Input paths that are texts are told by the object of them. -/
theorem tells_node {paths : InputPaths} (areTexts : paths.AreTexts) :
    paths.Tells paths.node := by
  have stands (input : Input) :
      paths.Stands input (.ofText (paths.path input).display) :=
    ⟨_, (areTexts input).ofText_display.symm, rfl⟩
  exact .object (.refl _) (recordType.lists_map stands Input.all)

/-- Input paths are written exactly if all of them are texts. -/
theorem toNode_of_areTexts {paths : InputPaths} (areTexts : paths.AreTexts) :
    paths.toNode = .ok paths.node := by
  obtain ⟨toolchain, isToolchain⟩ := areTexts .toolchain
  obtain ⟨proof, isProof⟩ := areTexts .proof
  obtain ⟨sdk, isSdk⟩ := areTexts .revision
  simp only [path] at isToolchain isProof isSdk
  simp [toNode, node, nodeOfPath, Input.all, path, recordType, isToolchain,
    isProof, isSdk, bind, Except.bind]

theorem toNode_of_not_areTexts {paths : InputPaths}
    (notTexts : ¬paths.AreTexts) : paths.toNode = .error .illFormedPath := by
  -- Whichever path is the first that is no text, the refusal is the same.
  cases isToolchain : paths.toolchain.text? with
  | none =>
      simp [toNode, nodeOfPath, isToolchain, bind, Except.bind]
  | some toolchain =>
      cases isProof : paths.proof.text? with
      | none =>
          simp [toNode, nodeOfPath, isToolchain, isProof, bind, Except.bind]
      | some proof =>
          cases isSdk : paths.sdk.text? with
          | none =>
              simp [toNode, nodeOfPath, isToolchain, isProof, isSdk, bind,
                Except.bind]
          | some sdk =>
              refine absurd (fun input => ?_) notTexts
              cases input with
              | toolchain => exact HostText.isText_iff.mpr ⟨_, isToolchain⟩
              | proof => exact HostText.isText_iff.mpr ⟨_, isProof⟩
              | revision => exact HostText.isText_iff.mpr ⟨_, isSdk⟩

/-- All paths of a draft are texts. -/
structure Draft.HasTexts (draft : Draft) : Prop where
  toolchain : ∀ path, draft.toolchain = some path → path.IsText
  proof : ∀ path, draft.proof = some path → path.IsText
  sdk : ∀ path, draft.sdk = some path → path.IsText

/-- A path that is read is a text. -/
theorem hasTexts_of_readField {input : Input} {value : Node}
    {draft next : Draft} (hasTexts : draft.HasTexts)
    (isRead : recordType.readField input value draft = .ok next) :
    next.HasTexts := by
  cases input with
  | toolchain =>
      obtain ⟨text, -, rfl⟩ := exists_of_map_eq_ok isRead
      exact { hasTexts with
        toolchain := fun _ same => ⟨text, (Option.some.inj same).symm⟩ }
  | proof =>
      obtain ⟨text, -, rfl⟩ := exists_of_map_eq_ok isRead
      exact { hasTexts with
        proof := fun _ same => ⟨text, (Option.some.inj same).symm⟩ }
  | revision =>
      obtain ⟨text, -, rfl⟩ := exists_of_map_eq_ok isRead
      exact { hasTexts with
        sdk := fun _ same => ⟨text, (Option.some.inj same).symm⟩ }

/-- Input paths that are read are texts. -/
theorem areTexts_of_read {node : Node} {paths : InputPaths}
    (isRead : InputPaths.read node = .ok paths) : paths.AreTexts := by
  have begins : recordType.empty.HasTexts :=
    ⟨nofun, nofun, nofun⟩
  obtain ⟨draft, hasTexts, isResult⟩ :=
    RecordType.exists_result_of_read begins hasTexts_of_readField isRead
  obtain ⟨toolchain, proof, sdk⟩ := draft
  obtain ⟨ofToolchain, ofProof, ofSdk⟩ := hasTexts
  cases toolchain <;> cases proof <;> cases sdk <;> cases isResult
  intro input
  cases input with
  | toolchain => exact ofToolchain _ rfl
  | proof => exact ofProof _ rfl
  | revision => exact ofSdk _ rfl

end InputPaths

/-! ## Provenances -/

namespace Provenance

/-- The values that stand for the members of a provenance: digests in
hexadecimal digits of either case, and the revision as it is. -/
inductive Stands (provenance : Provenance) : Input → Node → Prop where
  | toolchain {digits : List Char}
      (spells : Hex.Spells provenance.toolchain.bytes digits) :
      Stands provenance .toolchain (.ofText (String.ofList digits))
  | proof {digits : List Char}
      (spells : Hex.Spells provenance.proof.bytes digits) :
      Stands provenance .proof (.ofText (String.ofList digits))
  | revision :
      Stands provenance .revision (.ofText provenance.revision.text)

/-- A value tells a provenance: an object of all its parts. -/
def Tells (provenance : Provenance) : Node → Prop :=
  recordType.Tells provenance.Stands Input.all

/-- Parts to which one of a provenance has been added. -/
def take (provenance : Provenance) (parts : Parts) : Input → Parts
  | .toolchain => { parts with toolchain := some provenance.toolchain }
  | .proof => { parts with proof := some provenance.proof }
  | .revision => { parts with revision := some provenance.revision }

theorem isLawful : recordType.IsLawful where
  mem_fields input := by cases input <;> decide
  distinct := by decide
  has_empty input := by cases input <;> rfl
  has_readField {input value parts next} isRead other := by
    cases input <;>
      (obtain ⟨part, -, rfl⟩ := exists_of_map_eq_ok isRead
       cases other <;> rfl)

/-- Every value that stands for a part is read as that part. -/
theorem readField_of_stands (provenance : Provenance) {input : Input}
    {value : Node} (stands : provenance.Stands input value) (parts : Parts) :
    recordType.readField input value parts =
      .ok (provenance.take parts input) := by
  cases stands with
  | toolchain spells =>
      exact map_of_eq_ok (FileDigest.read_of_spells spells) _
  | proof spells => exact map_of_eq_ok (FileDigest.read_of_spells spells) _
  | revision => exact map_of_eq_ok provenance.revision.read_toNode _

theorem take_comm (provenance : Provenance) (parts : Parts)
    (one other : Input) :
    provenance.take (provenance.take parts one) other =
      provenance.take (provenance.take parts other) one := by
  cases one <;> cases other <;> rfl

/-- A provenance is read from every value that tells it. -/
theorem read_of_tells (provenance : Provenance) {node : Node}
    (tells : provenance.Tells node) :
    Provenance.read node = .ok provenance :=
  RecordType.read_of_tells isLawful provenance.readField_of_stands
    provenance.take_comm tells (by decide)

theorem tells_toNode (provenance : Provenance) :
    provenance.Tells provenance.toNode := by
  have toolchain := Hex.spells_encodeChars provenance.toolchain.bytes
  have proof := Hex.spells_encodeChars provenance.proof.bytes
  exact .object (.refl _)
    (.known (.toolchain toolchain) (.known (.proof proof)
      (.known .revision .nil)))

end Provenance

/-! ## Receipts -/

namespace Receipt

/-- The values that stand for the members of a receipt.  A receipt without a
quote may have null in the place of it. -/
inductive Stands (receipt : Receipt) : Field → Node → Prop where
  | version : Stands receipt .version (.ofNat receipt.version)
  | fileDigest : Stands receipt .fileDigest (.ofText receipt.fileDigest)
  | reportDataDigest :
      Stands receipt .reportDataDigest (.ofText receipt.reportDataDigest)
  | separator : Stands receipt .separator (.ofText receipt.separator)
  | inputs {value : Node} (tells : receipt.inputs.Tells value) :
      Stands receipt .inputs value
  | provenance {value : Node} (tells : receipt.provenance.Tells value) :
      Stands receipt .provenance value
  | boundString : Stands receipt .boundString (.ofText receipt.boundString)
  | reportData {text : List Char}
      (spells : Hex.SpellsMarked receipt.reportData.bytes text) :
      Stands receipt .reportData (.ofText (String.ofList text))
  | quote {quote : Quote} {text : List Char}
      (isQuote : receipt.quote = some quote)
      (spells : Hex.SpellsMarked quote.bytes text) :
      Stands receipt .quote (.ofText (String.ofList text))
  | noQuote (isNone : receipt.quote = none) : Stands receipt .quote .null

/-- A value tells a receipt: an object of all its members, perhaps without a
quote that there is not. -/
inductive Tells (receipt : Receipt) : Node → Prop where
  | whole {node : Node}
      (tells : recordType.Tells receipt.Stands Field.all node) :
      Tells receipt node
  | quoteless {node : Node} (isNone : receipt.quote = none)
      (tells : recordType.Tells receipt.Stands Field.all.dropLast node) :
      Tells receipt node

/-- A draft to which a member of a receipt has been added. -/
def Draft.take (receipt : Receipt) (draft : Draft) : Field → Draft
  | .version => { draft with version := some receipt.version }
  | .fileDigest => { draft with fileDigest := some receipt.fileDigest }
  | .reportDataDigest =>
      { draft with reportDataDigest := some receipt.reportDataDigest }
  | .separator => { draft with separator := some receipt.separator }
  | .inputs => { draft with inputs := some receipt.inputs }
  | .provenance => { draft with provenance := some receipt.provenance }
  | .boundString => { draft with boundString := some receipt.boundString }
  | .reportData => { draft with reportData := some receipt.reportData }
  | .quote => { draft with quote := some receipt.quote }

theorem isLawful : recordType.IsLawful where
  mem_fields field := by cases field <;> decide
  distinct := by decide
  has_empty field := by cases field <;> rfl
  has_readField {field value draft next} isRead other := by
    cases field <;>
      (obtain ⟨member, -, rfl⟩ := exists_of_map_eq_ok isRead
       cases other <;> rfl)

theorem readQuote_ofText {text : String} {quote : Quote}
    (isRead : Quote.read (.ofText text) = .ok quote) :
    readQuote (.ofText text) = .ok (some quote) := by
  unfold readQuote
  split
  · next isNull => cases isNull
  · rw [isRead]
    rfl

/-- Every value that stands for a member is read as that member. -/
theorem readField_of_stands (receipt : Receipt) {field : Field} {value : Node}
    (stands : receipt.Stands field value) (draft : Draft) :
    recordType.readField field value draft =
      .ok (draft.take receipt field) := by
  change readField field value draft = _
  cases stands with
  | version =>
      have version := Node.number32_ofNat receipt.version_lt
      simp only [readField, Draft.take, version, Except.map]
  | fileDigest => rfl
  | reportDataDigest => rfl
  | separator => rfl
  | inputs tells =>
      have inputs := receipt.inputs.read_of_tells tells
      simp only [readField, Draft.take, inputs, Except.map]
  | provenance tells =>
      have provenance := receipt.provenance.read_of_tells tells
      simp only [readField, Draft.take, provenance, Except.map]
  | boundString => rfl
  | reportData spells =>
      have reportData := ReportData.read_of_spells spells
      simp only [readField, Draft.take, reportData, Except.map]
  | quote isQuote spells =>
      have quote := readQuote_ofText (Quote.read_of_spells spells)
      simp only [readField, Draft.take, quote, isQuote, Except.map]
  | noQuote isNone =>
      simp only [readField, readQuote, Draft.take, isNone, Except.map]

/-- Members can be taken in any order. -/
theorem Draft.take_comm (receipt : Receipt) (draft : Draft)
    (one other : Field) :
    (draft.take receipt one).take receipt other =
      (draft.take receipt other).take receipt one := by
  cases one <;> cases other <;> rfl

/-- A draft of all members of a receipt is this receipt. -/
theorem complete_all (receipt : Receipt) :
    recordType.complete (Field.all.foldl (Draft.take receipt) Draft.empty) =
      .ok receipt := by
  obtain ⟨version, fits, fileDigest, reportDataDigest, separator, inputs,
    provenance, boundString, reportData, quote⟩ := receipt
  simp [Field.all, Draft.take, Draft.empty, recordType, RecordType.complete,
    RecordType.missing?, Draft.has, Draft.result?, fits]

theorem complete_quoteless {receipt : Receipt} (isNone : receipt.quote = none) :
    recordType.complete
        (Field.all.dropLast.foldl (Draft.take receipt) Draft.empty) =
      .ok receipt := by
  obtain ⟨version, fits, fileDigest, reportDataDigest, separator, inputs,
    provenance, boundString, reportData, quote⟩ := receipt
  cases isNone
  simp [Field.all, Draft.take, Draft.empty, recordType, RecordType.complete,
    RecordType.missing?, Draft.has, Draft.result?, fits]

/-- The input paths of a receipt that is read are texts. -/
theorem areTexts_of_read {node : Node} {receipt : Receipt}
    (isRead : Receipt.read node = .ok receipt) : receipt.inputs.AreTexts := by
  have keeps {field : Field} {value : Node} {draft next : Draft}
      (holds : ∀ paths, draft.inputs = some paths → paths.AreTexts)
      (isRead : recordType.readField field value draft = .ok next) :
      ∀ paths, next.inputs = some paths → paths.AreTexts := by
    cases field with
    | inputs =>
        obtain ⟨read, isInputs, rfl⟩ := exists_of_map_eq_ok isRead
        rintro paths ⟨⟩
        exact InputPaths.areTexts_of_read isInputs
    | _ =>
        obtain ⟨member, -, rfl⟩ := exists_of_map_eq_ok isRead
        exact holds
  obtain ⟨draft, holds, isResult⟩ :=
    RecordType.exists_result_of_read nofun keeps isRead
  apply holds
  change draft.result? = some receipt at isResult
  unfold Draft.result? at isResult
  split at isResult
  · split at isResult
    · cases isResult
      rfl
    · cases isResult
  · cases isResult

/-- A receipt is read from every value that tells it. -/
theorem read_of_tells (receipt : Receipt) {node : Node}
    (tells : receipt.Tells node) : Receipt.read node = .ok receipt := by
  cases tells with
  | whole tells =>
      exact (RecordType.read_of_tells isLawful receipt.readField_of_stands
        (Draft.take_comm receipt) tells (by decide)).trans receipt.complete_all
  | quoteless isNone tells =>
      exact (RecordType.read_of_tells isLawful receipt.readField_of_stands
        (Draft.take_comm receipt) tells (by decide)).trans
          (complete_quoteless isNone)

end Receipt
end ReportBinding
