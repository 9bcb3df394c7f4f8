import ReportBinding.Proofs.Receipt.RoundTrip

/-!
# The meaning of receipt documents

Every JSON text of a value that tells a receipt is read as this receipt.  When a
known member is repeated in it or a required one is removed, whether of the
receipt or of a record in it, every text of what is left is refused:
`Receipt.document_hasOneMeaning`.
-/

namespace ReportBinding
namespace Receipt

open Json

/-- What becomes of the members of a receipt when a known one is repeated or a
required one is removed, be it a member of the receipt or of a record in it. -/
inductive Spoiled :
    List (String × Node) → List (String × Node) → Prop where
  | outer {members altered : List (String × Node)}
      (spoiled : recordType.Spoiled members altered) : Spoiled members altered
  | inputs {left right inner altered : List (String × Node)}
      (spoiled : InputPaths.recordType.Spoiled inner altered) :
      Spoiled (left ++ (Field.inputs.name, .ofMembers inner) :: right)
        (left ++ (Field.inputs.name, .ofMembers altered) :: right)
  | provenance {left right inner altered : List (String × Node)}
      (spoiled : Provenance.recordType.Spoiled inner altered) :
      Spoiled (left ++ (Field.provenance.name, .ofMembers inner) :: right)
        (left ++ (Field.provenance.name, .ofMembers altered) :: right)

/-- The input paths in a document that is read are read. -/
theorem exists_inputs {left right : List (String × Node)} {value : Node}
    {receipt : Receipt}
    (isRead : Receipt.read
      (.ofMembers (left ++ (Field.inputs.name, value) :: right)) =
        .ok receipt) :
    ∃ paths, InputPaths.read value = .ok paths := by
  obtain ⟨before, next, isRead⟩ := RecordType.exists_readField
    ((isLawful.field?_eq_some_iff _ Field.inputs).mpr rfl) isRead
  obtain ⟨paths, isPaths, -⟩ := exists_of_map_eq_ok isRead
  exact ⟨paths, isPaths⟩

theorem exists_provenance {left right : List (String × Node)} {value : Node}
    {receipt : Receipt}
    (isRead : Receipt.read
      (.ofMembers (left ++ (Field.provenance.name, value) :: right)) =
        .ok receipt) :
    ∃ provenance, Provenance.read value = .ok provenance := by
  obtain ⟨before, next, isRead⟩ := RecordType.exists_readField
    ((isLawful.field?_eq_some_iff _ Field.provenance).mpr rfl) isRead
  obtain ⟨provenance, isProvenance, -⟩ := exists_of_map_eq_ok isRead
  exact ⟨provenance, isProvenance⟩

/-- What is left of a document is refused when it is spoiled. -/
theorem Spoiled.refused {members altered : List (String × Node)}
    {receipt : Receipt}
    (isRead : Receipt.read (.ofMembers members) = .ok receipt)
    (spoiled : Spoiled members altered) :
    ∃ fault, Receipt.read (.ofMembers altered) = .error fault := by
  cases isAltered : Receipt.read (.ofMembers altered) with
  | error fault => exact ⟨fault, rfl⟩
  | ok other =>
      exfalso
      -- In a record within, what was read there before is read no more.
      cases spoiled with
      | outer spoiled =>
          obtain ⟨fault, isRefused⟩ :=
            RecordType.Spoiled.refused isLawful isRead spoiled
          cases isAltered.symm.trans isRefused
      | inputs spoiled =>
          obtain ⟨paths, isPaths⟩ := exists_inputs isRead
          obtain ⟨others, isOthers⟩ := exists_inputs isAltered
          obtain ⟨fault, isRefused⟩ :=
            RecordType.Spoiled.refused InputPaths.isLawful isPaths spoiled
          cases isOthers.symm.trans isRefused
      | provenance spoiled =>
          obtain ⟨provenance, isProvenance⟩ := exists_provenance isRead
          obtain ⟨others, isOthers⟩ := exists_provenance isAltered
          obtain ⟨fault, isRefused⟩ :=
            RecordType.Spoiled.refused Provenance.isLawful isProvenance spoiled
          cases isOthers.symm.trans isRefused

/-- Any text of a value is read as the value is. -/
theorem ofJson_of_spelledBy {node : Node} {text : String}
    (spelled : node.SpelledBy text) :
    ofJson text =
      (Receipt.read node).mapError fun fault =>
        .invalidReceipt (.unreadable fault) := by
  rw [ofJson, Document.ofText_of_spelledBy spelled, Document.read]
  cases Receipt.read node <;> rfl

/-- A receipt document has one meaning.  Objects that tell a receipt are read as
this receipt, however they are spelled, and as an invalid receipt once they are
spoiled. -/
theorem document_hasOneMeaning (receipt : Receipt)
    {members : List (String × Node)}
    (tells : receipt.Tells (.ofMembers members)) :
    (∀ text, (Node.ofMembers members).SpelledBy text →
        ofJson text = .ok receipt) ∧
      ∀ altered, Spoiled members altered →
        ∀ text, (Node.ofMembers altered).SpelledBy text →
          ∃ fault, ofJson text = .error (.invalidReceipt fault) := by
  have isRead := receipt.read_of_tells tells
  constructor
  · intro text spelled
    rw [ofJson_of_spelledBy spelled, isRead]
    rfl
  · intro altered spoiled text spelled
    obtain ⟨fault, isRefused⟩ := spoiled.refused isRead
    refine ⟨.unreadable fault, ?_⟩
    rw [ofJson_of_spelledBy spelled, isRefused]
    rfl

/-- The input paths of the strange receipt, among other members. -/
def loudPaths : List (String × Node) :=
  [("sdk", .ofText "sdk/é"), ("", .boolean true), ("proof", .ofText ""),
    ("toolchain", .ofText "tool \"chain\"")]

/-- The input paths of the strange receipt, but for the proof. -/
def prooflessPaths : List (String × Node) :=
  [("sdk", .ofText "sdk/é"), ("", .boolean true),
    ("toolchain", .ofText "tool \"chain\"")]

/-- Values for the members of the strange receipt, with report data in
uppercase. -/
def loudNode (paths : List (String × Node)) : Field → Node
  | .inputs => .ofMembers paths
  | .reportData => .ofText (String.ofList (List.replicate 128 'F'))
  | field => field.node strange

/-- The members of the strange receipt in reverse, behind one of an unknown
name. -/
def loudMembers (paths : List (String × Node)) : List (String × Node) :=
  ("note", .ofMembers [("quote", .null)]) ::
    Field.all.reverse.map fun field => (field.name, loudNode paths field)

theorem isPlain_loudMembers {paths : List (String × Node)}
    (arePlain : ∀ path ∈ paths, path.2.IsPlain) :
    ∀ member ∈ loudMembers paths, member.2.IsPlain := by
  refine List.forall_mem_cons.mpr ⟨⟨rfl, trivial, trivial⟩, ?_⟩
  intro member isMember
  obtain ⟨field, -, rfl⟩ := List.mem_map.mp isMember
  cases field with
  | inputs => exact Node.isPlain_ofMembers arePlain
  | reportData => rfl
  | _ => simp only [loudNode, Field.isPlain_node]

theorem stands_loudNode (field : Field) :
    strange.Stands field (loudNode loudPaths field) := by
  cases field with
  | inputs =>
      refine .inputs (.object Input.all.reverse_perm ?_)
      refine .known ⟨_, rfl, rfl⟩ (.unknown ?_ trivial
        (.known ⟨_, rfl, rfl⟩ (.known ⟨_, rfl, rfl⟩ .nil)))
      intro input
      cases input <;> decide
  | reportData =>
      refine .reportData (.bare ?_)
      unfold Hex.Spells
      decide +kernel
  | _ => exact stands_node areTexts_strange _

theorem tells_loudMembers :
    strange.Tells (.ofMembers (loudMembers loudPaths)) := by
  have lists := recordType.lists_map stands_loudNode Field.all.reverse
  refine .whole (.object Field.all.reverse_perm (.unknown ?_ ?_ lists))
  · intro field
    cases field <;> decide
  · exact ⟨trivial, trivial⟩

/-- The strange receipt is told by its members in reverse with a line break
behind them, and is refused with a quote twice, or without the path of the
proof. -/
theorem document_hasOneMeaning_loud :
    ofJson ((Node.ofMembers (loudMembers loudPaths)).toText ++ "\n") =
        .ok strange ∧
      (∃ fault,
        ofJson (Node.ofMembers
          (("quote", .null) :: loudMembers loudPaths)).toText =
            .error (.invalidReceipt fault)) ∧
      ∃ fault,
        ofJson (Node.ofMembers (loudMembers prooflessPaths)).toText =
          .error (.invalidReceipt fault) := by
  have loudPlain : ∀ path ∈ loudPaths, path.2.IsPlain := by
    simp [loudPaths, Node.ofText, Node.IsPlain]
  have prooflessPlain : ∀ path ∈ prooflessPaths, path.2.IsPlain := by
    simp [prooflessPaths, Node.ofText, Node.IsPlain]
  have membersPlain := isPlain_loudMembers loudPlain
  obtain ⟨means, refused⟩ := document_hasOneMeaning strange tells_loudMembers
  refine ⟨?_, ?_, ?_⟩
  · apply means
    refine Node.spelledBy_append (Node.isPlain_ofMembers membersPlain) ?_
    exact List.forall_mem_singleton.mpr rfl
  · refine refused _ (.outer ?_) _ (Node.spelledBy_toText ?_)
    · exact @RecordType.Spoiled.repeated _ _ _ recordType []
        (loudMembers loudPaths) Field.quote .null (by decide)
    · exact Node.isPlain_ofMembers
        (List.forall_mem_cons.mpr ⟨trivial, membersPlain⟩)
  · refine refused _ ?_ _ (Node.spelledBy_toText
      (Node.isPlain_ofMembers (isPlain_loudMembers prooflessPlain)))
    exact @Spoiled.inputs ((loudMembers []).take 5) ((loudMembers []).drop 6)
      loudPaths prooflessPaths
      (@RecordType.Spoiled.removed _ _ _ InputPaths.recordType
        (loudPaths.take 2) (loudPaths.drop 3) Input.proof (.ofText "") rfl)

end Receipt
end ReportBinding
