import ReportBinding.Proofs.Json.Spelling

/-!
# Reading documents

The tokens of a value are built up to that value again, in whatever frames are
open around it: `Node.buildFrom_tokens`.  Together with the cutting into tokens
this reads every value from any of its texts, `Document.ofText_of_spelledBy`,
and so from the one that is written for it.
-/

namespace ReportBinding
namespace Json

/-- What the tokens that are left make of a state of the building. -/
def Progress.continueWith : Progress → List Token → Document
  | .frames opened, rest => buildFrom opened rest
  | .root node, rest => ⟨node, rest.isEmpty⟩
  | .brokenOff node, _ => ⟨node, false⟩

theorem buildFrom_cons (frames : List Frame) (token : Token)
    (rest : List Token) :
    buildFrom frames (token :: rest) =
      (advance token frames).continueWith rest := by
  rw [buildFrom]
  cases advance token frames <;> rfl

/-- Frames in which a value comes next. -/
inductive Expecting : List Frame → Prop where
  | root : Expecting []
  | item (items : List Node) (outer : List Frame) :
      Expecting (.item items :: outer)
  | memberValue (members : List (Option String × Node))
      (name : Option String) (outer : List Frame) :
      Expecting (.memberValue members name :: outer)

theorem advance_of_expecting {frames : List Frame} {token : Token}
    (expecting : Expecting frames) (begins : token ≠ .closeBracket) :
    advance token frames = enter token frames := by
  cases expecting with
  | root => rfl
  | memberValue members name outer => rfl
  | item items outer =>
      cases items with
      | cons node nodes => rfl
      | nil =>
          cases token with
          | closeBracket => exact absurd rfl begins
          | _ => rfl

theorem buildFrom_of_node {frames : List Frame} {token : Token} {node : Node}
    (expecting : Expecting frames) (isNode : token.beginning = .node node)
    (rest : List Token) :
    buildFrom frames (token :: rest) =
      (deliver node frames).continueWith rest := by
  have begins : token ≠ .closeBracket := by
    intro isClose
    rw [isClose] at isNode
    cases isNode
  rw [buildFrom_cons, advance_of_expecting expecting begins, enter, isNode]

theorem buildFrom_of_frame {frames : List Frame} {token : Token}
    {frame : Frame} (expecting : Expecting frames)
    (isFrame : token.beginning = .frame frame) (rest : List Token) :
    buildFrom frames (token :: rest) = buildFrom (frame :: frames) rest := by
  have begins : token ≠ .closeBracket := by
    intro isClose
    rw [isClose] at isFrame
    cases isFrame
  rw [buildFrom_cons, advance_of_expecting expecting begins, enter, isFrame]
  rfl

/-- Between two items a comma asks for the next one. -/
theorem buildFrom_itemEnd (items : List Node) (outer : List Frame)
    (rest : List Token) :
    buildFrom (.itemEnd items :: outer) (.comma :: rest) =
      buildFrom (.item items :: outer) rest := by
  rw [buildFrom_cons]
  rfl

theorem buildFrom_memberEnd (members : List (Option String × Node))
    (outer : List Frame) (rest : List Token) :
    buildFrom (.memberEnd members :: outer) (.comma :: rest) =
      buildFrom (.memberName members :: outer) rest := by
  rw [buildFrom_cons]
  rfl

/-- A name and a colon ask for a value. -/
theorem buildFrom_memberName (members : List (Option String × Node))
    (outer : List Frame) (name : Option String) (rest : List Token) :
    buildFrom (.memberName members :: outer)
        (.string name :: .colon :: rest) =
      buildFrom (.memberValue members name :: outer) rest := by
  have named : advance (.string name) (.memberName members :: outer) =
      .frames (.memberColon members name :: outer) := by
    cases members <;> rfl
  have separated : advance .colon (.memberColon members name :: outer) =
      .frames (.memberValue members name :: outer) := rfl
  rw [buildFrom_cons, named, Progress.continueWith, buildFrom_cons,
    separated, Progress.continueWith]

mutual

/-- The tokens of a value deliver it to the frames around it. -/
theorem Node.buildFrom_tokens (node : Node) (isSound : node.IsSound)
    {frames : List Frame} (expecting : Expecting frames)
    (rest : List Token) :
    buildFrom frames (node.tokens ++ rest) =
      (deliver node frames).continueWith rest := by
  match node with
  | .null => exact buildFrom_of_node expecting rfl rest
  | .boolean value => exact buildFrom_of_node expecting rfl rest
  | .number numeral => exact buildFrom_of_node expecting rfl rest
  | .string text => exact buildFrom_of_node expecting rfl rest
  | .array .closed =>
      simp only [Node.tokens, List.cons_append, List.nil_append]
      rw [buildFrom_of_frame expecting rfl, buildFrom_cons]
      rfl
  | .array .broken => exact isSound.elim
  | .array (.cons head tail) =>
      obtain ⟨headSound, tailSound⟩ := isSound
      simp only [Node.tokens, List.cons_append, List.append_assoc,
        List.nil_append]
      rw [buildFrom_of_frame expecting rfl,
        head.buildFrom_tokens headSound (.item [] frames)]
      exact tail.buildFrom_tokens tailSound [head] frames rest
  | .object .closed =>
      simp only [Node.tokens, List.cons_append, List.nil_append]
      rw [buildFrom_of_frame expecting rfl, buildFrom_cons]
      rfl
  | .object .broken => exact isSound.elim
  | .object (.misnamed name) => exact isSound.elim
  | .object (.cons name value tail) =>
      obtain ⟨valueSound, tailSound⟩ := isSound
      simp only [Node.tokens, List.cons_append, List.append_assoc,
        List.nil_append]
      rw [buildFrom_of_frame expecting rfl, buildFrom_memberName,
        value.buildFrom_tokens valueSound (.memberValue [] name frames)]
      exact tail.buildFrom_tokens tailSound [(name, value)] frames rest
  | .absent => exact isSound.elim

theorem Items.buildFrom_tokens (items : Items) (isSound : items.IsSound)
    (reversed : List Node) (outer : List Frame) (rest : List Token) :
    buildFrom (.itemEnd reversed :: outer)
        (items.tokens ++ .closeBracket :: rest) =
      (deliver (.array (items.prepend reversed)) outer).continueWith
        rest := by
  match items with
  | .closed =>
      have closed : (Items.closed).tokens = [] := rfl
      rw [closed, List.nil_append, buildFrom_cons]
      rfl
  | .broken => exact isSound.elim
  | .cons head tail =>
      obtain ⟨headSound, tailSound⟩ := isSound
      simp only [Items.tokens, List.cons_append, List.append_assoc]
      rw [buildFrom_itemEnd,
        head.buildFrom_tokens headSound (.item reversed outer)]
      exact tail.buildFrom_tokens tailSound (head :: reversed) outer rest

theorem Members.buildFrom_tokens (members : Members)
    (isSound : members.IsSound) (reversed : List (Option String × Node))
    (outer : List Frame) (rest : List Token) :
    buildFrom (.memberEnd reversed :: outer)
        (members.tokens ++ .closeBrace :: rest) =
      (deliver (.object (members.prepend reversed)) outer).continueWith
        rest := by
  match members with
  | .closed =>
      have closed : (Members.closed).tokens = [] := rfl
      rw [closed, List.nil_append, buildFrom_cons]
      rfl
  | .broken => exact isSound.elim
  | .misnamed name => exact isSound.elim
  | .cons name value tail =>
      obtain ⟨valueSound, tailSound⟩ := isSound
      simp only [Members.tokens, List.cons_append, List.append_assoc]
      rw [buildFrom_memberEnd, buildFrom_memberName,
        value.buildFrom_tokens valueSound (.memberValue reversed name outer)]
      exact tail.buildFrom_tokens tailSound ((name, value) :: reversed) outer
        rest

end

/-- A value is read from any of its texts. -/
theorem Document.ofText_of_spelledBy {node : Node} {text : String}
    (spelled : node.SpelledBy text) :
    Document.ofText text = ⟨node, true⟩ := by
  have built := node.buildFrom_tokens spelled.isSound .root []
  rw [List.append_nil] at built
  rw [Document.ofText, Document.ofTokens, spelled.tokens_eq, built]
  rfl

/-- A plain document is read back from its text, with or without space behind
it. -/
theorem Document.ofText_append {node : Node} (isPlain : node.IsPlain)
    {spaces : String}
    (areBetween : ∀ character ∈ spaces.toList, isSpace character = true) :
    Document.ofText (node.toText ++ spaces) = ⟨node, true⟩ :=
  ofText_of_spelledBy (Node.spelledBy_append isPlain areBetween)

/-- A plain document is read back from its text. -/
theorem Document.ofText_toText {node : Node} (isPlain : node.IsPlain) :
    Document.ofText node.toText = ⟨node, true⟩ :=
  ofText_of_spelledBy (Node.spelledBy_toText isPlain)

end Json
end ReportBinding
