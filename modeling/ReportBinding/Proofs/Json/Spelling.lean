import ReportBinding.Proofs.Json.Grammar

/-!
# Spelling documents

A text is a JSON text of a value if it is laid out from the tokens of that value
and nothing in the value is broken off: `Node.SpelledBy`.  The tokens of a value
are separated, so they can be told from any such text, and what is written for a
value is one of its texts: `Node.spelledBy_toText`.
-/

namespace ReportBinding
namespace Json

/-! ## Values as tokens -/

mutual

/-- The tokens of a value. -/
def Node.tokens : Node → List Token
  | .null => [.null]
  | .boolean value => [.boolean value]
  | .number numeral => [.number numeral]
  | .string text => [.string text]
  | .array (.cons head tail) =>
      .openBracket :: head.tokens ++ tail.tokens ++ [.closeBracket]
  | .array _ => [.openBracket, .closeBracket]
  | .object (.cons name value tail) =>
      .openBrace :: .string name :: .colon :: value.tokens ++ tail.tokens ++
        [.closeBrace]
  | .object _ => [.openBrace, .closeBrace]
  | .absent => []

/-- The tokens of items that follow others. -/
def Items.tokens : Items → List Token
  | .cons head tail => .comma :: head.tokens ++ tail.tokens
  | _ => []

/-- The tokens of members that follow others. -/
def Members.tokens : Members → List Token
  | .cons name value tail =>
      .comma :: .string name :: .colon :: value.tokens ++ tail.tokens
  | _ => []

end

mutual

/-- A value in which nothing is broken off. -/
def Node.IsSound : Node → Prop
  | .array items => items.IsSound
  | .object members => members.IsSound
  | .absent => False
  | _ => True

/-- Items of which none is broken off. -/
def Items.IsSound : Items → Prop
  | .closed => True
  | .broken => False
  | .cons head tail => head.IsSound ∧ tail.IsSound

/-- Members of which none is broken off. -/
def Members.IsSound : Members → Prop
  | .closed => True
  | .broken => False
  | .misnamed _ => False
  | .cons _ value tail => value.IsSound ∧ tail.IsSound

end

/-- A text is a JSON text of a value. -/
structure Node.SpelledBy (node : Node) (text : String) : Prop where
  /-- The value is well formed. -/
  isSound : node.IsSound
  /-- The tokens of the value stand in their order, with any space around
  them. -/
  laid : Laid node.tokens text.toList

/-! ## Tokens of values -/

/-- Tokens of which the first may follow a value, if there is any. -/
def MayFollow (tokens : List Token) : Prop :=
  ∀ next ∈ tokens.head?, next.mayFollow = true

theorem mayFollow_cons {token : Token} {tokens : List Token}
    (follows : token.mayFollow = true) : MayFollow (token :: tokens) := by
  intro next isFirst
  cases isFirst
  exact follows

/-- What follows an item, or a member, may follow a value. -/
theorem Items.mayFollow_tokens (items : Items) {rest : List Token}
    (follows : MayFollow rest) : MayFollow (items.tokens ++ rest) := by
  cases items with
  | closed => exact follows
  | broken => exact follows
  | cons head tail => exact mayFollow_cons rfl

theorem Members.mayFollow_tokens (members : Members) {rest : List Token}
    (follows : MayFollow rest) : MayFollow (members.tokens ++ rest) := by
  cases members with
  | closed => exact follows
  | broken => exact follows
  | misnamed name => exact follows
  | cons name value tail => exact mayFollow_cons rfl

theorem separated_cons {token : Token} {tokens : List Token}
    (noNumber : token.isNumber = false) (separated : Separated tokens) :
    Separated (token :: tokens) := by
  refine ⟨fun isNumber => ?_, separated⟩
  rw [noNumber] at isNumber
  cases isNumber

mutual

/-- The numerals of a value are followed by what may follow a value. -/
theorem Node.separated_tokens (node : Node) {rest : List Token}
    (follows : MayFollow rest) (separated : Separated rest) :
    Separated (node.tokens ++ rest) := by
  match node with
  | .null => exact separated_cons rfl separated
  | .boolean value => exact separated_cons rfl separated
  | .number numeral => exact ⟨fun _ => follows, separated⟩
  | .string text => exact separated_cons rfl separated
  | .array (.cons head tail) =>
      have closing := @separated_cons .closeBracket _ rfl separated
      simp only [Node.tokens, List.cons_append, List.append_assoc,
        List.nil_append]
      exact separated_cons rfl
        (head.separated_tokens (tail.mayFollow_tokens (mayFollow_cons rfl))
          (tail.separated_tokens (mayFollow_cons rfl) closing))
  | .array .closed =>
      exact separated_cons rfl (separated_cons rfl separated)
  | .array .broken =>
      exact separated_cons rfl (separated_cons rfl separated)
  | .object (.cons name value tail) =>
      have closing := @separated_cons .closeBrace _ rfl separated
      simp only [Node.tokens, List.cons_append, List.append_assoc,
        List.nil_append]
      exact separated_cons rfl (separated_cons rfl (separated_cons rfl
        (value.separated_tokens (tail.mayFollow_tokens (mayFollow_cons rfl))
          (tail.separated_tokens (mayFollow_cons rfl) closing))))
  | .object .closed =>
      exact separated_cons rfl (separated_cons rfl separated)
  | .object .broken =>
      exact separated_cons rfl (separated_cons rfl separated)
  | .object (.misnamed _) =>
      exact separated_cons rfl (separated_cons rfl separated)
  | .absent => exact separated

theorem Items.separated_tokens (items : Items) {rest : List Token}
    (follows : MayFollow rest) (separated : Separated rest) :
    Separated (items.tokens ++ rest) := by
  match items with
  | .closed => exact separated
  | .broken => exact separated
  | .cons head tail =>
      simp only [Items.tokens, List.cons_append, List.append_assoc]
      exact separated_cons rfl
        (head.separated_tokens (tail.mayFollow_tokens follows)
          (tail.separated_tokens follows separated))

theorem Members.separated_tokens (members : Members) {rest : List Token}
    (follows : MayFollow rest) (separated : Separated rest) :
    Separated (members.tokens ++ rest) := by
  match members with
  | .closed => exact separated
  | .broken => exact separated
  | .misnamed _ => exact separated
  | .cons name value tail =>
      simp only [Members.tokens, List.cons_append, List.append_assoc]
      exact separated_cons rfl (separated_cons rfl (separated_cons rfl
        (value.separated_tokens (tail.mayFollow_tokens follows)
          (tail.separated_tokens follows separated))))

end

/-- The tokens of a value are told from any of its texts. -/
theorem Node.SpelledBy.tokens_eq {node : Node} {text : String}
    (spelled : node.SpelledBy text) : Json.tokens text = node.tokens := by
  have separated := @Node.separated_tokens node []
    (fun _ isFirst => nomatch isFirst) trivial
  rw [List.append_nil] at separated
  exact tokensFrom_of_laid spelled.laid separated

/-! ## Written values -/

mutual

/-- A value that can be told from its text: nothing in it is broken off or
lacks its text, and all numerals are those of whole numbers. -/
def Node.IsPlain : Node → Prop
  | .null => True
  | .boolean _ => True
  | .number numeral => ∃ value, numeral = Numeral.ofNat value
  | .string text => text.isSome
  | .array items => items.IsPlain
  | .object members => members.IsPlain
  | .absent => False

/-- Items that can be told from their text. -/
def Items.IsPlain : Items → Prop
  | .closed => True
  | .broken => False
  | .cons head tail => head.IsPlain ∧ tail.IsPlain

/-- Members that can be told from their text. -/
def Members.IsPlain : Members → Prop
  | .closed => True
  | .broken => False
  | .misnamed _ => False
  | .cons name value tail => name.isSome ∧ value.IsPlain ∧ tail.IsPlain

end

mutual

theorem Node.IsPlain.isSound {node : Node} (isPlain : node.IsPlain) :
    node.IsSound := by
  match node with
  | .null => trivial
  | .boolean _ => trivial
  | .number _ => trivial
  | .string _ => trivial
  | .array items => exact @Items.IsPlain.isSound items isPlain
  | .object members =>
      exact @Members.IsPlain.isSound members isPlain
  | .absent => exact isPlain.elim

theorem Items.IsPlain.isSound {items : Items} (isPlain : items.IsPlain) :
    items.IsSound := by
  match items with
  | .closed => trivial
  | .broken => exact isPlain.elim
  | .cons head tail => exact ⟨isPlain.1.isSound, isPlain.2.isSound⟩

theorem Members.IsPlain.isSound {members : Members}
    (isPlain : members.IsPlain) : members.IsSound := by
  match members with
  | .closed => trivial
  | .broken => exact isPlain.elim
  | .misnamed _ => exact isPlain.elim
  | .cons name value tail => exact ⟨isPlain.2.1.isSound, isPlain.2.2.isSound⟩

end

/-- No numeral of a positive number begins with a zero. -/
theorem head?_toDigits_ne_zero (value : Nat) (positive : 0 < value) :
    (Nat.toDigits 10 value).head? ≠ some '0' := by
  induction value using Nat.strongRecOn with
  | ind value inductionHypothesis =>
      by_cases small : value < 10
      · have notZero : value ≠ 0 := Nat.ne_of_gt positive
        simp [Nat.toDigits_of_lt_base small, notZero]
      · have large : 10 ≤ value := Nat.le_of_not_lt small
        have fewer : value / 10 < value := Nat.div_lt_self positive (by decide)
        have isPositive : 0 < value / 10 := Nat.div_pos large (by decide)
        have further := inductionHypothesis (value / 10) fewer isPositive
        rw [Nat.toDigits_of_base_le (by decide) large]
        have begins : Nat.toDigits 10 (value / 10) ≠ [] :=
          Nat.toDigits_ne_nil
        generalize Nat.toDigits 10 (value / 10) = digits at *
        cases digits with
        | nil => exact absurd rfl begins
        | cons digit digits => exact further

/-- The digits of a number spell its numeral. -/
theorem Numeral.spelledBy_ofNat (value : Nat) :
    (Numeral.ofNat value).SpelledBy (Numeral.ofNat value).spelling := by
  have isWhole : IsWhole (Numeral.ofNat value).whole := by
    unfold Numeral.ofNat
    by_cases isZero : value = 0
    · subst isZero
      exact .zero
    · have positive : 0 < value := Nat.pos_of_ne_zero isZero
      have notZero := head?_toDigits_ne_zero value positive
      have areDigits : ∀ digit ∈ Nat.toDigits 10 value,
          digit.isDigit = true := by
        intro digit isMember
        exact Nat.isDigit_of_mem_toDigits (by decide) (by decide) isMember
      have begins : Nat.toDigits 10 value ≠ [] := Nat.toDigits_ne_nil
      dsimp only
      generalize Nat.toDigits 10 value = digits at *
      cases digits with
      | nil => exact absurd rfl begins
      | cons digit digits =>
          exact .digits (areDigits digit List.mem_cons_self)
            (fun isZero => notZero (by rw [isZero]; rfl))
            fun other isMember => areDigits other (List.mem_cons_of_mem _ isMember)
  have spelled : (Numeral.ofNat value).spelling =
      (if (Numeral.ofNat value).negative then ['-'] else []) ++
        (Numeral.ofNat value).whole ++ ([] ++ []) := by
    simp [Numeral.spelling, Numeral.ofNat]
  rw [spelled]
  exact .parts isWhole .none .none

/-- A character that is nothing special is spelled as it is. -/
theorem spellChar_eq_self {character : Char}
    (noControl : 0x20 ≤ character.toNat) (notQuote : character ≠ '"')
    (notBackslash : character ≠ '\\') : spellChar character = [character] := by
  unfold spellChar
  split
  case h_1 => exact absurd rfl notQuote
  case h_2 => exact absurd rfl notBackslash
  case h_8 => exact if_neg (by omega)
  all_goals exact absurd noControl (by decide)

theorem toLower_hexDigit {value : Nat} (small : value < 16) :
    (hexDigit value).toLower = hexDigit value := by
  have all : ∀ value : Fin 16,
      (hexDigit value).toLower = hexDigit value := by
    decide
  exact all ⟨value, small⟩

/-- What is written for a character spells it. -/
theorem spelledBy_spellChar (character : Char) :
    (Piece.character character).SpelledBy (spellChar character) := by
  unfold spellChar
  split
  case h_8 notQuote notBackslash _ _ _ _ _ =>
    dsimp only
    split
    · next isControl =>
        have digits : ['0', '0', hexDigit (character.toNat / 16),
            hexDigit (character.toNat % 16)] =
              unitDigits character.toNat := by
          have first : character.toNat / 0x1000 = 0 := by omega
          have second : character.toNat / 0x100 % 0x10 = 0 := by omega
          have third : character.toNat / 0x10 % 0x10 =
              character.toNat / 16 := by
            omega
          rw [unitDigits, first, second, third]
          rfl
        refine .unit (by omega) ?_
        rw [← digits]
        simp only [List.map_cons, List.map_nil,
          toLower_hexDigit (show character.toNat / 16 < 16 by omega),
          toLower_hexDigit (show character.toNat % 16 < 16 by omega)]
        rfl
    · next notControl =>
        exact .plain (Nat.le_of_not_lt notControl) notQuote notBackslash
  all_goals exact .letter (by decide)

/-- What is written for a text spells it. -/
theorem spelledBy_spellString (text : String) :
    (Token.string (some text)).SpelledBy (spellString text) := by
  have spells (characters : List Char) :
      SpellsPieces (characters.map .character)
        (characters.flatMap spellChar) := by
    induction characters with
    | nil => exact .nil
    | cons character characters inductionHypothesis =>
        rw [List.map_cons, List.flatMap_cons]
        exact .cons (spelledBy_spellChar character) inductionHypothesis
  have isText (characters : List Char) :
      textOf? (characters.map .character) = some characters := by
    induction characters with
    | nil => rfl
    | cons character characters inductionHypothesis =>
        rw [List.map_cons, textOf?, inductionHypothesis]
        rfl
  have spelled := Token.SpelledBy.string (spells text.toList)
  rwa [isText, Option.map_some, String.ofList_toList] at spelled

theorem isSpace_of_mem_newLine (level : Nat) :
    ∀ character ∈ newLine level, isSpace character = true := by
  intro character isMember
  rcases List.mem_cons.mp isMember with rfl | isMember
  · rfl
  · rw [List.eq_of_mem_replicate isMember]
    rfl

/-- A token needs no space in front of it. -/
theorem Laid.tight {token : Token} {tokens : List Token}
    {text rest : List Char} (spelled : token.SpelledBy text)
    (laid : Laid tokens rest) : Laid (token :: tokens) (text ++ rest) :=
  @Laid.token _ _ [] _ _ (List.forall_mem_nil _) spelled laid

theorem Laid.mark {token : Token} {tokens : List Token} {character : Char}
    {rest : List Char} (isMark : token.fixed? = some [character])
    (laid : Laid tokens rest) : Laid (token :: tokens) (character :: rest) :=
  .tight (.fixed isMark) laid

theorem Laid.behind_newLine {tokens : List Token} {text : List Char}
    (level : Nat) (laid : Laid tokens text) :
    Laid tokens (newLine level ++ text) :=
  laid.behind_spaces (isSpace_of_mem_newLine level)

/-- The name of a member and what stands between it and the value. -/
theorem Laid.named {name : Option String} {tokens : List Token}
    {text : List Char} (isNamed : name.isSome) (laid : Laid tokens text) :
    Laid (.string name :: .colon :: tokens)
      (spellString (name.getD "") ++ ':' :: ' ' :: text) := by
  obtain ⟨name, rfl⟩ := Option.isSome_iff_exists.mp isNamed
  have spaced : Laid tokens ([' '] ++ text) :=
    laid.behind_spaces (List.forall_mem_singleton.mpr rfl)
  exact .tight (spelledBy_spellString name) (.mark rfl spaced)

mutual

/-- What is written for a value is laid out from its tokens, whatever
follows. -/
theorem Node.laid_write (node : Node) (isPlain : node.IsPlain) (level : Nat)
    {tokens : List Token} {rest : List Char} (further : Laid tokens rest) :
    Laid (node.tokens ++ tokens) (node.write level ++ rest) := by
  match node with
  | .null => exact .tight (.fixed rfl) further
  | .boolean true => exact .tight (.fixed rfl) further
  | .boolean false => exact .tight (.fixed rfl) further
  | .number numeral =>
      obtain ⟨value, isValue⟩ := isPlain
      subst isValue
      exact .tight (.number (Numeral.spelledBy_ofNat value)) further
  | .string text =>
      obtain ⟨text, rfl⟩ := Option.isSome_iff_exists.mp isPlain
      exact .tight (spelledBy_spellString text) further
  | .array .closed => exact .mark rfl (.mark rfl further)
  | .array .broken => exact isPlain.elim
  | .array (.cons head tail) =>
      obtain ⟨headPlain, tailPlain⟩ := isPlain
      simp only [Node.write, Node.tokens, List.cons_append,
        List.append_assoc, List.nil_append]
      exact .mark rfl (.behind_newLine _
        (head.laid_write headPlain _ (tail.laid_write tailPlain _
          (.behind_newLine _ (.mark rfl further)))))
  | .object .closed => exact .mark rfl (.mark rfl further)
  | .object .broken => exact isPlain.elim
  | .object (.misnamed name) => exact isPlain.elim
  | .object (.cons name value tail) =>
      obtain ⟨isNamed, valuePlain, tailPlain⟩ := isPlain
      simp only [Node.write, Node.tokens, List.cons_append,
        List.append_assoc, List.nil_append]
      exact .mark rfl (.behind_newLine _
        (.named isNamed (value.laid_write valuePlain _
          (tail.laid_write tailPlain _
            (.behind_newLine _ (.mark rfl further))))))
  | .absent => exact isPlain.elim

theorem Items.laid_write (items : Items) (isPlain : items.IsPlain)
    (level : Nat) {tokens : List Token} {rest : List Char}
    (further : Laid tokens rest) :
    Laid (items.tokens ++ tokens) (items.write level ++ rest) := by
  match items with
  | .closed => exact further
  | .broken => exact isPlain.elim
  | .cons head tail =>
      obtain ⟨headPlain, tailPlain⟩ := isPlain
      simp only [Items.write, Items.tokens, List.cons_append,
        List.append_assoc]
      exact .mark rfl (.behind_newLine _
        (head.laid_write headPlain _ (tail.laid_write tailPlain _ further)))

theorem Members.laid_write (members : Members) (isPlain : members.IsPlain)
    (level : Nat) {tokens : List Token} {rest : List Char}
    (further : Laid tokens rest) :
    Laid (members.tokens ++ tokens) (members.write level ++ rest) := by
  match members with
  | .closed => exact further
  | .broken => exact isPlain.elim
  | .misnamed name => exact isPlain.elim
  | .cons name value tail =>
      obtain ⟨isNamed, valuePlain, tailPlain⟩ := isPlain
      simp only [Members.write, Members.tokens, List.cons_append,
        List.append_assoc, List.nil_append]
      exact .mark rfl (.behind_newLine _
        (.named isNamed (value.laid_write valuePlain _
          (tail.laid_write tailPlain _ further))))

end

/-- What is written for a value is a text of it, with or without space behind
it. -/
theorem Node.spelledBy_append {node : Node} (isPlain : node.IsPlain)
    {spaces : String}
    (areBetween : ∀ character ∈ spaces.toList, isSpace character = true) :
    node.SpelledBy (node.toText ++ spaces) where
  isSound := isPlain.isSound
  laid := by
    have laid := node.laid_write isPlain 0 (.spaces areBetween)
    rwa [List.append_nil, ← String.toList_ofList (l := node.write 0),
      ← String.toList_append] at laid

theorem Node.spelledBy_toText {node : Node} (isPlain : node.IsPlain) :
    node.SpelledBy node.toText := by
  have spelled := @Node.spelledBy_append node isPlain "" (List.forall_mem_nil _)
  rwa [String.append_empty] at spelled

end Json
end ReportBinding
