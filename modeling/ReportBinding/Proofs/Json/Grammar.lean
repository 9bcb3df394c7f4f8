import ReportBinding.Json.Printer
import ReportBinding.Proofs.Text.Hex

/-!
# The grammar of JSON texts

The grammar says which characters spell which token, in all the ways that JSON
allows: numerals with a fraction and an exponent, strings with escapes of either
kind, and any space around tokens.  A text that is laid out from the spellings
of some tokens is cut into these tokens: `tokensFrom_of_laid`.  Numerals are the
one kind of token that needs care, as they end only where the next character
cannot go on with them.
-/

namespace ReportBinding
namespace Json

/-! ## Spaces and marks -/

theorem tokensFrom_isSpace {character : Char}
    (isBetween : isSpace character = true) (rest : List Char) :
    tokensFrom .between (character :: rest) = tokensFrom .between rest := by
  simp only [isSpace, Bool.or_eq_true, beq_iff_eq] at isBetween
  rcases isBetween with ((rfl | rfl) | rfl) | rfl <;> rfl

/-- Spaces in front of a text are passed over. -/
theorem tokensFrom_spaces {spaces : List Char}
    (areBetween : ∀ character ∈ spaces, isSpace character = true)
    (rest : List Char) :
    tokensFrom .between (spaces ++ rest) = tokensFrom .between rest := by
  induction spaces with
  | nil => rfl
  | cons character spaces inductionHypothesis =>
      rw [List.cons_append,
        tokensFrom_isSpace (areBetween character List.mem_cons_self)]
      exact inductionHypothesis fun other isMember =>
        areBetween other (List.mem_cons_of_mem _ isMember)

/-! ## Numerals -/

/-- The digits of a whole number: a zero alone, or digits that do not begin with
a zero. -/
inductive IsWhole : List Char → Prop where
  | zero : IsWhole ['0']
  | digits {first : Char} {rest : List Char}
      (isDigit : first.isDigit = true) (notZero : first ≠ '0')
      (areDigits : ∀ digit ∈ rest, digit.isDigit = true) :
      IsWhole (first :: rest)

/-- The spellings of the digits of a fraction. -/
inductive SpellsFraction : List Char → List Char → Prop where
  | none : SpellsFraction [] []
  | digits {first : Char} {rest : List Char} (isDigit : first.isDigit = true)
      (areDigits : ∀ digit ∈ rest, digit.isDigit = true) :
      SpellsFraction (first :: rest) ('.' :: first :: rest)

/-- The spellings of an exponent. -/
inductive SpellsExponent : Option (Bool × List Char) → List Char → Prop where
  | none : SpellsExponent none []
  | unsigned {mark first : Char} {rest : List Char}
      (isMark : mark = 'e' ∨ mark = 'E') (isDigit : first.isDigit = true)
      (areDigits : ∀ digit ∈ rest, digit.isDigit = true) :
      SpellsExponent (some (false, first :: rest)) (mark :: first :: rest)
  | signed {mark first : Char} {rest : List Char} (isNegative : Bool)
      (isMark : mark = 'e' ∨ mark = 'E') (isDigit : first.isDigit = true)
      (areDigits : ∀ digit ∈ rest, digit.isDigit = true) :
      SpellsExponent (some (isNegative, first :: rest))
        (mark :: (if isNegative then '-' else '+') :: first :: rest)

/-- The spellings of a numeral. -/
inductive Numeral.SpelledBy (numeral : Numeral) : List Char → Prop where
  | parts {fraction exponent : List Char} (whole : IsWhole numeral.whole)
      (spellsFraction : SpellsFraction numeral.fraction fraction)
      (spellsExponent : SpellsExponent numeral.exponent exponent) :
      SpelledBy numeral
        ((if numeral.negative then ['-'] else []) ++ numeral.whole ++
          (fraction ++ exponent))

/-- A character that no numeral goes on with. -/
def endsNumeral (character : Char) : Bool :=
  !character.isDigit && character != '.' && !isExponentMark character

/-- Characters of which the first does not go on with a numeral. -/
def Delimited (characters : List Char) : Prop :=
  ∀ character ∈ characters.head?, endsNumeral character = true

theorem delimited_cons {character : Char} {rest : List Char}
    (ends : endsNumeral character = true) :
    Delimited (character :: rest) := by
  intro first isFirst
  cases isFirst
  exact ends

theorem endsNumeral_of_isSpace {character : Char}
    (isBetween : isSpace character = true) : endsNumeral character = true := by
  simp only [isSpace, Bool.or_eq_true, beq_iff_eq] at isBetween
  rcases isBetween with ((rfl | rfl) | rfl) | rfl <;> rfl

/-- A numeral that may end is left alone by a character that ends numerals. -/
theorem continueNumeral_of_endsNumeral {part : NumeralPart}
    (mayEnd : part.mayEnd = true) (numeral : Numeral) {character : Char}
    (ends : endsNumeral character = true) :
    continueNumeral part numeral character = none := by
  simp only [endsNumeral, Bool.and_eq_true, Bool.not_eq_true',
    bne_iff_ne, ne_eq] at ends
  obtain ⟨⟨notDigit, notPoint⟩, notMark⟩ := ends
  cases part with
  | zero => simp [continueNumeral, notPoint, notMark]
  | whole => simp [continueNumeral, notDigit, notPoint, notMark]
  | fraction => simp [continueNumeral, notDigit, notMark]
  | exponent => simp [continueNumeral, notDigit]
  | start => cases mayEnd
  | point => cases mayEnd
  | mark => cases mayEnd
  | sign => cases mayEnd

/-- A numeral that may end does so before what is delimited. -/
theorem tokensFrom_numeral {part : NumeralPart}
    (mayEnd : part.mayEnd = true) (numeral : Numeral) {rest : List Char}
    (delimited : Delimited rest) :
    tokensFrom (.numeral part numeral) rest =
      .number numeral.reverse :: tokensFrom .between rest := by
  cases rest with
  | nil => simp [tokensFrom, finish, mayEnd]
  | cons character rest =>
      have ends : endsNumeral character = true := delimited character rfl
      have notDigit : character.isDigit = false := by
        simp only [endsNumeral, Bool.and_eq_true, Bool.not_eq_true'] at ends
        exact ends.1.1
      have stops := continueNumeral_of_endsNumeral mayEnd numeral ends
      simp [tokensFrom, step, stops, mayEnd, notDigit]

/-- A numeral goes on with a character. -/
theorem tokensFrom_continue {part : NumeralPart} {numeral : Numeral}
    {character : Char} {mode : Mode}
    (goesOn : continueNumeral part numeral character = some mode)
    (rest : List Char) :
    tokensFrom (.numeral part numeral) (character :: rest) =
      tokensFrom mode rest := by
  simp [tokensFrom, step, goesOn]

/-- A part of a numeral that goes on with digits takes all that follow. -/
theorem tokensFrom_digits (part : NumeralPart)
    (push : Numeral → Char → Numeral)
    (takes : ∀ numeral digit, digit.isDigit = true →
      continueNumeral part numeral digit =
        some (.numeral part (push numeral digit)))
    (numeral : Numeral) {digits : List Char} (rest : List Char)
    (areDigits : ∀ digit ∈ digits, digit.isDigit = true) :
    tokensFrom (.numeral part numeral) (digits ++ rest) =
      tokensFrom (.numeral part (digits.foldl push numeral)) rest := by
  induction digits generalizing numeral with
  | nil => rfl
  | cons digit digits inductionHypothesis =>
      have isDigit : digit.isDigit = true := areDigits _ List.mem_cons_self
      rw [List.cons_append, tokensFrom_continue (takes numeral digit isDigit),
        List.foldl_cons]
      exact inductionHypothesis _ fun other isMember =>
        areDigits other (List.mem_cons_of_mem _ isMember)

theorem foldl_pushWhole (digits : List Char) (numeral : Numeral) :
    digits.foldl Numeral.pushWhole numeral =
      { numeral with whole := digits.reverse ++ numeral.whole } := by
  induction digits generalizing numeral with
  | nil => rfl
  | cons digit digits inductionHypothesis =>
      rw [List.foldl_cons, inductionHypothesis]
      simp [Numeral.pushWhole]

theorem foldl_pushFraction (digits : List Char) (numeral : Numeral) :
    digits.foldl Numeral.pushFraction numeral =
      { numeral with fraction := digits.reverse ++ numeral.fraction } := by
  induction digits generalizing numeral with
  | nil => rfl
  | cons digit digits inductionHypothesis =>
      rw [List.foldl_cons, inductionHypothesis]
      simp [Numeral.pushFraction]

theorem foldl_pushExponent (digits : List Char) (numeral : Numeral)
    (isNegative : Bool) (reversed : List Char)
    (isExponent : numeral.exponent = some (isNegative, reversed)) :
    digits.foldl Numeral.pushExponent numeral =
      { numeral with
        exponent := some (isNegative, digits.reverse ++ reversed) } := by
  induction digits generalizing numeral reversed with
  | nil => simp [← isExponent]
  | cons digit digits inductionHypothesis =>
      have pushed : (numeral.pushExponent digit).exponent =
          some (isNegative, digit :: reversed) := by
        simp [Numeral.pushExponent, isExponent]
      rw [List.foldl_cons, inductionHypothesis _ _ pushed]
      simp [Numeral.pushExponent]

theorem begin_digit {digit : Char} (isDigit : digit.isDigit = true)
    (notZero : digit ≠ '0') :
    begin digit = ([], .numeral .whole ⟨false, [digit], [], none⟩) := by
  unfold begin
  split
  all_goals first | exact absurd isDigit (by decide) | skip
  · exact absurd rfl notZero
  · rw [if_pos isDigit]

/-- What comes behind the whole number of a numeral. -/
def NumeralPart.EndsWhole (part : NumeralPart) : Prop :=
  part = .zero ∨ part = .whole

/-- What comes behind the fraction of a numeral, or in its place. -/
def NumeralPart.EndsFraction (part : NumeralPart) : Prop :=
  part.EndsWhole ∨ part = .fraction

/-- A whole number is taken with its sign. -/
theorem tokensFrom_whole {whole : List Char} (isWhole : IsWhole whole)
    (negative : Bool) (rest : List Char) :
    ∃ part : NumeralPart, part.EndsWhole ∧
      tokensFrom .between
          ((if negative then ['-'] else []) ++ whole ++ rest) =
        tokensFrom (.numeral part ⟨negative, whole.reverse, [], none⟩)
          rest := by
  have signed (characters : List Char) :
      tokensFrom .between ('-' :: characters) =
        tokensFrom (.numeral .start ⟨true, [], [], none⟩) characters := rfl
  cases isWhole with
  | zero =>
      refine ⟨.zero, .inl rfl, ?_⟩
      cases negative <;> rfl
  | @digits first others isDigit notZero areDigits =>
      have further := tokensFrom_digits .whole Numeral.pushWhole
        (fun numeral digit isDigit => by simp [continueNumeral, isDigit])
        ⟨negative, [first], [], none⟩ rest areDigits
      rw [foldl_pushWhole] at further
      refine ⟨.whole, .inr rfl, ?_⟩
      rw [List.reverse_cons, ← further]
      cases negative with
      | false =>
          simp [tokensFrom, step, begin_digit isDigit notZero]
      | true =>
          have goesOn : continueNumeral .start ⟨true, [], [], none⟩ first =
              some (.numeral .whole ⟨true, [first], [], none⟩) := by
            simp [continueNumeral, isDigit, notZero, Numeral.pushWhole]
          exact (signed _).trans (tokensFrom_continue goesOn _)

/-- A fraction is taken behind a whole number. -/
theorem tokensFrom_fraction {part : NumeralPart} (ends : part.EndsWhole)
    {fraction text : List Char} (spells : SpellsFraction fraction text)
    (negative : Bool) (whole rest : List Char) :
    ∃ next : NumeralPart, next.EndsFraction ∧
      tokensFrom (.numeral part ⟨negative, whole, [], none⟩) (text ++ rest) =
        tokensFrom (.numeral next ⟨negative, whole, fraction.reverse, none⟩)
          rest := by
  cases spells with
  | none => exact ⟨part, .inl ends, rfl⟩
  | @digits first others isDigit areDigits =>
      have point : continueNumeral part ⟨negative, whole, [], none⟩ '.' =
          some (.numeral .point ⟨negative, whole, [], none⟩) := by
        rcases ends with rfl | rfl <;> rfl
      have begun : continueNumeral .point ⟨negative, whole, [], none⟩ first =
          some (.numeral .fraction ⟨negative, whole, [first], none⟩) := by
        simp [continueNumeral, isDigit, Numeral.pushFraction]
      have further := tokensFrom_digits .fraction Numeral.pushFraction
        (fun numeral digit isDigit => by simp [continueNumeral, isDigit])
        ⟨negative, whole, [first], none⟩ rest areDigits
      rw [foldl_pushFraction] at further
      refine ⟨.fraction, .inr rfl, ?_⟩
      rw [List.cons_append, List.cons_append, tokensFrom_continue point,
        tokensFrom_continue begun, further, List.reverse_cons]

/-- An exponent is taken, and the numeral ends behind it. -/
theorem tokensFrom_exponent {part : NumeralPart} (ends : part.EndsFraction)
    {exponent : Option (Bool × List Char)} {text : List Char}
    (spells : SpellsExponent exponent text) (negative : Bool)
    (whole fraction : List Char) {rest : List Char}
    (delimited : Delimited rest) :
    tokensFrom (.numeral part ⟨negative, whole, fraction, none⟩)
        (text ++ rest) =
      .number ⟨negative, whole.reverse, fraction.reverse, exponent⟩ ::
        tokensFrom .between rest := by
  have marked (mark : Char) (isMark : mark = 'e' ∨ mark = 'E') :
      continueNumeral part ⟨negative, whole, fraction, none⟩ mark =
        some (.numeral .mark
          ⟨negative, whole, fraction, some (false, [])⟩) := by
    rcases ends with (rfl | rfl) | rfl <;> rcases isMark with rfl | rfl <;> rfl
  -- From the first digit of the exponent on there is one way to go on.
  have taken (isNegative : Bool) (first : Char) (others : List Char)
      (areDigits : ∀ digit ∈ others, digit.isDigit = true) :
      tokensFrom
          (.numeral .exponent
            ⟨negative, whole, fraction, some (isNegative, [first])⟩)
          (others ++ rest) =
        .number ⟨negative, whole.reverse, fraction.reverse,
            some (isNegative, first :: others)⟩ ::
          tokensFrom .between rest := by
    rw [tokensFrom_digits .exponent Numeral.pushExponent
        (fun numeral digit isDigit => by simp [continueNumeral, isDigit])
        _ rest areDigits,
      foldl_pushExponent others _ isNegative [first] rfl,
      tokensFrom_numeral rfl _ delimited]
    simp [Numeral.reverse]
  cases spells with
  | none =>
      have mayEnd : part.mayEnd = true := by
        rcases ends with (rfl | rfl) | rfl <;> rfl
      rw [List.nil_append, tokensFrom_numeral mayEnd _ delimited]
      rfl
  | @unsigned mark first others isMark isDigit areDigits =>
      have notSign : first ≠ '+' ∧ first ≠ '-' := by
        constructor <;> (rintro rfl; exact absurd isDigit (by decide))
      rw [← taken false first others areDigits, List.cons_append,
        List.cons_append, tokensFrom_continue (marked mark isMark)]
      apply tokensFrom_continue
      simp [continueNumeral, isDigit, notSign, Numeral.pushExponent]
  | @signed mark first others isNegative isMark isDigit areDigits =>
      have signed : continueNumeral .mark
          ⟨negative, whole, fraction, some (false, [])⟩
          (if isNegative then '-' else '+') =
            some (.numeral .sign
              ⟨negative, whole, fraction, some (isNegative, [])⟩) := by
        cases isNegative <;> rfl
      rw [← taken isNegative first others areDigits, List.cons_append,
        List.cons_append, List.cons_append,
        tokensFrom_continue (marked mark isMark), tokensFrom_continue signed]
      apply tokensFrom_continue
      simp [continueNumeral, isDigit, Numeral.pushExponent]

/-- A numeral is cut off before what is delimited. -/
theorem Numeral.SpelledBy.tokensFrom_append {numeral : Numeral}
    {text rest : List Char} (spelled : numeral.SpelledBy text)
    (delimited : Delimited rest) :
    tokensFrom .between (text ++ rest) =
      .number numeral :: tokensFrom .between rest := by
  cases spelled with
  | @parts fraction exponent whole spellsFraction spellsExponent =>
      obtain ⟨part, endsWhole, afterWhole⟩ :=
        tokensFrom_whole whole numeral.negative
          (fraction ++ (exponent ++ rest))
      obtain ⟨next, endsFraction, afterFraction⟩ :=
        tokensFrom_fraction endsWhole spellsFraction numeral.negative
          numeral.whole.reverse (exponent ++ rest)
      have ended := tokensFrom_exponent endsFraction spellsExponent
        numeral.negative numeral.whole.reverse numeral.fraction.reverse
        delimited
      rw [List.append_assoc, List.append_assoc fraction, afterWhole,
        afterFraction, ended, List.reverse_reverse, List.reverse_reverse]

/-! ## Strings -/

/-- A piece of a string: a character, or half of a pair of surrogates. -/
inductive Piece where
  | character (character : Char)
  | half (unit : Nat) (isHalf : 0xD800 ≤ unit ∧ unit < 0xE000)

/-- The four digits of a unit of UTF-16. -/
def unitDigits (unit : Nat) : List Char :=
  [hexDigit (unit / 0x1000), hexDigit (unit / 0x100 % 0x10),
    hexDigit (unit / 0x10 % 0x10), hexDigit (unit % 0x10)]

/-- The escapes of one letter and the characters that they stand for. -/
def letterEscapes : List (Char × Char) :=
  [('"', '"'), ('\\', '\\'), ('/', '/'), ('b', '\x08'), ('f', '\x0c'),
    ('n', '\n'), ('r', '\r'), ('t', '\t')]

/-- The spellings of a piece of a string. -/
inductive Piece.SpelledBy : Piece → List Char → Prop where
  | plain {character : Char} (noControl : 0x20 ≤ character.toNat)
      (notQuote : character ≠ '"') (notBackslash : character ≠ '\\') :
      SpelledBy (.character character) [character]
  | letter {letter character : Char}
      (isEscape : (letter, character) ∈ letterEscapes) :
      SpelledBy (.character character) ['\\', letter]
  | unit {character : Char} {digits : List Char}
      (fits : character.toNat < 0x10000)
      (spells : digits.map Char.toLower = unitDigits character.toNat) :
      SpelledBy (.character character) ('\\' :: 'u' :: digits)
  | half {unit : Nat} {isHalf : 0xD800 ≤ unit ∧ unit < 0xE000}
      {digits : List Char} (spells : digits.map Char.toLower = unitDigits unit) :
      SpelledBy (.half unit isHalf) ('\\' :: 'u' :: digits)

/-- The spellings of several pieces. -/
inductive SpellsPieces : List Piece → List Char → Prop where
  | nil : SpellsPieces [] []
  | cons {piece : Piece} {pieces : List Piece} {text rest : List Char}
      (spelled : piece.SpelledBy text) (others : SpellsPieces pieces rest) :
      SpellsPieces (piece :: pieces) (text ++ rest)

/-- The characters that pieces make up, unless half a pair stands alone. -/
def textOf? : List Piece → Option (List Char)
  | [] => some []
  | .character character :: pieces =>
      (textOf? pieces).map fun characters => character :: characters
  | .half first _ :: .half second _ :: pieces =>
      if first < 0xDC00 ∧ 0xDC00 ≤ second then
        (textOf? pieces).map fun characters =>
          Char.ofNat (0x10000 + (first - 0xD800) * 0x400 +
            (second - 0xDC00)) :: characters
      else none
  | .half _ _ :: _ => none

/-- A digit of either case has the value of the lowercase digit. -/
theorem hexValue?_of_toLower {character : Char} {value : Nat}
    (small : value < 16) (isLower : character.toLower = hexDigit value) :
    hexValue? character = some value := by
  have lower : ∀ value : Fin 16,
      hexValue? (hexDigit value) = some value.val := by
    decide
  have upper : ∀ value : Fin 16, 0x41 ≤ (hexDigit value).toNat - 0x20 →
      hexValue? (Char.ofNat ((hexDigit value).toNat - 0x20)) =
        some value.val := by
    decide
  have sameCode := congrArg Char.toNat isLower
  rw [toNat_toLower] at sameCode
  rw [← Char.ofNat_toNat character]
  split at sameCode
  · next isUpper =>
      have code : character.toNat = (hexDigit value).toNat - 0x20 := by omega
      rw [code] at isUpper ⊢
      exact upper ⟨value, small⟩ isUpper.1
  · rw [sameCode, Char.ofNat_toNat]
    exact lower ⟨value, small⟩

/-- The four digits of a unit add it to the string. -/
theorem tokensFrom_unit (draft : Draft) {unit : Nat} (fits : unit < 0x10000)
    {digits : List Char} (spells : digits.map Char.toLower = unitDigits unit)
    (rest : List Char) :
    tokensFrom (.string draft) ('\\' :: 'u' :: digits ++ rest) =
      tokensFrom (.string (draft.pushUnit unit)) rest := by
  simp only [unitDigits, List.map_eq_cons_iff, List.map_eq_nil_iff] at spells
  obtain ⟨first, _, rfl, isFirst, second, _, rfl, isSecond, third, _, rfl,
    isThird, fourth, _, rfl, isFourth, rfl⟩ := spells
  have firstValue := hexValue?_of_toLower (by omega) isFirst
  have secondValue := hexValue?_of_toLower (by omega) isSecond
  have thirdValue := hexValue?_of_toLower (by omega) isThird
  have fourthValue := hexValue?_of_toLower (by omega) isFourth
  have rebuilt : ((unit / 0x1000 * 16 + unit / 0x100 % 0x10) * 16 +
      unit / 0x10 % 0x10) * 16 + unit % 0x10 = unit := by
    omega
  simp [tokensFrom, step, firstValue, secondValue, thirdValue, fourthValue,
    rebuilt]

/-- The string with a further piece. -/
def Draft.add (draft : Draft) : Piece → Draft
  | .character character => draft.push character
  | .half unit _ => draft.pushUnit unit

theorem Draft.pushUnit_toNat (draft : Draft) (character : Char) :
    draft.pushUnit character.toNat = draft.push character := by
  have isValid : character.toNat < 0xD800 ∨ 0xDFFF < character.toNat :=
    character.valid.imp id And.left
  have notSecond : isSecondHalf character.toNat = false := by
    simp only [isSecondHalf, Bool.and_eq_false_iff, decide_eq_false_iff_not]
    omega
  have notFirst : isFirstHalf character.toNat = false := by
    simp only [isFirstHalf, Bool.and_eq_false_iff, decide_eq_false_iff_not]
    omega
  simp [pushUnit, notSecond, notFirst]

/-- The spelling of a piece adds it to the string. -/
theorem Piece.SpelledBy.tokensFrom_append {piece : Piece} {text : List Char}
    (spelled : piece.SpelledBy text) (draft : Draft) (rest : List Char) :
    tokensFrom (.string draft) (text ++ rest) =
      tokensFrom (.string (draft.add piece)) rest := by
  cases spelled with
  | @plain character noControl notQuote notBackslash =>
      simp [tokensFrom, step, notQuote, notBackslash, Nat.not_lt.mpr noControl,
        Draft.add]
  | letter isEscape =>
      simp only [letterEscapes, List.mem_cons, Prod.mk.injEq,
        List.not_mem_nil, or_false] at isEscape
      rcases isEscape with ⟨rfl, rfl⟩ | ⟨rfl, rfl⟩ | ⟨rfl, rfl⟩ | ⟨rfl, rfl⟩ |
        ⟨rfl, rfl⟩ | ⟨rfl, rfl⟩ | ⟨rfl, rfl⟩ | ⟨rfl, rfl⟩ <;> rfl
  | @unit character digits fits spells =>
      rw [tokensFrom_unit draft fits spells, Draft.pushUnit_toNat]
      rfl
  | @half unit isHalf digits spells =>
      exact tokensFrom_unit draft (by omega) spells rest

/-- The spellings of pieces add them to the string, which ends at the quote. -/
theorem SpellsPieces.tokensFrom_append {pieces : List Piece}
    {body : List Char} (spells : SpellsPieces pieces body) (draft : Draft)
    (rest : List Char) :
    tokensFrom (.string draft) (body ++ '"' :: rest) =
      (pieces.foldl Draft.add draft).token :: tokensFrom .between rest := by
  induction spells generalizing draft with
  | nil => rfl
  | cons spelled others inductionHypothesis =>
      rw [List.append_assoc, spelled.tokensFrom_append, inductionHypothesis]
      rfl

/-- A string with half a pair that stands alone never has a text. -/
theorem Draft.token_foldl_of_unpaired (pieces : List Piece) {draft : Draft}
    (unpaired : draft.paired = false) :
    (pieces.foldl Draft.add draft).token = .string none := by
  induction pieces generalizing draft with
  | nil => simp [token, unpaired]
  | cons piece pieces inductionHypothesis =>
      apply inductionHypothesis
      cases piece with
      | character character => simp [add, push, unpaired]
      | half unit isHalf =>
          simp only [add, pushUnit, push]
          split
          · split <;> simp [unpaired]
          · split <;> simp [unpaired]

theorem Draft.pushUnit_of_first (draft : Draft) {unit : Nat}
    (isHalf : 0xD800 ≤ unit ∧ unit < 0xE000) (isFirst : unit < 0xDC00) :
    draft.pushUnit unit =
      ⟨draft.characters, draft.paired && draft.pending.isNone, some unit⟩ := by
  have notSecond : isSecondHalf unit = false := by
    simp only [isSecondHalf, Bool.and_eq_false_iff, decide_eq_false_iff_not]
    omega
  have first : isFirstHalf unit = true := by
    simp only [isFirstHalf, Bool.and_eq_true, decide_eq_true_iff]
    omega
  simp [pushUnit, notSecond, first]

theorem Draft.pushUnit_of_second (draft : Draft) {unit : Nat}
    (isHalf : 0xD800 ≤ unit ∧ unit < 0xE000) (isSecond : 0xDC00 ≤ unit) :
    draft.pushUnit unit =
      match draft.pending with
      | some first =>
          ⟨Char.ofNat (0x10000 + (first - 0xD800) * 0x400 +
            (unit - 0xDC00)) :: draft.characters, draft.paired, none⟩
      | none => ⟨draft.characters, false, none⟩ := by
  have second : isSecondHalf unit = true := by
    simp only [isSecondHalf, Bool.and_eq_true, decide_eq_true_iff]
    omega
  cases pending : draft.pending <;> simp [pushUnit, second, pending]

/-- The pieces of a string make up its text. -/
theorem Draft.token_foldl (pieces : List Piece) (reversed : List Char) :
    (pieces.foldl Draft.add ⟨reversed, true, none⟩).token =
      .string ((textOf? pieces).map fun characters =>
        String.ofList (reversed.reverse ++ characters)) := by
  induction pieces using textOf?.induct generalizing reversed with
  | case1 => simp [textOf?, token]
  | case2 character pieces inductionHypothesis =>
      have further := inductionHypothesis (character :: reversed)
      simp only [List.foldl_cons, add, push, Option.isNone_none, Bool.and_self]
      rw [further, textOf?]
      simp [Function.comp_def]
  | case3 first isFirst second isSecond pieces isPair inductionHypothesis =>
      have further := inductionHypothesis
        (Char.ofNat (0x10000 + (first - 0xD800) * 0x400 + (second - 0xDC00)) ::
          reversed)
      simp only [List.foldl_cons, add, pushUnit_of_first _ isFirst isPair.1,
        pushUnit_of_second _ isSecond isPair.2, Option.isNone_none,
        Bool.and_self]
      rw [further, textOf?, if_pos isPair]
      simp [Function.comp_def]
  | case4 first isFirst second isSecond pieces noPair =>
      rw [textOf?, if_neg noPair]
      by_cases isLow : first < 0xDC00
      · have notHigh : second < 0xDC00 := by
          by_contra isHigh
          exact noPair ⟨isLow, Nat.le_of_not_lt isHigh⟩
        simp only [List.foldl_cons, add, pushUnit_of_first _ isFirst isLow,
          pushUnit_of_first _ isSecond notHigh]
        exact token_foldl_of_unpaired pieces rfl
      · rw [List.foldl_cons, add,
          pushUnit_of_second _ isFirst (Nat.le_of_not_lt isLow)]
        exact token_foldl_of_unpaired _ rfl
  | case5 first isFirst pieces alone =>
      have noText : textOf? (.half first isFirst :: pieces) = none := by
        rw [textOf?]
        exact alone
      rw [noText]
      by_cases isLow : first < 0xDC00
      · rw [List.foldl_cons, add, pushUnit_of_first _ isFirst isLow]
        cases pieces with
        | nil => rfl
        | cons piece pieces =>
            cases piece with
            | character character =>
                exact token_foldl_of_unpaired pieces rfl
            | half second isSecond => exact (alone _ _ _ rfl).elim
      · rw [List.foldl_cons, add,
          pushUnit_of_second _ isFirst (Nat.le_of_not_lt isLow)]
        exact token_foldl_of_unpaired _ rfl

/-! ## Tokens -/

/-- The characters of a token that is always spelled alike. -/
def Token.fixed? : Token → Option (List Char)
  | .openBracket => some ['[']
  | .closeBracket => some [']']
  | .openBrace => some ['\x7b']
  | .closeBrace => some ['\x7d']
  | .comma => some [',']
  | .colon => some [':']
  | .null => some ['n', 'u', 'l', 'l']
  | .boolean true => some ['t', 'r', 'u', 'e']
  | .boolean false => some ['f', 'a', 'l', 's', 'e']
  | _ => none

/-- The spellings of a token. -/
inductive Token.SpelledBy : Token → List Char → Prop where
  | fixed {token : Token} {text : List Char}
      (isFixed : token.fixed? = some text) : SpelledBy token text
  | number {numeral : Numeral} {text : List Char}
      (spelled : numeral.SpelledBy text) : SpelledBy (.number numeral) text
  | string {pieces : List Piece} {body : List Char}
      (spells : SpellsPieces pieces body) :
      SpelledBy (.string ((textOf? pieces).map String.ofList))
        ('"' :: body ++ ['"'])

/-- Whether a token is a numeral. -/
def Token.isNumber : Token → Bool
  | .number _ => true
  | _ => false

theorem tokensFrom_fixed {token : Token} {text : List Char}
    (isFixed : token.fixed? = some text) (rest : List Char) :
    tokensFrom .between (text ++ rest) =
      token :: tokensFrom .between rest := by
  cases token with
  | boolean value => cases value <;> cases isFixed <;> rfl
  | number numeral => cases isFixed
  | string text => cases isFixed
  | bad => cases isFixed
  | _ =>
      cases isFixed
      rfl

/-- The spelling of a token is cut off, if it is delimited where the token is a
numeral. -/
theorem Token.SpelledBy.tokensFrom_append {token : Token}
    {text rest : List Char} (spelled : token.SpelledBy text)
    (delimited : token.isNumber = true → Delimited rest) :
    tokensFrom .between (text ++ rest) =
      token :: tokensFrom .between rest := by
  cases spelled with
  | fixed isFixed => exact tokensFrom_fixed isFixed rest
  | number spelled => exact spelled.tokensFrom_append (delimited rfl)
  | @string pieces body spells =>
      have ended := spells.tokensFrom_append Draft.empty rest
      rw [Draft.empty, Draft.token_foldl] at ended
      rw [List.append_assoc]
      exact ended

/-! ## Texts -/

/-- The texts that are laid out from the spellings of some tokens, with space
around them. -/
inductive Laid : List Token → List Char → Prop where
  | spaces {spaces : List Char}
      (areBetween : ∀ character ∈ spaces, isSpace character = true) :
      Laid [] spaces
  | token {token : Token} {tokens : List Token} {spaces text rest : List Char}
      (areBetween : ∀ character ∈ spaces, isSpace character = true)
      (spelled : token.SpelledBy text) (laid : Laid tokens rest) :
      Laid (token :: tokens) (spaces ++ (text ++ rest))

/-- Whether a token may stand right behind a value. -/
def Token.mayFollow : Token → Bool
  | .closeBracket => true
  | .closeBrace => true
  | .comma => true
  | .colon => true
  | _ => false

/-- Tokens of which every numeral is followed by one that may follow a
value. -/
def Separated : List Token → Prop
  | [] => True
  | token :: tokens =>
      (token.isNumber = true →
        ∀ next ∈ tokens.head?, next.mayFollow = true) ∧ Separated tokens

/-- Spaces may be put in front of a text. -/
theorem Laid.behind_spaces {tokens : List Token} {spaces text : List Char}
    (areBetween : ∀ character ∈ spaces, isSpace character = true)
    (laid : Laid tokens text) : Laid tokens (spaces ++ text) := by
  cases laid with
  | spaces others =>
      refine .spaces fun character isMember => ?_
      rcases List.mem_append.mp isMember with isSpace | isSpace
      · exact areBetween character isSpace
      · exact others character isSpace
  | token others spelled laid =>
      rw [← List.append_assoc]
      refine .token (fun character isMember => ?_) spelled laid
      rcases List.mem_append.mp isMember with isSpace | isSpace
      · exact areBetween character isSpace
      · exact others character isSpace

/-- A text is delimited that has nothing at all or may follow a value. -/
theorem Laid.delimited {tokens : List Token} {text : List Char}
    (laid : Laid tokens text)
    (mayFollow : ∀ next ∈ tokens.head?, next.mayFollow = true) :
    Delimited text := by
  cases laid with
  | spaces areBetween =>
      intro character isFirst
      exact endsNumeral_of_isSpace
        (areBetween character (List.mem_of_mem_head? isFirst))
  | @token token tokens spaces text rest areBetween spelled laid =>
      cases spaces with
      | cons character spaces =>
          exact delimited_cons
            (endsNumeral_of_isSpace (areBetween _ List.mem_cons_self))
      | nil =>
          have follows := mayFollow token rfl
          cases spelled with
          | fixed isFixed =>
              cases token with
              | closeBracket => cases isFixed; exact delimited_cons rfl
              | closeBrace => cases isFixed; exact delimited_cons rfl
              | comma => cases isFixed; exact delimited_cons rfl
              | colon => cases isFixed; exact delimited_cons rfl
              | _ => cases follows
          | number spelled => cases follows
          | string spells => cases follows

/-- A text that is laid out from tokens is cut into these tokens. -/
theorem tokensFrom_of_laid {tokens : List Token} {text : List Char}
    (laid : Laid tokens text) (separated : Separated tokens) :
    tokensFrom .between text = tokens := by
  induction laid with
  | @spaces spaces areBetween =>
      have passed := tokensFrom_spaces areBetween []
      rwa [List.append_nil] at passed
  | token areBetween spelled laid inductionHypothesis =>
      obtain ⟨ends, separated⟩ := separated
      rw [tokensFrom_spaces areBetween,
        spelled.tokensFrom_append fun isNumber => laid.delimited (ends isNumber),
        inductionHypothesis separated]

end Json
end ReportBinding
