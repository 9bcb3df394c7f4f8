import ReportBinding.Proofs.Text.Hex
import ReportBinding.Proofs.Text.Lines
import ReportBinding.Quote.Transcript

/-!
# Which line of a transcript counts

Three kinds of lines matter in a transcript: error lines, lines with a marker
and lines of digits.  The first error line refuses the whole; without one the
first line with the marker decides, and without one of these the last line of
digits: `parse_eq`.  All other lines make no difference: `parse_selects`.
-/

namespace ReportBinding
namespace Transcript

/-! ## Kinds of lines -/

/-- A line begins with the marker of errors. -/
def IsError (line : List Char) : Prop :=
  errorMarker.toList <+: line

/-- A line begins with the marker of quotes. -/
def IsMarked (line : List Char) : Prop :=
  quoteMarker.toList <+: line

/-- A line is an even number of hexadecimal digits, at least 96 of them, with or
without a mark `0x` in front. -/
def IsDigits (line : List Char) : Prop :=
  ∃ digits, (line = digits ∨ line = '0' :: 'x' :: digits) ∧
    96 ≤ digits.length ∧ digits.length % 2 = 0 ∧
      ∀ digit ∈ digits, isHexDigit digit = true

/-- Whether a line is a marker line. -/
def isMarkerLine (line : List Char) : Bool :=
  (payload? line).isSome

/-- Whether a line is a line of digits. -/
def isDigitLine (line : List Char) : Bool :=
  isHexLine (Text.dropHexMark line)

/-- Whether a line is of one of the three kinds. -/
def matters (line : List Char) : Bool :=
  isErrorLine line || isMarkerLine line || isDigitLine line

theorem isErrorLine_iff (line : List Char) :
    isErrorLine line = true ↔ IsError line := by
  rw [isErrorLine, Option.isSome_iff_exists]
  constructor
  · rintro ⟨rest, isMarked⟩
    exact ⟨rest, ((Text.after?_eq_some_iff _ _ _).mp isMarked).symm⟩
  · rintro ⟨rest, isMarked⟩
    exact ⟨rest, (Text.after?_eq_some_iff _ _ _).mpr isMarked.symm⟩

theorem payload?_marked (rest : List Char) :
    payload? (quoteMarker.toList ++ rest) =
      some (unquoted (Text.trimmed rest)) := by
  rw [payload?, (Text.after?_eq_some_iff _ _ _).mpr rfl, Option.map_some]

theorem isMarkerLine_iff (line : List Char) :
    isMarkerLine line = true ↔ IsMarked line := by
  rw [isMarkerLine]
  constructor
  · intro isSome
    rw [payload?, Option.isSome_map, Option.isSome_iff_exists] at isSome
    obtain ⟨rest, isMarked⟩ := isSome
    exact ⟨rest, ((Text.after?_eq_some_iff _ _ _).mp isMarked).symm⟩
  · rintro ⟨rest, rfl⟩
    rw [payload?_marked, Option.isSome_some]

theorem isHexDigit_iff (character : Char) :
    isHexDigit character = true ↔
      isCommitDigit character.toLower = true := by
  rw [isCommitDigit_toLower_iff]
  simp only [isHexDigit, Char.isDigit, Bool.or_eq_true, Bool.and_eq_true,
    decide_eq_true_eq, ge_iff_le, Char.le_def, UInt32.le_iff_toNat_le]
  change ((0x30 ≤ character.toNat ∧ character.toNat ≤ 0x39) ∨
    (0x61 ≤ character.toNat ∧ character.toNat ≤ 0x66)) ∨
      (0x41 ≤ character.toNat ∧ character.toNat ≤ 0x46) ↔ _
  omega

theorem isHexLine_iff (digits : List Char) :
    isHexLine digits = true ↔
      96 ≤ digits.length ∧ digits.length % 2 = 0 ∧
        ∀ digit ∈ digits, isHexDigit digit = true := by
  rw [isHexLine, Bool.and_eq_true, Bool.and_eq_true, decide_eq_true_iff,
    beq_iff_eq, List.all_eq_true, and_assoc]
  exact Iff.rfl

theorem isDigitLine_iff (line : List Char) :
    isDigitLine line = true ↔ IsDigits line := by
  rw [isDigitLine, isHexLine_iff]
  constructor
  · intro isHexLine
    refine ⟨Text.dropHexMark line, ?_, isHexLine⟩
    unfold Text.dropHexMark
    split
    · exact .inr rfl
    · exact .inl rfl
  · rintro ⟨digits, rfl | rfl, long, even, areDigits⟩
    · have unmarked : Text.dropHexMark line = line := by
        apply Text.dropHexMark_eq_self
        intro digit isMember
        exact (Text.plain_of_digit digit
          ((isHexDigit_iff digit).mp (areDigits digit isMember))).2.1
      rw [unmarked]
      exact ⟨long, even, areDigits⟩
    · exact ⟨long, even, areDigits⟩

theorem matters_iff (line : List Char) :
    matters line = true ↔ IsError line ∨ IsMarked line ∨ IsDigits line := by
  rw [matters, Bool.or_eq_true, Bool.or_eq_true, isErrorLine_iff,
    isMarkerLine_iff, isDigitLine_iff, or_assoc]

/-! ## The line that counts -/

/-- A line is the first one of a kind. -/
def IsFirst (kind : List Char → Prop) (lines : List (List Char))
    (line : List Char) : Prop :=
  ∃ before after, lines = before ++ line :: after ∧ kind line ∧
    ∀ other ∈ before, ¬kind other

/-- A line is the last one of a kind. -/
def IsLast (kind : List Char → Prop) (lines : List (List Char))
    (line : List Char) : Prop :=
  IsFirst kind lines.reverse line

section

variable {kind : List Char → Prop} {p : List Char → Bool}
  {lines : List (List Char)} {line : List Char}

theorem isFirst_iff (decides : ∀ line, p line = true ↔ kind line) :
    IsFirst kind lines line ↔ lines.find? p = some line := by
  simp only [List.find?_eq_some_iff_append, IsFirst, ← decides,
    Bool.not_eq_true, Bool.not_eq_true']
  constructor
  · rintro ⟨before, after, spelled, isKind, others⟩
    exact ⟨isKind, before, after, spelled, others⟩
  · rintro ⟨isKind, before, after, spelled, others⟩
    exact ⟨before, after, spelled, isKind, others⟩

theorem find?_eq_none_iff (decides : ∀ line, p line = true ↔ kind line) :
    lines.find? p = none ↔ ∀ line ∈ lines, ¬kind line := by
  simp only [List.find?_eq_none, decides]

theorem exists_find? (decides : ∀ line, p line = true ↔ kind line)
    (exists_line : ∃ line ∈ lines, kind line) :
    ∃ line, lines.find? p = some line := by
  obtain ⟨line, isMember, isKind⟩ := exists_line
  rw [← Option.isSome_iff_exists, List.find?_isSome]
  exact ⟨line, isMember, (decides line).mpr isKind⟩

/-- Lines that are of no kind that is looked for can be left out. -/
theorem find?_filter_matters (implies : ∀ line, p line = true →
      matters line = true) :
    (lines.filter matters).find? p = lines.find? p := by
  rw [List.find?_filter]
  congr 1
  funext line
  by_cases found : p line = true
  · simp [found, implies line found]
  · simp [found]

end

/-- What comes of the first error line, the first marker line and the last line
of digits, where there are such lines. -/
def outcome :
    Option (List Char) → Option (List Char) → Option (List Char) →
      Except Fault Bytes
  | some line, _, _ => .error (.errorLine (String.ofList line))
  | none, some line, _ => decodeQuote ((payload? line).getD [])
  | none, none, some line => decodeQuote (Text.dropHexMark line)
  | none, none, none => .error .noQuote

/-- Lines of digits override one another, and a marker line ends the search. -/
theorem candidateAfter_eq (digits : Option (List Char))
    (lines : List (List Char)) :
    candidateAfter digits lines =
      ((lines.find? isMarkerLine).map fun line =>
        (payload? line).getD []).or
          (((lines.reverse.find? isDigitLine).map Text.dropHexMark).or
            digits) := by
  induction lines generalizing digits with
  | nil => rfl
  | cons line lines inductionHypothesis =>
      rw [candidateAfter, List.find?_cons, List.reverse_cons,
        List.find?_append, List.find?_singleton]
      split
      · next payload isPayload =>
          have isMarker : isMarkerLine line = true := by
            rw [isMarkerLine, isPayload, Option.isSome_some]
          rw [isMarker, Option.map_some, isPayload, Option.getD_some,
            Option.some_or]
      · next noPayload =>
          have notMarker : isMarkerLine line = false := by
            rw [isMarkerLine, noPayload, Option.isSome_none]
          rw [notMarker, inductionHypothesis]
          congr 1
          cases lines.reverse.find? isDigitLine with
          | some last => rfl
          | none =>
              -- No later line of digits overrides this one, if it is one.
              by_cases isDigits : isDigitLine line = true
              · rw [if_pos isDigits]
                exact congrArg (Option.or none) (if_pos isDigits)
              · rw [if_neg isDigits]
                exact congrArg (Option.or none) (if_neg isDigits)

/-- A transcript is parsed by the lines that count. -/
theorem parse_eq (transcript : String) :
    parse transcript =
      outcome ((linesOf transcript).find? isErrorLine)
        ((linesOf transcript).find? isMarkerLine)
        ((linesOf transcript).reverse.find? isDigitLine) := by
  rw [parse, errorLine?, candidateAfter_eq]
  cases (linesOf transcript).find? isErrorLine <;>
    cases (linesOf transcript).find? isMarkerLine <;>
      cases (linesOf transcript).reverse.find? isDigitLine <;> rfl

/-- There is no error line exactly if no line begins with the marker. -/
theorem errorLine?_eq_none_iff (transcript : String) :
    errorLine? transcript = none ↔
      ∀ line ∈ linesOf transcript, ¬IsError line := by
  rw [errorLine?, Option.map_eq_none_iff, find?_eq_none_iff isErrorLine_iff]

/-- Lines that are of none of the three kinds make no difference. -/
theorem parse_eq_filter (transcript : String) :
    parse transcript =
      outcome (((linesOf transcript).filter matters).find? isErrorLine)
        (((linesOf transcript).filter matters).find? isMarkerLine)
        (((linesOf transcript).filter matters).reverse.find?
          isDigitLine) := by
  have isError (line : List Char) (found : isErrorLine line = true) :
      matters line = true := by
    rw [matters, found, Bool.true_or, Bool.true_or]
  have isMarked (line : List Char) (found : isMarkerLine line = true) :
      matters line = true := by
    rw [matters, found, Bool.or_true, Bool.true_or]
  have isDigits (line : List Char) (found : isDigitLine line = true) :
      matters line = true := by
    rw [matters, found, Bool.or_true]
  rw [parse_eq, ← List.filter_reverse, find?_filter_matters isError,
    find?_filter_matters isMarked, find?_filter_matters isDigits]

/-! ## Payloads -/

/-- What stands behind a marker is a spelling of bytes, in any number of double
quotes and with blanks outside of them. -/
inductive SpellsPayload (bytes : Bytes) (rest : List Char) : Prop where
  | quoted {text : List Char} (opening closing : Nat)
      (spells : Hex.SpellsMarked bytes text)
      (surrounds : Text.Surrounds (List.replicate opening '"' ++ text ++
        List.replicate closing '"') rest) : SpellsPayload bytes rest

/-- The quotes and the blanks around a spelling are dropped. -/
theorem SpellsPayload.exists_text {bytes : Bytes} {rest : List Char}
    (spells : SpellsPayload bytes rest) :
    ∃ text, Hex.SpellsMarked bytes text ∧
      unquoted (Text.trimmed rest) = text := by
  obtain ⟨opening, closing, spells, surrounds⟩ := spells
  next text =>
  refine ⟨text, spells, ?_⟩
  have noBlank : ∀ character ∈ List.replicate opening '"' ++ text ++
      List.replicate closing '"', Text.isBlank character = false := by
    intro character isMember
    rw [List.mem_append, List.mem_append] at isMember
    rcases isMember with (isMember | isMember) | isMember
    · rw [List.eq_of_mem_replicate isMember]
      rfl
    · exact spells.noBlank character isMember
    · rw [List.eq_of_mem_replicate isMember]
      rfl
  rw [surrounds.trimmed_eq, Text.trimmed_eq_self noBlank]
  have areQuotes (count : Nat) : ∀ character ∈ List.replicate count '"',
      (character == '"') = true := by
    intro character isMember
    exact beq_iff_eq.mpr (List.eq_of_mem_replicate isMember)
  apply Text.stripped_surrounded (areQuotes opening) _ (areQuotes closing)
  have noQuote : '"' ∉ text := spells.not_mem (by decide) (by decide)
  intro character isMember
  rw [beq_eq_false_iff_ne]
  rintro rfl
  exact noQuote isMember

/-- Spelled bytes are a quote unless there are none. -/
theorem decodeQuote_of_spells {bytes : Bytes} {text : List Char}
    (spells : Hex.SpellsMarked bytes text) :
    decodeQuote text =
      if bytes = [] then .error .emptyQuote else .ok bytes := by
  obtain ⟨digits, spelled, -, unmarked⟩ := spells.exists_digits
  rw [decodeQuote, unmarked, spelled.decode]
  cases bytes with
  | nil => rfl
  | cons byte bytes => rfl

theorem decodeQuote_ne_nil {digits : List Char} {bytes : Bytes}
    (decoded : decodeQuote digits = .ok bytes) : bytes ≠ [] := by
  unfold decodeQuote at decoded
  split at decoded
  · cases decoded
  · cases decoded
  · next isNotEmpty _ =>
      cases decoded
      exact isNotEmpty

/-- A line of digits spells at least as many bytes as a header has. -/
theorem IsDigits.spells {line : List Char} (isDigits : IsDigits line) :
    ∃ bytes, Hex.SpellsMarked bytes line ∧ 48 ≤ bytes.length := by
  obtain ⟨digits, isLine, long, even, areDigits⟩ := isDigits
  obtain ⟨bytes, spells⟩ := Hex.exists_spells even fun digit isMember =>
    (isHexDigit_iff digit).mp (areDigits digit isMember)
  have isLong : 48 ≤ bytes.length := by
    have := spells.length_digits
    omega
  rcases isLine with rfl | rfl
  · exact ⟨bytes, .bare spells, isLong⟩
  · exact ⟨bytes, .marked spells, isLong⟩

/-- A transcript that holds a quote has no error line, and the quote is not
empty. -/
theorem of_parse {transcript : String} {bytes : Bytes}
    (parsed : parse transcript = .ok bytes) :
    errorLine? transcript = none ∧ bytes ≠ [] := by
  unfold parse at parsed
  split at parsed
  · cases parsed
  · next noErrorLine =>
      split at parsed
      · exact ⟨noErrorLine, decodeQuote_ne_nil parsed⟩
      · cases parsed

/-! ## Lines of a transcript -/

/-- A carriage return at the end of a line is a blank. -/
theorem trimmed_withoutReturn (line : List Char) :
    Text.trimmed (Text.withoutReturn line) = Text.trimmed line := by
  unfold Text.withoutReturn Text.dropReturn
  split
  · next reversed isReversed =>
      have spelled : line = reversed.reverse ++ ['\r'] := by
        rw [← List.reverse_reverse line, isReversed, List.reverse_cons]
      have isBlank : ∀ character ∈ ['\r'], Text.isBlank character = true :=
        List.forall_mem_singleton.mpr rfl
      rw [spelled]
      exact (Text.stripped_append_right isBlank).symm
  · rw [List.reverse_reverse]

/-- However lines are ended, those that matter are the lines that matter among
the lines that a transcript spells, less the blanks at their ends. -/
theorem filter_linesOf {lines : List (List Char)} {transcript : String}
    (spells : Text.Spells lines transcript.toList)
    (noFeed : ∀ line ∈ lines, '\n' ∉ line) :
    (linesOf transcript).filter matters =
      (lines.map Text.trimmed).filter matters := by
  let read (line : List Char) : Option (List Char) :=
    if matters (Text.trimmed line) then some (Text.trimmed line) else none
  have isRead (lines : List (List Char)) :
      (lines.map Text.trimmed).filter matters = lines.filterMap read := by
    rw [← List.filterMap_eq_filter, List.filterMap_map]
    rfl
  rw [linesOf, isRead, isRead]
  apply Text.filterMap_linesOf read spells noFeed
  case ignoresEmpty => rfl
  case ignoresReturn =>
    intro line _
    simp only [read, trimmed_withoutReturn]

/-! ## Selection -/

/-- What a list of lines has to do with what is read from them. -/
structure Selects (lines : List (List Char)) (result : Except Fault Bytes) :
    Prop where
  /-- If there is an error line, the first one is the refusal. -/
  errorLine : (∃ line ∈ lines, IsError line) →
    ∃ line, IsFirst IsError lines line ∧
      result = .error (.errorLine (String.ofList line))
  /-- Without one, if there is a marker line, the first one decides: what is
  spelled behind the marker is the quote if it is not empty. -/
  markerLine : (∀ line ∈ lines, ¬IsError line) →
    (∃ line ∈ lines, IsMarked line) →
      ∃ rest, IsFirst IsMarked lines (quoteMarker.toList ++ rest) ∧
        ∀ bytes, SpellsPayload bytes rest →
          result = if bytes = [] then .error .emptyQuote else .ok bytes
  /-- Without one, if there is a line of digits, what the last one spells is the
  quote, and it is as long as a header. -/
  digitLine : (∀ line ∈ lines, ¬IsError line) →
    (∀ line ∈ lines, ¬IsMarked line) → (∃ line ∈ lines, IsDigits line) →
      ∃ line bytes, IsLast IsDigits lines line ∧
        Hex.SpellsMarked bytes line ∧ 48 ≤ bytes.length ∧
          result = .ok bytes
  /-- Without any of them there is no quote. -/
  noLine : (∀ line ∈ lines, ¬IsError line) →
    (∀ line ∈ lines, ¬IsMarked line) → (∀ line ∈ lines, ¬IsDigits line) →
      result = .error .noQuote
  /-- No quote is empty. -/
  notEmpty : ∀ bytes, result = .ok bytes → bytes ≠ []

theorem selects_parse (transcript : String) :
    Selects (linesOf transcript) (parse transcript) where
  errorLine exists_error := by
    obtain ⟨line, found⟩ := exists_find? isErrorLine_iff exists_error
    refine ⟨line, (isFirst_iff isErrorLine_iff).mpr found, ?_⟩
    rw [parse_eq, found, outcome]
  markerLine noError exists_marked := by
    obtain ⟨line, found⟩ := exists_find? isMarkerLine_iff exists_marked
    have isFirst := (isFirst_iff isMarkerLine_iff).mpr found
    obtain ⟨rest, rfl⟩ : IsMarked line := by
      obtain ⟨_, _, _, isMarked, _⟩ := isFirst
      exact isMarked
    refine ⟨rest, isFirst, ?_⟩
    intro bytes spells
    obtain ⟨text, isText, isPayload⟩ := spells.exists_text
    rw [parse_eq, (find?_eq_none_iff isErrorLine_iff).mpr noError, found,
      outcome, payload?_marked, isPayload, Option.getD_some,
      decodeQuote_of_spells isText]
  digitLine noError noMarked exists_digits := by
    have exists_reversed :
        ∃ line ∈ (linesOf transcript).reverse, IsDigits line := by
      simpa only [List.mem_reverse] using exists_digits
    obtain ⟨line, found⟩ := exists_find? isDigitLine_iff exists_reversed
    have isLast := (isFirst_iff isDigitLine_iff).mpr found
    obtain ⟨bytes, spells, long⟩ : ∃ bytes, Hex.SpellsMarked bytes line ∧
        48 ≤ bytes.length := by
      obtain ⟨_, _, _, isDigits, _⟩ := isLast
      exact isDigits.spells
    refine ⟨line, bytes, isLast, spells, long, ?_⟩
    obtain ⟨digits, spelled, unmarked, -⟩ := spells.exists_digits
    have notEmpty : bytes ≠ [] := List.ne_nil_of_length_pos (by omega)
    rw [parse_eq, (find?_eq_none_iff isErrorLine_iff).mpr noError,
      (find?_eq_none_iff isMarkerLine_iff).mpr noMarked, found, outcome,
      unmarked, decodeQuote_of_spells (.bare spelled), if_neg notEmpty]
  noLine noError noMarked noDigits := by
    have noneFound : (linesOf transcript).reverse.find? isDigitLine = none :=
      (find?_eq_none_iff isDigitLine_iff).mpr fun line isMember =>
        noDigits line (List.mem_reverse.mp isMember)
    rw [parse_eq, (find?_eq_none_iff isErrorLine_iff).mpr noError,
      (find?_eq_none_iff isMarkerLine_iff).mpr noMarked, noneFound, outcome]
  notEmpty _ parsed := (of_parse parsed).2

/-- Two transcripts without error lines that have the same first marker line are
parsed alike, whatever their other lines are. -/
theorem parse_of_isFirst_marked {first second : String} {line : List Char}
    (noError : ∀ other ∈ linesOf first ++ linesOf second, ¬IsError other)
    (isFirst : IsFirst IsMarked (linesOf first) line)
    (isFirstToo : IsFirst IsMarked (linesOf second) line) :
    parse first = parse second := by
  have noErrorFirst := (find?_eq_none_iff isErrorLine_iff).mpr
    fun other isMember => noError other (List.mem_append_left _ isMember)
  have noErrorSecond := (find?_eq_none_iff isErrorLine_iff).mpr
    fun other isMember => noError other (List.mem_append_right _ isMember)
  rw [isFirst_iff isMarkerLine_iff] at isFirst isFirstToo
  rw [parse_eq, parse_eq, noErrorFirst, noErrorSecond, isFirst, isFirstToo,
    outcome, outcome]

/-- The lines that count decide what is read from a transcript: the first error
line, else the first marker line, whatever the others are, else the last line of
digits.  Lines that are of none of these kinds make no difference, and neither
do the ways in which lines end. -/
theorem parse_selects :
    (∀ line, matters line = true ↔
      IsError line ∨ IsMarked line ∨ IsDigits line) ∧
    (∀ transcript, Selects (linesOf transcript) (parse transcript)) ∧
    (∀ first second line,
      (∀ other ∈ linesOf first ++ linesOf second, ¬IsError other) →
      IsFirst IsMarked (linesOf first) line →
      IsFirst IsMarked (linesOf second) line → parse first = parse second) ∧
    (∀ first second,
      (linesOf first).filter matters = (linesOf second).filter matters →
        parse first = parse second) ∧
    (∀ lines (transcript : String), Text.Spells lines transcript.toList →
      (∀ line ∈ lines, '\n' ∉ line) →
        (linesOf transcript).filter matters =
          (lines.map Text.trimmed).filter matters) := by
  refine ⟨matters_iff, selects_parse, ?_, ?_, ?_⟩
  · intro first second line noError isFirst isFirstToo
    exact parse_of_isFirst_marked noError isFirst isFirstToo
  · intro first second sameLines
    rw [parse_eq_filter, parse_eq_filter, sameLines]
  · intro lines transcript spells noFeed
    exact filter_linesOf spells noFeed

/-- A transcript that ends some lines as other systems do, and has its quote in
the first of two marker lines. -/
def sample : String :=
  "report_data: [1]\r\ntdx raw quote: \"0x0400AbCd\" \ntdx raw quote: 00\n"

/-- The same quote in other surroundings. -/
def rearranged : String :=
  "tdx raw quote: \"0x0400AbCd\"\nbye\ntdx raw quote:"

/-- A line of digits behind one that is too short. -/
def listed : String :=
  String.ofList ("0xAB\n".toList ++ List.replicate 96 'b')

theorem spells_sample :
    Hex.Spells [4, 0, 0xab, 0xcd] "0400AbCd".toList := by
  unfold Hex.Spells
  decide

theorem spells_listed :
    Hex.Spells (List.replicate 48 0xbb) (List.replicate 96 'b') := by
  unfold Hex.Spells
  decide

theorem linesOf_sample : linesOf sample =
    ["report_data: [1]".toList, quoteMarker.toList ++ " \"0x0400AbCd\"".toList,
      "tdx raw quote: 00".toList] := by
  decide +kernel

theorem linesOf_listed : linesOf listed =
    ["0xAB".toList, List.replicate 96 'b'] := by
  decide +kernel

theorem parse_selects_samples :
    (∀ line ∈ linesOf sample, ¬IsError line) ∧
    IsFirst IsMarked (linesOf sample)
      (quoteMarker.toList ++ " \"0x0400AbCd\"".toList) ∧
    SpellsPayload [4, 0, 0xab, 0xcd] " \"0x0400AbCd\"".toList ∧
    parse sample = .ok [4, 0, 0xab, 0xcd] ∧
    parse rearranged = parse sample ∧
    parse listed = .ok (List.replicate 48 0xbb) ∧
    parse "[ERROR] busy\n[ERROR] late" =
      .error (.errorLine "[ERROR] busy") ∧
    parse "[ERROR]busy\r\n" = parse " [ERROR]busy" ∧
    parse "0xAB" = .error .noQuote := by
  obtain ⟨-, selects, sameMarked, sameLines, anyEnds⟩ := parse_selects
  have noError {lines : List (List Char)}
      (noneFound : lines.find? isErrorLine = none) :
      ∀ line ∈ lines, ¬IsError line :=
    (find?_eq_none_iff isErrorLine_iff).mp noneFound
  have noMarked {lines : List (List Char)}
      (noneFound : lines.find? isMarkerLine = none) :
      ∀ line ∈ lines, ¬IsMarked line :=
    (find?_eq_none_iff isMarkerLine_iff).mp noneFound
  have isBlank : ∀ character ∈ [' '], Text.isBlank character = true :=
    List.forall_mem_singleton.mpr rfl
  have spells : SpellsPayload [4, 0, 0xab, 0xcd] " \"0x0400AbCd\"".toList :=
    .quoted 1 1 (.marked spells_sample)
      (.blanks isBlank (List.forall_mem_nil _))
  have noErrorSample : ∀ line ∈ linesOf sample, ¬IsError line := by
    rw [linesOf_sample]
    exact noError rfl
  have isFirstMarked : (linesOf sample).find? isMarkerLine =
      some (quoteMarker.toList ++ " \"0x0400AbCd\"".toList) := by
    rw [linesOf_sample]
    rfl
  have isFirst := (isFirst_iff isMarkerLine_iff).mpr isFirstMarked
  refine ⟨noErrorSample, isFirst, spells, ?_, ?_, ?_, ?_, ?_, ?_⟩
  · obtain ⟨rest, isFirstToo, decides⟩ := (selects sample).markerLine
      noErrorSample ⟨_, List.mem_of_find?_eq_some isFirstMarked, _, rfl⟩
    rw [isFirst_iff isMarkerLine_iff, isFirstMarked] at isFirstToo
    rw [List.append_cancel_left (Option.some.inj isFirstToo)] at spells
    exact decides _ spells
  · refine sameMarked rearranged sample _ ?_
      ((isFirst_iff isMarkerLine_iff).mpr (by decide)) isFirst
    rw [List.forall_mem_append]
    exact ⟨noError (by decide), noErrorSample⟩
  · have areLines := selects listed
    rw [linesOf_listed] at areLines
    obtain ⟨line, bytes, isLast, spelled, -, parsed⟩ :=
      areLines.digitLine (noError rfl) (noMarked rfl)
        ⟨List.replicate 96 'b', .tail _ (.head _),
          (isDigitLine_iff _).mp (by decide)⟩
    have isLine : ["0xAB".toList, List.replicate 96 'b'].reverse.find?
        isDigitLine = some (List.replicate 96 'b') := by decide
    rw [IsLast, isFirst_iff isDigitLine_iff, isLine] at isLast
    rw [← Option.some.inj isLast] at spelled
    rw [parsed, spelled.unique (.bare spells_listed)]
  · obtain ⟨line, isFirstError, parsed⟩ :=
      (selects "[ERROR] busy\n[ERROR] late").errorLine
        ⟨"[ERROR] busy".toList, by decide, (isErrorLine_iff _).mp (by decide)⟩
    have isLine : (linesOf "[ERROR] busy\n[ERROR] late").find? isErrorLine =
        some "[ERROR] busy".toList := by decide
    rw [isFirst_iff isErrorLine_iff, isLine] at isFirstError
    rw [parsed, ← Option.some.inj isFirstError, String.ofList_toList]
  · apply sameLines
    rw [anyEnds ["[ERROR]busy".toList] "[ERROR]busy\r\n"
        (.ended _ .returnFeed .nothing) (by decide),
      anyEnds [" [ERROR]busy".toList] " [ERROR]busy" (.unended _) (by decide)]
    decide
  · exact (selects "0xAB").noLine (noError (by decide)) (noMarked (by decide))
      ((find?_eq_none_iff isDigitLine_iff).mp (by decide))

end Transcript
end ReportBinding
