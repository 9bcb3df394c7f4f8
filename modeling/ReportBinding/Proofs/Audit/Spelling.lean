import ReportBinding.Proofs.Audit.Evidence
import ReportBinding.Proofs.Quote.Layout
import ReportBinding.Proofs.Quote.Transcript

/-!
# Spellings of quotes

A quote is read from files, from transcripts and from JSON documents.  All of
these read the same quote from the same digits, in whatever cases the digits are
and with or without a mark `0x`, and a file with the bytes themselves is never
taken for digits: `Quote.readers_agree`.
-/

namespace ReportBinding

open Json

/-! ## Documents -/

namespace Quote

variable {bytes : Bytes} {text : List Char}

/-- A spelling has nothing in it that a JSON string spells differently. -/
theorem spellString_of_spells (spells : Hex.SpellsMarked bytes text) :
    spellString (String.ofList text) = '"' :: text ++ ['"'] := by
  have asItIs (character : Char) (isMember : character ∈ text) :
      spellChar character = [character] := by
    rcases spells.digit_or_mark character isMember with isDigit | rfl
    · have range := (isCommitDigit_toLower_iff character).mp isDigit
      have notQuote : character ≠ '"' := by
        rintro rfl
        exact absurd isDigit (by decide)
      have notBackslash : character ≠ '\\' := by
        rintro rfl
        exact absurd isDigit (by decide)
      exact spellChar_eq_self (by omega) notQuote notBackslash
    · rfl
  have unchanged : text.flatMap spellChar = text := by
    rw [List.flatMap_def, List.map_congr_left asItIs, ← List.flatMap_def,
      List.flatMap_singleton']
  rw [spellString, String.toList_ofList, unchanged]

/-- A JSON document with nothing but a string is read as the quote that is
spelled in it. -/
theorem read_document_of_spells (spells : Hex.SpellsMarked bytes text) :
    (Document.ofText (String.ofList ('"' :: text ++ ['"']))).read read =
      .ok ⟨bytes⟩ := by
  let node : Node := .ofText (String.ofList text)
  have written : node.toText = String.ofList ('"' :: text ++ ['"']) := by
    rw [← spellString_of_spells spells]
    rfl
  have isDocument : Document.ofText node.toText = ⟨node, true⟩ :=
    Document.ofText_toText rfl
  have isRead : read node = .ok ⟨bytes⟩ := read_of_spells spells
  rw [← written, isDocument, Document.read, isRead]
  rfl

end Quote

/-! ## Transcripts -/

namespace Transcript

/-- A line holds a text: alone, or behind the marker of quotes and blanks, with
or without double quotes. -/
inductive Prints (text : List Char) : List Char → Prop where
  | alone : Prints text text
  | marked {blanks : List Char}
      (areBlank : ∀ character ∈ blanks, Text.isBlank character = true) :
      Prints text (quoteMarker.toList ++ (blanks ++ text))
  | quoted {blanks : List Char}
      (areBlank : ∀ character ∈ blanks, Text.isBlank character = true) :
      Prints text (quoteMarker.toList ++ (blanks ++ ('"' :: text ++ ['"'])))

section

variable {bytes : Bytes} {text line : List Char}

/-- A spelling is not taken for a line of another kind. -/
theorem isDigitLine_of_spells (spells : Hex.SpellsMarked bytes text)
    (long : 48 ≤ bytes.length) :
    isErrorLine text = false ∧ isMarkerLine text = false ∧
      isDigitLine text = true := by
  obtain ⟨digits, spelled, unmarked, -⟩ := spells.exists_digits
  have length := spelled.length_digits
  refine ⟨?_, ?_, ?_⟩
  · rw [Bool.eq_false_iff, ne_eq, isErrorLine_iff]
    rintro ⟨rest, rfl⟩
    exact spells.not_mem (by decide) (by decide) List.mem_cons_self
  · rw [Bool.eq_false_iff, ne_eq, isMarkerLine_iff]
    rintro ⟨rest, rfl⟩
    exact spells.not_mem (by decide) (by decide) List.mem_cons_self
  · rw [isDigitLine, unmarked, isHexLine_iff]
    refine ⟨by omega, by omega, ?_⟩
    intro digit isMember
    exact (isHexDigit_iff digit).mpr (spelled.areDigits digit isMember)

/-- A line with the marker is no error line. -/
theorem isMarkerLine_marked (rest : List Char) :
    isErrorLine (quoteMarker.toList ++ rest) = false ∧
      isMarkerLine (quoteMarker.toList ++ rest) = true :=
  ⟨rfl, (isMarkerLine_iff _).mpr ⟨rest, rfl⟩⟩

/-- A line with the marker decides if it is the only one that matters. -/
theorem outcome_of_payload {rest : List Char}
    (spells : SpellsPayload bytes rest) (notEmpty : bytes ≠ []) :
    outcome ([quoteMarker.toList ++ rest].find? isErrorLine)
      ([quoteMarker.toList ++ rest].find? isMarkerLine)
      ([quoteMarker.toList ++ rest].reverse.find? isDigitLine) =
        .ok bytes := by
  obtain ⟨text, isText, isPayload⟩ := spells.exists_text
  obtain ⟨notError, isMarker⟩ := isMarkerLine_marked rest
  rw [List.find?_singleton, notError, List.find?_singleton, isMarker]
  change outcome none (some (quoteMarker.toList ++ rest)) _ = _
  rw [outcome, payload?_marked, isPayload, Option.getD_some,
    decodeQuote_of_spells isText, if_neg notEmpty]

/-- A spelling decides if it is the only line that matters. -/
theorem outcome_of_spells (spells : Hex.SpellsMarked bytes text)
    (long : 48 ≤ bytes.length) :
    outcome ([text].find? isErrorLine) ([text].find? isMarkerLine)
      ([text].reverse.find? isDigitLine) = .ok bytes := by
  obtain ⟨digits, spelled, unmarked, -⟩ := spells.exists_digits
  obtain ⟨notError, notMarker, isDigits⟩ := isDigitLine_of_spells spells long
  have notEmpty : bytes ≠ [] := List.ne_nil_of_length_pos (by omega)
  rw [List.find?_singleton, notError, List.find?_singleton, notMarker,
    List.reverse_singleton, List.find?_singleton, isDigits]
  change outcome none none (some text) = _
  rw [outcome, unmarked, decodeQuote_of_spells (.bare spelled),
    if_neg notEmpty]

/-- A line that holds a spelling matters, and decides if no other line does. -/
theorem Prints.decides (prints : Prints text line)
    (spells : Hex.SpellsMarked bytes text) (long : 48 ≤ bytes.length) :
    matters line = true ∧
      outcome ([line].find? isErrorLine) ([line].find? isMarkerLine)
        ([line].reverse.find? isDigitLine) = .ok bytes := by
  have notEmpty : bytes ≠ [] := List.ne_nil_of_length_pos (by omega)
  have isMatter (rest : List Char) :
      matters (quoteMarker.toList ++ rest) = true := by
    rw [matters, (isMarkerLine_marked rest).2, Bool.or_true, Bool.true_or]
  cases prints with
  | alone =>
      obtain ⟨-, -, isDigits⟩ := isDigitLine_of_spells spells long
      exact ⟨by rw [matters, isDigits, Bool.or_true],
        outcome_of_spells spells long⟩
  | marked areBlank =>
      refine ⟨isMatter _,
        outcome_of_payload (.quoted 0 0 spells ?_) notEmpty⟩
      rw [List.replicate_zero, List.nil_append, List.append_nil]
      exact .behind areBlank
  | quoted areBlank =>
      exact ⟨isMatter _,
        outcome_of_payload (.quoted 1 1 spells (.behind areBlank)) notEmpty⟩

theorem trimmed_marked {last : Char} (notBlank : Text.isBlank last = false)
    (rest : List Char) :
    Text.trimmed (quoteMarker.toList ++ (rest ++ [last])) =
      quoteMarker.toList ++ (rest ++ [last]) := by
  apply Text.trimmed_eq_self_of_ends
  · intro character isFirst
    obtain rfl : 't' = character := Option.some.inj isFirst
    rfl
  · intro character isLast
    rw [← List.append_assoc, List.getLast?_concat] at isLast
    rw [← Option.some.inj isLast, notBlank]

/-- There are no blanks at the ends of a line that holds a spelling. -/
theorem Prints.trimmed_eq (prints : Prints text line)
    (spells : Hex.SpellsMarked bytes text) (long : 48 ≤ bytes.length) :
    Text.trimmed line = line := by
  cases prints with
  | alone => exact spells.trimmed_eq
  | @marked blanks areBlank =>
      have notNil : text ≠ [] :=
        spells.ne_nil (List.ne_nil_of_length_pos (by omega))
      rw [← List.dropLast_concat_getLast notNil, ← List.append_assoc blanks]
      exact trimmed_marked (spells.noBlank _ (List.getLast_mem notNil)) _
  | @quoted blanks areBlank =>
      have regrouped : blanks ++ ('"' :: text ++ ['"']) =
          blanks ++ '"' :: text ++ ['"'] := (List.append_assoc _ _ _).symm
      rw [regrouped]
      exact trimmed_marked rfl _

/-- The quote is read from a transcript with a line that holds a spelling of it,
when no other line matters. -/
theorem parse_of_prints {printed : List Char} {before after : List (List Char)}
    {transcript : String} (prints : Prints text line)
    (spells : Hex.SpellsMarked bytes text) (long : 48 ≤ bytes.length)
    (surrounds : Text.Surrounds line printed)
    (noneMatters : ∀ other ∈ before ++ after,
      matters (Text.trimmed other) = false)
    (isText : Text.Spells (before ++ printed :: after) transcript.toList)
    (noFeed : ∀ other ∈ before ++ printed :: after, '\n' ∉ other) :
    parse transcript = .ok bytes := by
  obtain ⟨isMatter, decides⟩ := prints.decides spells long
  have isTrimmed : Text.trimmed printed = line :=
    surrounds.trimmed_eq.trans (prints.trimmed_eq spells long)
  have noneLeft (others : List (List Char))
      (among : ∀ other ∈ others, other ∈ before ++ after) :
      (others.map Text.trimmed).filter matters = [] := by
    rw [List.filter_eq_nil_iff, List.forall_mem_map]
    intro other isMember
    rw [noneMatters other (among other isMember)]
    exact Bool.false_ne_true
  have isOnly : (linesOf transcript).filter matters = [line] := by
    rw [filter_linesOf isText noFeed, List.map_append, List.map_cons,
      isTrimmed, List.filter_append, List.filter_cons_of_pos isMatter,
      noneLeft before fun _ => List.mem_append_left _,
      noneLeft after fun _ => List.mem_append_right _]
    rfl
  rw [parse_eq_filter, isOnly, decides]

end

end Transcript

/-! ## Files -/

namespace Audit

variable {files : FileSystem} {request : Request} {path : HostText}
  {bytes : Bytes} {text content : List Char} {claimed : ReportData}

/-- A file with a spelling, and blanks around it, is read as the bytes that are
spelled. -/
theorem hexContent?_of_spells (spells : Hex.SpellsMarked bytes text)
    (notEmpty : bytes ≠ []) (surrounds : Text.Surrounds text content) :
    hexContent? (String.ofList content) = some bytes := by
  obtain ⟨digits, spelled, unmarked, -⟩ := spells.exists_digits
  have isTrimmed : Text.trimmed content = text :=
    surrounds.trimmed_eq.trans spells.trimmed_eq
  have someDigits : digits.isEmpty = false := by
    have length := spelled.length_digits
    have positive := List.length_pos_iff.mpr notEmpty
    rw [List.isEmpty_eq_false_iff]
    exact List.ne_nil_of_length_pos (by omega)
  have areDigits : digits.all Transcript.isHexDigit = true := by
    rw [List.all_eq_true]
    intro digit isMember
    exact (Transcript.isHexDigit_iff digit).mpr
      (spelled.areDigits digit isMember)
  simp only [hexContent?, String.toList_ofList, isTrimmed, unmarked,
    someDigits, areDigits, spelled.decode]
  rfl

theorem readQuote_of_spells (spells : Hex.SpellsMarked bytes text)
    (notEmpty : bytes ≠ []) (surrounds : Text.Surrounds text content)
    (holds : files.Holds path (Text.Utf8.encode (String.ofList content))) :
    readQuote files path = .ok bytes := by
  refine readQuote_eq_ok_iff.mpr
    ⟨_, (files.read_eq_ok_iff _ _).mpr holds, ?_⟩
  rw [quoteOfContent, Text.Utf8.decode?_encode, Option.bind_some,
    hexContent?_of_spells spells notEmpty surrounds]

/-! ## Audits -/

/-- The claimant, with a quote file renamed. -/
def Claimant.naming (path : HostText) : Claimant → Claimant
  | .quote _ => .quote path
  | claimant => claimant

/-- The verdict, with its quote file renamed. -/
def Verdict.naming (path : HostText) (verdict : Verdict) : Verdict :=
  { verdict with
    comparisons := verdict.comparisons.map fun comparison =>
      { comparison with claimant := comparison.claimant.naming path } }

/-- The claims, with the quote file renamed. -/
def claimsNaming (path : HostText) (claims : List (Claimant × ReportData)) :
    List (Claimant × ReportData) :=
  claims.map fun claim => (claim.1.naming path, claim.2)

theorem judge_naming (provenance : Provenance)
    (claims : List (Claimant × ReportData)) :
    judge provenance (claimsNaming path claims) =
      (judge provenance claims).map (Verdict.naming path) := by
  cases claims with
  | nil => rfl
  | cons claim claims =>
      simp [judge, claimsNaming, Verdict.naming, Except.map,
        Function.comp_def]

/-- Files whose quotes make the same claim yield the same claims otherwise. -/
theorem claims_naming {other : HostText} {receipt : Option Receipt}
    (quoted : quoteClaims files (some path) = .ok [(.quote path, claimed)])
    (quotedToo : quoteClaims files (some other) =
      .ok [(.quote other, claimed)]) :
    claims files (request.quoting path) receipt =
      (claims files (request.quoting other) receipt).map
        (claimsNaming path) := by
  unfold claims Request.quoting
  simp only [quoted, quotedToo, bind, Except.bind]
  cases isExpected : expectedClaims request.expected with
  | error fault => rfl
  | ok expected =>
      cases isRecorded : receiptClaims receipt with
      | error fault => rfl
      | ok recorded =>
          obtain ⟨_, -, rfl⟩ := expectedClaims_eq_ok_iff.mp isExpected
          obtain ⟨_, -, rfl⟩ := receiptClaims_eq_ok_iff.mp isRecorded
          simp [claimsNaming, Claimant.naming, Except.map, Function.comp_def]

/-- Audits that differ in the path of a quote file come to the same verdict, but
for its name, when the quotes make the same claim. -/
theorem audit_naming {other : HostText}
    (quoted : quoteClaims files (some path) = .ok [(.quote path, claimed)])
    (quotedToo : quoteClaims files (some other) =
      .ok [(.quote other, claimed)]) :
    audit files (request.quoting path) =
      (audit files (request.quoting other)).map (Verdict.naming path) := by
  have isReceipt (path : HostText) :
      receipt? files (request.quoting path) = receipt? files request := rfl
  have isProvenance (path : HostText) (receipt : Option Receipt) :
      provenance files (request.quoting path) receipt =
        provenance files request receipt := rfl
  unfold audit
  simp only [isReceipt, isProvenance, claims_naming quoted quotedToo, bind,
    Except.bind]
  cases receipt? files request with
  | error fault => rfl
  | ok receipt =>
      dsimp only
      cases provenance files request receipt with
      | error fault => rfl
      | ok provenance =>
          dsimp only
          cases claims files (request.quoting other) receipt with
          | error fault => rfl
          | ok claims => exact judge_naming provenance claims

end Audit

/-! ## Agreement -/

namespace Quote

/-- All that read quotes read the same one from a text: files with nothing else
in them, transcripts with a line that holds the text when no other line matters,
JSON strings, and documents with nothing but this string. -/
structure IsReadFrom (quote : Quote) (text : List Char) : Prop where
  file : ∀ (files : FileSystem) path content,
    Text.Surrounds text content →
    files.Holds path (Text.Utf8.encode (String.ofList content)) →
      Audit.readQuote files path = .ok quote.bytes
  transcript : ∀ (transcript : String) before line printed after,
    Transcript.Prints text line → Text.Surrounds line printed →
    (∀ other ∈ before ++ after,
      Transcript.matters (Text.trimmed other) = false) →
    Text.Spells (before ++ printed :: after) transcript.toList →
    (∀ other ∈ before ++ printed :: after, '\n' ∉ other) →
      Transcript.parse transcript = .ok quote.bytes
  value : read (.string (some (String.ofList text))) = .ok quote
  document :
    (Document.ofText (String.ofList ('"' :: text ++ ['"']))).read read =
      .ok quote

/-- Two files make the same claim in audits: it is the claim of the one as of
the other, and a verdict on the one is the verdict on the other, but for the
name of the file. -/
structure ClaimAlike (files : FileSystem) (path other : HostText)
    (claimed : ReportData) : Prop where
  claims : Audit.quoteClaims files (some path) = .ok [(.quote path, claimed)]
  otherClaims :
    Audit.quoteClaims files (some other) = .ok [(.quote other, claimed)]
  verdict : ∀ request : Audit.Request,
    audit files (request.quoting path) =
      (audit files (request.quoting other)).map (Audit.Verdict.naming path)

/-- Every quote that is long enough is read from all of its spellings, wherever
they stand.  A quote that holds report data is also read from its own bytes, and
it makes no difference to audits in which of these ways a file holds it. -/
theorem readers_agree :
    (∀ bytes text, 48 ≤ bytes.length → Hex.SpellsMarked bytes text →
      IsReadFrom ⟨bytes⟩ text) ∧
    (∀ (files : FileSystem) path bytes claimed,
      extractReportData bytes = .ok claimed → files.Holds path bytes →
        Audit.readQuote files path = .ok bytes) ∧
    (∀ (files : FileSystem) path other bytes text content claimed,
      extractReportData bytes = .ok claimed → files.Holds path bytes →
      Hex.SpellsMarked bytes text → Text.Surrounds text content →
      files.Holds other (Text.Utf8.encode (String.ofList content)) →
        ClaimAlike files path other claimed) := by
  refine ⟨?_, ?_, ?_⟩
  · intro bytes text long spells
    have notEmpty : bytes ≠ [] := List.ne_nil_of_length_pos (by omega)
    constructor
    case file =>
      intro files path content surrounds holds
      exact Audit.readQuote_of_spells spells notEmpty surrounds holds
    case transcript =>
      intro transcript before line printed after prints surrounds noneMatters
        isText noFeed
      exact Transcript.parse_of_prints prints spells long surrounds noneMatters
        isText noFeed
    case value => exact read_of_spells spells
    case document => exact read_document_of_spells spells
  · intro files path bytes claimed extracted holds
    exact Audit.readQuote_of_extract holds extracted
  · intro files path other bytes text content claimed extracted holds spells
      surrounds holdsOther
    have notEmpty : bytes ≠ [] := by
      obtain ⟨byte, rest, rfl, -⟩ := begins_of_extract extracted
      exact List.cons_ne_nil _ _
    have quoted := Audit.quoteClaims_of_readQuote
      (Audit.readQuote_of_extract holds extracted) extracted
    have quotedToo := Audit.quoteClaims_of_readQuote
      (Audit.readQuote_of_spells spells notEmpty surrounds holdsOther) extracted
    exact ⟨quoted, quotedToo, fun _ => Audit.audit_naming quoted quotedToo⟩

/-- A quote in two files: as it is, and in marked digits between blanks. -/
def kept (quote : Quote) : FileSystem :=
  (FileSystem.empty.put ["raw"] (.file quote.bytes false)).put ["text"]
    (.file (Text.Utf8.encode (String.ofList
      ([' '] ++ '0' :: 'x' :: Hex.encodeChars quote.bytes ++ ['\n']))) false)

/-- A marked spelling of 48 bytes. -/
def spelling : List Char :=
  '0' :: 'x' :: List.replicate 96 'b'

theorem readers_agree_samples :
    Transcript.parse (String.ofList (Transcript.quoteMarker.toList ++
      ([' '] ++ ('"' :: spelling ++ ['"'])))) =
        .ok (List.replicate 48 0xbb) ∧
    Audit.readQuote (kept ⟨List.replicate 48 0xbb⟩) "text" =
      .ok (List.replicate 48 0xbb) ∧
    Audit.readQuote (kept (bare 5 Audit.genuine.reportData)) "raw" =
      .ok (bare 5 Audit.genuine.reportData).bytes ∧
    ClaimAlike (kept (bare 5 Audit.genuine.reportData)) "raw" "text"
      Audit.genuine.reportData := by
  obtain ⟨fromSpellings, fromBytes, alike⟩ := readers_agree
  have isSpace : ∀ character ∈ [' '], Text.isBlank character = true :=
    List.forall_mem_singleton.mpr rfl
  have isFeed : ∀ character ∈ ['\n'], Text.isBlank character = true :=
    List.forall_mem_singleton.mpr rfl
  have isRead : IsReadFrom ⟨List.replicate 48 0xbb⟩ spelling :=
    fromSpellings _ _ (by decide) (.marked Transcript.spells_listed)
  have extracted : extractReportData (bare 5 Audit.genuine.reportData).bytes =
      .ok Audit.genuine.reportData :=
    @reportData_bare 5 574 rfl Audit.genuine.reportData
  have holdsRaw (quote : Quote) : (kept quote).Holds "raw" quote.bytes :=
    ⟨false, rfl⟩
  have holdsText (quote : Quote) : (kept quote).Holds "text"
      (Text.Utf8.encode (String.ofList
        ([' '] ++ '0' :: 'x' :: Hex.encodeChars quote.bytes ++ ['\n']))) :=
    ⟨false, rfl⟩
  refine ⟨?_, ?_, ?_, ?_⟩
  · refine isRead.transcript _ [] _ _ [] (.quoted isSpace)
      (.blanks (List.forall_mem_nil _) (List.forall_mem_nil _))
      (List.forall_mem_nil _) ?_ ?_
    · rw [String.toList_ofList, List.append_nil]
      exact .unended _
    · exact List.forall_mem_singleton.mpr (by decide)
  · have isMarked : IsReadFrom ⟨List.replicate 48 0xbb⟩
        ('0' :: 'x' :: Hex.encodeChars (List.replicate 48 0xbb)) :=
      fromSpellings _ _ (by decide) (.marked (Hex.spells_encodeChars _))
    exact isMarked.file _ _ _ (.blanks isSpace isFeed) (holdsText _)
  · exact fromBytes _ _ _ _ extracted (holdsRaw _)
  · exact alike _ _ _ _ _ _ _ extracted (holdsRaw _)
      (.marked (Hex.spells_encodeChars _)) (.blanks isSpace isFeed)
      (holdsText _)

end Quote
end ReportBinding
