import Mathlib.Data.List.Basic
import ReportBinding.Checkout.Metadata
import ReportBinding.Proofs.Files.Access
import ReportBinding.Proofs.Text.Blank
import ReportBinding.Proofs.Text.Lines

/-!
# Lists of packed references

A list of packed references has a line for each reference, with its id and its
name.  The id of what a tag is about stands on a line of its own behind that of
the tag, and comments may stand anywhere.  Looking a name up undoes the writing
of such a list: `lookUpPacked_reads_rendering`.
-/

namespace ReportBinding
namespace Checkout

open Files Text

/-- A reference as a list of packed references has it. -/
structure PackedReference where
  id : String
  name : String
  /-- The id of what the reference is about, if the reference is to a tag. -/
  peeled : Option String
  id_ne_empty : id.toList ≠ []
  isBlank_of_mem_id : ∀ character ∈ id.toList, Text.isBlank character = false
  head?_id : id.toList.head? ≠ some '#' ∧ id.toList.head? ≠ some '^'
  isBlank_head?_name : ∀ character ∈ name.toList.head?,
    Text.isBlank character = false
  isBlank_getLast?_name : ∀ character ∈ name.toList.getLast?,
    Text.isBlank character = false
  noFeed_name : '\n' ∉ name.toList
  noFeed_peeled : ∀ id ∈ peeled, '\n' ∉ id.toList

namespace PackedReference

/-- The line that has the id and the name of a reference. -/
def line (reference : PackedReference) : List Char :=
  reference.id.toList ++ ' ' :: reference.name.toList

/-- The lines that are about a reference. -/
def lines (reference : PackedReference) : List (List Char) :=
  reference.line :: reference.peeled.toList.map fun id => '^' :: id.toList

/-- What is read from the line of a reference. -/
def entry (reference : PackedReference) : List Char × List Char :=
  (reference.id.toList, reference.name.toList)

end PackedReference

/-- Whether a line is a comment. -/
def isComment (line : List Char) : Bool :=
  line.head? == some '#'

/-- A text is a list of packed references: apart from comments, its lines are
those about the references, in order. -/
inductive Renders (references : List PackedReference) (packed : String) :
    Prop where
  | intro (lines : List (List Char))
      (spells : Text.Spells lines packed.toList)
      (noFeed : ∀ line ∈ lines, isComment line = true → '\n' ∉ line)
      (isAbout : lines.filter (fun line => !isComment line) =
        references.flatMap PackedReference.lines)

/-! ## Lines -/

theorem splitAtBlank?_append {before : List Char} (noBlank : ' ' ∉ before)
    (behind : List Char) :
    splitAtBlank? (before ++ ' ' :: behind) = some (before, behind) := by
  induction before with
  | nil => rfl
  | cons character before inductionHypothesis =>
      have isOther : character ≠ ' ' := by
        rintro rfl
        exact noBlank List.mem_cons_self
      rw [List.cons_append, splitAtBlank?, inductionHypothesis fun isMember =>
        noBlank (List.mem_cons_of_mem _ isMember)]
      · rfl
      · exact isOther

/-- Lines behind a mark have no entry. -/
theorem packedEntry?_of_mark {line : List Char}
    (hasMark : line.head? = some '#' ∨ line.head? = some '^') :
    packedEntry? line = none := by
  simp only [List.head?_eq_some_iff] at hasMark
  rcases hasMark with ⟨rest, rfl⟩ | ⟨rest, rfl⟩
  · rfl
  · rfl

/-- A line without a mark has the entry that its first blank makes. -/
theorem packedEntry?_of_no_mark {line : List Char}
    (noMark : line.head? ≠ some '#' ∧ line.head? ≠ some '^') :
    packedEntry? line = (splitAtBlank? line).map fun (id, name) =>
      (Text.trimmed id, Text.trimmed name) := by
  unfold packedEntry?
  split
  · exact absurd rfl noMark.1
  · exact absurd rfl noMark.2
  · rfl

namespace PackedReference

variable (reference : PackedReference)

theorem head?_line :
    reference.line.head? ≠ some '#' ∧ reference.line.head? ≠ some '^' := by
  have sameHead : reference.line.head? = reference.id.toList.head? :=
    List.head?_append_of_ne_nil _ reference.id_ne_empty
  rw [sameHead]
  exact reference.head?_id

/-- The id and the name of a reference are read from its line. -/
theorem packedEntry?_line :
    packedEntry? reference.line = some reference.entry := by
  have noBlank : ' ' ∉ reference.id.toList := by
    intro isMember
    exact absurd (reference.isBlank_of_mem_id ' ' isMember) (by decide)
  rw [packedEntry?_of_no_mark reference.head?_line, line,
    splitAtBlank?_append noBlank, Option.map_some]
  dsimp only
  rw [Text.trimmed_eq_self reference.isBlank_of_mem_id,
    Text.trimmed_eq_self_of_ends reference.isBlank_head?_name
      reference.isBlank_getLast?_name, entry]

/-- The line of a reference does not end in a carriage return. -/
theorem withoutReturn_line :
    Text.withoutReturn reference.line = reference.line := by
  apply Text.withoutReturn_of_getLast?
  intro isReturn
  rw [line, List.getLast?_append_of_ne_nil _ (List.cons_ne_nil _ _),
    List.getLast?_cons] at isReturn
  cases isLast : reference.name.toList.getLast? with
  | none =>
      rw [isLast] at isReturn
      exact absurd isReturn (by decide)
  | some character =>
      rw [isLast, Option.getD_some] at isReturn
      cases isReturn
      exact absurd (reference.isBlank_getLast?_name '\r' isLast) (by decide)

theorem noFeed_lines : ∀ line ∈ reference.lines, '\n' ∉ line := by
  intro line isMember
  rcases List.mem_cons.mp isMember with rfl | isPeeled
  · have noFeedId : '\n' ∉ reference.id.toList := by
      intro isMember
      exact absurd (reference.isBlank_of_mem_id '\n' isMember) (by decide)
    simp [PackedReference.line, noFeedId, reference.noFeed_name]
  · obtain ⟨id, isId, rfl⟩ := List.mem_map.mp isPeeled
    simp [reference.noFeed_peeled id (Option.mem_toList.mp isId)]

/-- Only the first line about a reference has an entry. -/
theorem filterMap_lines :
    reference.lines.filterMap packedEntry? = [reference.entry] := by
  have peeled : (reference.peeled.toList.map fun id =>
      '^' :: id.toList).filterMap packedEntry? = [] := by
    rw [List.filterMap_eq_nil_iff]
    intro line isMember
    obtain ⟨id, -, rfl⟩ := List.mem_map.mp isMember
    exact packedEntry?_of_mark (.inr rfl)
  rw [lines, List.filterMap_cons_some reference.packedEntry?_line, peeled]

end PackedReference

/-! ## Lists -/

/-- A line of a list of packed references: a comment, the line of a reference
or one behind the mark of a tag. -/
theorem line_of_isAbout {references : List PackedReference}
    {lines : List (List Char)}
    (isAbout : lines.filter (fun line => !isComment line) =
      references.flatMap PackedReference.lines)
    {line : List Char} (isMember : line ∈ lines) :
    isComment line = true ∨
      ∃ reference ∈ references, line ∈ reference.lines := by
  cases comments : isComment line with
  | true => exact .inl rfl
  | false =>
      right
      have isAboutOne : line ∈ references.flatMap PackedReference.lines := by
        rw [← isAbout, List.mem_filter]
        exact ⟨isMember, by rw [comments]; rfl⟩
      exact List.mem_flatMap.mp isAboutOne

/-- A carriage return at the end of a line with a mark leaves the mark. -/
theorem packedEntry?_withoutReturn_of_mark {line : List Char}
    (hasMark : line.head? = some '#' ∨ line.head? = some '^') :
    packedEntry? (Text.withoutReturn line) = packedEntry? line := by
  have noReturn : line.head? ≠ some '\r' := by
    rcases hasMark with isMark | isMark <;> rw [isMark] <;> decide
  rw [packedEntry?_of_mark hasMark, packedEntry?_of_mark]
  rw [Text.head?_withoutReturn noReturn]
  exact hasMark

/-- The entries of a list of packed references are those of the references. -/
theorem Renders.entries {references : List PackedReference} {packed : String}
    (renders : Renders references packed) :
    (Text.linesOf packed.toList).filterMap packedEntry? =
      references.map PackedReference.entry := by
  obtain ⟨lines, spells, noFeed, isAbout⟩ := renders
  have kinds {line : List Char} (isMember : line ∈ lines) :=
    line_of_isAbout isAbout isMember
  have entriesOfLines : lines.filterMap packedEntry? =
      references.map PackedReference.entry := by
    have comments : (lines.filter fun line =>
        !isComment line).filterMap packedEntry? =
          lines.filterMap packedEntry? := by
      rw [List.filterMap_filter]
      apply List.filterMap_congr
      intro line isMember
      split
      · rfl
      · next comments =>
          have isMark : line.head? = some '#' := by
            simpa [isComment] using comments
          exact (packedEntry?_of_mark (.inl isMark)).symm
    rw [← comments, isAbout, List.filterMap_flatMap, List.map_eq_flatMap]
    apply List.flatMap_congr
    intro reference isMember
    exact reference.filterMap_lines
  rw [← entriesOfLines]
  apply Text.filterMap_linesOf packedEntry? spells
  case noFeed =>
    intro line isMember
    rcases kinds isMember with comments | ⟨reference, -, isAboutIt⟩
    · exact noFeed line isMember comments
    · exact reference.noFeed_lines line isAboutIt
  case ignoresEmpty => rfl
  case ignoresReturn =>
    intro line isMember
    rcases kinds isMember with comments | ⟨reference, -, isAboutIt⟩
    · apply packedEntry?_withoutReturn_of_mark
      exact .inl (by simpa [isComment] using comments)
    · rcases List.mem_cons.mp isAboutIt with rfl | isPeeled
      · rw [reference.withoutReturn_line]
      · obtain ⟨id, -, rfl⟩ := List.mem_map.mp isPeeled
        exact packedEntry?_withoutReturn_of_mark (.inr rfl)

/-- The id of a name is that of the first reference with the name. -/
theorem Renders.packedId? {references : List PackedReference}
    {packed : String} (renders : Renders references packed) (name : String) :
    packedId? packed name =
      (references.find? fun reference => reference.name == name).map
        PackedReference.id := by
  have sameNames : (fun entry : List Char × List Char =>
      entry.2 == name.toList) ∘ PackedReference.entry =
        fun reference => reference.name == name := by
    funext reference
    rw [Bool.eq_iff_iff]
    simp [PackedReference.entry, String.toList_inj]
  rw [Checkout.packedId?, renders.entries, List.find?_map, sameNames,
    Option.map_map]
  congr 1
  funext reference
  simp [PackedReference.entry]

/-- Looking a name up in a file with a list of packed references comes to the
first reference with the name, and to nothing else. -/
theorem lookUpPacked_of_renders {files : FileSystem} {shared : HostText}
    {packed : String} {references : List PackedReference}
    (renders : Renders references packed)
    (holds : files.Holds (Path.join shared "packed-refs")
      (Text.Utf8.encode packed)) (name : String) :
    lookUpPacked files shared name =
      (references.find? fun reference => reference.name == name).map
        PackedReference.id := by
  rw [lookUpPacked, holds.readText_eq_ok]
  exact renders.packedId? name

/-- Looking names up undoes the writing of a list of packed references, whatever
comments stand in it and however its lines end.  A name has the id of the first
reference with the name, which is the only one if names are not repeated.  A
name that is not listed has no id, and no id is told but that of a reference
with the name. -/
theorem lookUpPacked_reads_rendering (files : FileSystem)
    (shared : HostText) (packed : String) (references : List PackedReference)
    (renders : Renders references packed)
    (holds : files.Holds (Path.join shared "packed-refs")
      (Text.Utf8.encode packed)) :
    (∀ before reference behind,
      references = before ++ reference :: behind →
        (∀ earlier ∈ before, earlier.name ≠ reference.name) →
          lookUpPacked files shared reference.name = some reference.id) ∧
      ((references.map PackedReference.name).Nodup →
        ∀ reference ∈ references,
          lookUpPacked files shared reference.name = some reference.id) ∧
      (∀ name, name ∉ references.map PackedReference.name →
        lookUpPacked files shared name = none) ∧
      ∀ name id, lookUpPacked files shared name = some id →
        ∃ reference ∈ references, reference.name = name ∧
          reference.id = id := by
  have lookUp := lookUpPacked_of_renders renders holds
  have first (before : List PackedReference) (reference : PackedReference)
      (behind : List PackedReference)
      (stands : references = before ++ reference :: behind)
      (isFirst : ∀ earlier ∈ before, earlier.name ≠ reference.name) :
      lookUpPacked files shared reference.name = some reference.id := by
    have found : references.find? (fun other =>
        other.name == reference.name) = some reference := by
      rw [List.find?_eq_some_iff_append]
      refine ⟨beq_self_eq_true _, before, behind, stands, ?_⟩
      intro earlier isEarlier
      simpa using isFirst earlier isEarlier
    rw [lookUp, found, Option.map_some]
  refine ⟨first, ?_, ?_, ?_⟩
  · intro distinct reference isMember
    obtain ⟨before, behind, stands⟩ := List.append_of_mem isMember
    refine first before reference behind stands ?_
    intro earlier isEarlier sameName
    rw [stands, List.map_append, List.nodup_append] at distinct
    have isName := List.mem_map_of_mem (f := PackedReference.name) isEarlier
    exact distinct.2.2 _ isName _ List.mem_cons_self sameName
  · intro name isUnlisted
    rw [lookUp, Option.map_eq_none_iff, List.find?_eq_none]
    intro reference isMember isNamed
    rw [beq_iff_eq] at isNamed
    exact isUnlisted (List.mem_map.mpr ⟨reference, isMember, isNamed⟩)
  · intro name id isTold
    rw [lookUp, Option.map_eq_some_iff] at isTold
    obtain ⟨reference, found, isId⟩ := isTold
    refine ⟨reference, List.mem_of_find?_eq_some found, ?_, isId⟩
    simpa using List.find?_some found

/-- A tag whose name begins another one. -/
def shortTag : PackedReference where
  id := "c0ffee"
  name := "refs/tags/v1"
  peeled := some "decade"
  id_ne_empty := by decide
  isBlank_of_mem_id := by simp [Text.isBlank]
  head?_id := by decide
  isBlank_head?_name := by simp [Text.isBlank]
  isBlank_getLast?_name := by simp [Text.isBlank]
  noFeed_name := by decide
  noFeed_peeled := by decide

/-- A reference whose name has a blank in it and begins with that of a tag. -/
def longName : PackedReference where
  id := "facade"
  name := "refs/tags/v1 beta"
  peeled := none
  id_ne_empty := by decide
  isBlank_of_mem_id := by simp [Text.isBlank]
  head?_id := by decide
  isBlank_head?_name := by simp [Text.isBlank]
  isBlank_getLast?_name := by simp [Text.isBlank]
  noFeed_name := by decide
  noFeed_peeled := by decide

/-- A list of the two with a comment between the tag and what it is about, line
ends of both kinds and no end of the last line. -/
def mixedList : String :=
  "# pack-refs with: peeled\r\nfacade refs/tags/v1 beta\n" ++
    "c0ffee refs/tags/v1\r\n#\r\r\n^decade"

theorem renders_mixedList : Renders [longName, shortTag] mixedList := by
  refine .intro ["# pack-refs with: peeled".toList, longName.line,
    shortTag.line, "#\r".toList, "^decade".toList] ?_ ?_ ?_
  · have spelled : mixedList.toList =
        "# pack-refs with: peeled".toList ++ LineEnd.returnFeed.characters ++
          (longName.line ++ LineEnd.feed.characters ++
            (shortTag.line ++ LineEnd.returnFeed.characters ++
              ("#\r".toList ++ LineEnd.returnFeed.characters ++
                "^decade".toList))) := by
      decide
    rw [spelled]
    exact .ended _ _ (.ended _ _ (.ended _ _ (.ended _ _ (.unended _))))
  · decide
  · decide

/-- Both names of the mixed list are told apart, and the id of what the tag is
about is not told. -/
theorem lookUpPacked_reads_mixedList :
    let files := FileSystem.empty.put ["packed-refs"]
      (.file (Text.Utf8.encode mixedList) false)
    lookUpPacked files "." "refs/tags/v1" = some "c0ffee" ∧
      lookUpPacked files "." "refs/tags/v1 beta" = some "facade" ∧
        lookUpPacked files "." "refs/tags/v" = none := by
  intro files
  have holds : files.Holds (Path.join "." "packed-refs")
      (Text.Utf8.encode mixedList) := ⟨false, rfl⟩
  obtain ⟨-, listed, unlisted, -⟩ := lookUpPacked_reads_rendering files "."
    mixedList [longName, shortTag] renders_mixedList holds
  refine ⟨?_, ?_, ?_⟩
  · exact listed (by decide) shortTag (by simp)
  · exact listed (by decide) longName (by simp)
  · exact unlisted _ (by decide)

end Checkout
end ReportBinding
