import ReportBinding.Proofs.Files.Access

/-!
# What removing a file leaves

Removing takes away what stands under a path itself, be it a link.  Where a
regular file stands or nothing, what is left does not depend on which of the two
it was: `remove_of_namesFile`.
-/

namespace ReportBinding

/-- A regular file, whether it can be opened and read or not. -/
def Entry.IsRegular : Entry → Prop
  | .file _ _ => True
  | .damaged _ => True
  | .sealed => True
  | _ => False

namespace FileSystem

open Files

variable {files : FileSystem} {path : HostText} {target : Location}

/-- A path names a location at which nothing stands, or a regular file.  A link
at the end of the path is not followed. -/
inductive NamesFile (files : FileSystem) (path : HostText)
    (target : Location) : Prop where
  | vacant (named : files.resolve false path = .ok (.vacant target))
  | file {entry : Entry} (isRegular : entry.IsRegular)
      (named : files.resolve false path = .ok (.occupied target entry))

/-- Two file systems differ at most in the regular file under a path: whether
there is one, what it holds and whether it is marked as a program. -/
def DifferInFile (path : HostText) (first second : FileSystem) : Prop :=
  ∃ target, first.NamesFile path target ∧ second.NamesFile path target ∧
    first.drop target = second.drop target

/-! ## Paths that end in a slash -/

/-- A walk of names that ends in a directory's own name ends at a directory. -/
theorem walkNames_append_here {follow : Bool}
    {enter : Location → List HostText → Except Fault Place}
    (entered : ∀ location names place,
      enter location (names ++ [Path.here]) = .ok place →
        ∃ location, place = .occupied location .directory)
    {location : Location} {names : List HostText} {place : Place}
    (walked : files.walkNames follow enter location (names ++ [Path.here]) =
      .ok place) :
    ∃ location, place = .occupied location .directory := by
  induction names generalizing location with
  | nil =>
      cases walked
      exact ⟨location, rfl⟩
  | cons name rest inductionHypothesis =>
      have goesOn : (rest ++ [Path.here]).isEmpty = false := by simp
      rw [List.cons_append] at walked
      unfold walkNames at walked
      split at walked
      · exact inductionHypothesis walked
      split at walked
      · exact inductionHypothesis walked
      split at walked
      · cases walked
      simp only [goesOn, Bool.false_and, Bool.false_eq_true, if_false]
        at walked
      split at walked
      · cases walked
      · exact inductionHypothesis walked
      · rw [← List.append_assoc] at walked
        exact entered _ _ _ walked
      · cases walked

theorem walk_append_here {follow : Bool} {links : Nat} {location : Location}
    {names : List HostText} {place : Place}
    (walked : files.walk follow links location (names ++ [Path.here]) =
      .ok place) :
    ∃ location, place = .occupied location .directory := by
  induction links generalizing location names place with
  | zero =>
      refine walkNames_append_here ?_ walked
      intro location names place entered
      cases entered
  | succ links inductionHypothesis =>
      refine walkNames_append_here ?_ walked
      intro location names place entered
      exact inductionHypothesis entered

/-- A path that ends in a slash leads to a directory, if anywhere. -/
theorem resolve_of_endsInSlash {follow : Bool} {place : Place}
    (asksDirectory : Path.endsInSlash path = true)
    (resolved : files.resolve follow path = .ok place) :
    ∃ location, place = .occupied location .directory := by
  unfold resolve Path.steps at resolved
  split at resolved
  · cases resolved
  · rw [if_pos asksDirectory] at resolved
    exact walk_append_here resolved

/-- A path that does not end in a slash is looked up by its names. -/
theorem findNamed_eq_resolve
    (asksNoDirectory : Path.endsInSlash path = false) :
    files.findNamed path = files.resolve false path := by
  unfold findNamed resolve Path.steps
  rw [asksNoDirectory]
  rfl

/-- A path that names a file or nothing does not end in a slash. -/
theorem NamesFile.endsInSlash (names : files.NamesFile path target) :
    Path.endsInSlash path = false := by
  rw [Bool.eq_false_iff]
  intro asksDirectory
  cases names with
  | vacant named =>
      obtain ⟨location, isDirectory⟩ :=
        resolve_of_endsInSlash asksDirectory named
      cases isDirectory
  | file isRegular named =>
      obtain ⟨location, isDirectory⟩ :=
        resolve_of_endsInSlash asksDirectory named
      cases isDirectory
      exact isRegular

/-! ## Removing -/

/-- File systems are the same if they have the same entries everywhere and the
same working directory. -/
theorem eq_of_entries {first second : FileSystem}
    (entries : ∀ location : Location,
      first.entries[location]? = second.entries[location]?)
    (workingDirectory : first.workingDirectory = second.workingDirectory) :
    first = second := by
  obtain ⟨firstEntries, firstDirectory⟩ := first
  obtain ⟨secondEntries, secondDirectory⟩ := second
  have sameEntries : firstEntries = secondEntries :=
    Std.ExtTreeMap.ext_getElem? entries
  cases sameEntries
  cases workingDirectory
  rfl

/-- Leaving nothing where nothing stands changes nothing. -/
theorem drop_eq_self (isVacant : files.entry? target = none) :
    files.drop target = files := by
  unfold FileSystem.entry? at isVacant
  split at isVacant
  · cases isVacant
  apply eq_of_entries
  · intro location
    simp only [drop, Std.ExtTreeMap.getElem?_erase]
    split
    · next same =>
        rw [← Std.LawfulEqCmp.eq_of_compare same, isVacant]
    · rfl
  · rfl

/-- Whatever is put at a location is gone once nothing is left there. -/
theorem drop_put (files : FileSystem) (target : Location) (entry : Entry) :
    (files.put target entry).drop target = files.drop target := by
  apply eq_of_entries
  · intro location
    simp only [drop, put, Std.ExtTreeMap.getElem?_erase,
      Std.ExtTreeMap.getElem?_insert]
    split <;> rfl
  · rfl

/-- Where a path names a file or nothing, removing leaves nothing there, and is
refused only if there was nothing. -/
theorem remove_of_namesFile (names : files.NamesFile path target) :
    files.remove path = .ok (files.drop target) ∨
      files.remove path = .error .notFound ∧ files.drop target = files := by
  have asksNoDirectory := names.endsInSlash
  unfold remove
  rw [findNamed_eq_resolve asksNoDirectory]
  cases names with
  | vacant named =>
      rw [named]
      exact .inr ⟨rfl, drop_eq_self (describes_resolve named)⟩
  | @file entry isRegular named =>
      rw [named]
      left
      cases entry with
      | directory => exact isRegular.elim
      | link pointer => exact isRegular.elim
      | file content executable =>
          simp only [asksNoDirectory, Bool.false_eq_true, if_false]
      | damaged lead =>
          simp only [asksNoDirectory, Bool.false_eq_true, if_false]
      | sealed => simp only [asksNoDirectory, Bool.false_eq_true, if_false]

/-- A directory is not removed. -/
theorem remove_of_directory
    (named : files.findNamed path = .ok (.occupied target .directory)) :
    files.remove path = .error .isDirectory := by
  rw [remove, named]

end FileSystem
end ReportBinding
