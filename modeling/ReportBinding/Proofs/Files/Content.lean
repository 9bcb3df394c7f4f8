import ReportBinding.Proofs.Files.Removal

/-!
# Replacing the content of a file

Where a regular file stands, another one can stand in its place.  All paths then
lead where they led, for the same reasons if nowhere, and those that lead
elsewhere find and read what they did: `resolve_put_regular` and
`DifferInContent.find`.
-/

namespace ReportBinding
namespace FileSystem

open Files

/-- Two file systems differ at most in what the regular file under a path holds,
be it readable or not.  A link at the end of the path is followed. -/
def DifferInContent (path : HostText) (first second : FileSystem) : Prop :=
  ∃ target present entry,
    first.resolve true path = .ok (.occupied target present) ∧
      present.IsRegular ∧ entry.IsRegular ∧ second = first.put target entry

/-- Whatever is put at a location is gone once something else is put there. -/
theorem put_put (files : FileSystem) (target : Location)
    (first second : Entry) :
    (files.put target first).put target second = files.put target second := by
  apply eq_of_entries
  · intro location
    simp only [put, Std.ExtTreeMap.getElem?_insert]
    split <;> rfl
  · rfl

section

variable {files : FileSystem} {target : Location} {present entry : Entry}

theorem ne_nil_of_isRegular (stands : files.entry? target = some present)
    (isRegular : present.IsRegular) : target ≠ [] := by
  rintro rfl
  cases stands
  exact isRegular

/-- A walk of names ends where it did once a regular file has been replaced, and
finds the new one if it ends there. -/
theorem walkNames_put_regular (stands : files.entry? target = some present)
    (wasRegular : present.IsRegular) (isRegular : entry.IsRegular)
    (follow : Bool)
    {enter enterPut : Location → List HostText → Except Fault Place}
    (entered : ∀ location names,
      enterPut location names =
        (enter location names).map (.rewritten target entry))
    (location : Location) (names : List HostText) :
    (files.put target entry).walkNames follow enterPut location names =
      (files.walkNames follow enter location names).map
        (.rewritten target entry) := by
  induction names generalizing location with
  | nil => rfl
  | cons name rest inductionHypothesis =>
      unfold walkNames
      split
      · exact inductionHypothesis location
      split
      · exact inductionHypothesis location.dropLast
      split
      · rfl
      dsimp only
      by_cases isTarget : location ++ [name] = target
      · rw [isTarget, stands, files.entry?_put_self
          (ne_nil_of_isRegular stands wasRegular)]
        -- A regular file ends the walk, whichever of the two it is.
        have replaced : (Place.occupied target present).rewritten target
            entry = .occupied target entry := by
          cases present with
          | directory => exact wasRegular.elim
          | link pointer => exact wasRegular.elim
          | file content executable => exact if_pos rfl
          | damaged lead => exact if_pos rfl
          | sealed => exact if_pos rfl
        cases present with
        | directory => exact wasRegular.elim
        | link pointer => exact wasRegular.elim
        | _ =>
            cases entry with
            | directory => exact isRegular.elim
            | link pointer => exact isRegular.elim
            | _ => cases rest <;> simp [Except.map, replaced]
      · rw [files.entry?_put_of_ne isTarget]
        have stays (other : Entry) : (Place.occupied (location ++ [name])
            other).rewritten target entry =
              .occupied (location ++ [name]) other := by
          apply Place.rewritten_of_ne
          exact isTarget
        have staysVacant : (Place.vacant (location ++ [name])).rewritten
            target entry = .vacant (location ++ [name]) := by
          apply Place.rewritten_of_ne
          exact isTarget
        cases files.entry? (location ++ [name]) with
        | none => cases rest <;> simp [Except.map, staysVacant]
        | some other =>
            cases other with
            | directory => exact inductionHypothesis (location ++ [name])
            | file content executable =>
                cases rest <;> simp [Except.map, stays]
            | damaged lead => cases rest <;> simp [Except.map, stays]
            | sealed => cases rest <;> simp [Except.map, stays]
            | link pointer =>
                dsimp only
                split
                · simp [Except.map, stays]
                · exact entered _ _

theorem walk_put_regular (stands : files.entry? target = some present)
    (wasRegular : present.IsRegular) (isRegular : entry.IsRegular)
    (follow : Bool) (links : Nat) (location : Location)
    (names : List HostText) :
    (files.put target entry).walk follow links location names =
      (files.walk follow links location names).map
        (.rewritten target entry) := by
  induction links generalizing location names with
  | zero =>
      refine walkNames_put_regular stands wasRegular isRegular follow ?_
        location names
      intro location names
      rfl
  | succ links inductionHypothesis =>
      exact walkNames_put_regular stands wasRegular isRegular follow
        inductionHypothesis location names

/-- A path leads where it did once a regular file has been replaced, and to the
new one if it leads there. -/
theorem resolve_put_regular (stands : files.entry? target = some present)
    (wasRegular : present.IsRegular) (isRegular : entry.IsRegular)
    (follow : Bool) (path : HostText) :
    (files.put target entry).resolve follow path =
      (files.resolve follow path).map (.rewritten target entry) := by
  unfold resolve
  cases checkPath path with
  | error fault => rfl
  | ok checked =>
      exact walk_put_regular stands wasRegular isRegular follow _ _ _

end

section

variable {path : HostText} {first second : FileSystem}

/-- The file whose content differs stands where its path leads, and paths are
looked up as if the one had been put in the place of the other. -/
theorem DifferInContent.resolve (differ : DifferInContent path first second) :
    ∃ target present entry,
      first.location? path = some target ∧
        first.entry? target = some present ∧
          present.IsRegular ∧ entry.IsRegular ∧
            ∀ follow other, second.resolve follow other =
              (first.resolve follow other).map (.rewritten target entry) := by
  obtain ⟨target, present, entry, resolved, wasRegular, isRegular, rfl⟩ :=
    differ
  have stands : first.entry? target = some present := by
    have describes := describes_resolve resolved
    cases present with
    | directory => exact wasRegular.elim
    | link pointer => exact wasRegular.elim
    | _ => exact describes
  refine ⟨target, present, entry, ?_, stands, wasRegular, isRegular, ?_⟩
  · rw [location?, resolved]
    rfl
  · exact resolve_put_regular stands wasRegular isRegular

/-- Paths that lead elsewhere find the same, or fail for the same reason. -/
theorem DifferInContent.find (differ : DifferInContent path first second)
    {other : HostText} (elsewhere : ¬first.SamePlace path other) :
    second.find other = first.find other := by
  obtain ⟨target, present, entry, leads, -, -, -, resolve⟩ := differ.resolve
  unfold FileSystem.find
  rw [resolve]
  cases resolved : first.resolve true other with
  | error fault => rfl
  | ok place =>
      have isElsewhere : place.location ≠ target := by
        intro same
        refine elsewhere ⟨target, leads, ?_⟩
        rw [location?, resolved, ← same]
        rfl
      simp only [Except.map, Place.rewritten_of_ne isElsewhere]

theorem DifferInContent.readText (differ : DifferInContent path first second)
    {other : HostText} (elsewhere : ¬first.SamePlace path other) :
    second.readText other = first.readText other := by
  unfold FileSystem.readText FileSystem.read
  rw [differ.find elsewhere]

/-- Every path finds the same, or a regular file in both. -/
theorem DifferInContent.find_or (differ : DifferInContent path first second)
    (other : HostText) :
    second.find other = first.find other ∨
      ∃ present entry, first.find other = .ok present ∧ present.IsRegular ∧
        second.find other = .ok entry ∧ entry.IsRegular := by
  obtain ⟨target, present, entry, -, stands, wasRegular, isRegular, resolve⟩ :=
    differ.resolve
  unfold FileSystem.find
  rw [resolve]
  cases resolved : first.resolve true other with
  | error fault => exact .inl rfl
  | ok place =>
      by_cases isTarget : place.location = target
      · have describes := describes_resolve resolved
        cases place with
        | vacant location =>
            have isVacant : first.entry? location = none := describes
            have isLocation : location = target := isTarget
            rw [isLocation, stands] at isVacant
            cases isVacant
        | occupied location found =>
            have replaced : location = target := isTarget
            cases found with
            | directory => exact .inl rfl
            | link pointer =>
                have isLink : first.entry? location = some (.link pointer) :=
                  describes
                rw [replaced, stands] at isLink
                cases isLink
                exact wasRegular.elim
            | file content executable =>
                refine .inr ⟨_, entry, rfl, trivial, ?_, isRegular⟩
                simp [Except.map, Place.rewritten, Place.location, replaced]
            | damaged lead =>
                refine .inr ⟨_, entry, rfl, trivial, ?_, isRegular⟩
                simp [Except.map, Place.rewritten, Place.location, replaced]
            | sealed =>
                refine .inr ⟨_, entry, rfl, trivial, ?_, isRegular⟩
                simp [Except.map, Place.rewritten, Place.location, replaced]
      · left
        simp only [Except.map, Place.rewritten_of_ne isTarget]

/-- A path that finds a regular file leads to a file and to no directory. -/
theorem kind_of_isRegular {files : FileSystem} {entry : Entry}
    (found : files.find path = .ok entry) (isRegular : entry.IsRegular) :
    files.isFile path = true ∧ files.isDirectory path = false ∧
      files.hasEntry path = true := by
  unfold FileSystem.isFile FileSystem.isDirectory FileSystem.hasEntry
  rw [found]
  cases entry with
  | directory => exact isRegular.elim
  | link pointer => exact isRegular.elim
  | _ => exact ⟨rfl, rfl, rfl⟩

/-- Every path leads to a file, to a directory or to anything at all if it
did. -/
theorem DifferInContent.kind (differ : DifferInContent path first second)
    (other : HostText) :
    second.isFile other = first.isFile other ∧
      second.isDirectory other = first.isDirectory other ∧
        second.hasEntry other = first.hasEntry other := by
  rcases differ.find_or other with
    same | ⟨present, entry, found, wasRegular, foundOther, isRegular⟩
  · unfold FileSystem.isFile FileSystem.isDirectory FileSystem.hasEntry
    rw [same]
    exact ⟨rfl, rfl, rfl⟩
  · obtain ⟨wasFile, wasNoDirectory, wasThere⟩ :=
      kind_of_isRegular found wasRegular
    obtain ⟨isFile, noDirectory, isThere⟩ :=
      kind_of_isRegular foundOther isRegular
    rw [wasFile, wasNoDirectory, wasThere]
    exact ⟨isFile, noDirectory, isThere⟩

end

end FileSystem
end ReportBinding
