import ReportBinding.Files.Access

/-!
# What paths hold, and what writing changes

Writing changes the entry at one location.  All paths still lead where they
led, and those that lead elsewhere find what they found before:
`location?_write` and `agree_write`.  The path that was written to holds what
was written: `holds_write`.
-/

namespace ReportBinding
namespace Files

/-- The location that a lookup ends at. -/
def Place.location : Place → Location
  | .occupied location _ => location
  | .vacant location => location

/-- What a lookup ends at once an entry has been put at a location that held
no directory. -/
def Place.rewritten (target : Location) (entry : Entry) : Place → Place
  | .occupied location .directory => .occupied location .directory
  | place => if place.location = target then .occupied target entry else place

/-- A rewritten place has the location that it had. -/
@[simp] theorem Place.location_rewritten (target : Location) (entry : Entry)
    (place : Place) : (place.rewritten target entry).location =
      place.location := by
  unfold rewritten
  split
  · rfl
  · split
    · next same => exact same.symm
    · rfl

theorem Place.rewritten_of_ne {target : Location} {place : Place}
    (elsewhere : place.location ≠ target) (entry : Entry) :
    place.rewritten target entry = place := by
  unfold rewritten
  split
  · rfl
  · exact if_neg elsewhere

/-- A place at which a file can be written: nothing stands there or a regular
file does. -/
def Place.TakesFile : Place → Prop
  | .vacant _ => True
  | .occupied _ (.file _ _) => True
  | .occupied _ _ => False

theorem Place.rewritten_of_takesFile {place : Place}
    (takesFile : place.TakesFile) (entry : Entry) :
    place.rewritten place.location entry = .occupied place.location entry := by
  cases place with
  | vacant location => exact if_pos rfl
  | occupied location present =>
      cases present with
      | file content executable => exact if_pos rfl
      | directory => exact takesFile.elim
      | damaged lead => exact takesFile.elim
      | sealed => exact takesFile.elim
      | link pointer => exact takesFile.elim

end Files

namespace FileSystem

open Files

/-- The location that a path leads to, whether anything stands there or
not. -/
def location? (files : FileSystem) (path : HostText) : Option Location :=
  (files.resolve true path).toOption.map Place.location

/-- Two paths lead to the same location. -/
def SamePlace (files : FileSystem) (first second : HostText) : Prop :=
  ∃ location, files.location? first = some location ∧
    files.location? second = some location

theorem samePlace_comm (files : FileSystem) (first second : HostText) :
    files.SamePlace first second ↔ files.SamePlace second first := by
  constructor
  · rintro ⟨location, leadsFirst, leadsSecond⟩
    exact ⟨location, leadsSecond, leadsFirst⟩
  · rintro ⟨location, leadsSecond, leadsFirst⟩
    exact ⟨location, leadsFirst, leadsSecond⟩

theorem SamePlace.location?_eq {files : FileSystem} {first second : HostText}
    (same : files.SamePlace first second) :
    files.location? first = files.location? second := by
  obtain ⟨location, leadsFirst, leadsSecond⟩ := same
  rw [leadsFirst, leadsSecond]

/-- A regular file that can be read and has the given content stands at the end
of a path. -/
def Holds (files : FileSystem) (path : HostText) (content : Bytes) : Prop :=
  ∃ executable, files.find path = .ok (.file content executable)

theorem Holds.unique {files : FileSystem} {path : HostText}
    {first second : Bytes} (holdsFirst : files.Holds path first)
    (holdsSecond : files.Holds path second) : first = second := by
  obtain ⟨executable, isFirst⟩ := holdsFirst
  obtain ⟨other, isSecond⟩ := holdsSecond
  rw [isFirst] at isSecond
  injection isSecond with equal
  injection equal

/-- The content that a path holds is what is read there. -/
theorem read_eq_ok_iff (files : FileSystem) (path : HostText)
    (content : Bytes) :
    files.read path = .ok content ↔ files.Holds path content := by
  unfold read Holds
  cases found : files.find path with
  | error fault => simp
  | ok entry => cases entry <;> simp

/-- A text is read where its bytes are held. -/
theorem Holds.readText_eq_ok {files : FileSystem} {path : HostText}
    {text : String}
    (holds : files.Holds path (Text.Utf8.encode text)) :
    files.readText path = .ok text := by
  rw [readText, (files.read_eq_ok_iff path _).mpr holds]
  simp only [Text.Utf8.decode?_encode]

/-! ## Agreement -/

/-- Two file systems find the same under a path, or nothing both. -/
def Agree (files other : FileSystem) (path : HostText) : Prop :=
  (other.find path).toOption = (files.find path).toOption

theorem Agree.trans {first second third : FileSystem} {path : HostText}
    (agree : first.Agree second path) (further : second.Agree third path) :
    first.Agree third path :=
  Eq.trans further agree

section

variable {files other : FileSystem} {path : HostText}

theorem Agree.find_eq_ok (agree : files.Agree other path) {entry : Entry}
    (found : files.find path = .ok entry) : other.find path = .ok entry := by
  unfold Agree at agree
  rw [found] at agree
  cases isFound : other.find path with
  | error fault =>
      rw [isFound] at agree
      cases agree
  | ok present =>
      rw [isFound] at agree
      injection agree with same
      rw [same]

theorem Agree.find_eq_error (agree : files.Agree other path) {fault : Fault}
    (found : files.find path = .error fault) :
    ∃ fault, other.find path = .error fault := by
  unfold Agree at agree
  rw [found] at agree
  cases isFound : other.find path with
  | error fault => exact ⟨fault, rfl⟩
  | ok present =>
      rw [isFound] at agree
      cases agree

theorem Agree.holds (agree : files.Agree other path) {content : Bytes}
    (holds : files.Holds path content) : other.Holds path content := by
  obtain ⟨executable, found⟩ := holds
  exact ⟨executable, agree.find_eq_ok found⟩

theorem Agree.hasEntry (agree : files.Agree other path) :
    other.hasEntry path = files.hasEntry path := by
  unfold FileSystem.hasEntry
  cases found : files.find path with
  | ok entry => rw [agree.find_eq_ok found]
  | error fault =>
      obtain ⟨fault, notFound⟩ := agree.find_eq_error found
      rw [notFound]

theorem Agree.isDirectory (agree : files.Agree other path) :
    other.isDirectory path = files.isDirectory path := by
  unfold FileSystem.isDirectory
  cases found : files.find path with
  | ok entry => rw [agree.find_eq_ok found]
  | error fault =>
      obtain ⟨fault, notFound⟩ := agree.find_eq_error found
      rw [notFound]

theorem Agree.isFile (agree : files.Agree other path) :
    other.isFile path = files.isFile path := by
  unfold FileSystem.isFile
  cases found : files.find path with
  | ok entry => rw [agree.find_eq_ok found]
  | error fault =>
      obtain ⟨fault, notFound⟩ := agree.find_eq_error found
      rw [notFound]

/-- File systems that agree on a path read the same text under it, if any. -/
theorem Agree.toOption_readText (agree : files.Agree other path) :
    (other.readText path).toOption = (files.readText path).toOption := by
  unfold readText FileSystem.read
  cases found : files.find path with
  | ok entry => rw [agree.find_eq_ok found]
  | error fault =>
      obtain ⟨fault, notFound⟩ := agree.find_eq_error found
      rw [notFound]
      rfl

theorem Agree.readText_eq_ok (agree : files.Agree other path)
    {text : String} (isRead : files.readText path = .ok text) :
    other.readText path = .ok text := by
  have same := agree.toOption_readText
  rw [isRead] at same
  cases readOther : other.readText path with
  | error fault =>
      rw [readOther] at same
      cases same
  | ok other =>
      rw [readOther] at same
      injection same with same
      rw [same]

end

/-! ## Entries -/

theorem entry?_put_self (files : FileSystem) {target : Location}
    (isBelow : target ≠ []) (entry : Entry) :
    FileSystem.entry? (files.put target entry) target = some entry := by
  unfold FileSystem.entry? put
  simp [isBelow]

theorem entry?_put_of_ne (files : FileSystem) {location target : Location}
    (isOther : location ≠ target) (entry : Entry) :
    FileSystem.entry? (files.put target entry) location =
      FileSystem.entry? files location := by
  unfold FileSystem.entry? put
  simp [Std.ExtTreeMap.getElem?_insert, isOther.symm]

/-! ## Walks -/

/-- A place is what the files hold there. -/
def Describes (files : FileSystem) : Place → Prop
  | .occupied _ .directory => True
  | .occupied location entry => files.entry? location = some entry
  | .vacant location => files.entry? location = none

/-- A walk of names ends where the files are what it says. -/
theorem describes_walkNames {files : FileSystem} {follow : Bool}
    {enter : Location → List HostText → Except Fault Place}
    (entered : ∀ location names place,
      enter location names = .ok place → files.Describes place)
    {location : Location} {names : List HostText} {place : Place}
    (walked : files.walkNames follow enter location names = .ok place) :
    files.Describes place := by
  induction names generalizing location with
  | nil =>
      cases walked
      trivial
  | cons name rest inductionHypothesis =>
      unfold walkNames at walked
      split at walked
      · exact inductionHypothesis walked
      split at walked
      · exact inductionHypothesis walked
      split at walked
      · cases walked
      dsimp only at walked
      split at walked
      · next isVacant =>
          split at walked
          · cases walked
            exact isVacant
          · cases walked
      · exact inductionHypothesis walked
      · next isLink =>
          split at walked
          · cases walked
            exact isLink
          · exact entered _ _ _ walked
      · next entry notDirectory notLink isEntry =>
          split at walked
          · cases walked
            cases entry with
            | directory => trivial
            | _ => exact isEntry
          · cases walked

/-- A walk ends where the files are what it says. -/
theorem describes_walk {files : FileSystem} {follow : Bool} {links : Nat}
    {location : Location} {names : List HostText} {place : Place}
    (walked : files.walk follow links location names = .ok place) :
    files.Describes place := by
  induction links generalizing location names place with
  | zero =>
      refine describes_walkNames ?_ walked
      intro location names place entered
      cases entered
  | succ links inductionHypothesis =>
      refine describes_walkNames ?_ walked
      intro location names place entered
      exact inductionHypothesis entered

/-- A path leads where the files are what its place says. -/
theorem describes_resolve {files : FileSystem} {follow : Bool}
    {path : HostText} {place : Place}
    (resolved : files.resolve follow path = .ok place) :
    files.Describes place := by
  unfold resolve at resolved
  split at resolved
  · cases resolved
  · exact describes_walk resolved

/-- A location at which a file can be written: nothing stands there or a
regular file does. -/
def TakesFile (files : FileSystem) (location : Location) : Prop :=
  files.entry? location = none ∨
    ∃ content executable,
      files.entry? location = some (.file content executable)

theorem TakesFile.ne_nil {files : FileSystem} {location : Location}
    (takesFile : files.TakesFile location) : location ≠ [] := by
  intro isRoot
  subst isRoot
  rcases takesFile with isVacant | ⟨content, executable, isFile⟩
  · cases isVacant
  · cases isFile

section

variable {files : FileSystem} {target : Location} {content : Bytes}
  {executable : Bool}

/-- A walk of names ends where it did once a file has been written, and finds
that file if it ends there. -/
theorem walkNames_put (takesFile : files.TakesFile target) (follow : Bool)
    {enter enterPut : Location → List HostText → Except Fault Place}
    (entered : ∀ location names,
      (enterPut location names).toOption =
        (enter location names).toOption.map
          (.rewritten target (.file content executable)))
    (location : Location) (names : List HostText) :
    ((files.put target (.file content executable)).walkNames follow enterPut
        location names).toOption =
      (files.walkNames follow enter location names).toOption.map
        (.rewritten target (.file content executable)) := by
  induction names generalizing location with
  | nil => rfl
  | cons name rest inductionHypothesis =>
      unfold walkNames
      split
      · exact inductionHypothesis location
      split
      · exact inductionHypothesis location.dropLast
      split
      · rfl
      dsimp only
      by_cases isTarget : location ++ [name] = target
      · rw [isTarget, files.entry?_put_self takesFile.ne_nil]
        -- The name leads to a file now, and to a file or to nothing before.
        rcases takesFile with isVacant | ⟨old, marked, isFile⟩
        · rw [isVacant]
          cases rest with
          | nil => simp [Except.toOption, Place.rewritten, Place.location]
          | cons next rest => rfl
        · rw [isFile]
          cases rest with
          | nil => simp [Except.toOption, Place.rewritten, Place.location]
          | cons next rest => rfl
      · rw [files.entry?_put_of_ne isTarget]
        have stays (entry : Entry) : (Place.occupied (location ++ [name])
            entry).rewritten target (.file content executable) =
              .occupied (location ++ [name]) entry := by
          apply Place.rewritten_of_ne
          exact isTarget
        have staysVacant : (Place.vacant (location ++ [name])).rewritten
            target (.file content executable) =
              .vacant (location ++ [name]) := by
          apply Place.rewritten_of_ne
          exact isTarget
        cases files.entry? (location ++ [name]) with
        | none => cases rest <;> simp [Except.toOption, staysVacant]
        | some entry =>
            cases entry with
            | directory => exact inductionHypothesis (location ++ [name])
            | file content executable =>
                cases rest <;> simp [Except.toOption, stays]
            | damaged lead => cases rest <;> simp [Except.toOption, stays]
            | sealed => cases rest <;> simp [Except.toOption, stays]
            | link pointer =>
                dsimp only
                split
                · simp [Except.toOption, stays]
                · exact entered _ _

/-- A walk ends where it did once a file has been written, and finds that file
if it ends there. -/
theorem walk_put (takesFile : files.TakesFile target) (follow : Bool)
    (links : Nat) (location : Location) (names : List HostText) :
    ((files.put target (.file content executable)).walk follow links
        location names).toOption =
      (files.walk follow links location names).toOption.map
        (.rewritten target (.file content executable)) := by
  induction links generalizing location names with
  | zero =>
      refine walkNames_put takesFile follow ?_ location names
      intro location names
      rfl
  | succ links inductionHypothesis =>
      exact walkNames_put takesFile follow inductionHypothesis location names

/-- A path leads where it did once a file has been written, and to that file if
it leads there. -/
theorem resolve_put (takesFile : files.TakesFile target) (follow : Bool)
    (path : HostText) :
    ((files.put target (.file content executable)).resolve follow
        path).toOption =
      (files.resolve follow path).toOption.map
        (.rewritten target (.file content executable)) := by
  unfold resolve
  cases checkPath path with
  | error fault => rfl
  | ok checked => exact walk_put takesFile follow _ _ _

/-- Writing a file moves no path. -/
theorem location?_put (takesFile : files.TakesFile target) (path : HostText) :
    (files.put target (.file content executable)).location? path =
      files.location? path := by
  rw [location?, location?, resolve_put takesFile, Option.map_map]
  congr 1
  funext place
  exact place.location_rewritten target _

/-- A path that leads elsewhere leads to what it did once a file has been
written. -/
theorem toOption_resolve_put (takesFile : files.TakesFile target)
    {path : HostText} (elsewhere : files.location? path ≠ some target) :
    ((files.put target (.file content executable)).resolve true
        path).toOption = (files.resolve true path).toOption := by
  rw [resolve_put takesFile]
  unfold location? at elsewhere
  cases resolved : (files.resolve true path).toOption with
  | none => rfl
  | some place =>
      have isOther : place.location ≠ target := by
        intro same
        rw [resolved, Option.map_some, same] at elsewhere
        exact elsewhere rfl
      rw [Option.map_some, Place.rewritten_of_ne isOther]

end

/-! ## Finding and reading -/

/-- What a path finds is known from where it leads. -/
theorem toOption_find (files : FileSystem) (path : HostText) :
    (files.find path).toOption =
      (files.resolve true path).toOption.bind fun
        | .occupied _ entry => some entry
        | .vacant _ => none := by
  unfold find
  cases files.resolve true path with
  | error fault => rfl
  | ok place => cases place <;> rfl

/-- File systems agree on a path that leads to the same place in both. -/
theorem agree_of_resolve {files other : FileSystem} {path : HostText}
    (same : other.resolve true path = files.resolve true path) :
    files.Agree other path := by
  rw [Agree, toOption_find, toOption_find,
    same]

/-- Two paths that both lead where they led lead to the same place only if they
did so. -/
theorem samePlace_of_resolve {files other : FileSystem}
    {first second : HostText}
    (sameFirst : other.resolve true first = files.resolve true first)
    (sameSecond : other.resolve true second = files.resolve true second) :
    other.SamePlace first second ↔ files.SamePlace first second := by
  unfold SamePlace location?
  rw [sameFirst, sameSecond]

theorem Describes.takesFile {files : FileSystem} {place : Place}
    (describes : files.Describes place) (takesFile : place.TakesFile) :
    files.TakesFile place.location := by
  cases place with
  | vacant location => exact .inl describes
  | occupied location present =>
      cases present with
      | file content executable => exact .inr ⟨content, executable, describes⟩
      | directory => exact takesFile.elim
      | damaged lead => exact takesFile.elim
      | sealed => exact takesFile.elim
      | link pointer => exact takesFile.elim

/-- Writing puts a file where the path leads, at a place that takes one. -/
theorem write_eq_ok {files written : FileSystem} {path : HostText}
    {content : Bytes} (isWritten : files.write path content = .ok written) :
    ∃ place executable, files.resolve true path = .ok place ∧
      place.TakesFile ∧ files.TakesFile place.location ∧
        written = files.put place.location (.file content executable) := by
  unfold write openToWrite at isWritten
  split at isWritten
  · next location present executable opened =>
      split at opened
      · cases opened
      split at opened
      · cases opened
      cases isWritten
      split at opened
      · next resolved =>
          cases opened
          refine ⟨_, _, resolved, trivial, ?_, rfl⟩
          exact (describes_resolve resolved).takesFile trivial
      · next resolved =>
          cases opened
          refine ⟨_, _, resolved, trivial, ?_, rfl⟩
          exact (describes_resolve resolved).takesFile trivial
      · cases opened
      · cases opened
      · cases opened
      · cases opened
  · cases isWritten

section

variable {files written : FileSystem} {path : HostText} {content : Bytes}

theorem location?_write (isWritten : files.write path content = .ok written)
    (other : HostText) : written.location? other = files.location? other := by
  obtain ⟨place, executable, -, -, takesFile, isPut⟩ := write_eq_ok isWritten
  rw [isPut, location?_put takesFile]

theorem samePlace_write (isWritten : files.write path content = .ok written)
    (first second : HostText) :
    written.SamePlace first second ↔ files.SamePlace first second := by
  unfold SamePlace
  rw [location?_write isWritten, location?_write isWritten]

/-- Writing to a path leaves alone what all paths find that lead elsewhere. -/
theorem agree_write
    (isWritten : files.write path content = .ok written) {other : HostText}
    (elsewhere : ¬files.SamePlace path other) :
    files.Agree written other := by
  obtain ⟨place, executable, resolved, -, takesFile, isPut⟩ :=
    write_eq_ok isWritten
  have leads : files.location? path = some place.location := by
    rw [location?, resolved]
    rfl
  have isElsewhere : files.location? other ≠ some place.location := by
    intro same
    exact elsewhere ⟨place.location, leads, same⟩
  rw [Agree, toOption_find, toOption_find, isPut,
    toOption_resolve_put takesFile isElsewhere]

/-- What has been written to a path is what it holds. -/
theorem holds_write (isWritten : files.write path content = .ok written) :
    written.Holds path content := by
  obtain ⟨place, executable, resolved, placeTakesFile, takesFile, isPut⟩ :=
    write_eq_ok isWritten
  have found : (written.find path).toOption =
      some (.file content executable) := by
    rw [toOption_find, isPut, resolve_put takesFile, resolved]
    simp [Except.toOption, Place.rewritten_of_takesFile placeTakesFile]
  refine ⟨executable, ?_⟩
  cases isFound : written.find path with
  | error fault =>
      rw [isFound] at found
      cases found
  | ok entry =>
      rw [isFound] at found
      injection found with same
      rw [same]

end

end FileSystem
end ReportBinding
