import Mathlib.Data.List.Nodup
import ReportBinding.Json.Record
import ReportBinding.Proofs.Json.Spelling

/-!
# Records and the members of objects

A record is read from an object that lists its fields in any order, with any
members of unknown names in between: `RecordType.read_of_tells`.  An object that
is read has every field at most once and every field that is not optional
exactly once, `RecordType.count_of_read`, so repeating a known member or
removing a required one spoils it.  What every member keeps as it is read holds
of the draft behind the record: `RecordType.exists_result_of_read`.
-/

namespace ReportBinding
namespace Json

/-! ## Results -/

theorem map_of_eq_ok {Value Next Failure : Type}
    {result : Except Failure Value} {value : Value} (isOk : result = .ok value)
    (make : Value → Next) : result.map make = .ok (make value) := by
  rw [isOk]
  rfl

/-- What is made of a result is made of what it comes out with. -/
theorem exists_of_map_eq_ok {Value Next Failure : Type}
    {result : Except Failure Value} {make : Value → Next} {next : Next}
    (isOk : result.map make = .ok next) :
    ∃ value, result = .ok value ∧ make value = next := by
  cases result with
  | error failure => cases isOk
  | ok value => exact ⟨value, rfl, Except.ok.inj isOk⟩

/-! ## Objects -/

/-- The members of a list. -/
def Members.ofList (members : List (String × Node)) : Members :=
  members.foldr (fun (name, value) tail => .cons (some name) value tail) .closed

theorem Node.ofMembers_eq (members : List (String × Node)) :
    Node.ofMembers members = .object (Members.ofList members) := rfl

/-- An object is plain if all its values are. -/
theorem Node.isPlain_ofMembers {members : List (String × Node)}
    (arePlain : ∀ member ∈ members, member.2.IsPlain) :
    (Node.ofMembers members).IsPlain := by
  rw [ofMembers_eq]
  change (Members.ofList members).IsPlain
  induction members with
  | nil => trivial
  | cons member members inductionHypothesis =>
      exact ⟨rfl, arePlain member List.mem_cons_self,
        inductionHypothesis fun other isMember =>
          arePlain other (List.mem_cons_of_mem _ isMember)⟩

/-- A well-formed value is well formed to its end. -/
theorem Items.isClosed_of_isSound (items : Items) (isSound : items.IsSound) :
    items.isClosed = true := by
  match items with
  | .closed => rfl
  | .broken => exact isSound.elim
  | .cons _ tail => exact tail.isClosed_of_isSound isSound.2

theorem Members.isClosed_of_isSound (members : Members)
    (isSound : members.IsSound) : members.isClosed = true := by
  match members with
  | .closed => rfl
  | .broken => exact isSound.elim
  | .misnamed _ => exact isSound.elim
  | .cons _ _ tail => exact tail.isClosed_of_isSound isSound.2

theorem Node.isWhole_of_isSound {node : Node} (isSound : node.IsSound) :
    node.isWhole = true := by
  cases node with
  | array items => exact items.isClosed_of_isSound isSound
  | object members => exact members.isClosed_of_isSound isSound
  | absent => exact isSound.elim
  | _ => rfl

namespace RecordType

variable {Field Draft Result : Type}

/-! ## Objects that list fields -/

/-- The members of an object stand for some fields, one after the other, with
members of unknown names in between.  `Stands` says which values stand for a
field. -/
inductive Lists (type : RecordType Field Draft Result)
    (Stands : Field → Node → Prop) :
    List Field → List (String × Node) → Prop where
  | nil : Lists type Stands [] []
  | known {field : Field} {value : Node} {fields : List Field}
      {members : List (String × Node)} (stands : Stands field value)
      (others : Lists type Stands fields members) :
      Lists type Stands (field :: fields)
        ((type.fieldName field, value) :: members)
  | unknown {name : String} {value : Node} {fields : List Field}
      {members : List (String × Node)}
      (isUnknown : ∀ field, type.fieldName field ≠ name)
      (isSound : value.IsSound) (others : Lists type Stands fields members) :
      Lists type Stands fields ((name, value) :: members)

/-- A value is an object that lists some fields, in whatever order. -/
inductive Tells (type : RecordType Field Draft Result)
    (Stands : Field → Node → Prop) (fields : List Field) : Node → Prop where
  | object {order : List Field} {members : List (String × Node)}
      (isPermuted : order.Perm fields) (lists : Lists type Stands order members) :
      Tells type Stands fields (.ofMembers members)

/-- What becomes of the members of an object when a known one is repeated, with
whatever value, or a required one is removed. -/
inductive Spoiled (type : RecordType Field Draft Result) :
    List (String × Node) → List (String × Node) → Prop where
  | repeated {left right : List (String × Node)} {field : Field} (value : Node)
      (isThere : type.fieldName field ∈ (left ++ right).map Prod.fst) :
      Spoiled type (left ++ right)
        (left ++ (type.fieldName field, value) :: right)
  | removed {left right : List (String × Node)} {field : Field} {value : Node}
      (isRequired : type.isOptional field = false) :
      Spoiled type (left ++ (type.fieldName field, value) :: right)
        (left ++ right)

/-- Fields are listed by their values, one after the other. -/
theorem lists_map (type : RecordType Field Draft Result)
    {Stands : Field → Node → Prop} {value : Field → Node}
    (stands : ∀ field, Stands field (value field)) (fields : List Field) :
    type.Lists Stands fields
      (fields.map fun field => (type.fieldName field, value field)) := by
  induction fields with
  | nil => exact .nil
  | cons field fields inductionHypothesis =>
      exact .known (stands field) inductionHypothesis

/-! ## What holds of drafts -/

section

variable {type : RecordType Field Draft Result} {Holds : Draft → Prop}
  {draft final : Draft}

/-- What is kept by reading a member is kept by reading the members of an
object. -/
theorem holds_of_readMembers
    (keeps : ∀ {field value draft next}, Holds draft →
      type.readField field value draft = .ok next → Holds next)
    {members : Members} (holds : Holds draft)
    (areRead : type.readMembers members draft = .ok final) : Holds final := by
  fun_induction readMembers type members draft with
  | case1 draft =>
      cases areRead
      exact holds
  | case5 draft name value tail isUnknown isWhole inductionHypothesis =>
      exact inductionHypothesis holds areRead
  | case8 draft name value tail field isKnown isNew next isRead
      inductionHypothesis =>
      exact inductionHypothesis (keeps holds isRead) areRead
  | _ => cases areRead

/-- What is kept by reading a member is kept by reading the items of an
array. -/
theorem holds_of_readItems
    (keeps : ∀ {field value draft next}, Holds draft →
      type.readField field value draft = .ok next → Holds next)
    {fields : List Field} {count : Nat} {items : Items} (holds : Holds draft)
    (areRead : type.readItems fields count items draft = .ok final) :
    Holds final := by
  fun_induction readItems type fields count items draft with
  | case1 count draft =>
      cases areRead
      exact holds
  | case4 field fields count draft isOptional inductionHypothesis =>
      exact inductionHypothesis holds areRead
  | case6 field fields count value tail draft next isRead
      inductionHypothesis =>
      exact inductionHypothesis (keeps holds isRead) areRead
  | _ => cases areRead

/-- A record that is read is that of a draft of which everything holds that
holds at the beginning and is kept by reading a member. -/
theorem exists_result_of_read (begins : Holds type.empty)
    (keeps : ∀ {field value draft next}, Holds draft →
      type.readField field value draft = .ok next → Holds next)
    {node : Node} {result : Result} (isRead : type.read node = .ok result) :
    ∃ draft, Holds draft ∧ type.result? draft = some result := by
  have ofComplete {draft : Draft} (holds : Holds draft)
      (isComplete : type.complete draft = .ok result) :
      ∃ draft, Holds draft ∧ type.result? draft = some result := by
    refine ⟨draft, holds, ?_⟩
    unfold complete at isComplete
    split at isComplete
    · cases isComplete
    · split at isComplete
      · next isResult =>
          cases isComplete
          exact isResult
      · cases isComplete
  unfold read at isRead
  split at isRead
  · split at isRead
    · next areRead =>
        exact ofComplete (holds_of_readMembers keeps begins areRead) isRead
    · cases isRead
  · split at isRead
    · next areRead =>
        exact ofComplete (holds_of_readItems keeps begins areRead) isRead
    · cases isRead
  · cases isRead

end

/-! ## Reading members -/

/-- The rules that the parts of a record type keep. -/
structure IsLawful [DecidableEq Field]
    (type : RecordType Field Draft Result) : Prop where
  mem_fields : ∀ field, field ∈ type.fields
  distinct : (type.fields.map type.fieldName).Nodup
  /-- Nothing has been read at the beginning. -/
  has_empty : ∀ field, type.has type.empty field = false
  /-- Reading a member adds this member and no other. -/
  has_readField : ∀ {field : Field} {value : Node} {draft next : Draft},
    type.readField field value draft = .ok next →
      ∀ other, type.has next other =
        (decide (other = field) || type.has draft other)

/-- A known member that has not been read before is read into the draft. -/
theorem readMembers_cons (type : RecordType Field Draft Result)
    {name : String} {value : Node} {tail : Members} {field : Field}
    {draft next : Draft} (isKnown : type.field? name = some field)
    (isNew : type.has draft field = false)
    (isRead : type.readField field value draft = .ok next) :
    type.readMembers (.cons (some name) value tail) draft =
      type.readMembers tail next := by
  simp [readMembers, isKnown, isNew, isRead]

/-- A member of an unknown name is passed over. -/
theorem readMembers_cons_of_unknown (type : RecordType Field Draft Result)
    {name : String} {value : Node} (tail : Members) (draft : Draft)
    (isUnknown : type.field? name = none) (isSound : value.IsSound) :
    type.readMembers (.cons (some name) value tail) draft =
      type.readMembers tail draft := by
  simp [readMembers, isUnknown, Node.isWhole_of_isSound isSound]

/-- An object is the record that its members complete. -/
theorem read_object (type : RecordType Field Draft Result)
    {members : Members} {draft : Draft}
    (areRead : type.readMembers members type.empty = .ok draft) :
    type.read (.object members) = type.complete draft := by
  simp only [read, areRead]

theorem exists_draft_of_read {type : RecordType Field Draft Result}
    {members : List (String × Node)} {result : Result}
    (isRead : type.read (.ofMembers members) = .ok result) :
    ∃ draft, type.readMembers (.ofList members) type.empty = .ok draft ∧
      type.complete draft = .ok result := by
  rw [Node.ofMembers_eq, read] at isRead
  cases areRead : type.readMembers (.ofList members) type.empty with
  | error fault =>
      rw [areRead] at isRead
      cases isRead
  | ok draft =>
      rw [areRead] at isRead
      exact ⟨draft, rfl, isRead⟩

/-- A record that is complete has every member that it may not lack. -/
theorem has_of_complete {type : RecordType Field Draft Result} {draft : Draft}
    {result : Result} (isComplete : type.complete draft = .ok result)
    {field : Field} (isDeclared : field ∈ type.fields)
    (isRequired : type.isOptional field = false) :
    type.has draft field = true := by
  unfold complete at isComplete
  split at isComplete
  · cases isComplete
  · next noneMissing =>
      have notMissing := List.find?_eq_none.mp noneMissing field isDeclared
      simpa [isRequired] using notMissing

/-- The value of a known member has been read when all members have been. -/
theorem exists_readField_of_readMembers {type : RecordType Field Draft Result}
    {left right : List (String × Node)} {name : String} {value : Node}
    {field : Field} (isKnown : type.field? name = some field)
    {draft final : Draft}
    (areRead : type.readMembers (.ofList (left ++ (name, value) :: right))
      draft = .ok final) :
    ∃ before next, type.readField field value before = .ok next := by
  induction left generalizing draft with
  | nil =>
      simp only [List.nil_append, Members.ofList, List.foldr_cons, readMembers,
        isKnown] at areRead
      split at areRead
      · cases areRead
      · split at areRead
        · next next isRead => exact ⟨draft, next, isRead⟩
        · cases areRead
  | cons member left inductionHypothesis =>
      simp only [List.cons_append, Members.ofList, List.foldr_cons,
        readMembers] at areRead
      split at areRead
      · split at areRead
        · exact inductionHypothesis areRead
        · cases areRead
      · split at areRead
        · cases areRead
        · split at areRead
          · exact inductionHypothesis areRead
          · cases areRead

/-- The value of a known member is read when the object is. -/
theorem exists_readField {type : RecordType Field Draft Result}
    {left right : List (String × Node)} {name : String} {value : Node}
    {field : Field} (isKnown : type.field? name = some field) {result : Result}
    (isRead : type.read (.ofMembers (left ++ (name, value) :: right)) =
      .ok result) :
    ∃ before next, type.readField field value before = .ok next := by
  obtain ⟨draft, areRead, -⟩ := exists_draft_of_read isRead
  exact exists_readField_of_readMembers isKnown areRead

section

variable [DecidableEq Field] {type : RecordType Field Draft Result}

theorem IsLawful.fieldName_injective (lawful : type.IsLawful) :
    Function.Injective type.fieldName := fun one other sameName =>
  List.inj_on_of_nodup_map lawful.distinct (lawful.mem_fields one)
    (lawful.mem_fields other) sameName

theorem IsLawful.field?_eq_some_iff (lawful : type.IsLawful) (name : String)
    (field : Field) :
    type.field? name = some field ↔ type.fieldName field = name := by
  unfold field?
  constructor
  · intro isFound
    simpa using List.find?_some isFound
  · rintro rfl
    cases isFound : type.fields.find? fun other =>
        type.fieldName other == type.fieldName field with
    | none =>
        have notFound := List.find?_eq_none.mp isFound field
          (lawful.mem_fields field)
        simp at notFound
    | some other =>
        have sameName : type.fieldName other = type.fieldName field := by
          simpa using List.find?_some isFound
        rw [lawful.fieldName_injective sameName]

theorem IsLawful.field?_eq_none (lawful : type.IsLawful) {name : String}
    (isUnknown : ∀ field, type.fieldName field ≠ name) :
    type.field? name = none := by
  cases isFound : type.field? name with
  | none => rfl
  | some field =>
      exact absurd ((lawful.field?_eq_some_iff name field).mp isFound)
        (isUnknown field)

variable {Stands : Field → Node → Prop} {take : Draft → Field → Draft}

/-- Members that list fields are read one after the other.  `take` is what
reading does to a draft. -/
theorem readMembers_of_lists (lawful : type.IsLawful)
    (reads : ∀ {field value}, Stands field value →
      ∀ draft, type.readField field value draft = .ok (take draft field))
    {fields : List Field} {members : List (String × Node)}
    (lists : type.Lists Stands fields members) (distinct : fields.Nodup)
    (draft : Draft)
    (areNew : ∀ field ∈ fields, type.has draft field = false) :
    type.readMembers (.ofList members) draft =
      .ok (fields.foldl take draft) := by
  induction lists generalizing draft with
  | nil => rfl
  | @known field value fields members stands others inductionHypothesis =>
      obtain ⟨notAgain, distinct⟩ := List.nodup_cons.mp distinct
      have isKnown := (lawful.field?_eq_some_iff _ field).mpr rfl
      have isRead := reads stands draft
      have areNewStill : ∀ other ∈ fields,
          type.has (take draft field) other = false := by
        intro other isMember
        have isOther : other ≠ field := by
          rintro rfl
          exact notAgain isMember
        rw [lawful.has_readField isRead, decide_eq_false isOther,
          Bool.false_or]
        exact areNew other (List.mem_cons_of_mem _ isMember)
      rw [List.foldl_cons, ← inductionHypothesis distinct _ areNewStill]
      exact type.readMembers_cons isKnown (areNew field List.mem_cons_self)
        isRead
  | @unknown name value fields members isUnknown isSound others
      inductionHypothesis =>
      rw [← inductionHypothesis distinct draft areNew]
      exact type.readMembers_cons_of_unknown _ draft
        (lawful.field?_eq_none isUnknown) isSound

/-- A record is read from an object that lists its fields, in whatever
order. -/
theorem read_of_tells (lawful : type.IsLawful)
    (reads : ∀ {field value}, Stands field value →
      ∀ draft, type.readField field value draft = .ok (take draft field))
    (commute : ∀ draft one other,
      take (take draft one) other = take (take draft other) one)
    {fields : List Field} {node : Node}
    (tells : type.Tells Stands fields node) (distinct : fields.Nodup) :
    type.read node = type.complete (fields.foldl take type.empty) := by
  obtain ⟨isPermuted, lists⟩ := tells
  have areRead := readMembers_of_lists lawful reads lists
    (isPermuted.nodup_iff.mpr distinct) type.empty
    fun field _ => lawful.has_empty field
  rw [isPermuted.foldl_eq' (fun one _ other _ draft =>
    commute draft one other) type.empty] at areRead
  exact type.read_object areRead

/-- Reading members counts, for each field, how often its name occurs. -/
theorem count_of_readMembers (lawful : type.IsLawful)
    {members : List (String × Node)} {draft final : Draft}
    (areRead : type.readMembers (.ofList members) draft = .ok final)
    (field : Field) :
    (members.map Prod.fst).count (type.fieldName field) +
        (type.has draft field).toNat =
      (type.has final field).toNat := by
  induction members generalizing draft with
  | nil =>
      cases areRead
      exact Nat.zero_add _
  | cons member members inductionHypothesis =>
      obtain ⟨name, value⟩ := member
      simp only [Members.ofList, List.foldr_cons, readMembers] at areRead
      rw [List.map_cons, List.count_cons]
      split at areRead
      · next isUnknown =>
          have otherName : (name == type.fieldName field) = false := by
            rw [beq_eq_false_iff_ne]
            rintro rfl
            rw [(lawful.field?_eq_some_iff _ field).mpr rfl] at isUnknown
            cases isUnknown
          split at areRead
          · rw [otherName]
            exact inductionHypothesis areRead
          · cases areRead
      · next known isKnown =>
          have hasName := (lawful.field?_eq_some_iff _ _).mp isKnown
          split at areRead
          · cases areRead
          · next isNew =>
              split at areRead
              · next next isRead =>
                  have counted := inductionHypothesis areRead
                  rw [lawful.has_readField isRead] at counted
                  by_cases same : field = known
                  · subst same
                    simp only [hasName, decide_true, Bool.true_or,
                      Bool.toNat_true] at counted
                    simp only [hasName, beq_self_eq_true, if_true,
                      Bool.eq_false_iff.mpr isNew, Bool.toNat_false]
                    omega
                  · have otherName : (name == type.fieldName field) = false := by
                      rw [beq_eq_false_iff_ne, ← hasName]
                      exact fun sameName =>
                        same (lawful.fieldName_injective sameName.symm)
                    rw [decide_eq_false same, Bool.false_or] at counted
                    rw [otherName]
                    exact counted
              · cases areRead

/-- An object that is read as a record names no field twice, and names every
field that is not optional. -/
theorem count_of_read (lawful : type.IsLawful)
    {members : List (String × Node)} {result : Result}
    (isRead : type.read (.ofMembers members) = .ok result) (field : Field) :
    (members.map Prod.fst).count (type.fieldName field) ≤ 1 ∧
      (type.isOptional field = false →
        (members.map Prod.fst).count (type.fieldName field) = 1) := by
  obtain ⟨draft, areRead, isComplete⟩ := exists_draft_of_read isRead
  have counted := count_of_readMembers lawful areRead field
  rw [lawful.has_empty, Bool.toNat_false, Nat.add_zero] at counted
  refine ⟨counted ▸ Bool.toNat_le _, fun isRequired => ?_⟩
  rw [counted,
    has_of_complete isComplete (lawful.mem_fields field) isRequired]
  rfl

/-- What is left of an object is refused when a known member is repeated or a
required one is removed. -/
theorem Spoiled.refused (lawful : type.IsLawful)
    {members altered : List (String × Node)} {result : Result}
    (isRead : type.read (.ofMembers members) = .ok result)
    (spoiled : type.Spoiled members altered) :
    ∃ fault, type.read (.ofMembers altered) = .error fault := by
  cases isAltered : type.read (.ofMembers altered) with
  | error fault => exact ⟨fault, rfl⟩
  | ok other =>
      exfalso
      cases spoiled with
      | @repeated left right field value isThere =>
          have atMostOnce := (count_of_read lawful isAltered field).1
          have atLeastOnce := List.count_pos_iff.mpr isThere
          simp only [List.map_append, List.map_cons, List.count_append,
            List.count_cons_self] at atMostOnce atLeastOnce
          omega
      | @removed left right field value isRequired =>
          have once := (count_of_read lawful isRead field).2 isRequired
          have onceStill := (count_of_read lawful isAltered field).2 isRequired
          simp only [List.map_append, List.map_cons, List.count_append,
            List.count_cons_self] at once onceStill
          omega

end

end RecordType
end Json
end ReportBinding
