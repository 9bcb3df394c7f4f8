import ReportBinding.Json.Fault

/-!
# Reading typed values from JSON documents

Values are read from left to right, and the first fault counts.  A record is an
object with known members in any order and unknown members in between, or an
array of its members in the order of their declaration.
-/

namespace ReportBinding
namespace Json

/-- The text of a value. -/
def Node.text (expectation : Expectation) : Node → Except Fault String
  | .string (some text) => .ok text
  | node => .error (node.mismatch expectation)

/-- The whole number of 32 bits that a value is. -/
def Node.number32 : Node → Except Fault Nat
  | .number numeral =>
      match numeral.quantity? with
      | some (.natural value) =>
          if value < numberBound then .ok value
          else .error (.invalidNumber value)
      | some (.negative magnitude) =>
          .error (.invalidNumber (-(magnitude : Int)))
      | some (.float value) => .error (.invalidType (.float value) .number)
      | none => .error .malformed
  | node => .error (node.mismatch .number)

/-- A type of records.  A record is read into a draft, whose members are known
or not, and finished when all members have been read. -/
structure RecordType (Field Draft Result : Type) where
  /-- The name of the type. -/
  name : String
  /-- The members, in the order of their declaration. -/
  fields : List Field
  /-- The name of a member. -/
  fieldName : Field → String
  /-- Whether a record may lack a member. -/
  isOptional : Field → Bool
  /-- The draft with no member. -/
  empty : Draft
  /-- Whether a draft has a member. -/
  has : Draft → Field → Bool
  /-- Read the value of a member into a draft. -/
  readField : Field → Node → Draft → Except Fault Draft
  /-- The record of a draft that has all members it needs. -/
  result? : Draft → Option Result

namespace RecordType

variable {Field Draft Result : Type}

/-- The member with a name. -/
def field? (type : RecordType Field Draft Result) (name : String) :
    Option Field :=
  type.fields.find? fun field => type.fieldName field == name

/-- Read the members of an object into a draft. -/
def readMembers (type : RecordType Field Draft Result) :
    Members → Draft → Except Fault Draft
  | .closed, draft => .ok draft
  | .broken, _ => .error .malformed
  | .misnamed _, _ => .error .malformed
  | .cons none _ _, _ => .error .malformed
  | .cons (some name) value tail, draft =>
      match type.field? name with
      | none =>
          if value.isWhole then readMembers type tail draft
          else .error .malformed
      | some field =>
          if type.has draft field then .error (.duplicateField name)
          else match type.readField field value draft with
            | .ok draft => readMembers type tail draft
            | .error fault => .error fault

/-- Read the items of an array into the members that are left.  `count` members
have been read before. -/
def readItems (type : RecordType Field Draft Result) :
    List Field → Nat → Items → Draft → Except Fault Draft
  | [], _, .closed, draft => .ok draft
  | [], _, _, _ => .error .malformed
  | _ :: _, _, .broken, _ => .error .malformed
  | field :: fields, count, .closed, draft =>
      if type.isOptional field then
        readItems type fields (count + 1) .closed draft
      else .error (.invalidLength count type.name type.fields.length)
  | field :: fields, count, .cons value tail, draft =>
      match type.readField field value draft with
      | .ok draft => readItems type fields (count + 1) tail draft
      | .error fault => .error fault

/-- The first member that a draft lacks and may not lack. -/
def missing? (type : RecordType Field Draft Result) (draft : Draft) :
    Option Field :=
  type.fields.find? fun field =>
    !type.has draft field && !type.isOptional field

/-- The record of a draft. -/
def complete (type : RecordType Field Draft Result) (draft : Draft) :
    Except Fault Result :=
  match type.missing? draft with
  | some field => .error (.missingField (type.fieldName field))
  | none =>
      match type.result? draft with
      | some result => .ok result
      | none => .error .malformed

/-- Read a record. -/
def read (type : RecordType Field Draft Result) (node : Node) :
    Except Fault Result :=
  match node with
  | .object members =>
      match type.readMembers members type.empty with
      | .ok draft => type.complete draft
      | .error fault => .error fault
  | .array items =>
      match type.readItems type.fields 0 items type.empty with
      | .ok draft => type.complete draft
      | .error fault => .error fault
  | node => .error (node.mismatch (.record type.name))

end RecordType

/-- Read a whole document. -/
def Document.read {α : Type} (readNode : Node → Except Fault α)
    (document : Document) : Except Fault α :=
  match readNode document.root with
  | .ok value => if document.complete then .ok value else .error .malformed
  | .error fault => .error fault

end Json
end ReportBinding
