import ReportBinding.Json.Document
import ReportBinding.Text.Quoted

/-!
# Refusals of JSON documents

Why a document is not a value of some type, and how that is worded.
-/

namespace ReportBinding
namespace Json

/-- How floating-point numbers are shown: in place while the exponent of the
leading digit lies between -5 and 15, and with two digits of exponent or more
otherwise. -/
def floatStyle : Decimal.Style := ⟨-5, 15, 2⟩

/-- What a value is, seen from outside. -/
inductive Kind where
  | null
  | boolean (value : Bool)
  | integer (value : Int)
  | float (value : Float)
  | string (text : String)
  | sequence
  | map

/-- The wording of a kind. -/
def Kind.describe : Kind → String
  | .null => "null"
  | .boolean true => "boolean \x60true\x60"
  | .boolean false => "boolean \x60false\x60"
  | .integer value => "integer \x60" ++ toString value ++ "\x60"
  | .float value => "floating point \x60" ++ floatStyle.writeFloat value ++
      "\x60"
  | .string text => "string " ++ Text.quote text
  | .sequence => "sequence"
  | .map => "map"

/-- What is asked for in a place of a document. -/
inductive Expectation where
  /-- A text. -/
  | text
  /-- A path. -/
  | path
  /-- A whole number of 32 bits. -/
  | number
  /-- The members of a record. -/
  | record (name : String)
  /-- The name of a case. -/
  | caseName
  /-- Nothing but null. -/
  | unit
deriving DecidableEq, Repr

/-- The wording of an expectation. -/
def Expectation.describe : Expectation → String
  | .text => "a string"
  | .path => "path string"
  | .number => "u32"
  | .record name => "struct " ++ name
  | .caseName => "variant identifier"
  | .unit => "unit"

/-- Why a document is refused. -/
inductive Fault where
  /-- The text is no JSON up to the point where it was needed. -/
  | malformed
  /-- A record lacks a member. -/
  | missingField (name : String)
  /-- A record has a member twice. -/
  | duplicateField (name : String)
  /-- A value is of another kind. -/
  | invalidType (kind : Kind) (expectation : Expectation)
  /-- A whole number is out of range. -/
  | invalidNumber (value : Int)
  /-- An array has too few items for a record. -/
  | invalidLength (length : Nat) (name : String) (fields : Nat)
  /-- A case has an unknown name. -/
  | unknownCase (name : String) (known : List String)
  /-- The type of a value refuses its text. -/
  | rejected (reason : String)

/-- The wording of a refusal. -/
def Fault.message : Fault → String
  | .malformed => "malformed JSON"
  | .missingField name => "missing field \x60" ++ name ++ "\x60"
  | .duplicateField name => "duplicate field \x60" ++ name ++ "\x60"
  | .invalidType kind expectation =>
      "invalid type: " ++ kind.describe ++ ", expected " ++
        expectation.describe
  | .invalidNumber value =>
      "invalid value: integer \x60" ++ toString value ++ "\x60, expected " ++
        Expectation.number.describe
  | .invalidLength length name fields =>
      "invalid length " ++ toString length ++ ", expected struct " ++ name ++
        " with " ++ toString fields ++ " elements"
  | .unknownCase name known =>
      "unknown variant \x60" ++ name ++ "\x60, expected one of " ++
        ", ".intercalate (known.map fun name => "\x60" ++ name ++ "\x60")
  | .rejected reason => reason

/-- The kind of a value, if it is well formed as far as that matters. -/
def Node.kind? : Node → Option Kind
  | .null => some .null
  | .boolean value => some (.boolean value)
  | .number numeral =>
      numeral.quantity?.map fun
        | .natural value => .integer value
        | .negative magnitude => .integer (-(magnitude : Int))
        | .float value => .float value
  | .string text => text.map .string
  | .array _ => some .sequence
  | .object _ => some .map
  | .absent => none

/-- The refusal of a value that is not what is asked for. -/
def Node.mismatch (node : Node) (expectation : Expectation) : Fault :=
  match node.kind? with
  | some kind => .invalidType kind expectation
  | none => .malformed

end Json
end ReportBinding
