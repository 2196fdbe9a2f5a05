import Gatehouse.Json.Basic

/-! # Validation

What was found wrong with the fields of a document. All fields are looked at before the faults
are reported, in the order of the fields. -/

namespace Gatehouse

/-- What is wrong with a value. -/
inductive FaultKind
  | intParsing
  | intType
  | intFromFloat
  | intTooLong
  | finiteNumber
  | floatParsing
  | floatType
  /-- It is none of the values that are expected. -/
  | literal (expected : String)
  | stringType
  | tupleType
  | extraForbidden
  | missing
  | tooSmall (least : Int)
  | notAnObject
  /-- The text is no JSON, for that reason. -/
  | invalidJson (reason : String)
  deriving DecidableEq, Repr

namespace FaultKind

/-- The code that a fault is reported by. -/
def code : FaultKind → String
  | intParsing => "int_parsing"
  | intType => "int_type"
  | intFromFloat => "int_from_float"
  | intTooLong => "int_parsing_size"
  | finiteNumber => "finite_number"
  | floatParsing => "float_parsing"
  | floatType => "float_type"
  | literal _ => "literal_error"
  | stringType => "string_type"
  | tupleType => "tuple_type"
  | extraForbidden => "extra_forbidden"
  | missing => "missing"
  | tooSmall _ => "greater_than_equal"
  | notAnObject => "model_attributes_type"
  | invalidJson _ => "json_invalid"

/-- What a fault is explained by. -/
def message : FaultKind → String
  | intParsing => "Input should be a valid integer, unable to parse string as an integer"
  | intType => "Input should be a valid integer"
  | intFromFloat => "Input should be a valid integer, got a number with a fractional part"
  | intTooLong => "Unable to parse input string as an integer, exceeded maximum size"
  | finiteNumber => "Input should be a finite number"
  | floatParsing => "Input should be a valid number, unable to parse string as a number"
  | floatType => "Input should be a valid number"
  | literal expected => "Input should be " ++ expected
  | stringType => "Input should be a valid string"
  | tupleType => "Input should be a valid tuple"
  | extraForbidden => "Extra inputs are not permitted"
  | missing => "Field required"
  | tooSmall least => "Input should be greater than or equal to " ++ toString least
  | notAnObject => "Input should be a valid dictionary or object to extract fields from"
  | invalidJson _ => "JSON decode error"

/-- What else there is to say about a fault, under names. -/
def hints : FaultKind → List (String × Json)
  | literal expected => [("expected", .text expected)]
  | tooSmall least => [("ge", .int least)]
  | invalidJson reason => [("error", .text reason)]
  | _ => []

end FaultKind

/-- A step on the way to a value in a document. -/
inductive Place
  | name (s : String)
  | index (n : Nat)
  deriving DecidableEq, Repr

/-- What is wrong with the value at a place. -/
structure FieldFault where
  place : List Place
  kind : FaultKind
  deriving DecidableEq, Repr

/-- A value, or all the faults of the fields that it was to be made of. -/
inductive Checked (α : Type)
  | valid (a : α)
  | invalid (faults : List FieldFault)

namespace Checked

/-- The faults, if there is no value. -/
def faults : Checked α → List FieldFault
  | valid _ => []
  | invalid fs => fs

/-- Both parts are looked at, and the faults of the first come first. -/
def ap (f : Checked (α → β)) (a : Checked α) : Checked β :=
  match f, a with
  | valid f, valid a => valid (f a)
  | f, a => invalid (f.faults ++ a.faults)

instance : Applicative Checked where
  pure := valid
  seq f a := ap f (a ())

/-- A value, or a fault of what was found at a place. -/
def atPlace (place : List Place) : Except FaultKind α → Checked α
  | .ok a => valid a
  | .error kind => invalid [⟨place, kind⟩]

end Checked

end Gatehouse
