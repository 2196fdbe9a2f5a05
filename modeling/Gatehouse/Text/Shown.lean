import Gatehouse.Json.Writer
import Gatehouse.Text.Quoted

/-! # Showing values

How a value looks where it is printed for a reader: text as a quoted literal, a missing value as
`None`, lists and objects in brackets and braces, and a record by its name and its fields. -/

namespace Gatehouse.Shown

def int (n : Int) : String := String.ofList (Json.writeInt n)

def bool (b : Bool) : String := if b then "True" else "False"

def text? : Option String → String
  | none => "None"
  | some s => Quoted.literal s

def int? : Option Int → String
  | none => "None"
  | some n => int n

/-- A record by its name and its shown fields. -/
def record (name : String) (fields : List (String × String)) : String :=
  name ++ "(" ++ String.intercalate ", " (fields.map fun f => f.1 ++ "=" ++ f.2) ++ ")"

/-- How a double is shown. -/
def floatText : FloatText := ⟨-4, 16, "nan", "inf"⟩

mutual

/-- A value as a literal of the language. -/
def value : Json → String
  | .null => "None"
  | .bool b => bool b
  | .int n => int n
  | .float x => floatText.write x
  | .text s => Quoted.literal s
  | .brokenText points => String.ofList (Quoted.writePoints points)
  | .list items => "[" ++ String.intercalate ", " (values items) ++ "]"
  | .object members => "\x7b" ++ String.intercalate ", " (pairs members) ++ "\x7d"

def values : List Json → List String
  | [] => []
  | v :: rest => value v :: values rest

def pairs : List (String × Json) → List String
  | [] => []
  | (name, v) :: rest => (Quoted.literal name ++ ": " ++ value v) :: pairs rest

end

end Gatehouse.Shown
