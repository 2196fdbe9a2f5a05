import Gatehouse.Number.Binary64
import Gatehouse.Text.IntegerLiteral

/-! # JSON values

A document keeps what its text says: the order of the members of an object, and whether a number
was written as an integer. Of two members of one name the later one counts.

A text or a name may hold a surrogate without a partner, which is no character. Then the text is
kept as its code points, and in a name a character of the last private plane stands for it. -/

namespace Gatehouse

/-- A value of a document. -/
inductive Json
  | null
  | bool (b : Bool)
  | int (n : Int)
  | float (x : Binary64)
  | text (s : String)
  /-- A text with a surrogate, as its code points. -/
  | brokenText (points : List Nat)
  | list (items : List Json)
  | object (members : List (String × Json))
  deriving Inhabited, BEq

namespace Json

/-- Each name once, at the place of its first member and with the value of its last. -/
def mergeMembers (members : List (String × Json)) : List (String × Json) :=
  members.foldl
    (fun merged m =>
      if merged.any fun n => n.1 == m.1 then
        merged.map fun n => if n.1 == m.1 then (n.1, m.2) else n
      else merged ++ [m])
    []

/-- The value of the last member of that name. -/
def lookup (name : String) (members : List (String × Json)) : Option Json :=
  (members.reverse.find? fun m => m.1 == name).map (·.2)

/-- The member of that name, if the value is an object that has one. -/
def get? (name : String) : Json → Option Json
  | object members => lookup name members
  | _ => none

/-- Whether it is no value. -/
def isNull : Json → Bool
  | null => true
  | _ => false

/-- The kind of a value, as messages name it. -/
def kindName : Json → String
  | null => "NoneType"
  | bool _ => "bool"
  | int _ => "int"
  | float _ => "float"
  | text _ | brokenText _ => "str"
  | list _ => "list"
  | object _ => "dict"

/-- Empty values, zeros and `null` count as false. -/
def truthy : Json → Bool
  | null => false
  | bool b => b
  | int n => n != 0
  | float x => !x.isZero
  | text s => !s.isEmpty
  | brokenText points => !points.isEmpty
  | list items => !items.isEmpty
  | object members => !members.isEmpty

/-! ### Surrogates in names -/

/-- How far the stand-in of a surrogate is from it. -/
def standInShift : Nat := 0x102000

/-- Whether a character stands for a surrogate. -/
def isStandIn (c : Char) : Bool := 0xD800 + standInShift ≤ c.toNat

/-- Whether a name has a surrogate. -/
def isBrokenName (name : String) : Bool := name.toList.any isStandIn

/-! ### Values that cannot be sent -/

mutual

/-- Whether there is a number without a place in the standard. -/
def hasNonFinite : Json → Bool
  | float (.finite ..) => false
  | float _ => true
  | list items => anyNonFinite items
  | object members => anyNonFiniteMember members
  | _ => false

def anyNonFinite : List Json → Bool
  | [] => false
  | v :: rest => hasNonFinite v || anyNonFinite rest

def anyNonFiniteMember : List (String × Json) → Bool
  | [] => false
  | (_, v) :: rest => hasNonFinite v || anyNonFiniteMember rest

end

mutual

/-- Whether there is a surrogate. -/
def hasSurrogate : Json → Bool
  | brokenText _ => true
  | list items => anySurrogate items
  | object members => anySurrogateMember members
  | _ => false

def anySurrogate : List Json → Bool
  | [] => false
  | v :: rest => hasSurrogate v || anySurrogate rest

def anySurrogateMember : List (String × Json) → Bool
  | [] => false
  | (name, v) :: rest => isBrokenName name || hasSurrogate v || anySurrogateMember rest

end

mutual

/-- Whether there is an integer that is too long to be written. -/
def hasOverlong : Json → Bool
  | int n => !decide (IntegerLiteral.Fits n)
  | list items => anyOverlong items
  | object members => anyOverlongMember members
  | _ => false

def anyOverlong : List Json → Bool
  | [] => false
  | v :: rest => hasOverlong v || anyOverlong rest

def anyOverlongMember : List (String × Json) → Bool
  | [] => false
  | (_, v) :: rest => hasOverlong v || anyOverlongMember rest

end

/-- A text, or nothing. -/
def ofText? : Option String → Json
  | none => null
  | some s => text s

/-- An integer, or nothing. -/
def ofInt? : Option Int → Json
  | none => null
  | some n => int n

end Json

end Gatehouse
