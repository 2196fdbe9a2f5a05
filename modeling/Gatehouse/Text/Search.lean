/-! # Searching text -/

namespace Gatehouse.Text

/-- Whether `part` stands somewhere in the text. -/
def occursIn (part : List Char) : List Char → Bool
  | [] => part.isEmpty
  | c :: rest => part.isPrefixOf (c :: rest) || occursIn part rest

/-- Whether the text starts with `part`. -/
def beginsWith (part s : String) : Bool := part.toList.isPrefixOf s.toList

/-- The parts of a text between the separators; never none. -/
def splitOn (sep : Char) : List Char → List (List Char)
  | [] => [[]]
  | c :: rest =>
    if c == sep then [] :: splitOn sep rest
    else match splitOn sep rest with
      | [] => [[c]]
      | part :: parts => (c :: part) :: parts

end Gatehouse.Text
