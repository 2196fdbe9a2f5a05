/-! # Text and bytes

Text travels as UTF-8. A header is read back one byte one character, so a character outside ASCII
comes back as the two to four characters of its bytes. Main statement: decoding undoes
encoding. -/

namespace Gatehouse.Text

abbrev Bytes := List UInt8

def utf8 (s : List Char) : Bytes :=
  s.flatMap String.utf8EncodeChar

/-- The text that the bytes encode, if they are well-formed UTF-8. -/
def utf8Decode? (bytes : Bytes) : Option (List Char) :=
  (ByteArray.utf8Decode? bytes.toByteArray).map Array.toList

theorem utf8Decode?_utf8 (s : List Char) : utf8Decode? (utf8 s) = some s := by
  have h : (utf8 s).toByteArray = s.utf8Encode := by simp [utf8, List.utf8Encode]
  rw [utf8Decode?, h, List.utf8Decode?_utf8Encode]
  rfl

/-- One character for each byte. -/
def latin1 (bytes : Bytes) : List Char :=
  bytes.map fun b => Char.ofNat b.toNat

/-- What a header holds once text has travelled as UTF-8 and was read back byte by byte. -/
def headerView (s : String) : String :=
  String.ofList (latin1 (utf8 s.toList))

end Gatehouse.Text
