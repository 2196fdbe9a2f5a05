import Gatehouse.Json.Reader
import Gatehouse.Json.Writer

/-! # JSON documents

A document that travels as bytes: its encoding is found out, then its text is read. A fault of the
grammar is given by its place. -/

namespace Gatehouse.Json

open Text

/-- Why there is no document. -/
inductive DocumentFault
  /-- The bytes are no text in any encoding. -/
  | undecodable
  /-- The text breaks the grammar after so many characters. -/
  | malformed (flaw : Flaw) (position : Nat)
  | tooLong (digits : Nat)
  | tooDeep (what : Container)
  deriving DecidableEq, Repr

/-- The text of a document. A surrogate, which no text can hold, stands as its escape. -/
def documentText (points : List Nat) : List Char :=
  points.flatMap fun n => if isSurrogate n then unicodeEscape n else [Char.ofNat n]

/-- The value that the whole document is. -/
def readDocument (bytes : Bytes) : Except DocumentFault Json :=
  match documentPoints bytes with
  | none => .error .undecodable
  | some points =>
    let text := documentText points
    match read text with
    | .ok v => .ok v
    | .error (.malformed flaw left) => .error (.malformed flaw (text.length - left))
    | .error (.tooLong digits) => .error (.tooLong digits)
    | .error (.tooDeep what) => .error (.tooDeep what)

end Gatehouse.Json
