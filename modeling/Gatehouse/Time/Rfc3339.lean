import Gatehouse.Time.Timestamp

/-! # Timestamps as RFC 3339 text

Four digits of year, two of each smaller part, a fraction only if there is one and without zeros
at its end. A clock of unknown offset counts as one in universal time, whose offset is written
`Z`; any other offset is written in whole minutes, cut toward zero. -/

namespace Gatehouse.Timestamp

open Text

/-- Date and time, with as many places of a second as it takes. -/
def writeCivil (c : CivilTime) : List Char :=
  fixedDigits 4 c.year ++ '-' :: fixedDigits 2 c.month ++ '-' :: fixedDigits 2 c.day ++
    'T' :: fixedDigits 2 c.hour ++ ':' :: fixedDigits 2 c.minute ++ ':' :: fixedDigits 2 c.second ++
    (if c.micro = 0 then [] else '.' :: trimmedFraction 6 c.micro)

/-- Whole minutes of an offset, without its sign. -/
def offsetMinutes (offset : Int) : Nat := offset.natAbs / 60000000

/-- The offset in hours and minutes, or `Z` if there is none. -/
def writeOffset (offset : Int) : List Char :=
  if offset = 0 then ['Z']
  else
    (if offset < 0 then '-' else '+') :: fixedDigits 2 (offsetMinutes offset / 60) ++
      ':' :: fixedDigits 2 (offsetMinutes offset % 60)

def writeChars (t : Timestamp) : List Char :=
  writeCivil t.civil ++ writeOffset (t.offset.getD 0)

def write (t : Timestamp) : String := String.ofList t.writeChars

end Gatehouse.Timestamp
