import Gatehouse.Json.Basic
import Gatehouse.Store.Change

/-! # Cells by name

A row that is to be written may come as values under the names of its columns. A name that is no
column is refused: when a row is made, as an argument that it does not take, and when it is
changed, as a statement that makes no sense. The time of creation is a column too, but its value
is never told. -/

namespace Gatehouse

namespace Json

/-- The value for a column of integers. -/
def wholeNumber? : Json → Option Int
  | .int n => some n
  | .bool b => some (if b then 1 else 0)
  | .float x => x.trunc?
  | _ => none

/-- The value for a column of text. -/
def words? : Json → Option String
  | .text s => some s
  | _ => none

/-- The value for a column of truth values. -/
def truth? : Json → Option Bool
  | .null => none
  | v => some v.truthy

end Json

namespace SiteState

/-- The state that a text stands for. -/
def ofText (s : String) : SiteState := if s == "d" then .deleted else .active

end SiteState

namespace Cells

def creation : String := "created_at"

/-- The cells of named values; `fault` is what a name that is no column comes to. -/
def read (cell? : String → Json → Option α) (fault : String → Failure)
    (values : List (String × Json)) : Except Failure (List α) :=
  match values.find? fun m => (cell? m.1 m.2).isNone && m.1 != creation with
  | some m => .error (fault m.1)
  | none => .ok (values.filterMap fun m => cell? m.1 m.2)

/-- A record takes no argument of that name. -/
def noArgument (record name : String) : Failure :=
  .type (Quoted.literal name ++ " is an invalid keyword argument for " ++ record)

end Cells

namespace SiteCell

/-- The cell that a named value is for. -/
def ofMember? (name : String) (v : Json) : Option SiteCell :=
  match name with
  | "id" => some (.id v.wholeNumber?)
  | "parent" => some (.parent v.wholeNumber?)
  | "code" => some (.code v.words?)
  | "cname" => some (.cname v.words?)
  | "public" => some (.isPublic v.truth?)
  | "admin" => some (.isAdmin v.truth?)
  | "state" => some (.state (v.words?.map SiteState.ofText))
  | _ => none

/-- The cells of a new site. -/
def forNew (values : List (String × Json)) : Except Failure (List SiteCell) :=
  Cells.read ofMember? (Cells.noArgument "Site") values

/-- The cells of a change. -/
def forChange (values : List (String × Json)) : Except Failure (List SiteCell) :=
  Cells.read ofMember? (fun _ => .unknownColumn) values

end SiteCell

namespace UserCell

/-- The cell that a named value is for. -/
def ofMember? (name : String) (v : Json) : Option UserCell :=
  match name with
  | "id" => some (.id v.wholeNumber?)
  | "site_id" => some (.siteId v.wholeNumber?)
  | "email" => some (.email v.words?)
  | "api_token" => some (.apiToken v.words?)
  | _ => none

/-- The cells of a new user. -/
def forNew (values : List (String × Json)) : Except Failure (List UserCell) :=
  Cells.read ofMember? (Cells.noArgument "User") values

/-- The cells of a change. -/
def forChange (values : List (String × Json)) : Except Failure (List UserCell) :=
  Cells.read ofMember? (fun _ => .unknownColumn) values

end UserCell

end Gatehouse
