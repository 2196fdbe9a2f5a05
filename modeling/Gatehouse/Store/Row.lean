import Gatehouse.Store.Table

/-! # Sites and users

The rows that the gateway reads. No two sites share a code or a host name of their own, no two
users an API token. -/

namespace Gatehouse

/-- Whether a site is in use. -/
inductive SiteState
  | active
  | deleted
  deriving DecidableEq, Repr

/-- A row of the sites. -/
structure SiteRow where
  id : Int
  parent : Option Int
  code : String
  /-- The host name of its own, if it has one. -/
  cname : Option String
  isPublic : Bool
  isAdmin : Bool
  state : SiteState
  deriving DecidableEq, Repr

/-- A row of the users. -/
structure UserRow where
  id : Int
  siteId : Int
  email : String
  apiToken : Option String
  deriving DecidableEq, Repr

/-- Two values of a column that holds each value once, and any number of blanks. -/
def sameValue (a b : Option String) : Prop := a.isSome ∧ a = b

instance (a b : Option String) : Decidable (sameValue a b) :=
  inferInstanceAs (Decidable (_ ∧ _))

/-- Two sites have one code, or one host name. -/
def SiteRow.Clash (r s : SiteRow) : Prop := r.code = s.code ∨ sameValue r.cname s.cname

instance (r s : SiteRow) : Decidable (r.Clash s) := inferInstanceAs (Decidable (_ ∨ _))

/-- Two users have one API token. -/
def UserRow.Clash (u v : UserRow) : Prop := sameValue u.apiToken v.apiToken

instance (u v : UserRow) : Decidable (u.Clash v) :=
  inferInstanceAs (Decidable (sameValue _ _))

abbrev Sites := Table SiteRow SiteRow.id SiteRow.Clash

abbrev Users := Table UserRow UserRow.id UserRow.Clash

/-- The tables that exist. -/
structure Database where
  sites : Option Sites
  users : Option Users

namespace Database

/-- Both tables, without rows. -/
def fresh : Database := ⟨some .empty, some .empty⟩

/-- Creates what is missing. -/
def createTables (db : Database) : Database :=
  ⟨some (db.sites.getD .empty), some (db.users.getD .empty)⟩

end Database

/-- The integers that a column can hold are those of 64 bits. -/
def columnLimit : Nat := Nat.pow 2 63

/-- Whether a column can hold an integer: it has 64 bits. -/
def fitsColumn (n : Int) : Bool := -columnLimit ≤ n && n < columnLimit

end Gatehouse
