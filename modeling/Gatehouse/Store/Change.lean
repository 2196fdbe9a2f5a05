import Gatehouse.Failure
import Gatehouse.Store.Row
import Gatehouse.Store.TableName

/-! # Changing the tables

A row is written cell by cell into a draft; the draft becomes a row if no required cell is blank
and it clashes with no other row. A blank cell of a new row keeps what it would be without being
written. Of several broken rules the first counts: the id of an old row may not become blank, then
blanks in the order of the columns, then the id, then a site's host name before its code. A change
that fails leaves the tables as they were. -/

namespace Gatehouse

/-- A rule of the tables that a change would break. -/
inductive ConstraintFault
  | blank (table column : String)
  | taken (table column : String)
  /-- An id is a number. -/
  | blankId
  deriving DecidableEq, Repr

/-- The fault in the words of the database. -/
def ConstraintFault.message : ConstraintFault → String
  | blank table column => "NOT NULL constraint failed: " ++ table ++ "." ++ column
  | taken table column => "UNIQUE constraint failed: " ++ table ++ "." ++ column
  | blankId => "datatype mismatch"

def ConstraintFault.toFailure (f : ConstraintFault) : Failure := .integrity f.message

/-- The failure of a statement about a table that is not there. -/
def missingTable (name : String) : Failure := .database ("no such table: " ++ name)

/-- A statement that changes no column is none. -/
def emptyStatement : Failure := .database "syntax error"

/-- The failure of an integer that no column can hold. -/
def beyondColumn : Failure := .overflow "integer too large for a column"

/-- A required cell. -/
def requiredCell (table column : String) : Option α → Except Failure α
  | none => .error (ConstraintFault.blank table column).toFailure
  | some a => .ok a

/-! ### Sites -/

/-- A value for one column of a site; blank is `none`. -/
inductive SiteCell
  | id (v : Option Int)
  | parent (v : Option Int)
  | code (v : Option String)
  | cname (v : Option String)
  | isPublic (v : Option Bool)
  | isAdmin (v : Option Bool)
  | state (v : Option SiteState)
  deriving DecidableEq, Repr

/-- A row of the sites that is being put together. -/
structure SiteDraft where
  id : Option Int
  parent : Option Int
  code : Option String
  cname : Option String
  isPublic : Option Bool
  isAdmin : Option Bool
  state : Option SiteState

namespace SiteDraft

/-- The columns of a new site before its cells are written. -/
def initial : SiteDraft := ⟨none, none, none, none, some false, some false, some .active⟩

/-- The draft that a row is changed by. -/
def ofRow (r : SiteRow) : SiteDraft :=
  ⟨some r.id, r.parent, some r.code, r.cname, some r.isPublic, some r.isAdmin, some r.state⟩

/-- Writes a cell. -/
def write (d : SiteDraft) : SiteCell → SiteDraft
  | .id v => { d with id := v }
  | .parent v => { d with parent := v }
  | .code v => { d with code := v }
  | .cname v => { d with cname := v }
  | .isPublic v => { d with isPublic := v }
  | .isAdmin v => { d with isAdmin := v }
  | .state v => { d with state := v }

/-- The row of a complete draft; a blank id is the next free one. -/
def toRow (d : SiteDraft) (nextId : Int) : Except Failure SiteRow := do
  let code ← requiredCell "sites" "code" d.code
  let isPublic ← requiredCell "sites" "public" d.isPublic
  let isAdmin ← requiredCell "sites" "admin" d.isAdmin
  let state ← requiredCell "sites" "state" d.state
  return ⟨d.id.getD nextId, d.parent, code, d.cname, isPublic, isAdmin, state⟩

end SiteDraft

/-- Whether the database can hold the cell. -/
def SiteCell.fits : SiteCell → Bool
  | .id (some n) | .parent (some n) => fitsColumn n
  | _ => true

/-- Whether the cell is null. -/
def SiteCell.isBlank : SiteCell → Bool
  | .id v | .parent v => v.isNone
  | .code v | .cname v => v.isNone
  | .isPublic v | .isAdmin v => v.isNone
  | .state v => v.isNone

/-- The rule that keeps a site out of a table, in the order in which rules are tested. -/
def Sites.fault (t : Sites) (r : SiteRow) : ConstraintFault :=
  if t.rows.any fun s => s.id == r.id then .taken "sites" "id"
  else if t.rows.any fun s => decide (sameValue s.cname r.cname) then .taken "sites" "cname"
  else .taken "sites" "code"

/-- Adds a row that clashes with none. -/
def Sites.add (t : Sites) (r : SiteRow) : Except Failure Sites :=
  if h : t.Admits r then .ok (t.insert r h) else .error (t.fault r).toFailure

/-! ### Users -/

/-- One column of a user, and the value for it. -/
inductive UserCell
  | id (v : Option Int)
  | siteId (v : Option Int)
  | email (v : Option String)
  | apiToken (v : Option String)
  deriving DecidableEq, Repr

/-- A row of the users that is being put together. -/
structure UserDraft where
  id : Option Int
  siteId : Option Int
  email : Option String
  apiToken : Option String

namespace UserDraft

def initial : UserDraft := ⟨none, none, none, none⟩

/-- The draft that a row is changed by. -/
def ofRow (u : UserRow) : UserDraft := ⟨some u.id, some u.siteId, some u.email, u.apiToken⟩

/-- Writes a cell. -/
def write (d : UserDraft) : UserCell → UserDraft
  | .id v => { d with id := v }
  | .siteId v => { d with siteId := v }
  | .email v => { d with email := v }
  | .apiToken v => { d with apiToken := v }

/-- The row of a complete draft; a blank id is the next free one. -/
def toRow (d : UserDraft) (nextId : Int) : Except Failure UserRow := do
  let siteId ← requiredCell "users" "site_id" d.siteId
  let email ← requiredCell "users" "email" d.email
  return ⟨d.id.getD nextId, siteId, email, d.apiToken⟩

end UserDraft

/-- Whether the database can hold the cell. -/
def UserCell.fits : UserCell → Bool
  | .id (some n) | .siteId (some n) => fitsColumn n
  | _ => true

def UserCell.isBlank : UserCell → Bool
  | .id v | .siteId v => v.isNone
  | .email v | .apiToken v => v.isNone

/-- The constraint that a row that clashes is against. -/
def Users.fault (t : Users) (u : UserRow) : ConstraintFault :=
  if t.rows.any fun v => v.id == u.id then .taken "users" "id" else .taken "users" "api_token"

/-- Adds a row that clashes with none. -/
def Users.add (t : Users) (u : UserRow) : Except Failure Users :=
  if h : t.Admits u then .ok (t.insert u h) else .error (t.fault u).toFailure

/-! ### Statements -/

namespace Database

/-- The table of the sites, if it has been created. -/
def sitesTable (db : Database) : Except Failure Sites :=
  match db.sites with
  | none => .error (missingTable "sites")
  | some t => .ok t

/-- The table of the users, if it has been created. -/
def usersTable (db : Database) : Except Failure Users :=
  match db.users with
  | none => .error (missingTable "users")
  | some t => .ok t

/-- Inserts a site; null cells take their defaults. -/
def addSite (db : Database) (cells : List SiteCell) : Except Failure (SiteRow × Database) := do
  let t ← db.sitesTable
  if !cells.all SiteCell.fits then throw beyondColumn
  let written := cells.filter fun c => !c.isBlank
  let row ← (written.foldl SiteDraft.write .initial).toRow t.nextId
  let t ← t.add row
  return (row, { db with sites := some t })

/-- Gives the count of the rows changed. -/
def updateSite (db : Database) (id : Int) (cells : List SiteCell) :
    Except Failure (Nat × Database) := do
  let t ← db.sitesTable
  if cells.isEmpty then throw emptyStatement
  if !(fitsColumn id && cells.all SiteCell.fits) then throw beyondColumn
  match t.find? id with
  | none => return (0, db)
  | some old =>
    let draft := cells.foldl SiteDraft.write (.ofRow old)
    if draft.id.isNone then throw ConstraintFault.blankId.toFailure
    let row ← draft.toRow old.id
    let t ← Sites.add (t.erase id) row
    return (1, { db with sites := some t })

/-- Deletes a site, and tells how many rows that were. -/
def deleteSite (db : Database) (id : Int) : Except Failure (Nat × Database) := do
  let t ← db.sitesTable
  if !fitsColumn id then throw beyondColumn
  match t.find? id with
  | none => return (0, db)
  | some _ => return (1, { db with sites := some (t.erase id) })

/-- Inserts a user; null cells take their defaults. -/
def addUser (db : Database) (cells : List UserCell) : Except Failure (UserRow × Database) := do
  let t ← db.usersTable
  if !cells.all UserCell.fits then throw beyondColumn
  let written := cells.filter fun c => !c.isBlank
  let row ← (written.foldl UserDraft.write .initial).toRow t.nextId
  let t ← t.add row
  return (row, { db with users := some t })

/-- Changes a user, and tells how many rows that were. -/
def updateUser (db : Database) (id : Int) (cells : List UserCell) :
    Except Failure (Nat × Database) := do
  let t ← db.usersTable
  if cells.isEmpty then throw emptyStatement
  if !(fitsColumn id && cells.all UserCell.fits) then throw beyondColumn
  match t.find? id with
  | none => return (0, db)
  | some old =>
    let draft := cells.foldl UserDraft.write (.ofRow old)
    if draft.id.isNone then throw ConstraintFault.blankId.toFailure
    let row ← draft.toRow old.id
    let t ← Users.add (t.erase id) row
    return (1, { db with users := some t })

/-- Deletes a user, and tells how many rows that were. -/
def deleteUser (db : Database) (id : Int) : Except Failure (Nat × Database) := do
  let t ← db.usersTable
  if !fitsColumn id then throw beyondColumn
  match t.find? id with
  | none => return (0, db)
  | some _ => return (1, { db with users := some (t.erase id) })

/-- Drops a table that must be there. -/
def dropNamed (db : Database) (t : TableName) : Except Failure Database :=
  if t.isIn "sites" then db.sitesTable.map fun _ => { db with sites := none }
  else if t.isIn "users" then db.usersTable.map fun _ => { db with users := none }
  else .error (missingTable t.name)

/-- Drops the table that a statement names. Only one statement runs at a time. -/
def drop (db : Database) (target : String) : Except Failure Database := do
  let ifExists := TableName.afterIfExists target.toList
  match TableName.read? (ifExists.getD target.toList) with
  | none => throw emptyStatement
  | some (t, followed) =>
    let dropped ←
      if ifExists.isSome then pure ((db.dropNamed t).toOption.getD db) else db.dropNamed t
    if followed then throw .severalStatements
    return dropped

/-- Drops tables one after the other, up to the first that is not there. Those dropped before stay
dropped. -/
def dropAll (db : Database) : List String → Database × Option Failure
  | [] => (db, none)
  | target :: rest =>
    match db.drop target with
    | .ok db => db.dropAll rest
    | .error f => (db, some f)

end Database

end Gatehouse
