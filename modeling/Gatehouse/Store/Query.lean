import Gatehouse.Store.Change
import Gatehouse.Text.Search
import Gatehouse.Traced

/-! # Queries

The five questions that the gateway asks its tables. A `Store` is a handle on the tables for one
piece of work: it may be told to explain its queries, and each question may be set up to fail.
An explained query writes its plan before it runs; a question that fails before it has a plan
writes nothing. -/

namespace Gatehouse

/-- What the gateway asks its tables. -/
inductive Question
  | siteByHost
  | activeSites
  | activeCount
  | userOfSite
  | userByToken
  deriving DecidableEq, Repr

namespace Sites

/-- The start of a statement about sites. -/
def siteColumns : String :=
  "SELECT sites.id, sites.parent, sites.code, sites.cname, sites.public, sites.admin, " ++
  "sites.state, sites.created_at \nFROM sites \nWHERE "

/-- The sites that are not deleted. -/
def active (t : Sites) : List SiteRow := t.rows.filter fun r => r.state = .active

/-- The code that a host name addresses: what stands in front of the domain, if that is the end
of it and something does. -/
def codeOfHost? (host domain : String) : Option String :=
  let suffix := '.' :: domain.toList
  let cs := host.toList
  let n := cs.length - suffix.length
  if domain.isEmpty || cs.length ≤ suffix.length || cs.drop n != suffix then none
  else some (String.ofList (cs.take n))

/-- The active site at a host: the one with that host name of its own, else the one whose code
the host addresses. -/
def byHost (t : Sites) (host domain : String) : Option SiteRow :=
  match t.active.find? fun r => r.cname == some host with
  | some r => some r
  | none => (codeOfHost? host domain).bind fun code => t.active.find? fun r => r.code == code

end Sites

namespace Users

/-- The start of a statement about users. -/
def userColumns : String :=
  "SELECT users.id, users.site_id, users.email, users.api_token, users.created_at \n" ++
  "FROM users \nWHERE "

/-- The user with that id on that site. -/
def ofSite (t : Users) (userId siteId : Int) : Option UserRow :=
  t.rows.find? fun u => u.id == userId && u.siteId == siteId

/-- The user of that site with that API token. -/
def byToken (t : Users) (token : String) (siteId : Int) : Option UserRow :=
  t.rows.find? fun u => u.apiToken == some token && u.siteId == siteId

end Users

/-! ### Handles -/

/-- A handle on the tables. -/
structure Store where
  database : Database
  /-- How a question fails, if it is set up to. -/
  faults : Question → Option Failure
  /-- The plan that the database makes for a statement. -/
  plan : String → List (List String)
  /-- The text that a statement must contain to be explained, if any is. -/
  explain : Option String

namespace Store

/-- The same handle without explanations. -/
def plain (st : Store) : Store := { st with explain := none }

/-- Whether a statement is explained. -/
def explains (st : Store) (sql : String) : Bool :=
  match st.explain with
  | none => false
  | some part => Text.occursIn part.toList sql.toList

/-- Asks a question by a statement. `table` is the table that it reads, `bounds` the integers that
are bound to the statement; both are looked at before there is a plan. -/
def ask (st : Store) (q : Question) (sql : String) (table : Except Failure τ)
    (bounds : List Int) (answer : τ → α) : Traced α :=
  match st.faults q with
  | some f => .fail f
  | none =>
    match table with
    | .error f => .fail f
    | .ok t =>
      if !bounds.all fitsColumn then .fail beyondColumn
      else if st.explains sql then ⟨.ok (answer t), [.explained ⟨sql, st.plan sql⟩]⟩
      else .succeed (answer t)

/-- A host under the domain is looked for by both columns. -/
def hostStatement (byCode : Bool) : String :=
  Sites.siteColumns ++
    if byCode then "(sites.cname = ? OR sites.code = ?) AND sites.state = ?\n LIMIT ? OFFSET ?"
    else "sites.cname = ? AND sites.state = ?\n LIMIT ? OFFSET ?"

/-- The active site at a host. -/
def siteByHost (st : Store) (host domain : String) : Traced (Option SiteRow) :=
  st.ask .siteByHost (hostStatement (Sites.codeOfHost? host domain).isSome)
    st.database.sitesTable [] fun t => t.byHost host domain

/-- The active sites, in the order of their ids. -/
def activeSites (st : Store) : Traced (List SiteRow) :=
  st.ask .activeSites (Sites.siteColumns ++ "sites.state = ? ORDER BY sites.id")
    st.database.sitesTable [] Sites.active

/-- How many sites are active. -/
def activeCount (st : Store) : Traced Nat :=
  st.ask .activeCount "SELECT count(*) AS count_1 \nFROM sites \nWHERE sites.state = ?"
    st.database.sitesTable [] fun t => t.active.length

/-- The user with that id, if the site has one. -/
def userOfSite (st : Store) (userId siteId : Int) : Traced (Option UserRow) :=
  st.ask .userOfSite (Users.userColumns ++ "users.id = ? AND users.site_id = ?")
    st.database.usersTable [userId, siteId] fun t => t.ofSite userId siteId

/-- The user with that API token, if the site has one. -/
def userByToken (st : Store) (token : String) (siteId : Int) : Traced (Option UserRow) :=
  st.ask .userByToken (Users.userColumns ++ "users.api_token = ? AND users.site_id = ?")
    st.database.usersTable [siteId] fun t => t.byToken token siteId

end Store

end Gatehouse
