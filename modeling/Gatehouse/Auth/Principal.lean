import Gatehouse.Store.Row
import Gatehouse.Text.Shown

/-! # Principals

Who is asking. Only a positive id is signed in. The API token is never shown. -/

namespace Gatehouse

/-- Who is asking. -/
structure Principal where
  id : Int
  siteId : Int
  email : String
  apiToken : Option String
  deriving DecidableEq, Repr

namespace Principal

/-- The principal of a user. -/
def ofRow (u : UserRow) : Principal := ⟨u.id, u.siteId, u.email, u.apiToken⟩

/-- Whether the id counts as that of somebody. -/
def isAuthenticated (p : Principal) : Bool := decide (0 < p.id)

def fieldNames : List String := ["id", "site_id", "email", "api_token"]

/-- A principal as a record, without its API token. -/
def shown (p : Principal) : String :=
  Shown.record "Principal"
    [("id", Shown.int p.id), ("site_id", Shown.int p.siteId), ("email", Quoted.literal p.email)]

end Principal

end Gatehouse
