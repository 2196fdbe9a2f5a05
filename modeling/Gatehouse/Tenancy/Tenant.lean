import Gatehouse.Store.Row
import Gatehouse.Text.Shown

/-! # Tenants

What a request knows of the site that it is for. A parent other than 0 makes it a child site. -/

namespace Gatehouse

/-- A site as requests know it. -/
structure Tenant where
  id : Int
  code : String
  cname : Option String
  parent : Option Int
  isPublic : Bool
  isAdmin : Bool
  deriving DecidableEq, Repr

namespace Tenant

def ofRow (r : SiteRow) : Tenant :=
  ⟨r.id, r.code, r.cname, r.parent, r.isPublic, r.isAdmin⟩

/-- Whether a site has a parent; the id 0 counts for none. -/
def isChild (t : Tenant) : Bool := t.parent.getD 0 != 0

/-- The fields by the names that they are shown under. -/
def shownFields (t : Tenant) : List (String × String) :=
  [("id", Shown.int t.id), ("code", Quoted.literal t.code), ("cname", Shown.text? t.cname),
    ("parent", Shown.int? t.parent), ("public", Shown.bool t.isPublic),
    ("admin", Shown.bool t.isAdmin)]

def shown (t : Tenant) : String := Shown.record "Tenant" t.shownFields

end Tenant

end Gatehouse
