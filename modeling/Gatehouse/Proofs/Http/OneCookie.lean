import Gatehouse.Gateway.DevSession
import Gatehouse.Gateway.Exchange

/-! # Requests that differ in one cookie

Two requests are the same but for the cookies of one name (`Request.SameBut`): one of them may have
the cookie and the other not, or each another value. Everything that is read from a request is the
same for both, except for that cookie. -/

namespace Gatehouse

namespace Request

variable {name : String} {r r' : Request}

/-- The pairs of the `Cookie` headers, in order. -/
def pairs (r : Request) : List (String × String) := r.cookies.flatMap Cookie.readHeader

/-- The same request but for the cookies of one name. -/
structure SameBut (name : String) (r r' : Request) : Prop where
  rest : r' = { r with headers := r'.headers }
  headers : (r.headers.filter fun h => h.1 != "cookie") = r'.headers.filter fun h => h.1 != "cookie"
  pairs : (r.pairs.filter fun p => p.1 != name) = r'.pairs.filter fun p => p.1 != name

theorem find?_filter_ne {α : Type} (pairs : List (String × α)) {name other : String}
    (h : other ≠ name) :
    (pairs.filter fun p => p.1 != name).find? (fun p => p.1 == other) =
      pairs.find? fun p => p.1 == other := by
  rw [List.find?_filter]
  congr 1
  funext p
  by_cases hp : p.1 = other
  · simp [hp, h]
  · simp [hp]

namespace SameBut

theorem path (h : SameBut name r r') : r'.path = r.path := by rw [h.rest]

theorem method (h : SameBut name r r') : r'.method = r.method := by rw [h.rest]

theorem header? (h : SameBut name r r') {header : String} (hn : header ≠ "cookie") :
    r'.header? header = r.header? header := by
  unfold Request.header?
  rw [← find?_filter_ne r.headers hn, ← find?_filter_ne r'.headers hn, h.headers]

theorem host? (h : SameBut name r r') : r'.host? = r.host? := h.header? (by decide)

theorem host (h : SameBut name r r') : r'.host = r.host := by
  rw [Request.host, Request.host, h.host?]

theorem bearer? (h : SameBut name r r') : r'.bearer? = r.bearer? := by
  rw [Request.bearer?, Request.bearer?, h.header? (by decide)]

theorem addressPath (h : SameBut name r r') : r'.addressPath = r.addressPath := by
  rw [Request.addressPath, Request.addressPath, h.path]

theorem locationAt (h : SameBut name r r') (path : String) :
    r'.locationAt path = r.locationAt path := by
  have hhost : r'.addressHost = r.addressHost := by
    rw [Request.addressHost, Request.addressHost, h.host?, h.rest]
  have hquery : r'.query = r.query := by rw [h.rest]
  rw [Request.locationAt, Request.locationAt, hhost, hquery]

theorem readUserId (h : SameBut name r r') :
    DevSession.readUserId r' = DevSession.readUserId r := by
  have hbody : r'.body = r.body := by rw [h.rest]
  unfold DevSession.readUserId DevSession.document
  rw [hbody, h.header? (by decide)]

/-- A cookie of another name is the same for both. -/
theorem cookie (h : SameBut name r r') {other : String} (hn : other ≠ name) :
    Cookie.find? r'.cookies other = Cookie.find? r.cookies other := by
  have hfind : ∀ q : Request, Cookie.find? q.cookies other =
      ((q.pairs.filter fun p => p.1 != name).reverse.find? fun p => p.1 == other).map (·.2) := by
    intro q
    rw [← List.filter_reverse, find?_filter_ne _ hn]
    rfl
  rw [hfind, hfind, h.pairs]

theorem requestIdOf (h : SameBut name r r') (c : Circumstances) :
    Exchange.requestIdOf c r' = Exchange.requestIdOf c r := by
  rw [Exchange.requestIdOf, Exchange.requestIdOf, h.header? (by decide)]

theorem context (h : SameBut name r r') (c : Circumstances) :
    Exchange.context c r' = Exchange.context c r := by
  rw [Exchange.context, Exchange.context, h.requestIdOf, h.addressPath, h.method, h.host]

end SameBut

end Request

end Gatehouse
