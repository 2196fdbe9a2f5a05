import Gatehouse.Proofs.Gateway.SiteStage
import Gatehouse.Proofs.Json.Bytes
import Gatehouse.Proofs.Text.Quoted

/-! # What the answer to an unknown host tells

A host without a site is named in the detail of the answer, as a quoted literal, and the detail is
written as JSON. Both escapings are undone one after the other: the bytes of the body read back as
a document with the detail alone, and the literal between its parentheses reads back as the host
(`exposes_detail`). Main statement: the answer names exactly that host, so no two hosts have one
body (`unknown_host_exposed`). -/

namespace Gatehouse

open Text

namespace Response

/-- The detail of an answer to an unknown host. -/
structure Tells (detail host : String) : Prop where
  /-- What is between the parentheses is a literal that stands for the host. -/
  quotes : ∃ inside, detail = "no site at this domain (" ++ inside ++ ")" ∧
    Quoted.read inside = some host
  controlless : ∀ c ∈ detail.toList, isControl c.toNat = false

/-- The body is a document with nothing but a detail that tells the host. -/
def Exposes (r : Response) (host : String) : Prop :=
  ∃ detail, Json.readDocument (utf8 r.body.toList) = .ok (.object [("detail", .text detail)]) ∧
    Tells detail host

theorem Tells.unique {detail host other : String} (h : Tells detail host)
    (h' : Tells detail other) : host = other := by
  obtain ⟨inside, hinside, hread⟩ := h.quotes
  obtain ⟨inside', hinside', hread'⟩ := h'.quotes
  obtain rfl : inside = inside' := by
    rw [hinside, String.append_left_inj, String.append_right_inj] at hinside'
    exact hinside'
  exact Option.some.inj (hread.symm.trans hread')

theorem Exposes.unique {r r' : Response} {host other : String} (h : r.Exposes host)
    (h' : r'.Exposes other) (hbody : r.body = r'.body) : host = other := by
  obtain ⟨detail, hread, htells⟩ := h
  obtain ⟨detail', hread', htells'⟩ := h'
  rw [hbody, hread'] at hread
  obtain rfl : detail' = detail := by simpa using hread
  exact htells.unique htells'

theorem legible_detail (message : String) :
    Json.Legible Json.maxDepth (.object [("detail", .text message)]) :=
  .object (List.nodup_singleton _) (List.forall_mem_singleton.2 (.text message))

theorem readDocument_detail (status : Nat) (message : String) :
    Json.readDocument (utf8 (detail status message).body.toList) =
      .ok (.object [("detail", .text message)]) := by
  show Json.readDocument (utf8 (Json.write .compactRaw _).toList) = _
  rw [Json.write, String.toList_ofList]
  exact Json.readDocument_write_object Json.Layout.blank_compactRaw (legible_detail message)

theorem tells_literal (host : String) :
    Tells ("no site at this domain (" ++ Quoted.literal host ++ ")") host := by
  refine ⟨⟨_, rfl, Quoted.read_literal host⟩, fun c hc => isControl_of_isPrintable ?_⟩
  -- The two pieces around the literal are plain text of ASCII.
  rw [String.toList_append, String.toList_append, List.mem_append, List.mem_append] at hc
  rcases hc with (hc | hc) | hc
  · have hall : "no site at this domain (".toList.all (fun c => isPrintable c.toNat) = true := by
      decide
    exact List.all_eq_true.1 hall c hc
  · rw [Quoted.literal, String.toList_ofList] at hc
    exact Quoted.isPrintable_write host.toList c hc
  · obtain rfl : c = ')' := by simpa using hc
    rfl

/-- The answer that names a host exposes it. -/
theorem exposes_detail (host : String) :
    (detail 400 ("no site at this domain (" ++ Quoted.literal host ++ ")")).Exposes host :=
  ⟨_, readDocument_detail 400 _, tells_literal host⟩

end Response

namespace GatewayError

/-- **The answer to an unknown host exposes exactly that host**, whatever it holds: the host is got
back from the body, and another host has another body. -/
theorem unknown_host_exposed (host flashCookie : String) :
    ∃ r, (siteNotFound host).render flashCookie = .ok r ∧ r.status = 400 ∧ r.Exposes host ∧
      ∀ other otherCookie r', other ≠ host →
        (siteNotFound other).render otherCookie = .ok r' → r'.body ≠ r.body := by
  refine ⟨_, render_siteNotFound host flashCookie, rfl, Response.exposes_detail host, ?_⟩
  intro other otherCookie r' hother hrender hbody
  rw [render_siteNotFound] at hrender
  obtain rfl := Except.ok.inj hrender
  exact hother ((Response.exposes_detail other).unique (Response.exposes_detail host) hbody)

/-- A host with both quotation marks that ends like the detail, and the host that is spelled as its
escaped form. -/
theorem closing_text_told_apart :
    ∃ r r', (siteNotFound "\"it's')").render "flash" = .ok r ∧ r.Exposes "\"it's')" ∧
      (siteNotFound "\"it\\'s\\')").render "flash" = .ok r' ∧ r'.Exposes "\"it\\'s\\')" ∧
      r'.body ≠ r.body := by
  obtain ⟨r, hr, -, hexposes, apart⟩ := unknown_host_exposed "\"it's')" "flash"
  obtain ⟨r', hr', -, hexposes', -⟩ := unknown_host_exposed "\"it\\'s\\')" "flash"
  exact ⟨r, r', hr, hexposes, hr', hexposes', apart _ "flash" r' (by decide) hr'⟩

example : ((siteNotFound "\"it's')").render "flash").toOption.map Response.body =
    some "\x7b\"detail\":\"no site at this domain ('\\\"it\\\\'s\\\\')')\"\x7d" := by
  decide

end GatewayError

end Gatehouse
