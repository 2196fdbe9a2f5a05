import Mathlib.Data.List.Nodup
import Gatehouse.Gateway.DevSession
import Gatehouse.Proofs.Json.Overlong

/-! # Who is named

The body of a development sign-in names a user by an id. A body that is the text of an object with
an integer for the id is read, unless the integer is too long (`Names.cases`); what is refused is
answered for what is wrong with it, or breaks the request down (`Refusal.respond_ok`,
`Refusal.respond_error`). -/

namespace Gatehouse.DevSession

open Text

/-! ### Bodies that are written -/

/-- The body is the text of a value, and announced as JSON. -/
structure Writes (r : Request) (layout : Json.Layout) (v : Json) : Prop where
  announced : ((r.header? "content-type").map isJsonType).getD false = true
  body : r.body = v.write layout

section

variable {r : Request} {layout : Json.Layout} {members : List (String × Json)}

/-- The text of an object is read as the bytes of a document. -/
theorem document_of_writes (h : Writes r layout (.object members)) :
    document r = match Json.readDocument (utf8 (Json.writeChars layout (.object members))) with
      | .ok v => .ok v
      | .error (.malformed flaw position) =>
        .error (fault [.index position] (.invalidJson flaw.message) (.object []))
      | .error _ => .error .unreadable := by
  have hbody : r.body.toList = Json.writeChars layout (.object members) := by
    rw [h.body, Json.write, String.toList_ofList]
  have hfull : r.body.isEmpty = false := by
    rw [Bool.eq_false_iff]
    intro hempty
    rw [String.isEmpty_iff] at hempty
    rw [hempty] at hbody
    cases members <;> rw [Json.writeChars] at hbody <;> cases hbody
  unfold document
  rw [if_neg (by simp [hfull]), h.announced, hbody]
  rfl

theorem document_of_legible (h : Writes r layout (.object members)) (hl : layout.Blank)
    (ha : layout.asciiOnly = true) (hlegible : Json.Legible Json.maxDepth (.object members)) :
    document r = .ok (.object members) := by
  rw [document_of_writes h, Json.readDocument_write hl ha hlegible]

theorem document_of_overlong (h : Writes r layout (.object members)) (hl : layout.Blank)
    (ha : layout.asciiOnly = true)
    (hwritten : ∀ m ∈ members, Json.Written (Json.maxDepth - 1) m.2)
    (hover : ∃ m ∈ members, Json.Overlong m.2) : document r = .error .unreadable := by
  obtain ⟨digits, hread⟩ := Json.readDocument_overlong hl ha hwritten hover
  rw [document_of_writes h, hread]

theorem lookup_of_mem {name : String} {v : Json} (hnames : (members.map Prod.fst).Nodup)
    (h : (name, v) ∈ members) : Json.lookup name members = some v := by
  have hfind : members.reverse.find? (fun m => m.1 == name) = some (name, v) := by
    obtain ⟨m, hm⟩ : ∃ m, members.reverse.find? (fun m => m.1 == name) = some m :=
      Option.isSome_iff_exists.1 (List.find?_isSome.2 ⟨_, List.mem_reverse.2 h, by simp⟩)
    have hmem := List.mem_reverse.1 (List.mem_of_find?_eq_some hm)
    have hname : m.1 = name := by simpa using List.find?_some hm
    rw [hm, List.inj_on_of_nodup_map hnames hmem h hname]
  rw [Json.lookup, hfind]
  rfl

end

/-! ### Users that are named -/

/-- The body is the text of an object with the id of a user, which may be too long, as an
integer. -/
structure WritesUser (r : Request) (layout : Json.Layout) (members : List (String × Json))
    (n : Int) : Prop where
  writes : Writes r layout (.object members)
  blank : layout.Blank
  ascii : layout.asciiOnly = true
  names : (members.map Prod.fst).Nodup
  mem : (userField, .int n) ∈ members
  others : ∀ m ∈ members, m.1 ≠ userField → Json.Legible (Json.maxDepth - 1) m.2

namespace WritesUser

variable {r : Request} {layout : Json.Layout} {members : List (String × Json)} {n : Int}
  (h : WritesUser r layout members n)

include h

theorem of_mem {m : String × Json} (hm : m ∈ members) :
    m.2 = .int n ∨ Json.Legible (Json.maxDepth - 1) m.2 := by
  by_cases hname : m.1 = userField
  · exact .inl (congrArg Prod.snd (List.inj_on_of_nodup_map h.names hm h.mem hname))
  · exact .inr (h.others m hm hname)

theorem readUserId_of_fits (hone : 1 ≤ n) (hfits : IntegerLiteral.Fits n) :
    readUserId r = .ok n := by
  have hlegible : Json.Legible Json.maxDepth (.object members) := by
    refine .object h.names fun m hm => ?_
    rcases h.of_mem hm with hid | hother
    · rw [hid]
      exact .int hfits
    · exact hother
  have hcheck : checkId (.int n) = .ok n := by
    unfold checkId
    dsimp only [Lenient.int]
    exact if_pos hone
  unfold readUserId
  rw [document_of_legible h.writes h.blank h.ascii hlegible]
  show userIdOf (.object members) = _
  unfold userIdOf
  dsimp only
  rw [lookup_of_mem h.names h.mem]
  dsimp only
  rw [hcheck]

theorem readUserId_of_overlong (hlong : ¬IntegerLiteral.Fits n) :
    readUserId r = .error .unreadable := by
  have hover : Json.Overlong (.int n) := ⟨n, rfl, hlong⟩
  have hwritten : ∀ m ∈ members, Json.Written (Json.maxDepth - 1) m.2 := by
    intro m hm
    rcases h.of_mem hm with hid | hother
    · rw [hid]
      exact .inr hover
    · exact .inl hother
  unfold readUserId
  rw [document_of_overlong h.writes h.blank h.ascii hwritten ⟨_, h.mem, hover⟩]
  rfl

end WritesUser

/-- How a body names a user. -/
inductive Names (r : Request) (n : Int) : Prop
  /-- The id is read from the body, be it a number or a text. -/
  | read (h : readUserId r = .ok n)
  /-- The id stands in the body, be it read or not. -/
  | written {layout : Json.Layout} {members : List (String × Json)}
    (h : WritesUser r layout members n)

/-- **An id that is not too long is read.** One that is too long makes the body unreadable. -/
theorem Names.cases {r : Request} {n : Int} (h : Names r n) (hone : 1 ≤ n) :
    readUserId r = .ok n ∨
      (¬IntegerLiteral.Fits n ∧ readUserId r = .error .unreadable) := by
  cases h with
  | read h => exact .inl h
  | written h =>
    by_cases hfits : IntegerLiteral.Fits n
    · exact .inl (h.readUserId_of_fits hone hfits)
    · exact .inr ⟨hfits, h.readUserId_of_overlong hfits⟩

/-! ### Bodies that are refused -/

section

variable {refusal : Refusal} {answer : Response} {f : Failure}

/-- A refusal that can be answered says what is wrong with the body. -/
theorem Refusal.respond_ok (h : refusal.respond = .ok answer) :
    ∃ status body, answer = Response.json status body ∧ (status = 422 ∨ status = 400) := by
  unfold Refusal.respond at h
  split at h
  · split at h
    · cases h
    · split at h
      · cases h
      · exact ⟨422, _, (Except.ok.inj h).symm, .inl rfl⟩
  · exact ⟨400, _, (Except.ok.inj h).symm, .inr rfl⟩

/-- One that cannot be answered breaks the request down. -/
theorem Refusal.respond_error (h : refusal.respond = .error f) :
    f = .notCompliant ∨ f = .unencodable := by
  unfold Refusal.respond at h
  split at h
  · split at h
    · exact .inl (Except.error.inj h).symm
    · split at h
      · exact .inr (Except.error.inj h).symm
      · cases h
  · cases h

end

end Gatehouse.DevSession
