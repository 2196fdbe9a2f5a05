import Gatehouse.Proofs.Json.Overlong
import Gatehouse.Proofs.Time.Rfc3339
import Gatehouse.Proofs.Time.Spelling
import Gatehouse.Status

/-! # What the status probe tells

A version is written as JSON unless something in it cannot be, at whatever depth, and then the
first such thing is named (`Version.stopsAtFirst_toJson`). Main statement: the answer of the probe
is a document that reads back as the uptime, the version and the time of the last persistence run,
or else the reason why there is none as plain text (`Status.truthful_or_plain`). -/

namespace Gatehouse

open Text

namespace Version

mutual

/-- What is in a version that cannot be written, in the order of the document. -/
def faults : Version → List Unwritable
  | json v => if v.hasOverlong then [.overlong] else []
  | list items => itemsFaults items
  | object members => membersFaults members
  | unwritable reason => [reason]

def itemsFaults : List Version → List Unwritable
  | [] => []
  | v :: rest => v.faults ++ itemsFaults rest

def membersFaults : List (String × Version) → List Unwritable
  | [] => []
  | (_, v) :: rest => v.faults ++ membersFaults rest

end

/-- There is a result if there is no fault, and else the first fault. -/
def StopsAtFirst {α : Type} (faults : List Unwritable) : Except Unwritable α → Prop
  | .ok _ => faults = []
  | .error reason => faults.head? = some reason

namespace StopsAtFirst

variable {α β γ : Type} {fs gs : List Unwritable} {x : Except Unwritable α}
  {y : Except Unwritable β}

theorem map (f : α → γ) (h : StopsAtFirst fs x) : StopsAtFirst fs (x.map f) := by
  cases x <;> exact h

theorem both (hx : StopsAtFirst fs x) (hy : StopsAtFirst gs y) (f : α → β → γ) :
    StopsAtFirst (fs ++ gs) (do return f (← x) (← y)) := by
  cases x with
  | error reason =>
    show (fs ++ gs).head? = some reason
    rw [List.head?_append, hx]
    rfl
  | ok a =>
    rw [show fs = [] from hx, List.nil_append]
    cases y <;> exact hy

theorem of_nil (h : StopsAtFirst fs x) (hnil : fs = []) : ∃ a, x = .ok a := by
  cases x with
  | ok a => exact ⟨a, rfl⟩
  | error r =>
    have hhead : fs.head? = some r := h
    rw [hnil] at hhead
    cases hhead

theorem of_head? {reason : Unwritable} (h : StopsAtFirst fs x) (hhead : fs.head? = some reason) :
    x = .error reason := by
  cases x with
  | ok a =>
    rw [show fs = [] from h] at hhead
    cases hhead
  | error r =>
    rw [show fs.head? = some r from h] at hhead
    rw [Option.some.inj hhead]

end StopsAtFirst

mutual

theorem stopsAtFirst_toJson : (v : Version) → StopsAtFirst v.faults v.toJson
  | json v => by
    rw [faults, toJson]
    cases v.hasOverlong <;> rfl
  | list items => by
    rw [faults, toJson]
    exact (stopsAtFirst_itemsToJson items).map _
  | object members => by
    rw [faults, toJson]
    exact (stopsAtFirst_membersToJson members).map _
  | unwritable _ => by
    rw [faults, toJson]
    rfl

theorem stopsAtFirst_itemsToJson : (items : List Version) →
    StopsAtFirst (itemsFaults items) (itemsToJson items)
  | [] => by
    rw [itemsFaults, itemsToJson]
    rfl
  | v :: rest => by
    rw [itemsFaults, itemsToJson]
    exact (stopsAtFirst_toJson v).both (stopsAtFirst_itemsToJson rest) _

theorem stopsAtFirst_membersToJson : (members : List (String × Version)) →
    StopsAtFirst (membersFaults members) (membersToJson members)
  | [] => by
    rw [membersFaults, membersToJson]
    rfl
  | (_, v) :: rest => by
    rw [membersFaults, membersToJson]
    exact (stopsAtFirst_toJson v).both (stopsAtFirst_membersToJson rest) _

end

/-! ### Versions of JSON -/

/-- A version of which every part is JSON that reads back, with so many levels of nesting. -/
inductive Legible : Nat → Version → Prop
  | json {levels : Nat} {v : Json} (h : Json.Legible levels v) : Legible levels (.json v)
  | list {levels : Nat} {items : List Version} (h : ∀ v ∈ items, Legible levels v) :
    Legible (levels + 1) (.list items)
  | object {levels : Nat} {members : List (String × Version)}
    (names : (members.map Prod.fst).Nodup) (h : ∀ m ∈ members, Legible levels m.2) :
    Legible (levels + 1) (.object members)

/-- The version is written as a value that reads back. -/
def WrittenLegibly (levels : Nat) (version : Version) : Prop :=
  ∃ v, version.toJson = .ok v ∧ Json.Legible levels v

theorem itemsToJson_legible {levels : Nat} {items : List Version}
    (h : ∀ v ∈ items, WrittenLegibly levels v) :
    ∃ vs, itemsToJson items = .ok vs ∧ ∀ v ∈ vs, Json.Legible levels v := by
  induction items with
  | nil =>
    rw [itemsToJson]
    exact ⟨[], rfl, by simp⟩
  | cons item rest ih =>
    obtain ⟨⟨v, hv, hlegible⟩, hrest⟩ := List.forall_mem_cons.1 h
    obtain ⟨vs, hvs, hlegibles⟩ := ih hrest
    rw [itemsToJson, hv, hvs]
    exact ⟨v :: vs, rfl, List.forall_mem_cons.2 ⟨hlegible, hlegibles⟩⟩

theorem membersToJson_legible {levels : Nat} {members : List (String × Version)}
    (h : ∀ m ∈ members, WrittenLegibly levels m.2) :
    ∃ ms, membersToJson members = .ok ms ∧ ms.map Prod.fst = members.map Prod.fst ∧
      ∀ m ∈ ms, Json.Legible levels m.2 := by
  induction members with
  | nil =>
    rw [membersToJson]
    exact ⟨[], rfl, rfl, by simp⟩
  | cons member rest ih =>
    obtain ⟨name, item⟩ := member
    obtain ⟨⟨v, hv, hlegible⟩, hrest⟩ := List.forall_mem_cons.1 h
    obtain ⟨ms, hms, hnames, hlegibles⟩ := ih hrest
    rw [membersToJson, hv, hms]
    exact ⟨(name, v) :: ms, rfl, by simp [hnames], List.forall_mem_cons.2 ⟨hlegible, hlegibles⟩⟩

theorem writtenLegibly {levels : Nat} {version : Version} (h : Legible levels version) :
    WrittenLegibly levels version := by
  induction h with
  | json h =>
    refine ⟨_, ?_, h⟩
    rw [toJson, h.hasOverlong]
    rfl
  | list _ ih =>
    obtain ⟨vs, hvs, hlegible⟩ := itemsToJson_legible ih
    refine ⟨.list vs, ?_, .list hlegible⟩
    rw [toJson, hvs]
    rfl
  | object names _ ih =>
    obtain ⟨ms, hms, hnames, hlegible⟩ := membersToJson_legible ih
    refine ⟨.object ms, ?_, .object (hnames ▸ names) hlegible⟩
    rw [toJson, hms]
    rfl

end Version

namespace ProcessClock

variable {clock : ProcessClock}

/-- The readings can be compared. -/
def Comparable (clock : ProcessClock) : Prop :=
  clock.oneZone = true ∨ clock.now.offsetKnown = clock.started.offsetKnown

/-- Microseconds between the readings: what the clocks show counts as it stands if both follow the
rules of one zone. -/
def elapsed (clock : ProcessClock) : Int :=
  if clock.oneZone then clock.now.civil.micros - clock.started.civil.micros
  else clock.now.instant - clock.started.instant

theorem uptime_of_comparable (h : clock.Comparable) : clock.uptime = .ok ⟨clock.elapsed⟩ := by
  unfold uptime elapsed Timestamp.since?
  cases hzone : clock.oneZone with
  | true => rfl
  | false =>
    have hknown := h.resolve_left (by rw [hzone]; decide)
    simp only [Bool.false_eq_true, if_false, hknown, if_true]

theorem uptime_of_mixed (hzone : clock.oneZone = false)
    (h : clock.now.offsetKnown ≠ clock.started.offsetKnown) :
    clock.uptime = .error mixedOffsets := by
  unfold uptime Timestamp.since?
  simp only [hzone, Bool.false_eq_true, if_false, h]

/-- The time between the instants, unless one zone has had two offsets. -/
theorem elapsed_eq (h : clock.oneZone = false ∨ clock.now.offset = clock.started.offset) :
    clock.elapsed = clock.now.instant - clock.started.instant := by
  unfold elapsed
  split
  · rename_i hzone
    have hoffset := h.resolve_left (by rw [hzone]; decide)
    unfold Timestamp.instant
    rw [hoffset]
    omega
  · rfl

theorem elapsed_of_oneZone (h : clock.oneZone = true) :
    clock.elapsed = clock.now.civil.micros - clock.started.civil.micros := by
  unfold elapsed
  rw [if_pos h]

end ProcessClock

namespace Status

/-- A body that reads back as what the probe is asked for, so many microseconds after the start. -/
structure Reports (elapsed : Int) (version : Json) (marker : Marker) (body : String) : Prop where
  ascii : Ascii body.toList
  document : ∃ uptime persisted : String,
    Json.readDocument (utf8 body.toList) = .ok (.object
      [("uptime", .text uptime), ("version", version), ("last_persisted_at", .text persisted)]) ∧
    (∃ s, Duration.Spelling.read uptime.toList = some s ∧ s.seconds = elapsed / 1000000) ∧
    ∃ s, Rfc3339.Stamp.read persisted.toList = some s ∧ s.Tells marker.value

theorem legible_document {levels : Nat} {v : Json} (h : Json.Legible levels v) (uptime : Duration)
    (marker : Marker) : Json.Legible (levels + 1) (document uptime v marker) := by
  refine .object (by simp) fun m hm => ?_
  simp only [List.mem_cons, List.not_mem_nil, or_false] at hm
  rcases hm with rfl | rfl | rfl
  · exact .text _
  · exact h
  · exact .text _

theorem reports_write {v : Json} (h : Json.Legible (Json.maxDepth - 1) v) (elapsed : Int)
    (marker : Marker) : Reports elapsed v marker ((document ⟨elapsed⟩ v marker).write .spaced) := by
  have hlegible : Json.Legible Json.maxDepth (document ⟨elapsed⟩ v marker) :=
    legible_document h _ marker
  unfold Json.write
  refine ⟨?_, _, _, ?_, ⟨_, Duration.read_write _, Duration.seconds_spelling _⟩,
    _, Rfc3339.read_write marker.value, Rfc3339.tells_stamp marker.value⟩ <;>
    rw [String.toList_ofList]
  · exact Json.ascii_writeChars Json.Layout.blank_spaced rfl hlegible
  · exact Json.readDocument_write Json.Layout.blank_spaced rfl hlegible

theorem reports_of_comparable {clock : ProcessClock} {version : Version}
    (h : clock.Comparable) (hlegible : version.Legible (Json.maxDepth - 1)) (marker : Marker) :
    ∃ v body, version.toJson = .ok v ∧ respond clock version marker = .jsonText 200 body ∧
      Reports clock.elapsed v marker body := by
  obtain ⟨v, hv, hread⟩ := Version.writtenLegibly hlegible
  refine ⟨v, _, hv, ?_, reports_write hread clock.elapsed marker⟩
  unfold respond
  rw [clock.uptime_of_comparable h, hv]

/-- **The probe tells the truth, or says in plain text why it does not.** The uptime is the time
between the instants, except that the readings of a zone that has changed its offset tell what the
clocks show. The reason for plain text is that the readings cannot be compared, or else the first
part of the version that cannot be written. -/
theorem truthful_or_plain (clock : ProcessClock) (version : Version) (marker : Marker) :
    (version.Legible (Json.maxDepth - 1) →
      (clock.now.offsetKnown = clock.started.offsetKnown →
        clock.oneZone = false ∨ clock.now.offset = clock.started.offset →
        ∃ v body, version.toJson = .ok v ∧ respond clock version marker = .jsonText 200 body ∧
          Reports (clock.now.instant - clock.started.instant) v marker body) ∧
      (clock.oneZone = true →
        ∃ v body, version.toJson = .ok v ∧ respond clock version marker = .jsonText 200 body ∧
          Reports (clock.now.civil.micros - clock.started.civil.micros) v marker body)) ∧
    (clock.oneZone = false → clock.now.offsetKnown ≠ clock.started.offsetKnown →
      respond clock version marker =
        .plain 500 "can't subtract offset-naive and offset-aware datetimes") ∧
    (clock.oneZone = true ∨ clock.now.offsetKnown = clock.started.offsetKnown →
      (∀ reason, version.faults.head? = some reason →
        respond clock version marker = .plain 500 reason.message) ∧
      (version.faults = [] → ∃ body, respond clock version marker = .jsonText 200 body)) := by
  refine ⟨fun hlegible => ⟨fun hsame hoffset => ?real, fun hzone => ?shown⟩, fun hzone hmixed => ?_,
    fun hcomparable => ⟨fun reason hreason => ?_, fun hnone => ?_⟩⟩
  case real =>
    rw [← clock.elapsed_eq hoffset]
    exact reports_of_comparable (.inr hsame) hlegible marker
  case shown =>
    rw [← clock.elapsed_of_oneZone hzone]
    exact reports_of_comparable (.inl hzone) hlegible marker
  · unfold respond
    rw [clock.uptime_of_mixed hzone hmixed]
    rfl
  · unfold respond
    rw [clock.uptime_of_comparable hcomparable, version.stopsAtFirst_toJson.of_head? hreason]
  · obtain ⟨v, hv⟩ := version.stopsAtFirst_toJson.of_nil hnone
    unfold respond
    rw [clock.uptime_of_comparable hcomparable, hv]
    exact ⟨_, rfl⟩

/-- Twelve o'clock on a clock that is so many microseconds ahead, if that is known. -/
def noonAt (offset : Option Int) (h : ∀ o ∈ offset, -offsetLimit < o ∧ o < offsetLimit) :
    Timestamp :=
  ⟨⟨2024, 2, 29, 12, 0, 0, 0⟩, offset, by decide, h⟩

/-- From noon on a clock that is an hour ahead until noon in universal time is an hour. A start of
unknown offset, and a set deep in the version, are given as the reason. -/
theorem told_across_zones :
    let utc := noonAt (some 0) (by intro o h; cases h; decide)
    let ahead := noonAt (some 3600000000) (by intro o h; cases h; decide)
    let naive := noonAt none (by intro o h; cases h)
    let version := Version.object [("tags", .list [.json (.text "\u00e9"), .json .null])]
    let faulty := Version.list
      [.json .null, .object [("tags", .unwritable (.foreign "set"))], .unwritable .circular]
    (∃ v body, version.toJson = .ok v ∧
      respond ⟨ahead, utc, false⟩ version .initial = .jsonText 200 body ∧
      Reports 3600000000 v .initial body) ∧
    respond ⟨naive, utc, false⟩ version .initial =
      .plain 500 "can't subtract offset-naive and offset-aware datetimes" ∧
    respond ⟨ahead, utc, false⟩ faulty .initial =
      .plain 500 "Object of type set is not JSON serializable" := by
  intro utc ahead naive version faulty
  have hlegible : version.Legible (Json.maxDepth - 1) := by
    refine .object (by simp) fun m hm => ?_
    rw [List.mem_singleton.1 hm]
    refine .list (List.forall_mem_cons.2 ⟨.json (.text _), ?_⟩)
    exact List.forall_mem_singleton.2 (.json .null)
  have hour : utc.instant - ahead.instant = 3600000000 := by decide
  obtain ⟨htold, -⟩ := (truthful_or_plain ⟨ahead, utc, false⟩ version .initial).1 hlegible
  obtain ⟨-, hmixed, -⟩ := truthful_or_plain ⟨naive, utc, false⟩ version .initial
  obtain ⟨-, -, hplain⟩ := truthful_or_plain ⟨ahead, utc, false⟩ faulty .initial
  rw [← hour]
  exact ⟨htold rfl (.inl rfl), hmixed rfl (by decide), (hplain (.inr rfl)).1 (.foreign "set") rfl⟩

/-- Half past one, five hours behind, and half past three, four hours behind: an hour later, where
the clocks are put forward at two. -/
def springForward : ProcessClock where
  started := ⟨⟨2024, 3, 10, 1, 30, 0, 0⟩, some (-18000000000), by decide, by decide⟩
  now := ⟨⟨2024, 3, 10, 3, 30, 0, 0⟩, some (-14400000000), by decide, by decide⟩
  oneZone := true

/-- Not everything is told as it is: the readings of a zone that has put its clocks forward are two
hours apart after one, and what is not a number is written although the standard has no place for
it. -/
theorem clock_forward_and_no_number :
    springForward.now.instant - springForward.started.instant = 3600000000 ∧
    respond springForward (.json .null) .initial = .jsonText 200
      ("\x7b\"uptime\": \"2h0m0s\", \"version\": null, " ++
        "\"last_persisted_at\": \"0001-01-01T00:00:00Z\"\x7d") ∧
    respond springForward (.json (.float .notANumber)) .initial = .jsonText 200
      ("\x7b\"uptime\": \"2h0m0s\", \"version\": NaN, " ++
        "\"last_persisted_at\": \"0001-01-01T00:00:00Z\"\x7d") := by
  refine ⟨by decide, ?_, ?_⟩ <;> rfl

end Status

end Gatehouse
