import Gatehouse.Proofs.Text.Numeral
import Gatehouse.Time.Rfc3339

/-! # Timestamps read back

A `Stamp` is what a text says that RFC 3339 calls a `date-time`: the fields of a date and of a time
of day, places of a second if there are any, and the zone as `Z` or in hours and minutes.
`Stamp.read` reads every such text, with letters of either case, and refuses fields out of range.

A stamp in range reads back from its text (`Stamp.read_chars`), and the text of a timestamp is that
of a stamp with its fields (`chars_stamp`). Main statement: what is read back from the text of a
timestamp are its fields, and its offset as far as it is made up of whole minutes
(`told_faithfully`). -/

namespace Gatehouse

open Text

theorem Calendar.daysInMonth_le (year month : Nat) : daysInMonth year month ≤ 31 := by
  unfold daysInMonth
  split <;> first | decide | (split <;> decide)

namespace Rfc3339

inductive Zone
  | utc
  | numeric (behind : Bool) (hours minutes : Nat)
  deriving DecidableEq, Repr

namespace Zone

/-- How many minutes the zone is ahead of universal time. -/
def ahead : Zone → Int
  | utc => 0
  | numeric behind hours minutes =>
    (if behind then -1 else 1) * ((60 * hours + minutes : Nat) : Int)

def InRange : Zone → Prop
  | utc => True
  | numeric _ hours minutes => hours ≤ 23 ∧ minutes ≤ 59

instance : DecidablePred InRange
  | utc => inferInstanceAs (Decidable True)
  | numeric _ _ _ => inferInstanceAs (Decidable (_ ∧ _))

def chars : Zone → List Char
  | utc => ['Z']
  | numeric behind hours minutes =>
    (if behind then '-' else '+') :: (fixedDigits 2 hours ++ ':' :: fixedDigits 2 minutes)

end Zone

structure Stamp where
  year : Nat
  month : Nat
  day : Nat
  hour : Nat
  minute : Nat
  second : Nat
  /-- The digits after the point, if there is one. -/
  places : List Char
  zone : Zone

namespace Stamp

/-- The last second of a day may be a sixtieth one. -/
def InRange (s : Stamp) : Prop :=
  (1 ≤ s.month ∧ s.month ≤ 12) ∧ (1 ≤ s.day ∧ s.day ≤ Calendar.daysInMonth s.year s.month) ∧
    s.hour ≤ 23 ∧ s.minute ≤ 59 ∧ s.second ≤ 60 ∧ s.zone.InRange

instance (s : Stamp) : Decidable s.InRange := inferInstanceAs (Decidable (_ ∧ _))

def chars (s : Stamp) : List Char :=
  fixedDigits 4 s.year ++ '-' :: fixedDigits 2 s.month ++ '-' :: fixedDigits 2 s.day ++
    'T' :: fixedDigits 2 s.hour ++ ':' :: fixedDigits 2 s.minute ++ ':' :: fixedDigits 2 s.second ++
    placesChars s.places ++ s.zone.chars

/-- Seconds since the start of 1970 in universal time. -/
def instant (s : Stamp) : Rat :=
  (((Calendar.dayNumber s.year s.month s.day * 24 + s.hour) * 60 + s.minute - s.zone.ahead) * 60 +
    s.second : Int) + placesValue s.places

/-! ### Reading -/

/-- A number of just so many digits. -/
def number (width : Nat) (s : List Char) : Option (Nat × List Char) :=
  if (s.take width).length = width ∧ (s.take width).all Char.isDigit = true then
    some (Nat.ofDigitChars 10 (s.take width) 0, s.drop width)
  else none

def expect (c : Char) : List Char → Option (List Char)
  | d :: rest => if d.toUpper = c then some rest else none
  | [] => none

def readZone : List Char → Option Zone
  | ['Z'] => some .utc
  | ['z'] => some .utc
  | sign :: rest => do
    let (hours, rest) ← number 2 rest
    let rest ← expect ':' rest
    let (minutes, rest) ← number 2 rest
    if (sign = '+' ∨ sign = '-') ∧ rest = [] then some (.numeric (sign == '-') hours minutes)
    else none
  | [] => none

/-- Three numbers with a separator between them, the last two of two digits. -/
def triple (width : Nat) (sep : Char) (s : List Char) : Option (Nat × Nat × Nat × List Char) := do
  let (first, s) ← number width s
  let s ← expect sep s
  let (second, s) ← number 2 s
  let s ← expect sep s
  let (third, s) ← number 2 s
  some (first, second, third, s)

def read (s : List Char) : Option Stamp := do
  let (year, month, day, s) ← triple 4 '-' s
  let s ← expect 'T' s
  let (hour, minute, second, s) ← triple 2 ':' s
  let (places, s) ← scanPlaces s
  let zone ← readZone s
  let stamp : Stamp := ⟨year, month, day, hour, minute, second, places, zone⟩
  if stamp.InRange then some stamp else none

theorem number_fixedDigits {width n : Nat} (hn : n < 10 ^ width) (rest : List Char) :
    number width (fixedDigits width n ++ rest) = some (n, rest) := by
  have htake : (fixedDigits width n ++ rest).take width = fixedDigits width n := by
    rw [List.take_append_of_le_length (by simp), List.take_of_length_le (by simp)]
  have hdrop : (fixedDigits width n ++ rest).drop width = rest := by
    rw [List.drop_append_of_le_length (by simp), List.drop_of_length_le (by simp)]
    rfl
  unfold number
  rw [htake, hdrop, if_pos ⟨by simp, List.all_eq_true.2 fun c => isDigit_fixedDigits⟩,
    ofDigitChars_fixedDigits, Nat.mod_eq_of_lt hn]

theorem expect_cons {c : Char} (hc : c.toUpper = c) (rest : List Char) :
    expect c (c :: rest) = some rest :=
  if_pos hc

theorem triple_fixedDigits (width : Nat) {first second third : Nat} {sep : Char}
    (hsep : sep.toUpper = sep) (hfirst : first < 10 ^ width) (hsecond : second < 10 ^ 2)
    (hthird : third < 10 ^ 2) (rest : List Char) :
    triple width sep (fixedDigits width first ++ sep :: fixedDigits 2 second ++
      sep :: fixedDigits 2 third ++ rest) = some (first, second, third, rest) := by
  unfold triple
  rw [List.append_assoc, List.append_assoc, number_fixedDigits hfirst]
  simp only [Option.bind_eq_bind, Option.bind_some, List.cons_append, expect_cons hsep]
  rw [number_fixedDigits hsecond]
  simp only [Option.bind_some, expect_cons hsep]
  rw [number_fixedDigits hthird]
  simp only [Option.bind_some]

theorem readZone_chars {zone : Zone} (h : zone.InRange) : readZone zone.chars = some zone := by
  cases zone with
  | utc => rfl
  | numeric behind hours minutes =>
    obtain ⟨hhours, hminutes⟩ := h
    have hh := number_fixedDigits (by omega : hours < 10 ^ 2) (':' :: fixedDigits 2 minutes)
    have hm := number_fixedDigits (by omega : minutes < 10 ^ 2) []
    rw [List.append_nil] at hm
    have hcolon : expect ':' (':' :: fixedDigits 2 minutes) = some (fixedDigits 2 minutes) :=
      expect_cons (by decide) _
    cases behind <;>
      simp [Zone.chars, readZone, hh, hm, hcolon]

theorem endsNumeral_zone (zone : Zone) : EndsNumeral zone.chars := by
  cases zone with
  | utc => exact endsNumeral_cons rfl (by decide) _
  | numeric behind hours minutes => cases behind <;> exact endsNumeral_cons rfl (by decide) _

/-- A stamp in range is read back from its text. -/
theorem read_chars {s : Stamp} (h : s.InRange) (hyear : s.year ≤ 9999)
    (hplaces : ∀ c ∈ s.places, c.isDigit = true) : read s.chars = some s := by
  have hrange := h
  obtain ⟨⟨-, hmonth⟩, ⟨-, hday⟩, hhour, hminute, hsecond, hzone⟩ := h
  have hdays := Calendar.daysInMonth_le s.year s.month
  have ht (rest : List Char) : expect 'T' ('T' :: rest) = some rest := expect_cons (by decide) rest
  have hdate := triple_fixedDigits 4 (by decide : '-'.toUpper = '-')
    (by omega : s.year < 10 ^ 4) (by omega : s.month < 10 ^ 2) (by omega : s.day < 10 ^ 2)
  have htime := triple_fixedDigits 2 (by decide : ':'.toUpper = ':')
    (by omega : s.hour < 10 ^ 2) (by omega : s.minute < 10 ^ 2) (by omega : s.second < 10 ^ 2)
  simp only [List.append_assoc, List.cons_append] at hdate htime
  unfold read chars
  simp only [List.append_assoc, List.cons_append]
  rw [hdate]
  simp only [Option.bind_eq_bind, Option.bind_some, ht]
  rw [htime]
  simp only [Option.bind_some]
  rw [scanPlaces_write hplaces (endsNumeral_zone s.zone)]
  simp only [Option.bind_some, readZone_chars hzone]
  exact if_pos hrange

/-! ### The text of a stamp -/

theorem fraction_mem_chars {s : Stamp} : '.' ∈ s.chars ↔ s.places ≠ [] := by
  have hnot (width n : Nat) : '.' ∉ fixedDigits width n := fun h => by
    have := isDigit_fixedDigits h
    contradiction
  have hzone : '.' ∉ s.zone.chars := by
    unfold Zone.chars
    split
    · decide
    · split <;> simp [hnot]
  unfold chars placesChars
  split <;> simp [*]

theorem getLast?_chars {s : Stamp} : s.chars.getLast? = some 'Z' ↔ s.zone = .utc := by
  have hne : s.zone.chars ≠ [] := by
    cases s.zone <;> simp [Zone.chars]
  rw [chars, List.getLast?_append_of_ne_nil _ hne]
  cases s.zone with
  | utc => simp [Zone.chars]
  | numeric behind hours minutes =>
    simp [Zone.chars, fixedDigits]

end Stamp

/-! ### Timestamps -/

/-- A zone of whole minutes. -/
def zone (offset : Int) : Zone :=
  if offset = 0 then .utc
  else
    .numeric (offset < 0) (Timestamp.offsetMinutes offset / 60)
      (Timestamp.offsetMinutes offset % 60)

theorem chars_zone (offset : Int) : (zone offset).chars = Timestamp.writeOffset offset := by
  unfold zone Timestamp.writeOffset
  split
  · rfl
  · simp [Zone.chars]

theorem zone_eq_utc_iff {offset : Int} : zone offset = .utc ↔ offset = 0 := by
  unfold zone
  split <;> simp [*]

theorem inRange_zone {offset : Int} (h : -offsetLimit < offset ∧ offset < offsetLimit) :
    (zone offset).InRange := by
  unfold zone
  split
  · trivial
  · have hlimit : offsetLimit = 86400000000 := rfl
    exact ⟨by unfold Timestamp.offsetMinutes; omega, by omega⟩

theorem ahead_zone (offset : Int) : (zone offset).ahead = offset.tdiv 60000000 := by
  unfold zone Timestamp.offsetMinutes
  split
  · rename_i hzero
    rw [hzero]
    rfl
  obtain ⟨n, rfl | rfl⟩ := offset.eq_nat_or_neg
  · simp [Zone.ahead]
    omega
  · simp [Zone.ahead]
    omega

/-- What a stamp says about a timestamp. -/
structure Stamp.Tells (s : Stamp) (t : Timestamp) : Prop where
  date : s.year = t.civil.year ∧ s.month = t.civil.month ∧ s.day = t.civil.day
  time : s.hour = t.civil.hour ∧ s.minute = t.civil.minute ∧ s.second = t.civil.second
  micro : placesValue s.places = t.civil.micro / 1000000
  fraction : s.places = [] ↔ t.civil.micro = 0
  trimmed : s.places.getLast? ≠ some '0'
  ahead : s.zone.ahead = (t.offset.getD 0).tdiv 60000000
  utc : s.zone = .utc ↔ t.offset.getD 0 = 0

namespace Stamp.Tells

variable {s : Stamp} {t t' : Timestamp}

/-- The moment is that of the timestamp if nothing of the offset is cut off. -/
theorem instant_eq_iff (h : s.Tells t) :
    s.instant = t.instant / 1000000 ↔ 60000000 ∣ t.offset.getD 0 := by
  obtain ⟨hyear, hmonth, hday⟩ := h.date
  obtain ⟨hhour, hminute, hsecond⟩ := h.time
  have hcut : s.instant = t.instant / 1000000 ↔
      60000000 * (t.offset.getD 0).tdiv 60000000 = t.offset.getD 0 := by
    rw [Stamp.instant, h.micro, h.ahead, hyear, hmonth, hday, hhour, hminute, hsecond,
      Timestamp.instant, CivilTime.micros, eq_div_iff (by norm_num), ← Int.cast_inj (α := Rat)]
    push_cast
    constructor <;> intro heq <;> linarith
  rw [hcut]
  exact ⟨Dvd.intro _, Int.mul_tdiv_cancel'⟩

theorem civil_eq (h : s.Tells t) (h' : s.Tells t') : t.civil = t'.civil := by
  have hfields {u : Timestamp} (hu : s.Tells u) :
      u.civil = ⟨s.year, s.month, s.day, s.hour, s.minute, s.second, u.civil.micro⟩ := by
    rw [hu.date.1, hu.date.2.1, hu.date.2.2, hu.time.1, hu.time.2.1, hu.time.2.2]
  have hmicro : (t.civil.micro : Rat) = t'.civil.micro := by
    have := h.micro.symm.trans h'.micro
    linarith
  rw [hfields h, hfields h', Nat.cast_inj.1 hmicro]

end Stamp.Tells

def stamp (t : Timestamp) : Stamp where
  year := t.civil.year
  month := t.civil.month
  day := t.civil.day
  hour := t.civil.hour
  minute := t.civil.minute
  second := t.civil.second
  places := trimmedFraction 6 t.civil.micro
  zone := zone (t.offset.getD 0)

variable (t : Timestamp)

theorem micro_lt : t.civil.micro < 10 ^ 6 := t.civil_valid.2.2.2.2.2.2

theorem chars_stamp : (stamp t).chars = t.writeChars := by
  have hnil := trimmedFraction_eq_nil_iff (micro_lt t)
  have hplaces : placesChars (trimmedFraction 6 t.civil.micro) =
      if t.civil.micro = 0 then [] else '.' :: trimmedFraction 6 t.civil.micro := by
    unfold placesChars
    simp only [hnil]
  rw [Timestamp.writeChars, Timestamp.writeCivil, ← hplaces, ← chars_zone]
  rfl

theorem tells_stamp : (stamp t).Tells t where
  date := ⟨rfl, rfl, rfl⟩
  time := ⟨rfl, rfl, rfl⟩
  micro := by
    have h := placesValue_trimmedFraction (micro_lt t)
    norm_num at h
    exact h
  fraction := trimmedFraction_eq_nil_iff (micro_lt t)
  trimmed := getLast?_trimmedFraction 6 _
  ahead := ahead_zone _
  utc := zone_eq_utc_iff

theorem read_write : Stamp.read t.write.toList = some (stamp t) := by
  obtain ⟨hyear, hmonth, hday, hhour, hminute, hsecond, hmicro⟩ := t.civil_valid
  have hzone : (zone (t.offset.getD 0)).InRange := by
    refine inRange_zone ?_
    cases hoffset : t.offset with
    | none => decide
    | some o => exact t.offset_valid o hoffset
  have hrange : (stamp t).InRange :=
    ⟨hmonth, hday, Nat.le_of_lt_succ hhour, Nat.le_of_lt_succ hminute, hsecond.le.trans (by decide),
      hzone⟩
  rw [Timestamp.write, String.toList_ofList, ← chars_stamp]
  exact Stamp.read_chars hrange hyear.2 fun c => isDigit_trimmedFraction

/-- **The text of a timestamp reads back as its fields, with its offset cut to whole minutes.** So
it denotes the same moment if the offset is made up of whole minutes, and timestamps with one
offset have different texts. -/
theorem told_faithfully :
    (∃ s : Stamp, Stamp.read t.write.toList = some s ∧ s.Tells t ∧
      (s.instant = t.instant / 1000000 ↔ 60000000 ∣ t.offset.getD 0)) ∧
    (t.write.toList.getLast? = some 'Z' ↔ t.offset.getD 0 = 0) ∧
    ('.' ∈ t.write.toList ↔ t.civil.micro ≠ 0) ∧
    ∀ t' : Timestamp, t'.offset = t.offset ∧ t'.write = t.write ↔ t' = t := by
  have htells := tells_stamp t
  have htext : t.write.toList = (stamp t).chars := by
    rw [chars_stamp, Timestamp.write, String.toList_ofList]
  refine ⟨⟨stamp t, read_write t, htells, htells.instant_eq_iff⟩, ?_, ?_, fun t' => ⟨?_, ?_⟩⟩
  · rw [htext, Stamp.getLast?_chars, htells.utc]
  · rw [htext, Stamp.fraction_mem_chars, Ne, htells.fraction]
  · rintro ⟨hoffset, hwrite⟩
    have hread := read_write t'
    rw [hwrite, read_write t] at hread
    have hcivil := htells.civil_eq (Option.some.inj hread ▸ tells_stamp t')
    cases t
    cases t'
    cases hcivil
    cases hoffset
    rfl
  · rintro rfl
    exact ⟨rfl, rfl⟩

end Rfc3339

end Gatehouse
