import Gatehouse.Proofs.Text.Numeral
import Gatehouse.Time.Duration

/-! # Durations read back

The text of a duration is a sign, if it is below zero, and terms, each of which is a number with a
unit. `Spelling.read` reads any such text, and `Spelling.seconds` is what it amounts to, in exact
rationals. A spelling is `Canonical` if its units are those that a duration of its size is written
with and no digit in it is superfluous.

Main statement: the text of every duration is a canonical spelling, which reads back as exactly this
duration (`spelled_canonically`). There is one such spelling for each of the five sizes that a
duration can have, and the proofs go by them (`spellMagnitude`). -/

namespace Gatehouse.Duration

open Text

/-! ### Units -/

inductive TimeUnit
  | hour
  | minute
  | second
  | milli
  | micro
  deriving DecidableEq, Repr

namespace TimeUnit

def seconds : TimeUnit → Rat
  | hour => 3600
  | minute => 60
  | second => 1
  | milli => 1 / 1000
  | micro => 1 / 1000000

def symbol : TimeUnit → List Char
  | hour => ['h']
  | minute => ['m']
  | second => ['s']
  | milli => ['m', 's']
  | micro => ['µ', 's']

/-- The unit at the start of a text. -/
def scan : List Char → Option (TimeUnit × List Char)
  | 'h' :: rest => some (hour, rest)
  | 'm' :: 's' :: rest => some (milli, rest)
  | 'm' :: rest => some (minute, rest)
  | 's' :: rest => some (second, rest)
  | 'µ' :: 's' :: rest => some (micro, rest)
  | _ => none

/-- What follows a unit must not make minutes milliseconds. -/
theorem scan_symbol (u : TimeUnit) {rest : List Char} (hr : ∀ tail, rest ≠ 's' :: tail) :
    scan (u.symbol ++ rest) = some (u, rest) := by
  cases u with
  | minute =>
    show scan ('m' :: rest) = _
    unfold scan
    split <;> simp_all
  | _ => rfl

theorem endsNumeral_symbol (u : TimeUnit) (rest : List Char) :
    EndsNumeral (u.symbol ++ rest) := by
  cases u <;> exact endsNumeral_cons rfl (by decide) _

end TimeUnit

/-! ### Terms -/

structure Term where
  amount : Numeral
  unit : TimeUnit

namespace Term

def chars (t : Term) : List Char := t.amount.chars ++ t.unit.symbol

def seconds (t : Term) : Rat := t.amount.value * t.unit.seconds

theorem exists_cons_chars (t : Term) : ∃ c tail, t.chars = c :: tail ∧ c.isDigit = true := by
  obtain ⟨c, tail, hwhole⟩ := List.exists_cons_of_ne_nil t.amount.whole_ne
  refine ⟨c, tail ++ placesChars t.amount.places ++ t.unit.symbol, ?_,
    t.amount.whole_digits c (by simp [hwhole])⟩
  simp [chars, Numeral.chars, hwhole]

end Term

/-- The terms that a text consists of, if there are no more than `fuel`. -/
def scanTerms : Nat → List Char → Option (List Term)
  | 0, _ => none
  | fuel + 1, s => do
    let (amount, s) ← Numeral.scan s
    let (unit, s) ← TimeUnit.scan s
    if s = [] then return [⟨amount, unit⟩]
    else return ⟨amount, unit⟩ :: (← scanTerms fuel s)

theorem scanTerms_chars {terms : List Term} (hne : terms ≠ []) {fuel : Nat}
    (hfuel : terms.length ≤ fuel) : scanTerms fuel (terms.flatMap Term.chars) = some terms := by
  induction terms generalizing fuel with
  | nil => exact absurd rfl hne
  | cons t rest ih =>
    obtain ⟨fuel, rfl⟩ : ∃ n, fuel = n + 1 := ⟨fuel - 1, by simp at hfuel; omega⟩
    have hnext : ∀ tail, rest.flatMap Term.chars ≠ 's' :: tail := by
      intro tail h
      cases rest with
      | nil => simp at h
      | cons u us =>
        obtain ⟨c, cs, hc, hdigit⟩ := u.exists_cons_chars
        rw [List.flatMap_cons, hc, List.cons_append] at h
        rw [(List.cons.inj h).1] at hdigit
        cases hdigit
    rw [List.flatMap_cons, Term.chars, List.append_assoc, scanTerms,
      Numeral.scan_chars _ (TimeUnit.endsNumeral_symbol _ _)]
    simp only [Option.bind_eq_bind, Option.bind_some, TimeUnit.scan_symbol _ hnext]
    cases rest with
    | nil => rfl
    | cons u us =>
      have hmore : (u :: us).flatMap Term.chars ≠ [] := by
        obtain ⟨c, cs, hc, -⟩ := u.exists_cons_chars
        simp [hc]
      rw [if_neg hmore, ih (by simp) (by simpa using hfuel)]
      rfl

/-! ### Spellings -/

structure Spelling where
  negative : Bool
  terms : List Term

namespace Spelling

def chars (s : Spelling) : List Char :=
  (if s.negative then ['-'] else []) ++ s.terms.flatMap Term.chars

def seconds (s : Spelling) : Rat :=
  (if s.negative then -1 else 1) * (s.terms.map Term.seconds).sum

/-- The spelling that a text is, if it is one. -/
def read (s : List Char) : Option Spelling :=
  match s with
  | '-' :: rest => (scanTerms rest.length rest).map fun terms => ⟨true, terms⟩
  | _ => (scanTerms s.length s).map fun terms => ⟨false, terms⟩

theorem length_le_flatMap_chars (terms : List Term) :
    terms.length ≤ (terms.flatMap Term.chars).length := by
  induction terms with
  | nil => simp
  | cons t rest ih =>
    obtain ⟨c, cs, hc, -⟩ := t.exists_cons_chars
    simp only [List.flatMap_cons, List.length_append, List.length_cons, hc]
    omega

/-- A spelling is read back from its text. -/
theorem read_chars {s : Spelling} (hne : s.terms ≠ []) : read s.chars = some s := by
  obtain ⟨negative, terms⟩ := s
  have hscan : scanTerms (terms.flatMap Term.chars).length (terms.flatMap Term.chars) =
      some terms := scanTerms_chars hne (length_le_flatMap_chars terms)
  cases negative with
  | true =>
    show (scanTerms (terms.flatMap Term.chars).length (terms.flatMap Term.chars)).map _ = _
    rw [hscan]
    rfl
  | false =>
    show read (terms.flatMap Term.chars) = _
    unfold read
    split
    · rename_i rest h
      cases terms with
      | nil => simp at h
      | cons t ts =>
        obtain ⟨c, cs, hc, hdigit⟩ := t.exists_cons_chars
        rw [List.flatMap_cons, hc, List.cons_append] at h
        rw [(List.cons.inj h).1] at hdigit
        cases hdigit
    · rw [hscan]
      rfl

end Spelling

/-- A whole number without a superfluous zero. -/
structure Whole (x : Numeral) : Prop where
  proper : x.Proper
  places : x.places = []

/-- The spellings that durations have: microseconds below a millisecond, milliseconds below a
second, and from there on seconds, after minutes if there are any, after hours if there are any. -/
inductive Spelling.Canonical : Spelling → Prop
  | zero : Canonical ⟨false, [⟨.ofNat 0, .second⟩]⟩
  | micros (negative : Bool) {x : Numeral} (hx : Whole x) (low : 0 < x.value)
    (high : x.value < 1000) : Canonical ⟨negative, [⟨x, .micro⟩]⟩
  | millis (negative : Bool) {x : Numeral} (hx : x.Proper) (low : 1 ≤ x.value)
    (high : x.value < 1000) : Canonical ⟨negative, [⟨x, .milli⟩]⟩
  | seconds (negative : Bool) {x : Numeral} (hx : x.Proper) (low : 1 ≤ x.value)
    (high : x.value < 60) : Canonical ⟨negative, [⟨x, .second⟩]⟩
  | minutes (negative : Bool) {m x : Numeral} (hm : Whole m) (hx : x.Proper) (low : 1 ≤ m.value)
    (minutes : m.value < 60) (seconds : x.value < 60) :
    Canonical ⟨negative, [⟨m, .minute⟩, ⟨x, .second⟩]⟩
  | hours (negative : Bool) {h m x : Numeral} (hh : Whole h) (hm : Whole m) (hx : x.Proper)
    (low : 1 ≤ h.value) (minutes : m.value < 60) (seconds : x.value < 60) :
    Canonical ⟨negative, [⟨h, .hour⟩, ⟨m, .minute⟩, ⟨x, .second⟩]⟩

theorem whole_ofNat (n : Nat) : Whole (.ofNat n) := ⟨Numeral.proper_ofNat n, rfl⟩

/-! ### The spelling of a duration -/

/-- The terms of so many microseconds. -/
def spellMagnitude (us : Nat) : List Term :=
  if us < 1000 then [⟨.ofNat us, .micro⟩]
  else if us < 1000000 then [⟨.scaled 3 us, .milli⟩]
  else if us < 60000000 then [⟨.scaled 6 us, .second⟩]
  else if us < 3600000000 then
    [⟨.ofNat (us / 60000000), .minute⟩, ⟨.scaled 6 (us % 60000000), .second⟩]
  else
    [⟨.ofNat (us / 3600000000), .hour⟩, ⟨.ofNat (us % 3600000000 / 60000000), .minute⟩,
      ⟨.scaled 6 (us % 60000000), .second⟩]

def spelling (d : Duration) : Spelling :=
  if d.micros = 0 then ⟨false, [⟨.ofNat 0, .second⟩]⟩
  else ⟨decide (d.micros < 0), spellMagnitude d.micros.natAbs⟩

theorem flatMap_spellMagnitude (us : Nat) :
    (spellMagnitude us).flatMap Term.chars = writeMagnitude us := by
  unfold spellMagnitude writeMagnitude writeClock
  split
  · simp [Term.chars, TimeUnit.symbol]
  split
  · simp [Term.chars, TimeUnit.symbol]
  split
  · have hh : us / 3600000000 = 0 := by omega
    have hm : us % 3600000000 / 60000000 = 0 := by omega
    have hs : us % 60000000 = us := by omega
    simp [Term.chars, TimeUnit.symbol, hh, hm, hs]
  split
  · have hh : us / 3600000000 = 0 := by omega
    have hm : us % 3600000000 / 60000000 = us / 60000000 := by omega
    have hne : us / 60000000 ≠ 0 := by omega
    simp [Term.chars, TimeUnit.symbol, hh, hm, hne]
  · have hne : us / 3600000000 ≠ 0 := by omega
    simp [Term.chars, TimeUnit.symbol, hne]

theorem chars_spelling (d : Duration) : d.spelling.chars = d.writeChars := by
  unfold spelling writeChars Spelling.chars
  rw [count_eq]
  split
  · simp [Term.chars, TimeUnit.symbol]
  · simp only [flatMap_spellMagnitude, decide_eq_true_eq]
    split <;> rfl

/-- The terms amount to the microseconds. -/
theorem sum_spellMagnitude (us : Nat) :
    ((spellMagnitude us).map Term.seconds).sum = us / 1000000 := by
  unfold spellMagnitude
  split
  · simp [Term.seconds, TimeUnit.seconds]
    ring
  split
  · simp [Term.seconds, TimeUnit.seconds]
    ring
  split
  · simp [Term.seconds, TimeUnit.seconds]
    norm_num
  split
  · have hsplit : (60000000 : Rat) * (us / 60000000 : Nat) + (us % 60000000 : Nat) = us := by
      exact_mod_cast Nat.div_add_mod us 60000000
    simp [Term.seconds, TimeUnit.seconds]
    linarith
  · have hsplit : (3600000000 : Rat) * (us / 3600000000 : Nat) +
        60000000 * (us % 3600000000 / 60000000 : Nat) + (us % 60000000 : Nat) = us := by
      have : 3600000000 * (us / 3600000000) + 60000000 * (us % 3600000000 / 60000000) +
          us % 60000000 = us := by omega
      exact_mod_cast this
    simp [Term.seconds, TimeUnit.seconds]
    linarith

theorem seconds_spelling (d : Duration) : d.spelling.seconds = d.micros / 1000000 := by
  unfold spelling Spelling.seconds
  split
  · rename_i hzero
    simp [hzero, Term.seconds]
  · rw [sum_spellMagnitude]
    by_cases hneg : d.micros < 0
    · rw [Nat.cast_natAbs, abs_of_neg hneg, decide_eq_true hneg, if_pos rfl]
      push_cast
      ring
    · rw [Nat.cast_natAbs, abs_of_nonneg (Int.not_lt.1 hneg), decide_eq_false hneg,
        if_neg Bool.false_ne_true, one_mul]

theorem value_scaled_lt (bound : Nat) {places n : Nat} (h : n < bound * 10 ^ places) :
    (Numeral.scaled places n).value < bound := by
  rw [Numeral.value_scaled, div_lt_iff₀ (by positivity)]
  exact_mod_cast h

theorem one_le_value_scaled {places n : Nat} (h : 10 ^ places ≤ n) :
    1 ≤ (Numeral.scaled places n).value := by
  rw [Numeral.value_scaled, le_div_iff₀ (by positivity), one_mul]
  exact_mod_cast h

theorem canonical_spelling (d : Duration) : d.spelling.Canonical := by
  unfold spelling
  split
  · exact .zero
  rename_i hne
  have hpos : 0 < d.micros.natAbs := by omega
  generalize d.micros.natAbs = us at hpos
  have natLt (bound : Nat) {n : Nat} (h : n < bound) : (Numeral.ofNat n).value < bound := by
    rw [Numeral.value_ofNat]
    exact_mod_cast h
  have one_le {n : Nat} (h : 1 ≤ n) : 1 ≤ (Numeral.ofNat n).value := by
    rw [Numeral.value_ofNat]
    exact_mod_cast h
  unfold spellMagnitude
  split
  · refine .micros _ (whole_ofNat us) ?_ (natLt _ (by assumption))
    rw [Numeral.value_ofNat]
    exact_mod_cast hpos
  split
  · exact .millis _ (Numeral.proper_scaled 3 us) (one_le_value_scaled (by omega))
      (value_scaled_lt 1000 (by omega))
  split
  · exact .seconds _ (Numeral.proper_scaled 6 us) (one_le_value_scaled (by omega))
      (value_scaled_lt 60 (by omega))
  have hseconds : us % 60000000 < 60 * 10 ^ 6 := by omega
  split
  · exact .minutes _ (whole_ofNat _) (Numeral.proper_scaled 6 _) (one_le (by omega))
      (natLt 60 (by omega)) (value_scaled_lt 60 hseconds)
  · exact .hours _ (whole_ofNat _) (whole_ofNat _) (Numeral.proper_scaled 6 _) (one_le (by omega))
      (natLt 60 (by omega)) (value_scaled_lt 60 hseconds)

/-- The text of a duration reads back as its spelling. -/
theorem read_write (d : Duration) : Spelling.read d.write.toList = some d.spelling := by
  have hne : d.spelling.terms ≠ [] := by
    have hcanonical := canonical_spelling d
    intro hnil
    generalize d.spelling = s at hcanonical hnil
    cases hcanonical <;> cases hnil
  rw [write, String.toList_ofList, ← chars_spelling, Spelling.read_chars hne]

/-- **Every duration has a canonical text, which reads back as exactly this duration.** So two
durations do not have the same text. -/
theorem spelled_canonically (d : Duration) :
    (∃ s : Spelling, s.Canonical ∧ d.write.toList = s.chars ∧
      Spelling.read d.write.toList = some s ∧ s.seconds = d.micros / 1000000) ∧
    ∀ d' : Duration, d'.write = d.write ↔ d' = d := by
  refine ⟨⟨d.spelling, canonical_spelling d, ?_, read_write d, seconds_spelling d⟩, fun d' => ?_⟩
  · rw [chars_spelling, write, String.toList_ofList]
  · refine ⟨fun h => ?_, fun h => by rw [h]⟩
    have hread := read_write d'
    rw [h, read_write d] at hread
    have hseconds := seconds_spelling d'
    rw [← Option.some.inj hread, seconds_spelling d] at hseconds
    obtain ⟨us⟩ := d
    obtain ⟨us'⟩ := d'
    have hmicros : (us : Rat) = us' := by linarith
    rw [Int.cast_inj.1 hmicros]

/-- Negative, and with a fraction, after an hour without minutes. -/
example : Duration.write ⟨-3600500000⟩ = "-1h0m0.5s" := by decide +kernel

end Gatehouse.Duration
