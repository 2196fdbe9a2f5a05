import Gatehouse.Json.Document
import Gatehouse.Proofs.Json.Strings
import Gatehouse.Proofs.Text.Decimal

/-! # Documents read back

A value is `Legible` at a depth if it is made of `null`, truth values, short enough integers,
infinite numbers, text, lists and objects without a name twice, nested no deeper. Main statement:
in every layout that puts nothing but blanks after commas and colons, a legible value is written so
that it reads back, and what follows it is left (`scanValue_write`, `read_write`). The proof goes by
the value; a list or an object is read item by item, with fuel for as many items as its text has
characters. -/

namespace Gatehouse.Json

open Text

/-- A value that reads back, with so many levels of nesting. -/
inductive Legible : Nat → Json → Prop
  | null {levels : Nat} : Legible levels .null
  | bool {levels : Nat} (b : Bool) : Legible levels (.bool b)
  | int {levels : Nat} {n : Int} (h : IntegerLiteral.Fits n) : Legible levels (.int n)
  | infinite {levels : Nat} (negative : Bool) : Legible levels (.float (.infinite negative))
  | text {levels : Nat} (s : String) : Legible levels (.text s)
  | list {levels : Nat} {items : List Json} (h : ∀ v ∈ items, Legible levels v) :
    Legible (levels + 1) (.list items)
  | object {levels : Nat} {members : List (String × Json)}
    (names : (members.map Prod.fst).Nodup) (h : ∀ m ∈ members, Legible levels m.2) :
    Legible (levels + 1) (.object members)

/-- Only blanks stand after a comma or a colon. -/
structure Layout.Blank (layout : Layout) : Prop where
  comma : ∃ blanks, layout.comma = ',' :: blanks ∧ ∀ c ∈ blanks, isSpace c = true
  colon : ∃ blanks, layout.colon = ':' :: blanks ∧ ∀ c ∈ blanks, isSpace c = true

theorem Layout.blank_spaced : Layout.spaced.Blank :=
  ⟨⟨[' '], rfl, by simp [isSpace]⟩, ⟨[' '], rfl, by simp [isSpace]⟩⟩

theorem Layout.blank_compact : Layout.compact.Blank :=
  ⟨⟨[], rfl, by simp⟩, ⟨[], rfl, by simp⟩⟩

theorem Layout.blank_compactRaw : Layout.compactRaw.Blank :=
  ⟨⟨[], rfl, by simp⟩, ⟨[], rfl, by simp⟩⟩

/-- What follows a value, if it does not go on with a number. -/
def EndsNumber (rest : List Char) : Prop :=
  ∀ c tail, rest = c :: tail → isDigit c = false ∧ c ≠ '.' ∧ c ≠ 'e' ∧ c ≠ 'E'

theorem endsNumber_nil : EndsNumber [] := by
  intro c tail h
  cases h

theorem endsNumber_cons {c : Char} (hd : isDigit c = false) (hp : c ≠ '.') (he : c ≠ 'e')
    (hE : c ≠ 'E') (tail : List Char) : EndsNumber (c :: tail) := by
  intro d rest h
  obtain ⟨rfl, rfl⟩ := List.cons.inj h
  exact ⟨hd, hp, he, hE⟩

/-! ### Blanks -/

theorem skip_cons {c : Char} (h : isSpace c = false) (rest : List Char) :
    skip (c :: rest) = c :: rest :=
  List.dropWhile_cons_of_neg (by simp [h])

theorem skip_blanks {blanks : List Char} (h : ∀ c ∈ blanks, isSpace c = true) (rest : List Char) :
    skip (blanks ++ rest) = skip rest :=
  List.dropWhile_append_of_pos h

/-- A character that neither is blank nor closes anything. -/
def Opens (c : Char) : Prop := isSpace c = false ∧ c ≠ ']' ∧ c ≠ '\x7d'

instance (c : Char) : Decidable (Opens c) := inferInstanceAs (Decidable (_ ∧ _))

theorem opens_digit {c : Char} (h : c.isDigit = true) : Opens c := by
  have hb := digit_bounds h
  refine ⟨?_, ne_of_isDigit h rfl, ne_of_isDigit h rfl⟩
  unfold isSpace
  simp only [Bool.or_eq_false_iff, beq_eq_false_iff_ne]
  exact ⟨⟨⟨ne_of_isDigit h rfl, ne_of_isDigit h rfl⟩, ne_of_isDigit h rfl⟩, ne_of_isDigit h rfl⟩

/-! ### Integers -/

section integers

variable {rest : List Char}

theorem takeWhile_digits {ds : List Char} (hd : ∀ c ∈ ds, c.isDigit = true)
    (hr : EndsNumber rest) :
    (ds ++ rest).takeWhile isDigit = ds ∧ (ds ++ rest).dropWhile isDigit = rest :=
  span_digits hd fun c tail h => (hr c tail h).1

/-- All digits are the whole part of the number. -/
theorem scanWhole_toDigits (n : Nat) (hr : EndsNumber rest) :
    scanWhole (Nat.toDigits 10 n ++ rest) = some (Nat.toDigits 10 n, rest) := by
  by_cases hn : n = 0
  · subst hn
    rfl
  · cases hds : Nat.toDigits 10 n with
    | nil => exact absurd hds Nat.toDigits_ne_nil
    | cons d ds =>
      have hdigits : ∀ c ∈ d :: ds, c.isDigit = true := fun c hc =>
        isDigit_toDigits (n := n) (hds ▸ hc)
      have hd : isDigit d = true := hdigits d (by simp)
      obtain ⟨htake, hdrop⟩ :=
        takeWhile_digits (fun c hc => hdigits c (List.mem_cons_of_mem _ hc)) hr
      have hzero : d ≠ '0' := by
        rintro rfl
        exact toDigits_ne_zero_cons hn ds hds
      rw [List.cons_append, scanWhole, if_pos hd, htake, hdrop]
      exact hzero

theorem scanFraction_of_endsNumber (hr : EndsNumber rest) : scanFraction rest = none := by
  unfold scanFraction
  split
  · exact absurd rfl (hr _ _ rfl).2.1
  · rfl

theorem scanExponent_of_endsNumber (hr : EndsNumber rest) : scanExponent rest = none := by
  unfold scanExponent
  split
  · rename_i c tail
    obtain ⟨-, -, he, hE⟩ := hr c tail rfl
    rw [if_neg (by simp [he, hE])]
  · rfl

theorem digitsValue_toDigits (n : Nat) : digitsValue (Nat.toDigits 10 n) = n :=
  Nat.ofDigitChars_toDigits (by decide) (by decide)

theorem scanMagnitude_toDigits (negative : Bool) (left : Nat) {n : Nat}
    (hn : (Nat.toDigits 10 n).length ≤ IntegerLiteral.maxDigits) (hr : EndsNumber rest) :
    scanMagnitude negative left (Nat.toDigits 10 n ++ rest) =
      .ok (.int (if negative then -(n : Int) else n), rest) := by
  unfold scanMagnitude
  simp only [scanWhole_toDigits n hr, scanFraction_of_endsNumber hr, scanExponent_of_endsNumber hr,
    Option.getD_none, Option.isSome_none, Bool.or_self, Bool.false_eq_true, if_false, gt_iff_lt,
    Nat.not_lt.2 hn, digitsValue_toDigits]

theorem scanScalar_of_isDigit {c : Char} (hc : c.isDigit = true) (tail : List Char) :
    scanScalar (c :: tail) = scanMagnitude false (tail.length + 1) (c :: tail) := by
  have hne : ∀ d ∈ ['"', 'n', 't', 'f', 'N', 'I', '-'], c ≠ d := by
    intro d hd
    refine ne_of_isDigit hc ?_
    simp only [List.mem_cons, List.not_mem_nil, or_false] at hd
    rcases hd with rfl | rfl | rfl | rfl | rfl | rfl | rfl
    all_goals rfl
  simp only [List.forall_mem_cons] at hne
  unfold scanScalar
  split <;> simp_all

theorem scanScalar_minus {c : Char} (hc : c.isDigit = true) (tail : List Char) :
    scanScalar ('-' :: c :: tail) = scanMagnitude true (tail.length + 2) (c :: tail) := by
  have hI : c ≠ 'I' := ne_of_isDigit hc rfl
  rw [scanScalar]
  · rfl
  · rintro rest h
    exact hI (List.cons.inj h).1

/-- The sign is read first, and then the digits. -/
theorem scanScalar_writeInt_eq (n : Int) (rest : List Char) :
    ∃ left, scanScalar (writeInt n ++ rest) =
      scanMagnitude (decide (n < 0)) left (Nat.toDigits 10 n.natAbs ++ rest) := by
  obtain ⟨d, ds, hds⟩ := List.exists_cons_of_ne_nil (Nat.toDigits_ne_nil (n := n.natAbs) (b := 10))
  have hd : d.isDigit = true := isDigit_toDigits (n := n.natAbs) (by simp [hds])
  unfold writeInt
  split
  · rename_i hneg
    rw [hds, decide_eq_true hneg]
    exact ⟨_, scanScalar_minus hd _⟩
  · rename_i hneg
    rw [hds, decide_eq_false hneg]
    exact ⟨_, scanScalar_of_isDigit hd _⟩

theorem scanScalar_writeInt {n : Int} (hn : IntegerLiteral.Fits n) (hr : EndsNumber rest) :
    scanScalar (writeInt n ++ rest) = .ok (.int n, rest) := by
  obtain ⟨left, h⟩ := scanScalar_writeInt_eq n rest
  rw [h, scanMagnitude_toDigits _ left hn hr]
  congr 3
  split
  · rename_i hneg
    have := of_decide_eq_true hneg
    omega
  · rename_i hneg
    have := of_decide_eq_false (Bool.eq_false_iff.2 hneg)
    omega

end integers

/-! ### Names -/

/-- Nothing is merged if no name stands twice. -/
theorem mergeMembers_of_nodup {members : List (String × Json)}
    (h : (members.map Prod.fst).Nodup) : mergeMembers members = members := by
  suffices hfold : ∀ merged : List (String × Json), ((merged ++ members).map Prod.fst).Nodup →
      members.foldl (fun merged m =>
        if merged.any fun n => n.1 == m.1 then
          merged.map fun n => if n.1 == m.1 then (n.1, m.2) else n
        else merged ++ [m]) merged = merged ++ members from hfold [] h
  clear h
  induction members with
  | nil => exact fun merged _ => (List.append_nil merged).symm
  | cons m members ih =>
    intro merged h
    have hnew : ¬merged.any fun n => n.1 == m.1 := by
      intro hany
      obtain ⟨n, hn, he⟩ := List.any_eq_true.1 hany
      rw [List.map_append, List.map_cons] at h
      exact (List.nodup_append.1 h).2.2 _ (List.mem_map_of_mem hn) _ List.mem_cons_self
        (by simpa using he)
    rw [List.foldl_cons, if_neg hnew, ih (merged ++ [m]) (by simpa using h), List.append_assoc]
    rfl

/-! ### Values -/

section values

variable {layout : Layout} {levels : Nat}

theorem exists_cons_writeInt (n : Int) :
    ∃ c tail, writeInt n = c :: tail ∧ (c = '-' ∨ c.isDigit = true) := by
  unfold writeInt
  split
  · exact ⟨_, _, rfl, .inl rfl⟩
  · obtain ⟨d, ds, hds⟩ :=
      List.exists_cons_of_ne_nil (Nat.toDigits_ne_nil (n := n.natAbs) (b := 10))
    exact ⟨d, ds, hds, .inr (isDigit_toDigits (n := n.natAbs) (by simp [hds]))⟩

theorem writeChars_infinite (layout : Layout) (negative : Bool) :
    writeChars layout (.float (.infinite negative)) =
      (if negative then ['-'] else []) ++ ['I', 'n', 'f', 'i', 'n', 'i', 't', 'y'] := by
  rw [writeChars]
  cases negative <;> rfl

theorem exists_cons_writeChars_int (layout : Layout) (n : Int) :
    ∃ c tail, writeChars layout (.int n) = c :: tail ∧ Opens c := by
  obtain ⟨c, tail, hc, hsign | hdigit⟩ := exists_cons_writeInt n
  · exact ⟨c, tail, by rw [writeChars, hc], hsign ▸ by decide⟩
  · exact ⟨c, tail, by rw [writeChars, hc], opens_digit hdigit⟩

theorem exists_cons_writeChars (layout : Layout) {v : Json} (h : Legible levels v) :
    ∃ c tail, writeChars layout v = c :: tail ∧ Opens c := by
  cases h with
  | null => exact ⟨_, _, by rw [writeChars], by decide⟩
  | bool b => cases b <;> exact ⟨_, _, by rw [writeChars], by decide⟩
  | @int _ n _ => exact exists_cons_writeChars_int layout n
  | infinite negative =>
    cases negative <;> exact ⟨_, _, by rw [writeChars_infinite]; rfl, by decide⟩
  | text s => exact ⟨_, _, by rw [writeChars, writeText, writePoints], by decide⟩
  | @list _ items _ => cases items <;> exact ⟨_, _, by rw [writeChars], by decide⟩
  | @object _ members _ _ => rcases members with _ | ⟨m, ms⟩ <;>
      exact ⟨_, _, by rw [writeChars], by decide⟩

theorem skip_blanks_writeChars {v : Json}
    (h : ∃ c tail, writeChars layout v = c :: tail ∧ Opens c) {blanks : List Char}
    (hb : ∀ c ∈ blanks, isSpace c = true) (tail : List Char) :
    skip (blanks ++ (writeChars layout v ++ tail)) = writeChars layout v ++ tail := by
  obtain ⟨c, cs, hc, hopens⟩ := h
  rw [skip_blanks hb, hc, List.cons_append, skip_cons hopens.1]

/-- How a reader of values deals with the written value of a legible one. -/
def Reads (layout : Layout) (item : List Char → Except Fault (Json × List Char)) (v : Json) :
    Prop :=
  ∀ rest, EndsNumber rest → item (writeChars layout v ++ rest) = .ok (v, rest)

theorem scanItems_writeItems (hl : layout.Blank)
    {item : List Char → Except Fault (Json × List Char)} {v : Json} {vs : List Json}
    (hlegible : ∀ w ∈ vs, Legible levels w) (hitem : ∀ w ∈ v :: vs, Reads layout item w)
    (rest : List Char) {fuel : Nat} (hfuel : vs.length < fuel) :
    scanItems item fuel (writeChars layout v ++ (writeItems layout vs ++ rest)) =
      .ok (v :: vs, rest) := by
  induction fuel generalizing v vs with
  | zero => exact absurd hfuel (Nat.not_lt_zero _)
  | succ fuel ih =>
    cases vs with
    | nil =>
      have hclose : isSpace ']' = false := rfl
      have hv := hitem v (by simp) (']' :: rest)
        (endsNumber_cons rfl (by decide) (by decide) (by decide) _)
      rw [writeItems, List.cons_append, List.nil_append, scanItems, hv]
      simp only [bind, Except.bind, skip_cons hclose]
      rfl
    | cons w ws =>
      obtain ⟨blanks, hcomma, hblanks⟩ := hl.comma
      have hspace : isSpace ',' = false := rfl
      have hv := hitem v (by simp) (',' :: (blanks ++ (writeChars layout w ++
        (writeItems layout ws ++ rest))))
        (endsNumber_cons rfl (by decide) (by decide) (by decide) _)
      have hws := ih (fun x hx => hlegible x (List.mem_cons_of_mem _ hx))
        (fun x hx => hitem x (List.mem_cons_of_mem _ hx)) (Nat.lt_of_succ_lt_succ hfuel)
      rw [writeItems, hcomma]
      simp only [List.cons_append, List.append_assoc]
      rw [scanItems, hv]
      simp only [bind, Except.bind, skip_cons hspace,
        skip_blanks_writeChars (exists_cons_writeChars layout (hlegible w (by simp))) hblanks, hws]
      rfl

/-- The name of a member and its colon are read, and the value is left. -/
theorem scanMembers_name (hl : layout.Blank) (item : List Char → Except Fault (Json × List Char))
    (fuel : Nat) (name : String) {v : Json}
    (hv : ∃ c tail, writeChars layout v = c :: tail ∧ Opens c) (tail : List Char) :
    scanMembers item (fuel + 1) (writeText layout.asciiOnly name ++ (layout.colon ++
      (writeChars layout v ++ tail))) =
    (item (writeChars layout v ++ tail)).bind fun read =>
      match skip read.2 with
      | '\x7d' :: rest => .ok ([(name, read.1)], rest)
      | ',' :: rest => (scanMembers item fuel (skip rest)).map fun more =>
          ((name, read.1) :: more.1, more.2)
      | rest => .error (.malformed .noComma rest.length) := by
  obtain ⟨blanks, hcolon, hblanks⟩ := hl.colon
  obtain ⟨s, points, hs, hscan, hjoin⟩ := scanString_writeText layout.asciiOnly name
    (':' :: (blanks ++ (writeChars layout v ++ tail)))
  have hspace : isSpace ':' = false := rfl
  rw [hcolon, List.cons_append, hs, scanMembers, hscan]
  simp only [bind, Except.bind, skip_cons hspace, skip_blanks_writeChars hv hblanks,
    nameOf_of_join hjoin]
  rfl

theorem endsNumber_writeMembers (hl : layout.Blank) (ms : List (String × Json))
    (rest : List Char) : EndsNumber (writeMembers layout ms ++ rest) := by
  cases ms with
  | nil =>
    rw [writeMembers]
    exact endsNumber_cons rfl (by decide) (by decide) (by decide) _
  | cons n ns =>
    obtain ⟨blanks, hcomma, -⟩ := hl.comma
    rw [writeMembers, hcomma]
    simp only [List.cons_append]
    exact endsNumber_cons rfl (by decide) (by decide) (by decide) _

/-- A member is read, and the next one is up. -/
theorem scanMembers_next (hl : layout.Blank)
    {item : List Char → Except Fault (Json × List Char)} {m n : String × Json}
    {ns : List (String × Json)} (hv : ∃ c tail, writeChars layout m.2 = c :: tail ∧ Opens c)
    (hread : Reads layout item m.2) (fuel : Nat) (rest : List Char) :
    scanMembers item (fuel + 1) (writeText layout.asciiOnly m.1 ++ (layout.colon ++
      (writeChars layout m.2 ++ (writeMembers layout (n :: ns) ++ rest)))) =
    (scanMembers item fuel (writeText layout.asciiOnly n.1 ++ (layout.colon ++
      (writeChars layout n.2 ++ (writeMembers layout ns ++ rest))))).map fun more =>
        (m :: more.1, more.2) := by
  obtain ⟨blanks, hcomma, hblanks⟩ := hl.comma
  have hspace : isSpace ',' = false := rfl
  have hmark : isSpace '"' = false := rfl
  have hskip : ∀ tail, skip (writeText layout.asciiOnly n.1 ++ tail) =
      writeText layout.asciiOnly n.1 ++ tail := fun tail => skip_cons hmark _
  rw [scanMembers_name hl item fuel m.1 hv,
    hread _ (endsNumber_writeMembers hl (n :: ns) rest), writeMembers, hcomma]
  simp only [Except.bind, List.cons_append, List.append_assoc, skip_cons hspace,
    skip_blanks hblanks, hskip]

theorem scanMembers_writeMembers (hl : layout.Blank)
    {item : List Char → Except Fault (Json × List Char)} {m : String × Json}
    {ms : List (String × Json)} (hlegible : ∀ n ∈ m :: ms, Legible levels n.2)
    (hitem : ∀ n ∈ m :: ms, Reads layout item n.2) (rest : List Char) {fuel : Nat}
    (hfuel : ms.length < fuel) :
    scanMembers item fuel (writeText layout.asciiOnly m.1 ++ (layout.colon ++
      (writeChars layout m.2 ++ (writeMembers layout ms ++ rest)))) = .ok (m :: ms, rest) := by
  induction fuel generalizing m ms with
  | zero => exact absurd hfuel (Nat.not_lt_zero _)
  | succ fuel ih =>
    have hopens := exists_cons_writeChars layout (hlegible m (by simp))
    cases ms with
    | nil =>
      have hclose : isSpace '\x7d' = false := rfl
      have hv := hitem m (by simp) ('\x7d' :: rest)
        (endsNumber_cons rfl (by decide) (by decide) (by decide) _)
      rw [scanMembers_name hl item fuel m.1 hopens, writeMembers, List.cons_append, List.nil_append,
        hv]
      simp only [Except.bind, skip_cons hclose]
    | cons n ns =>
      rw [scanMembers_next hl hopens (hitem m (by simp)),
        ih (fun x hx => hlegible x (List.mem_cons_of_mem _ hx))
          (fun x hx => hitem x (List.mem_cons_of_mem _ hx)) (Nat.lt_of_succ_lt_succ hfuel)]
      rfl

theorem length_writeItems (hl : layout.Blank) (vs : List Json) :
    vs.length < (writeItems layout vs).length := by
  obtain ⟨blanks, hcomma, -⟩ := hl.comma
  induction vs with
  | nil => simp [writeItems]
  | cons v vs ih =>
    simp only [writeItems, hcomma, List.length_append, List.length_cons]
    omega

theorem length_writeMembers (hl : layout.Blank) (ms : List (String × Json)) :
    ms.length < (writeMembers layout ms).length := by
  obtain ⟨blanks, hcomma, -⟩ := hl.comma
  induction ms with
  | nil => simp [writeMembers]
  | cons m ms ih =>
    simp only [writeMembers, hcomma, List.length_append, List.length_cons]
    omega

theorem scanValue_scalar (levels : Nat) {c : Char} (hlist : c ≠ '[') (hobject : c ≠ '\x7b')
    (tail : List Char) : scanValue levels (c :: tail) = scanScalar (c :: tail) := by
  rw [scanValue] <;> simp_all

theorem scanValue_writeInt (levels : Nat) (n : Int) (rest : List Char) :
    scanValue levels (writeInt n ++ rest) = scanScalar (writeInt n ++ rest) := by
  obtain ⟨c, tail, hc, hcases⟩ := exists_cons_writeInt n
  have hopening : c ≠ '[' ∧ c ≠ '\x7b' := by
    rcases hcases with rfl | hdigit
    · decide
    · exact ⟨ne_of_isDigit hdigit rfl, ne_of_isDigit hdigit rfl⟩
  rw [hc, List.cons_append, scanValue_scalar _ hopening.1 hopening.2]

theorem scanValue_list (levels : Nat) {c : Char} (hc : Opens c) (tail : List Char) :
    scanValue (levels + 1) ('[' :: c :: tail) =
      (scanItems (scanValue levels) (tail.length + 2) (c :: tail)).map fun read =>
        (list read.1, read.2) := by
  obtain ⟨hspace, hclose, -⟩ := hc
  rw [scanValue, skip_cons hspace]
  split
  · rename_i h
    exact absurd (List.cons.inj h).1 hclose
  · rfl

theorem scanValue_object (levels : Nat) (tail : List Char) :
    scanValue (levels + 1) ('\x7b' :: '"' :: tail) =
      (scanMembers (scanValue levels) (tail.length + 2) ('"' :: tail)).map fun read =>
        (object (mergeMembers read.1), read.2) := by
  rw [scanValue, skip_cons rfl]
  rfl

/-- **What was written reads back**, and what follows it is left. -/
theorem scanValue_write (hl : layout.Blank) {v : Json} (h : Legible levels v) :
    Reads layout (scanValue levels) v := by
  induction h with
  | null =>
    intro rest _
    rw [writeChars]
    exact scanValue_scalar _ (by decide) (by decide) _
  | bool b =>
    intro rest _
    cases b <;> rw [writeChars] <;> exact scanValue_scalar _ (by decide) (by decide) _
  | @int levels n hn =>
    intro rest hr
    rw [writeChars, scanValue_writeInt, scanScalar_writeInt hn hr]
  | infinite negative =>
    intro rest _
    rw [writeChars_infinite]
    cases negative <;> exact scanValue_scalar _ (by decide) (by decide) _
  | text s =>
    intro rest _
    obtain ⟨tail, points, htail, hscan, hjoin⟩ := scanString_writeText layout.asciiOnly s rest
    rw [writeChars, htail, scanValue_scalar _ (by decide) (by decide), scanScalar, hscan]
    simp only [bind, Except.bind, ofPoints_of_join hjoin]
    rfl
  | @list levels items hitems ih =>
    intro rest _
    cases items with
    | nil =>
      rw [writeChars]
      rfl
    | cons v vs =>
      obtain ⟨c, tail, hc, hopens⟩ := exists_cons_writeChars layout (hitems v (by simp))
      have hread := fun fuel (hf : vs.length < fuel) => scanItems_writeItems hl
        (fun w hw => hitems w (List.mem_cons_of_mem _ hw)) ih rest hf
      have hfuel := length_writeItems hl vs
      rw [hc] at hread
      rw [writeChars, hc]
      simp only [List.cons_append, List.append_assoc] at hread ⊢
      rw [scanValue_list _ hopens, hread]
      · rfl
      · simp only [List.length_append]
        omega
  | @object levels members hnames hmembers ih =>
    intro rest _
    cases members with
    | nil =>
      rw [writeChars]
      rfl
    | cons m ms =>
      have hread := fun fuel (hf : ms.length < fuel) =>
        scanMembers_writeMembers hl hmembers ih rest hf
      have hfuel := length_writeMembers hl ms
      rw [writeText, writePoints] at hread
      rw [writeChars, writeText, writePoints]
      simp only [List.cons_append, List.append_assoc] at hread ⊢
      rw [scanValue_object, hread]
      · simp only [Except.map, mergeMembers_of_nodup hnames]
      · simp only [List.length_append, List.length_cons]
        omega

end values

/-! ### Whole documents -/

/-- A legible value is read from its text. -/
theorem read_write {layout : Layout} (hl : layout.Blank) {v : Json} (h : Legible maxDepth v) :
    read (writeChars layout v) = .ok v := by
  obtain ⟨c, tail, hc, hopens⟩ := exists_cons_writeChars layout h
  have hskip : skip (writeChars layout v) = writeChars layout v := by
    rw [hc, skip_cons hopens.1]
  have hread := scanValue_write hl h [] endsNumber_nil
  rw [List.append_nil] at hread
  unfold read
  rw [hskip, hread]
  rfl

end Gatehouse.Json
