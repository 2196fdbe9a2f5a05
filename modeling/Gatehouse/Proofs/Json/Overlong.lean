import Gatehouse.Proofs.Json.Bytes

/-! # Integers that are too long

An integer may have any number of digits, but only so many are read. One that has more is `Overlong`
and breaks the reading: an object that has it for a member is not read, whatever the other members
are (`readDocument_overlong`). The members are gone through in order; each is read, or is the one
that breaks the reading. What reads back has no such integer (`Legible.hasOverlong`). -/

namespace Gatehouse.Json

open Text

/-! ### Values without one -/

theorem anyOverlong_eq (items : List Json) : anyOverlong items = items.any hasOverlong := by
  induction items with
  | nil => rw [anyOverlong, List.any_nil]
  | cons v rest ih => rw [anyOverlong, ih, List.any_cons]

theorem anyOverlongMember_eq (members : List (String × Json)) :
    anyOverlongMember members = members.any fun m => m.2.hasOverlong := by
  induction members with
  | nil => rw [anyOverlongMember, List.any_nil]
  | cons m rest ih => rw [anyOverlongMember, ih, List.any_cons]

theorem Legible.hasOverlong {levels : Nat} {v : Json} (h : Legible levels v) :
    v.hasOverlong = false := by
  induction h with
  | null | bool | infinite | text => rw [Json.hasOverlong] <;> nofun
  | int hfits => simpa [Json.hasOverlong] using hfits
  | list _ ih =>
    rw [Json.hasOverlong, anyOverlong_eq]
    exact List.any_eq_false.2 fun v hv => ne_true_of_eq_false (ih v hv)
  | object _ _ ih =>
    rw [Json.hasOverlong, anyOverlongMember_eq]
    exact List.any_eq_false.2 fun m hm => ne_true_of_eq_false (ih m hm)

/-! ### A value with one -/

/-- An integer of more digits than are read. -/
def Overlong (v : Json) : Prop := ∃ n, v = .int n ∧ ¬IntegerLiteral.Fits n

section

variable {layout : Layout} {levels : Nat} {rest : List Char}

theorem scanMagnitude_overlong (negative : Bool) (left : Nat) {n : Nat}
    (hn : IntegerLiteral.maxDigits < (Nat.toDigits 10 n).length) (hr : EndsNumber rest) :
    scanMagnitude negative left (Nat.toDigits 10 n ++ rest) =
      .error (.tooLong (Nat.toDigits 10 n).length) := by
  unfold scanMagnitude
  simp only [scanWhole_toDigits n hr, scanFraction_of_endsNumber hr, scanExponent_of_endsNumber hr,
    Option.getD_none, Option.isSome_none, Bool.or_self, Bool.false_eq_true, if_false, gt_iff_lt, hn,
    if_true]

/-- A reader of values breaks off at the written value of one. -/
def BreaksOff (layout : Layout) (item : List Char → Except Fault (Json × List Char)) (v : Json) :
    Prop :=
  ∀ rest, EndsNumber rest → ∃ digits, item (writeChars layout v ++ rest) = .error (.tooLong digits)

theorem Overlong.breaksOff {v : Json} (h : Overlong v) : BreaksOff layout (scanValue levels) v := by
  obtain ⟨n, rfl, hn⟩ := h
  intro rest hr
  obtain ⟨left, hscan⟩ := scanScalar_writeInt_eq n rest
  rw [writeChars, scanValue_writeInt, hscan, scanMagnitude_overlong _ left (not_le.1 hn) hr]
  exact ⟨_, rfl⟩

/-- A value that is read, or that is too long. -/
def Written (levels : Nat) (v : Json) : Prop := Legible levels v ∨ Overlong v

theorem Written.opens {v : Json} (h : Written levels v) :
    ∃ c tail, writeChars layout v = c :: tail ∧ Opens c := by
  rcases h with h | ⟨n, rfl, -⟩
  · exact exists_cons_writeChars layout h
  · exact exists_cons_writeChars_int layout n

theorem Written.ascii {v : Json} (h : Written levels v) (hl : layout.Blank)
    (ha : layout.asciiOnly = true) : Ascii (writeChars layout v) := by
  rcases h with h | ⟨n, rfl, -⟩
  · exact ascii_writeChars hl ha h
  · rw [writeChars]
    exact ascii_writeInt n

theorem map_tooLong {α β : Type} {x : Except Fault α} (f : α → β)
    (h : ∃ digits, x = .error (.tooLong digits)) :
    ∃ digits, x.map f = .error (.tooLong digits) := by
  obtain ⟨digits, rfl⟩ := h
  exact ⟨digits, rfl⟩

/-- The first member that is too long ends the reading of all. -/
theorem scanMembers_overlong (hl : layout.Blank) {m : String × Json} {ms : List (String × Json)}
    (hwritten : ∀ n ∈ m :: ms, Written levels n.2) (hover : ∃ n ∈ m :: ms, Overlong n.2)
    (rest : List Char) {fuel : Nat} (hfuel : ms.length < fuel) :
    ∃ digits, scanMembers (scanValue levels) fuel (writeText layout.asciiOnly m.1 ++
      (layout.colon ++ (writeChars layout m.2 ++ (writeMembers layout ms ++ rest)))) =
      .error (.tooLong digits) := by
  induction fuel generalizing m ms with
  | zero => exact absurd hfuel (Nat.not_lt_zero _)
  | succ fuel ih =>
    have hopens : ∃ c tail, writeChars layout m.2 = c :: tail ∧ Opens c :=
      (hwritten m (by simp)).opens
    by_cases hm : Overlong m.2
    · obtain ⟨digits, hv⟩ := hm.breaksOff _ (endsNumber_writeMembers hl ms rest)
      rw [scanMembers_name hl _ fuel m.1 hopens, hv]
      exact ⟨digits, rfl⟩
    · -- the member is read, and one of the others is too long
      have hread := scanValue_write hl ((hwritten m (by simp)).resolve_right hm)
      have hlater : ∃ x ∈ ms, Overlong x.2 := by
        obtain ⟨x, hx, ho⟩ := hover
        rcases List.mem_cons.1 hx with rfl | hx
        · exact absurd ho hm
        · exact ⟨x, hx, ho⟩
      cases ms with
      | nil => simp at hlater
      | cons n ns =>
        rw [scanMembers_next hl hopens hread]
        exact map_tooLong _ (ih (fun x hx => hwritten x (List.mem_cons_of_mem _ hx)) hlater
          (Nat.lt_of_succ_lt_succ hfuel))

/-- An object with such a member is not read. -/
theorem scanValue_overlong (hl : layout.Blank) {members : List (String × Json)}
    (hwritten : ∀ m ∈ members, Written levels m.2) (hover : ∃ m ∈ members, Overlong m.2) :
    ∃ digits, scanValue (levels + 1) (writeChars layout (.object members)) =
      .error (.tooLong digits) := by
  cases members with
  | nil => simp at hover
  | cons m ms =>
    have hfuel := length_writeMembers hl ms
    have hscan := fun fuel (hf : ms.length < fuel) => scanMembers_overlong hl hwritten hover [] hf
    rw [writeText, writePoints, List.append_nil] at hscan
    rw [writeChars, writeText, writePoints]
    simp only [List.cons_append, List.append_assoc] at hscan ⊢
    rw [scanValue_object]
    refine map_tooLong _ (hscan _ ?_)
    simp only [List.length_append, List.length_cons]
    omega

/-- **A document is not read that has too long an integer for a member.** -/
theorem readDocument_overlong (hl : layout.Blank) (ha : layout.asciiOnly = true)
    {members : List (String × Json)} (hwritten : ∀ m ∈ members, Written (maxDepth - 1) m.2)
    (hover : ∃ m ∈ members, Overlong m.2) :
    ∃ digits, readDocument (utf8 (writeChars layout (.object members))) =
      .error (.tooLong digits) := by
  have hascii : Ascii (writeChars layout (.object members)) :=
    ascii_object hl ha fun m hm => (hwritten m hm).ascii hl ha
  have hskip :
      skip (writeChars layout (.object members)) = writeChars layout (.object members) := by
    cases members with
    | nil => rw [writeChars]; rfl
    | cons m ms => rw [writeChars]; rfl
  obtain ⟨digits, hscan⟩ : ∃ digits, scanValue maxDepth (writeChars layout (.object members)) =
      .error (.tooLong digits) := scanValue_overlong hl hwritten hover
  refine ⟨digits, ?_⟩
  unfold readDocument
  rw [documentPoints_ascii hascii]
  dsimp only
  rw [documentText_toNat, read, hskip, hscan]
  rfl

end

end Gatehouse.Json
