import Gatehouse.Json.Reader
import Gatehouse.Json.Writer

/-! # Strings of a document

Every string reads back, in whatever layout it was written (`scanString_writeText`). Where only ASCII
may stand, a character beyond the first plane is written as two surrogates; the reader sees these
`units`, and joining them gives back the characters (`joinSurrogates_units`). -/

namespace Gatehouse.Json

open Text

variable {opening : Nat} {rest left : List Char} {points : List Nat}

/-! ### Characters -/

theorem toNat_bounds (c : Char) : c.toNat < 0xD800 ∨ (0xDFFF < c.toNat ∧ c.toNat < 0x110000) :=
  c.valid

theorem isSurrogate_toNat (c : Char) : isSurrogate c.toNat = false := by
  have h := toNat_bounds c
  unfold isSurrogate isHighSurrogate isLowSurrogate
  simp only [Bool.or_eq_false_iff, Bool.and_eq_false_iff, decide_eq_false_iff_not]
  omega

/-- The code points that a reader of the text sees for one character. -/
def units (asciiOnly : Bool) (n : Nat) : List Nat :=
  if asciiOnly && decide (0x10000 ≤ n) then
    [0xD800 + (n - 0x10000) / 0x400, 0xDC00 + (n - 0x10000) % 0x400]
  else [n]

theorem joinSurrogates_cons {n : Nat} (h : isHighSurrogate n = false) (ns : List Nat) :
    joinSurrogates (n :: ns) = n :: joinSurrogates ns := by
  cases ns with
  | nil => rfl
  | cons m ms => simp [joinSurrogates, h]

/-- The units of a character join to the character, whatever follows. -/
theorem joinSurrogates_units_append (asciiOnly : Bool) (c : Char) (ns : List Nat) :
    joinSurrogates (units asciiOnly c.toNat ++ ns) = c.toNat :: joinSurrogates ns := by
  have hc := toNat_bounds c
  unfold units
  split
  · rename_i hwide
    have hge : 0x10000 ≤ c.toNat := by
      rw [Bool.and_eq_true, decide_eq_true_eq] at hwide
      exact hwide.2
    have hhigh : isHighSurrogate (0xD800 + (c.toNat - 0x10000) / 0x400) = true := by
      rw [isHighSurrogate, Bool.and_eq_true, decide_eq_true_eq, decide_eq_true_eq]
      omega
    have hlow : isLowSurrogate (0xDC00 + (c.toNat - 0x10000) % 0x400) = true := by
      rw [isLowSurrogate, Bool.and_eq_true, decide_eq_true_eq, decide_eq_true_eq]
      omega
    have hvalue : 0x10000 + (0xD800 + (c.toNat - 0x10000) / 0x400 - 0xD800) * 0x400 +
        (0xDC00 + (c.toNat - 0x10000) % 0x400 - 0xDC00) = c.toNat := by omega
    rw [List.cons_append, List.cons_append, List.nil_append, joinSurrogates, hhigh, hlow,
      Bool.and_self, if_pos rfl, hvalue]
  · have hsurrogate := isSurrogate_toNat c
    rw [isSurrogate, Bool.or_eq_false_iff] at hsurrogate
    exact joinSurrogates_cons hsurrogate.1 ns

theorem joinSurrogates_units (asciiOnly : Bool) (s : List Char) :
    joinSurrogates (s.flatMap fun c => units asciiOnly c.toNat) = s.map Char.toNat := by
  induction s with
  | nil => rfl
  | cons c rest ih => rw [List.flatMap_cons, joinSurrogates_units_append, ih, List.map_cons]

/-! ### Escapes -/

theorem exists_cons_of_scanString (h : scanString opening rest = .ok (points, left)) :
    ∃ c tail, rest = c :: tail := by
  cases rest with
  | nil => cases h
  | cons c tail => exact ⟨c, tail, rfl⟩

theorem scanString_unicodeEscape {n : Nat} (hn : n < 0x10000)
    (h : scanString opening rest = .ok (points, left)) :
    scanString opening (unicodeEscape n ++ rest) = .ok (n :: points, left) := by
  obtain ⟨c, tail, rfl⟩ := exists_cons_of_scanString h
  have hread : Hex.read (Hex.write 4 n) = some n := Hex.read_write hn
  simp only [Hex.write, List.nil_append, List.cons_append] at hread
  simp only [unicodeEscape, Hex.write, List.nil_append, List.cons_append, scanString, hread, h]
  rfl

theorem scanString_short {c : Char} {n : Nat} (hc : shortEscape? c = some n)
    (h : scanString opening rest = .ok (points, left)) :
    scanString opening ('\\' :: c :: rest) = .ok (n :: points, left) := by
  have hu : c ≠ 'u' := by
    rintro rfl
    cases hc
  rw [scanString, hc, h]
  · rfl
  · exact fun _ _ _ _ _ _ hcu _ => hu hcu
  · exact hu

theorem scanString_plain {c : Char} (hmark : c ≠ '"') (hslash : c ≠ '\\') (hlow : 32 ≤ c.toNat)
    (h : scanString opening rest = .ok (points, left)) :
    scanString opening (c :: rest) = .ok (c.toNat :: points, left) := by
  rw [scanString, if_neg (by omega), h]
  · rfl
  all_goals simp_all

/-- The escape of a character is read as its units. -/
theorem scanString_escapePoint (asciiOnly : Bool) (c : Char)
    (h : scanString opening rest = .ok (points, left)) :
    scanString opening (escapePoint asciiOnly c.toNat ++ rest) =
      .ok (units asciiOnly c.toNat ++ points, left) := by
  have hc := toNat_bounds c
  have narrow : c.toNat < 0x10000 → units asciiOnly c.toNat = [c.toNat] := by
    intro hn
    rw [units, if_neg]
    simp only [Bool.and_eq_true, decide_eq_true_eq, not_and]
    omega
  have short : ∀ (d : Char) (n : Nat), c.toNat = n → n < 0x10000 → shortEscape? d = some n →
      scanString opening ('\\' :: d :: rest) = .ok (units asciiOnly c.toNat ++ points, left) := by
    rintro d n rfl hn hd
    rw [narrow hn]
    exact scanString_short hd h
  unfold escapePoint
  split
  · exact short '"' _ ‹_› (by decide) rfl
  split
  · exact short '\\' _ ‹_› (by decide) rfl
  split
  · exact short 'n' _ ‹_› (by decide) rfl
  split
  · exact short 'r' _ ‹_› (by decide) rfl
  split
  · exact short 't' _ ‹_› (by decide) rfl
  split
  · exact short 'f' _ ‹_› (by decide) rfl
  split
  · exact short 'b' _ ‹_› (by decide) rfl
  split
  · rw [narrow (by omega)]
    exact scanString_unicodeEscape (by omega) h
  split
  · rename_i hascii
    rw [Bool.and_eq_true] at hascii
    unfold escapeWide
    split
    · rw [narrow ‹_›]
      exact scanString_unicodeEscape ‹_› h
    · rw [units, if_pos (by rw [hascii.1, Bool.true_and]; exact decide_eq_true (by omega)),
        List.append_assoc]
      exact scanString_unicodeEscape (by omega) (scanString_unicodeEscape (by omega) h)
  · rename_i hmark hslash _ _ _ _ _ hlow hascii
    have hunits : units asciiOnly c.toNat = [c.toNat] := by
      rw [units, if_neg]
      simp only [Bool.and_eq_true, decide_eq_true_eq, not_and] at hascii ⊢
      intro ha
      have := hascii ha
      omega
    rw [hunits, Char.ofNat_toNat]
    refine scanString_plain ?_ ?_ (by omega) h
    · rintro rfl
      exact hmark rfl
    · rintro rfl
      exact hslash rfl

/-! ### Strings -/

theorem scanString_escapes (asciiOnly : Bool) (opening : Nat) (s rest : List Char) :
    scanString opening ((s.map Char.toNat).flatMap (escapePoint asciiOnly) ++ '"' :: rest) =
      .ok (s.flatMap fun c => units asciiOnly c.toNat, rest) := by
  induction s with
  | nil => rfl
  | cons c s ih =>
    rw [List.map_cons, List.flatMap_cons, List.flatMap_cons, List.append_assoc]
    exact scanString_escapePoint asciiOnly c ih

theorem scanString_writeText (asciiOnly : Bool) (s : String) (rest : List Char) :
    ∃ tail points, writeText asciiOnly s ++ rest = '"' :: tail ∧
      (∀ opening, scanString opening tail = .ok (points, rest)) ∧
      joinSurrogates points = s.toList.map Char.toNat := by
  refine ⟨_, _, ?_, fun opening => scanString_escapes asciiOnly opening s.toList rest,
    joinSurrogates_units asciiOnly s.toList⟩
  simp only [writeText, writePoints, List.cons_append, List.append_assoc, List.nil_append]

theorem map_ofNat_toNat (s : List Char) : (s.map Char.toNat).map Char.ofNat = s := by
  rw [List.map_map]
  exact (List.map_congr_left fun c _ => Char.ofNat_toNat c).trans (List.map_id s)

theorem ofPoints_of_join {s : String} (h : joinSurrogates points = s.toList.map Char.toNat) :
    ofPoints points = text s := by
  have hany : (s.toList.map Char.toNat).any isSurrogate = false := by
    rw [List.any_eq_false]
    intro n hn
    obtain ⟨c, -, rfl⟩ := List.mem_map.1 hn
    simp [isSurrogate_toNat]
  unfold ofPoints
  simp only [h, hany, Bool.false_eq_true, if_false, map_ofNat_toNat, String.ofList_toList]

theorem nameOf_of_join {s : String} (h : joinSurrogates points = s.toList.map Char.toNat) :
    nameOf points = s := by
  have hmap : (s.toList.map Char.toNat).map (fun n =>
      if isSurrogate n then Char.ofNat (n + standInShift) else Char.ofNat n) = s.toList := by
    rw [List.map_map]
    refine (List.map_congr_left fun c _ => ?_).trans (List.map_id s.toList)
    rw [Function.comp_apply, isSurrogate_toNat, if_neg Bool.false_ne_true, Char.ofNat_toNat]
    rfl
  unfold nameOf
  rw [h, hmap, String.ofList_toList]

end Gatehouse.Json
