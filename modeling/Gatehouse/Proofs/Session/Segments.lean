import Mathlib.Data.List.TakeWhile
import Gatehouse.Session.Decode

/-! # Segments of session tokens

The alphabet of base 64 has neither a point nor the character of padding. So what was encoded is
decoded as text without padding (`decode?_encode`), and a token falls apart at its two points into
the segments that it was assembled from (`splitSegments?_join`). -/

namespace Gatehouse

namespace Base64Url

theorem digit_ne : ∀ n, n < 64 → digit n ≠ '.' ∧ digit n ≠ '=' := by decide

theorem mem_digits {c : Char} {count n : Nat} (h : c ∈ digits count n) :
    ∃ d, d < 64 ∧ c = digit d := by
  induction count generalizing n with
  | zero => cases h
  | succ count ih =>
    rcases List.mem_append.1 h with h | h
    · exact ih h
    · exact ⟨n % 64, Nat.mod_lt _ (by decide), List.mem_singleton.1 h⟩

theorem exists_digit {c : Char} {bytes : List UInt8} (h : c ∈ encode bytes) :
    ∃ d, d < 64 ∧ c = digit d := by
  induction bytes using encode.induct with
  | case1 => cases h
  | case2 a => exact mem_digits h
  | case3 a b => exact mem_digits h
  | case4 a b c' rest ih =>
    rcases List.mem_append.1 h with h | h
    · exact mem_digits h
    · exact ih h

theorem mem_encode {c : Char} {bytes : List UInt8} (h : c ∈ encode bytes) :
    c ≠ '.' ∧ c ≠ '=' := by
  obtain ⟨d, hd, rfl⟩ := exists_digit h
  exact digit_ne d hd

theorem point_not_mem_encode (bytes : List UInt8) : '.' ∉ encode bytes :=
  fun h => (mem_encode h).1 rfl

/-- What was encoded is decoded. -/
theorem decode?_encode (bytes : List UInt8) : decode? (encode bytes) = some bytes := by
  have hbare : (encode bytes).reverse.dropWhile (· == '=') = (encode bytes).reverse := by
    rw [List.dropWhile_eq_self_iff]
    intro hpos hpad
    have hmem := List.mem_reverse.1 (List.getElem_mem hpos)
    exact (mem_encode hmem).2 (by simpa using hpad)
  unfold decode?
  simp only [hbare, List.reverse_reverse, Nat.sub_self, if_true]
  exact decodeBare?_encode bytes

end Base64Url

namespace SessionToken

variable {header payload signature : List Char}

theorem splitFirst_append {s : List Char} (hs : '.' ∉ s) (t : List Char) :
    splitFirst (s ++ '.' :: t) = some (s, t) := by
  have hkeep : ∀ c ∈ s, (c != '.') = true := by
    intro c hc
    rw [bne_iff_ne]
    rintro rfl
    exact hs hc
  have hstop : ('.' != '.') = false := rfl
  unfold splitFirst
  rw [if_pos (by simp), List.takeWhile_append_of_pos hkeep, List.dropWhile_append_of_pos hkeep,
    List.takeWhile_cons_of_neg (by simp), List.dropWhile_cons_of_neg (by simp), List.append_nil]
  rfl

theorem splitLast_append (s : List Char) {t : List Char} (ht : '.' ∉ t) :
    splitLast (s ++ '.' :: t) = some (s, t) := by
  have hreverse : (s ++ '.' :: t).reverse = t.reverse ++ '.' :: s.reverse := by simp
  unfold splitLast
  rw [hreverse, splitFirst_append (by simpa using ht)]
  simp

/-- A token falls apart at its first and its last point. -/
theorem splitSegments?_join (hh : '.' ∉ header) (hs : '.' ∉ signature) :
    splitSegments? ((header ++ '.' :: payload) ++ '.' :: signature) =
      some ⟨header, payload, signature⟩ := by
  unfold splitSegments?
  rw [splitLast_append _ hs]
  simp only [Option.bind_eq_bind, Option.bind_some, splitFirst_append hh]
  rfl

end SessionToken

end Gatehouse
