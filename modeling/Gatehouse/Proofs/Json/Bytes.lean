import Gatehouse.Proofs.Json.Roundtrip

/-! # Documents as bytes

A text reads back from its bytes in UTF-8 (`utf8Points_utf8`), and a text that starts in ASCII tells
its encoding by itself (`documentPoints_utf8`). Where only ASCII may stand, a legible value is
written in ASCII (`ascii_writeChars`), so it reads back from the bytes of what was written
(`readDocument_write`); an object does so in every layout (`readDocument_write_object`). -/

namespace Gatehouse

open Text

/-- Every character is one of ASCII and is not the zero character. -/
def Ascii (s : List Char) : Prop := ∀ c ∈ s, 0 < c.toNat ∧ c.toNat < 128

namespace Ascii

variable {s t : List Char} {c : Char}

theorem nil : Ascii [] := by simp [Ascii]

theorem cons (hc : 0 < c.toNat ∧ c.toNat < 128) (hs : Ascii s) : Ascii (c :: s) :=
  List.forall_mem_cons.2 ⟨hc, hs⟩

theorem append (hs : Ascii s) (ht : Ascii t) : Ascii (s ++ t) :=
  List.forall_mem_append.2 ⟨hs, ht⟩

theorem flatMap {α : Type} {l : List α} {f : α → List Char} (h : ∀ a ∈ l, Ascii (f a)) :
    Ascii (l.flatMap f) := by
  intro c hc
  obtain ⟨a, ha, hca⟩ := List.mem_flatMap.1 hc
  exact h a ha c hca

theorem head (h : Ascii (c :: s)) : 0 < c.toNat ∧ c.toNat < 128 := h c (by simp)

theorem tail (h : Ascii (c :: s)) : Ascii s := fun d hd => h d (List.mem_cons_of_mem _ hd)

end Ascii

/-! ### Characters from bytes -/

namespace Text

theorem toNat_byte {n : Nat} (h : n < 256) : (UInt8.ofNat n).toNat = n :=
  UInt8.toNat_ofNat_of_lt' h

theorem continuation_byte {least greatest bits : Nat} (hbits : bits < 64)
    (hrange : least ≤ bits + 0x80 ∧ bits + 0x80 ≤ greatest) :
    Encoding.continuation least greatest (UInt8.ofNat (bits + 0x80)) = some bits := by
  unfold Encoding.continuation
  rw [toNat_byte (by omega), if_pos (by simpa using hrange)]
  congr 1
  omega

theorem in_secondRange (first : Nat) {second : Nat} (h : 0x80 ≤ second ∧ second ≤ 0xBF)
    (hthree : first = 0xE0 → 0xA0 ≤ second) (hfour : first = 0xF0 → 0x90 ≤ second)
    (hlast : first = 0xF4 → second ≤ 0x8F) :
    (Encoding.secondRange first).1 ≤ second ∧ second ≤ (Encoding.secondRange first).2 := by
  unfold Encoding.secondRange
  split
  · exact ⟨hthree ‹_›, h.2⟩
  split
  · exact ⟨hfour ‹_›, h.2⟩
  split
  · exact ⟨h.1, hlast ‹_›⟩
  · exact h

/-- A character is read from its one to four bytes, whatever follows. -/
theorem utf8Points_utf8EncodeChar (c : Char) (rest : Bytes) :
    Encoding.utf8Points (String.utf8EncodeChar c ++ rest) =
      (Encoding.utf8Points rest).bind fun points => some (c.toNat :: points) := by
  have hc : c.toNat < 0x110000 := by
    have := Json.toNat_bounds c
    omega
  unfold String.utf8EncodeChar
  rw [show c.val.toNat = c.toNat from rfl]
  generalize c.toNat = n at hc ⊢
  have joined : ∀ m, m = n → ((Encoding.utf8Points rest).bind fun points => some (m :: points)) =
      (Encoding.utf8Points rest).bind fun points => some (n :: points) := by
    rintro _ rfl
    rfl
  have hbits : ∀ m, 0x80 ≤ m % 64 + 0x80 ∧ m % 64 + 0x80 ≤ 0xBF := by omega
  dsimp only
  split
  · simp only [List.singleton_append, Encoding.utf8Points, toNat_byte (show n < 256 by omega)]
    rw [if_pos (by omega)]
    rfl
  split
  · have hsecond := in_secondRange (n / 64 % 0x20 + 0xC0) (hbits n) (by omega) (by omega)
      (by omega)
    simp only [List.cons_append, List.nil_append, Encoding.utf8Points, Bool.and_eq_true,
      decide_eq_true_eq, toNat_byte (show n / 64 % 0x20 + 0xC0 < 256 by omega)]
    rw [if_neg (by omega), if_pos (by omega), continuation_byte (by omega) hsecond]
    exact joined _ (by omega)
  split
  · have hsecond := in_secondRange (n / 4096 % 0x10 + 0xE0) (hbits (n / 64)) (by omega)
      (by omega) (by omega)
    simp only [List.cons_append, List.nil_append, Encoding.utf8Points, Bool.and_eq_true,
      decide_eq_true_eq, toNat_byte (show n / 4096 % 0x10 + 0xE0 < 256 by omega)]
    rw [if_neg (by omega), if_neg (by omega), if_pos (by omega),
      continuation_byte (by omega) hsecond, continuation_byte (by omega) (hbits n)]
    exact joined _ (by omega)
  · have hsecond := in_secondRange (n / 262144 % 0x08 + 0xF0) (hbits (n / 4096)) (by omega)
      (by omega) (by omega)
    simp only [List.cons_append, List.nil_append, Encoding.utf8Points, Bool.and_eq_true,
      decide_eq_true_eq, toNat_byte (show n / 262144 % 0x08 + 0xF0 < 256 by omega)]
    rw [if_neg (by omega), if_neg (by omega), if_neg (by omega), if_pos (by omega),
      continuation_byte (by omega) hsecond, continuation_byte (by omega) (hbits (n / 64)),
      continuation_byte (by omega) (hbits n)]
    exact joined _ (by omega)

theorem utf8Points_utf8 (s : List Char) :
    Encoding.utf8Points (utf8 s) = some (s.map Char.toNat) := by
  induction s with
  | nil => rfl
  | cons c s ih =>
    show Encoding.utf8Points (String.utf8EncodeChar c ++ utf8 s) = _
    rw [utf8Points_utf8EncodeChar, ih]
    rfl

/-! ### Which encoding -/

theorem utf8EncodeChar_ascii {c : Char} (hc : c.toNat < 128) :
    String.utf8EncodeChar c = [UInt8.ofNat c.toNat] := by
  unfold String.utf8EncodeChar
  have : c.val.toNat ≤ 127 := Nat.le_of_lt_succ hc
  simp only [this, if_true]
  rfl

theorem take_utf8 {s : List Char} (h : Ascii (s.take 2)) :
    (utf8 s).take 2 = (s.take 2).map fun c => UInt8.ofNat c.toNat := by
  rcases s with _ | ⟨c, _ | ⟨d, rest⟩⟩
  · rfl
  · show (String.utf8EncodeChar c ++ []).take 2 = _
    rw [utf8EncodeChar_ascii h.head.2]
    rfl
  · show (String.utf8EncodeChar c ++ (String.utf8EncodeChar d ++ utf8 rest)).take 2 = _
    rw [utf8EncodeChar_ascii h.head.2, utf8EncodeChar_ascii h.tail.head.2]
    rfl

/-- Bytes of which the first two are neither zero nor above ASCII have no mark and are not taken for
wider units. -/
theorem detect_of_ascii {bytes : Bytes} (h : ∀ b ∈ bytes.take 2, 0 < b.toNat ∧ b.toNat < 128) :
    Encoding.detect bytes = (.utf8, bytes) := by
  have hzero : ∀ b ∈ bytes.take 2, (b == 0) = false := by
    intro b hb
    rw [beq_eq_false_iff_ne]
    rintro rfl
    exact absurd (h 0 hb).1 (by decide)
  have hguess : Encoding.guess bytes = .utf8 := by
    unfold Encoding.guess
    split
    · rename_i a b _ _ _
      rw [hzero a (.head _), hzero b (.tail _ (.head _))]
      rfl
    · rename_i a b
      rw [hzero a (.head _), hzero b (.tail _ (.head _))]
      rfl
    · rfl
  unfold Encoding.detect
  split
  · exact absurd (h 0 (by simp)).1 (by decide)
  · exact absurd (h 0xFF (by simp)).2 (by decide)
  · exact absurd (h 0xFE (by simp)).2 (by decide)
  · exact absurd (h 0xFF (by simp)).2 (by decide)
  · exact absurd (h 0xEF (by simp)).2 (by decide)
  · rw [hguess]

/-- The text of a document that starts in ASCII is read as it is. -/
theorem documentPoints_utf8 {s : List Char} (h : Ascii (s.take 2)) :
    documentPoints (utf8 s) = some (s.map Char.toNat) := by
  unfold documentPoints
  rw [detect_of_ascii]
  · exact utf8Points_utf8 s
  · intro b hb
    rw [take_utf8 h] at hb
    obtain ⟨c, hc, rfl⟩ := List.mem_map.1 hb
    obtain ⟨hpos, hlt⟩ := h c hc
    rw [toNat_byte (Nat.lt_trans hlt (by decide))]
    exact ⟨hpos, hlt⟩

theorem documentPoints_ascii {s : List Char} (h : Ascii s) :
    documentPoints (utf8 s) = some (s.map Char.toNat) :=
  documentPoints_utf8 fun c hc => h c (List.mem_of_mem_take hc)

end Text

namespace Json

theorem documentText_toNat (s : List Char) : documentText (s.map Char.toNat) = s := by
  induction s with
  | nil => rfl
  | cons c s ih =>
    show (if isSurrogate c.toNat then _ else _) ++ documentText (s.map Char.toNat) = c :: s
    rw [isSurrogate_toNat, if_neg Bool.false_ne_true, ih, Char.ofNat_toNat]
    rfl

theorem readDocument_of_read {s : List Char} {v : Json} (hstart : Ascii (s.take 2))
    (h : read s = .ok v) : readDocument (utf8 s) = .ok v := by
  unfold readDocument
  rw [documentPoints_utf8 hstart]
  dsimp only
  rw [documentText_toNat, h]

/-- An object reads back from the bytes of its document in every layout: it starts with a brace and
a mark, so the bytes are known to be UTF-8 whatever its strings hold. -/
theorem readDocument_write_object {layout : Layout} (hl : layout.Blank)
    {members : List (String × Json)} (h : Legible maxDepth (.object members)) :
    readDocument (utf8 (writeChars layout (.object members))) = .ok (.object members) := by
  refine readDocument_of_read ?_ (read_write hl h)
  rcases members with _ | ⟨⟨name, v⟩, rest⟩
  · rw [writeChars]
    exact .cons (by decide) (.cons (by decide) .nil)
  · rw [writeChars, writeText, writePoints]
    exact .cons (by decide) (.cons (by decide) .nil)

/-! ### What is written in ASCII -/

theorem ascii_hex (width n : Nat) : Ascii (Hex.write width n) := by
  induction width generalizing n with
  | zero => exact .nil
  | succ width ih =>
    have hdigit : ∀ d, d < 16 → 0 < (Nat.digitChar d).toNat ∧ (Nat.digitChar d).toNat < 128 := by
      decide
    exact (ih _).append (.cons (hdigit _ (Nat.mod_lt _ (by decide))) .nil)

theorem ascii_unicodeEscape (n : Nat) : Ascii (unicodeEscape n) :=
  .cons (by decide) (.cons (by decide) (ascii_hex 4 n))

theorem ascii_escapePoint (c : Char) : Ascii (escapePoint true c.toNat) := by
  have escape : ∀ d ∈ ['"', '\\', 'n', 'r', 't', 'f', 'b'], Ascii ['\\', d] := by simp [Ascii]
  unfold escapePoint
  repeat' split
  all_goals first | exact escape _ (by simp) | skip
  · exact ascii_unicodeEscape c.toNat
  · unfold escapeWide
    split
    · exact ascii_unicodeEscape c.toNat
    · exact (ascii_unicodeEscape _).append (ascii_unicodeEscape _)
  · rename_i hlow hhigh
    simp only [Bool.true_and, decide_eq_true_eq] at hhigh
    rw [Char.ofNat_toNat]
    exact .cons (by omega) .nil

theorem ascii_writeText (s : String) : Ascii (writeText true s) :=
  .cons (by decide) (.append (.flatMap (List.forall_mem_map.2 fun c _ => ascii_escapePoint c))
    (.cons (by decide) .nil))

theorem ascii_writeInt (n : Int) : Ascii (writeInt n) := by
  have hdigits : Ascii (Nat.toDigits 10 n.natAbs) := by
    intro c hc
    have := digit_bounds (isDigit_toDigits hc)
    omega
  unfold writeInt
  split
  · exact .cons (by decide) hdigits
  · exact hdigits

theorem ascii_blanks {c : Char} {s blanks : List Char} (hs : s = c :: blanks)
    (hc : 0 < c.toNat ∧ c.toNat < 128) (hb : ∀ d ∈ blanks, isSpace d = true) : Ascii s := by
  subst hs
  refine .cons hc fun d hd => ?_
  have h := hb d hd
  unfold isSpace at h
  simp only [Bool.or_eq_true, beq_iff_eq] at h
  rcases h with ((rfl | rfl) | rfl) | rfl <;> decide

section layout

variable {layout : Layout} (hl : layout.Blank) (ha : layout.asciiOnly = true)

include hl in
theorem Layout.Blank.ascii_comma : Ascii layout.comma := by
  obtain ⟨blanks, h, hb⟩ := hl.comma
  exact ascii_blanks h (by decide) hb

include hl in
theorem Layout.Blank.ascii_colon : Ascii layout.colon := by
  obtain ⟨blanks, h, hb⟩ := hl.colon
  exact ascii_blanks h (by decide) hb

include hl in
theorem ascii_writeItems {vs : List Json} (h : ∀ v ∈ vs, Ascii (writeChars layout v)) :
    Ascii (writeItems layout vs) := by
  induction vs with
  | nil =>
    rw [writeItems]
    exact .cons (by decide) .nil
  | cons v vs ih =>
    rw [writeItems]
    exact (hl.ascii_comma.append (h v (by simp))).append
      (ih fun w hw => h w (List.mem_cons_of_mem _ hw))

include hl ha in
theorem ascii_writeMembers {ms : List (String × Json)}
    (h : ∀ m ∈ ms, Ascii (writeChars layout m.2)) : Ascii (writeMembers layout ms) := by
  induction ms with
  | nil =>
    rw [writeMembers]
    exact .cons (by decide) .nil
  | cons m ms ih =>
    rw [writeMembers, ha]
    exact (((hl.ascii_comma.append (ascii_writeText m.1)).append hl.ascii_colon).append
      (h m (by simp))).append (ih fun n hn => h n (List.mem_cons_of_mem _ hn))

include hl ha in
theorem ascii_object {members : List (String × Json)}
    (h : ∀ m ∈ members, Ascii (writeChars layout m.2)) :
    Ascii (writeChars layout (.object members)) := by
  cases members with
  | nil =>
    rw [writeChars]
    simp [Ascii]
  | cons m ms =>
    rw [writeChars, ha]
    exact .cons (by decide) ((((ascii_writeText m.1).append hl.ascii_colon).append
      (h m (by simp))).append
      (ascii_writeMembers hl ha fun n hn => h n (List.mem_cons_of_mem _ hn)))

include hl ha in
/-- Where only ASCII may stand, a legible value is written in ASCII. -/
theorem ascii_writeChars {levels : Nat} {v : Json} (h : Legible levels v) :
    Ascii (writeChars layout v) := by
  induction h with
  | null =>
    rw [writeChars]
    simp [Ascii]
  | bool b => cases b <;> rw [writeChars] <;> simp [Ascii]
  | @int _ n _ =>
    rw [writeChars]
    exact ascii_writeInt n
  | infinite negative =>
    rw [writeChars_infinite]
    cases negative <;> simp [Ascii]
  | text s =>
    rw [writeChars, ha]
    exact ascii_writeText s
  | @list _ items _ ih =>
    cases items with
    | nil =>
      rw [writeChars]
      simp [Ascii]
    | cons v vs =>
      rw [writeChars]
      exact .cons (by decide) ((ih v (by simp)).append
        (ascii_writeItems hl fun w hw => ih w (List.mem_cons_of_mem _ hw)))
  | object _ _ ih => exact ascii_object hl ha ih

include hl ha in
/-- **A legible value reads back from the bytes of its document.** -/
theorem readDocument_write {v : Json} (h : Legible maxDepth v) :
    readDocument (utf8 (writeChars layout v)) = .ok v :=
  readDocument_of_read (fun c hc => ascii_writeChars hl ha h c (List.mem_of_mem_take hc))
    (read_write hl h)

end layout

end Json

end Gatehouse
