import Gatehouse.Text.Quoted

/-! # Quoted literals read back

A literal is read character by character: its first character is the mark that ends it, and a
backslash begins an escape, which names a character by a letter or by its number. Main statements:
whatever a text holds, its literal ends where it should and reads back as the text
(`scanLiteral_write`, `read_literal`), and nothing hidden stands in it (`isPrintable_write`). Both
go by the forms in which a character can stand in a literal (`Form`). -/

namespace Gatehouse

namespace Text

/-- The control characters: those of ASCII and the block that follows it. -/
def isControl (n : Nat) : Bool := n < 0x20 || (0x7F ≤ n && n < 0xA0)

/-- A character that is shown as it is controls nothing. -/
theorem isControl_of_isPrintable {n : Nat} (h : isPrintable n = true) : isControl n = false := by
  unfold isPrintable at h
  split at h
  · have hlow : 0x20 ≤ n := of_decide_eq_true h
    simp only [isControl, Bool.or_eq_false_iff, Bool.and_eq_false_iff, decide_eq_false_iff_not]
    omega
  · -- The controls above ASCII all lie in the first of the hidden intervals.
    rename_i hhigh
    have hbeyond : ¬(0x7F ≤ n ∧ n ≤ 0xA0) := by
      intro hbetween
      have hhidden : isHidden n = true := by
        refine List.any_eq_true.2 ⟨hiddenOne, .head _, ?_⟩
        refine List.any_eq_true.2 ⟨(0x7F, 0xA0), .head _, ?_⟩
        simpa using hbetween
      rw [hhidden] at h
      cases h
    simp only [isControl, Bool.or_eq_false_iff, Bool.and_eq_false_iff, decide_eq_false_iff_not]
    omega

end Text

namespace Hex

theorem length_write (width n : Nat) : (write width n).length = width := by
  induction width generalizing n with
  | zero => rfl
  | succ width ih => rw [write, List.length_append, ih, List.length_singleton]

theorem isPrintable_digitChar : ∀ d, d < 16 →
    Text.isPrintable (Nat.digitChar d).toNat = true := by decide

theorem isPrintable_write (width n : Nat) : ∀ c ∈ write width n,
    Text.isPrintable c.toNat = true := by
  induction width generalizing n with
  | zero => simp [write]
  | succ width ih =>
    rw [write]
    refine List.forall_mem_append.2 ⟨ih _, List.forall_mem_singleton.2 ?_⟩
    exact isPrintable_digitChar _ (Nat.mod_lt n (by decide))

end Hex

namespace Quoted

open Text

/-! ### The reader -/

def isMark (c : Char) : Bool := c == '"' || c == '\''

/-- The character that a letter after a backslash stands for. -/
def shortEscape? : Char → Option Char
  | '"' => some '"'
  | '\'' => some '\''
  | '\\' => some '\\'
  | 'n' => some '\n'
  | 't' => some '\t'
  | 'r' => some '\r'
  | _ => none

/-- How many digits follow the first one after a letter that announces a number. -/
def furtherDigits? : Char → Option Nat
  | 'x' => some 1
  | 'u' => some 3
  | 'U' => some 7
  | _ => none

def char? (n : Nat) : Option Char :=
  if n.isValidChar then some (Char.ofNat n) else none

/-- Where the reader of a literal is. -/
inductive Place
  /-- Between two characters. -/
  | between
  /-- Right after a backslash. -/
  | escape
  /-- In a number, of which `value` has been read: so many digits follow the next one. -/
  | number (further value : Nat)

def putFirst (c : Char) (read : Option (List Char × List Char)) :
    Option (List Char × List Char) :=
  read.map fun (chars, left) => (c :: chars, left)

/-- The characters up to the mark that ends the literal, and what follows it. -/
def scan (mark : Char) : Place → List Char → Option (List Char × List Char)
  | _, [] => none
  | .between, c :: rest =>
    if c = mark then some ([], rest)
    else if c = '\\' then scan mark .escape rest
    else putFirst c (scan mark .between rest)
  | .escape, letter :: rest =>
    match furtherDigits? letter with
    | some further => scan mark (.number further 0) rest
    | none => (shortEscape? letter).bind fun c => putFirst c (scan mark .between rest)
  | .number further value, digit :: rest =>
    (Hex.value? digit).bind fun d =>
      match further with
      | further + 1 => scan mark (.number further (16 * value + d)) rest
      | 0 => (char? (16 * value + d)).bind fun c => putFirst c (scan mark .between rest)

/-- The text of the literal that stands first, and what follows the literal. -/
def scanLiteral : List Char → Option (List Char × List Char)
  | [] => none
  | mark :: rest => if isMark mark then scan mark .between rest else none

/-- The text that the whole of a literal stands for. -/
def read (literal : String) : Option String :=
  match scanLiteral literal.toList with
  | some (chars, []) => some (String.ofList chars)
  | _ => none

/-! ### Characters -/

/-- The forms in which a character stands in a literal. -/
inductive Form (mark : Char) : Char → List Char → Prop
  | plain {c : Char} (hmark : c ≠ mark) (hslash : c ≠ '\\') (h : isPrintable c.toNat = true) :
    Form mark c [c]
  | short {c letter : Char} (h : shortEscape? letter = some c) : Form mark c ['\\', letter]
  | number {c letter : Char} {further : Nat} (h : furtherDigits? letter = some further)
    (hfits : c.toNat < Nat.pow 16 (further + 1)) :
    Form mark c ('\\' :: letter :: Hex.write (further + 1) c.toNat)

theorem form_escape {mark : Char} (hmark : isMark mark = true) (c : Char) :
    Form mark c (escape mark c.toNat) := by
  have hwide : c.toNat < 0x100000000 := by
    have hvalid : c.toNat < 0xD800 ∨ (0xDFFF < c.toNat ∧ c.toNat < 0x110000) := c.valid
    omega
  have hself : c.toNat = mark.toNat ∨ c.toNat = 92 → shortEscape? c = some c := by
    simp only [isMark, Bool.or_eq_true, beq_iff_eq] at hmark
    rintro (h | h)
    · obtain rfl := Char.toNat_inj.1 h
      rcases hmark with rfl | rfl <;> rfl
    · obtain rfl : c = '\\' := Char.toNat_inj.1 h
      rfl
  have hshort : ∀ (letter : Char) (n : Nat), c.toNat = n →
      shortEscape? letter = some (Char.ofNat n) → Form mark c ['\\', letter] := by
    rintro letter _ rfl h
    rw [Char.ofNat_toNat] at h
    exact .short h
  unfold escape
  rw [Char.ofNat_toNat]
  split
  · exact .short (hself ‹_›)
  split
  · exact hshort 'n' _ ‹_› rfl
  split
  · exact hshort 't' _ ‹_› rfl
  split
  · exact hshort 'r' _ ‹_› rfl
  split
  · rename_i hother _ _ _ hprintable
    refine .plain ?_ ?_ hprintable
    · rintro rfl
      exact hother (.inl rfl)
    · rintro rfl
      exact hother (.inr rfl)
  split
  · exact @Form.number mark c 'x' 1 rfl ‹_›
  split
  · exact @Form.number mark c 'u' 3 rfl ‹_›
  · exact @Form.number mark c 'U' 7 rfl hwide

section reading

variable {mark c : Char} {rest chars left : List Char}

theorem char?_toNat (c : Char) : char? c.toNat = some c := by
  have hvalid : c.toNat.isValidChar := c.valid
  rw [char?, if_pos hvalid, Char.ofNat_toNat]

theorem of_shortEscape? {letter : Char} (h : shortEscape? letter = some c) :
    furtherDigits? letter = none ∧ isPrintable letter.toNat = true := by
  unfold shortEscape? at h
  split at h
  all_goals first | exact ⟨rfl, rfl⟩ | cases h

theorem isPrintable_of_furtherDigits? {letter : Char} {further : Nat}
    (h : furtherDigits? letter = some further) : isPrintable letter.toNat = true := by
  unfold furtherDigits? at h
  split at h
  all_goals first | rfl | cases h

theorem scan_escape (hslash : mark ≠ '\\') (rest : List Char) :
    scan mark .between ('\\' :: rest) = scan mark .escape rest := by
  rw [scan, if_neg hslash.symm, if_pos rfl]

/-- The digits of a number are read onto its value one by one; the last one completes it. -/
theorem scan_digits {digits : List Char} {further value : Nat}
    (hread : Hex.readOnto value digits = some c.toNat) (hlen : digits.length = further + 1)
    (h : scan mark .between rest = some (chars, left)) :
    scan mark (.number further value) (digits ++ rest) = some (c :: chars, left) := by
  induction digits generalizing further value with
  | nil => cases hlen
  | cons digit digits ih =>
    obtain ⟨d, hd, hdigits⟩ := Option.bind_eq_some_iff.1 hread
    have hlen : digits.length = further := Nat.succ.inj hlen
    rw [List.cons_append, scan, hd, Option.bind_some]
    cases further with
    | zero =>
      obtain rfl := List.eq_nil_of_length_eq_zero hlen
      have hvalue : 16 * value + d = c.toNat := Option.some.inj hdigits
      dsimp only
      rw [hvalue, char?_toNat, List.nil_append, h]
      rfl
    | succ further => exact ih hdigits hlen

/-- Whatever its form, a character is read as itself. -/
theorem Form.scan_append {form : List Char} (hform : Form mark c form) (hslash : mark ≠ '\\')
    (h : scan mark .between rest = some (chars, left)) :
    scan mark .between (form ++ rest) = some (c :: chars, left) := by
  cases hform with
  | plain hmark hother _ =>
    rw [List.singleton_append, scan, if_neg hmark, if_neg hother, h]
    rfl
  | short hletter =>
    rw [List.cons_append, List.singleton_append, scan_escape hslash, scan,
      (of_shortEscape? hletter).1, hletter]
    dsimp only
    rw [Option.bind_some, h]
    rfl
  | @number letter further hletter hfits =>
    have hread : Hex.readOnto 0 (Hex.write (further + 1) c.toNat) = some c.toNat :=
      Hex.read_write hfits
    rw [List.cons_append, List.cons_append, scan_escape hslash, scan, hletter]
    exact scan_digits hread (Hex.length_write _ _) h

theorem Form.printable {form : List Char} (hform : Form mark c form) :
    ∀ d ∈ form, isPrintable d.toNat = true := by
  cases hform with
  | plain _ _ h => exact List.forall_mem_singleton.2 h
  | short h =>
    exact List.forall_mem_cons.2 ⟨rfl, List.forall_mem_singleton.2 (of_shortEscape? h).2⟩
  | number h _ =>
    exact List.forall_mem_cons.2
      ⟨rfl, List.forall_mem_cons.2 ⟨isPrintable_of_furtherDigits? h, Hex.isPrintable_write _ _⟩⟩

end reading

/-! ### Literals -/

theorem isMark_mark (points : List Nat) : isMark (mark points) = true := by
  unfold mark
  split <;> rfl

theorem write_eq (s : List Char) : write s = mark (s.map Char.toNat) ::
    (s.flatMap (fun c => escape (mark (s.map Char.toNat)) c.toNat) ++
      [mark (s.map Char.toNat)]) := by
  rw [write, writePoints, List.flatMap_map]

theorem scan_flatMap {mark : Char} (hmark : isMark mark = true) (s rest : List Char) :
    scan mark .between (s.flatMap (fun c => escape mark c.toNat) ++ mark :: rest) =
      some (s, rest) := by
  have hslash : mark ≠ '\\' := by
    rintro rfl
    cases hmark
  induction s with
  | nil => rw [List.flatMap_nil, List.nil_append, scan, if_pos rfl]
  | cons c s ih =>
    rw [List.flatMap_cons, List.append_assoc]
    exact (form_escape hmark c).scan_append hslash ih

/-- A literal ends where it should, whatever follows it. -/
theorem scanLiteral_write (s rest : List Char) :
    scanLiteral (write s ++ rest) = some (s, rest) := by
  rw [write_eq, List.cons_append, List.append_assoc, List.singleton_append, scanLiteral,
    if_pos (isMark_mark _)]
  exact scan_flatMap (isMark_mark _) s rest

/-- **The literal of a text reads back as the text.** -/
theorem read_literal (s : String) : read (literal s) = some s := by
  have h := scanLiteral_write s.toList []
  rw [List.append_nil] at h
  unfold read literal
  rw [String.toList_ofList, h]
  dsimp only
  rw [String.ofList_toList]

/-- Nothing hidden stands in a literal. -/
theorem isPrintable_write (s : List Char) : ∀ c ∈ write s, isPrintable c.toNat = true := by
  have hmark : ∀ mark, isMark mark = true → isPrintable mark.toNat = true := by
    intro mark h
    simp only [isMark, Bool.or_eq_true, beq_iff_eq] at h
    rcases h with rfl | rfl <;> rfl
  rw [write_eq]
  refine List.forall_mem_cons.2 ⟨hmark _ (isMark_mark _), List.forall_mem_append.2
    ⟨fun d hd => ?_, List.forall_mem_singleton.2 (hmark _ (isMark_mark _))⟩⟩
  obtain ⟨c, -, hd⟩ := List.mem_flatMap.1 hd
  exact (form_escape (isMark_mark _) c).printable d hd

end Quoted

end Gatehouse
