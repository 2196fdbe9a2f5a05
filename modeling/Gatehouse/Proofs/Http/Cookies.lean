import Mathlib.Data.List.TakeWhile
import Gatehouse.Http.Cookie
import Gatehouse.Http.Response

/-! # What is set is sent back

A client keeps of a `Set-Cookie` header the pair that stands in front of the attributes, and sends
it back in a `Cookie` header. Main statement: from this the value is read that was set
(`find?_sentBack`), for every legal name and every value that a header can carry. The reason is that
neither a name nor a value as it is written has a character that ends it, and that reading a value
between quotes undoes one escape after the other (`unescape_escape`). -/

namespace Gatehouse

namespace Text

theorem splitOn_of_not_mem {sep : Char} {s : List Char} (h : sep ∉ s) : splitOn sep s = [s] := by
  induction s with
  | nil => rfl
  | cons c rest ih =>
    obtain ⟨hc, hrest⟩ := List.ne_and_not_mem_of_not_mem_cons h
    rw [splitOn, if_neg (by simpa using hc.symm), ih hrest]

theorem dropWhile_eq_self {p : Char → Bool} {s : List Char} (h : ∀ c ∈ s.head?, p c = false) :
    s.dropWhile p = s := by
  cases s with
  | nil => rfl
  | cons c rest => rw [List.dropWhile_cons_of_neg (by simp [h c rfl])]

theorem strip_eq_self {s : List Char} (hfirst : ∀ c ∈ s.head?, isBlank c = false)
    (hlast : ∀ c ∈ s.getLast?, isBlank c = false) : strip s = s := by
  have hback : ∀ c ∈ s.reverse.head?, isBlank c = false := by rwa [List.head?_reverse]
  rw [strip, dropEnd, dropWhile_eq_self hfirst, dropWhile_eq_self hback, List.reverse_reverse]

end Text

namespace Cookie

open Text

/-- What a client sends back of a `Set-Cookie` header. -/
def sentBack (header : String) : String := String.ofList (header.toList.takeWhile (· != ';'))

/-! ### Characters -/

theorem toNat_of_isTokenChar {c : Char} (h : isTokenChar c = true) : c.toNat < 128 := by
  unfold isTokenChar at h
  rcases Bool.or_eq_true_iff.1 h with h | h
  · simp only [isAsciiAlnum, Percent.isAsciiAlnum, Bool.or_eq_true, Bool.and_eq_true,
      decide_eq_true_eq] at h
    omega
  · have hall : tokenChars.all (fun c => decide (c.toNat < 128)) = true := by decide
    exact of_decide_eq_true (List.all_eq_true.1 hall c (List.contains_iff_mem.1 h))

theorem isTokenChar_spec : ∀ n, n < 128 → isTokenChar (Char.ofNat n) = true →
    isBlank (Char.ofNat n) = false ∧ Char.ofNat n ≠ ';' ∧ Char.ofNat n ≠ '=' ∧
      Char.ofNat n ≠ '"' := by
  decide +kernel

theorem of_isTokenChar {c : Char} (h : isTokenChar c = true) :
    isBlank c = false ∧ c ≠ ';' ∧ c ≠ '=' ∧ c ≠ '"' := by
  have hspec := isTokenChar_spec c.toNat (toNat_of_isTokenChar h)
  rw [Char.ofNat_toNat] at hspec
  exact hspec h

theorem strip_tokens {s : List Char} (h : ∀ c ∈ s, isTokenChar c = true) : strip s = s :=
  strip_eq_self (fun c hc => (of_isTokenChar (h c (List.mem_of_mem_head? hc))).1)
    fun c hc => (of_isTokenChar (h c (List.mem_of_mem_getLast? hc))).1

/-! ### Escapes -/

theorem octal_digit : ∀ d, d < 8 → isOctal '7' (Nat.digitChar d) = true ∧
    octalValue (Nat.digitChar d) = d ∧ Nat.digitChar d ≠ ';' := by
  decide

theorem octal_first : ∀ d, d < 4 → isOctal '3' (Nat.digitChar d) = true := by decide

/-- A character that is neither plain nor escaped by a backslash is written in octal digits. -/
inductive Escape : Char → List Char → Prop
  | self {c : Char} (h : c ≠ '\\') (hend : c ≠ ';') : Escape c [c]
  | marked {c : Char} (h : c = '"' ∨ c = '\\') : Escape c ['\\', c]
  | octal {c : Char} (h : c.toNat < 256) : Escape c ['\\', Nat.digitChar (c.toNat / 64),
      Nat.digitChar (c.toNat / 8 % 8), Nat.digitChar (c.toNat % 8)]

theorem escape_escapeChar (c : Char) : Escape c (escapeChar c) := by
  unfold escapeChar
  split
  · rename_i h
    exact .marked (by simpa using h)
  · rename_i hmarked
    split
    · rename_i hplain
      refine .self (fun e => hmarked (by simp [e])) ?_
      rintro rfl
      exact absurd hplain (by decide)
    · rename_i hplain
      simp only [Bool.or_eq_true, decide_eq_true_eq, not_or] at hplain
      exact .octal (by omega)

theorem Escape.not_mem {c : Char} {cs : List Char} (h : Escape c cs) : ';' ∉ cs := by
  cases h with
  | self _ hend => simpa using hend.symm
  | marked h => rcases h with rfl | rfl <;> decide
  | octal h =>
    have hfirst := (octal_digit (c.toNat / 64) (by omega)).2.2
    have hsecond := (octal_digit (c.toNat / 8 % 8) (by omega)).2.2
    have hthird := (octal_digit (c.toNat % 8) (by omega)).2.2
    simp [hfirst.symm, hsecond.symm, hthird.symm]

theorem Escape.unescape {c : Char} {cs : List Char} (h : Escape c cs) (rest : List Char) :
    unescape (cs ++ rest) = c :: Cookie.unescape rest := by
  cases h with
  | self h _ =>
    rw [List.singleton_append, Cookie.unescape]
    all_goals
      intros
      simp_all
  | marked h =>
    have hoctal : isOctal '3' c = false := by rcases h with rfl | rfl <;> decide
    have hend : (c == '\n') = false := by rcases h with rfl | rfl <;> decide
    match rest with
    | [] => simp [Cookie.unescape, hend]
    | [a] => simp [Cookie.unescape, hend]
    | a :: b :: rest => simp [Cookie.unescape, hoctal, hend]
  | octal h =>
    have hfirst := octal_digit (c.toNat / 64) (by omega)
    have hsecond := octal_digit (c.toNat / 8 % 8) (by omega)
    have hthird := octal_digit (c.toNat % 8) (by omega)
    have hvalue : 64 * (c.toNat / 64) + 8 * (c.toNat / 8 % 8) + c.toNat % 8 = c.toNat := by omega
    simp only [List.cons_append, List.nil_append, Cookie.unescape]
    rw [if_pos (by simp [octal_first _ (show c.toNat / 64 < 4 by omega), hsecond.1, hthird.1]),
      hfirst.2.1, hsecond.2.1, hthird.2.1, hvalue, Char.ofNat_toNat]

/-- Reading undoes the escapes. -/
theorem unescape_escape (cs : List Char) : unescape (cs.flatMap escapeChar) = cs := by
  induction cs with
  | nil => rfl
  | cons c rest ih => rw [List.flatMap_cons, (escape_escapeChar c).unescape, ih]

/-! ### Values -/

/-- A value as it is written. -/
inductive Quoted : List Char → List Char → Prop
  | token {cs : List Char} (hne : cs ≠ []) (h : ∀ c ∈ cs, isTokenChar c = true) : Quoted cs cs
  | quoted (cs : List Char) : Quoted cs ('"' :: (cs.flatMap escapeChar ++ ['"']))

theorem quoted_quote (value : String) : Quoted value.toList (quote value).toList := by
  unfold quote
  dsimp only
  split
  · rename_i h
    simp only [Bool.and_eq_true, Bool.not_eq_true', List.isEmpty_eq_false_iff, List.all_eq_true]
      at h
    exact .token h.1 h.2
  · rw [String.toList_ofList]
    exact .quoted _

namespace Quoted

variable {value written : List Char} (h : Quoted value written)

include h

theorem not_mem : ';' ∉ written := by
  intro hmem
  cases h with
  | token _ h => exact (of_isTokenChar (h _ hmem)).2.1 rfl
  | quoted =>
    simp only [List.mem_cons, List.mem_append, List.mem_flatMap, List.not_mem_nil, or_false] at hmem
    rcases hmem with h | ⟨c, -, hc⟩ | h
    · cases h
    · exact (escape_escapeChar c).not_mem hc
    · cases h

theorem strip : strip written = written := by
  cases h with
  | token _ h => exact strip_tokens h
  | quoted =>
    refine strip_eq_self (fun c hc => ?_) fun c hc => ?_
    · obtain rfl := Option.some.inj hc
      decide
    · rw [← List.cons_append, List.getLast?_concat] at hc
      obtain rfl := Option.some.inj hc
      decide

theorem unquote : unquote written = value := by
  cases h with
  | token hne h =>
    cases value with
    | nil => exact absurd rfl hne
    | cons c rest =>
      have hc : c ≠ '"' := (of_isTokenChar (h c (List.mem_cons_self ..))).2.2.2
      unfold Cookie.unquote
      split
      · rename_i heq
        exact absurd (List.cons.inj heq).1 hc
      · rfl
  | quoted =>
    rw [Cookie.unquote, if_pos (by simp), List.dropLast_concat, unescape_escape]

end Quoted

/-! ### Headers -/

variable {name value header : String} {maxAge : Option Nat}

theorem of_isLegalName (h : isLegalName name = true) :
    name.toList ≠ [] ∧ ∀ c ∈ name.toList, isTokenChar c = true := by
  simp only [isLegalName, Bool.and_eq_true, Bool.not_eq_true', List.all_eq_true] at h
  refine ⟨fun hnil => ?_, h.1.2⟩
  rw [String.toList_eq_nil_iff.1 hnil] at h
  exact absurd h.1.1 (by decide)

/-- The attributes of a cookie, each behind a semicolon. -/
def attributes (maxAge : Option Nat) : String :=
  "; HttpOnly" ++ (match maxAge with | some n => "; Max-Age=" ++ toString n | none => "") ++
    "; Path=/; SameSite=lax"

/-- A character that a header can hold. -/
def isNarrow (c : Char) : Bool := c.toNat < 256

theorem setHeader_eq (hlegal : isLegalName name = true) (value : String) (maxAge : Option Nat) :
    setHeader name value maxAge =
      let header := name ++ "=" ++ quote value ++ attributes maxAge
      if header.toList.all isNarrow then .ok header else .error .unencodable := by
  unfold setHeader attributes
  rw [if_neg (by simp [hlegal])]
  simp only [String.append_assoc]
  rfl

theorem setHeader_ok (h : setHeader name value maxAge = .ok header) :
    isLegalName name = true ∧ header = name ++ "=" ++ quote value ++ attributes maxAge := by
  have hlegal : isLegalName name = true := by
    by_contra hlegal
    unfold setHeader at h
    rw [if_pos (by simp [hlegal])] at h
    cases h
  refine ⟨hlegal, ?_⟩
  rw [setHeader_eq hlegal] at h
  dsimp only at h
  split at h
  · exact (Except.ok.inj h).symm
  · cases h

/-- A cookie is set if its value fits a header. -/
theorem setHeader_of_narrow (hlegal : isLegalName name = true)
    (hvalue : (quote value).toList.all isNarrow = true)
    (hattributes : (attributes maxAge).toList.all isNarrow = true) :
    ∃ header, setHeader name value maxAge = .ok header := by
  obtain ⟨-, hname⟩ := of_isLegalName hlegal
  have hnarrow : name.toList.all isNarrow = true := by
    refine List.all_eq_true.2 fun c hc => decide_eq_true ?_
    have := toNat_of_isTokenChar (hname c hc)
    omega
  refine ⟨_, (setHeader_eq hlegal value maxAge).trans (if_pos ?_)⟩
  simp only [String.toList_append, List.all_append, hnarrow, hvalue, hattributes, Bool.and_true,
    Bool.true_and]
  rfl

theorem sentBack_setHeader (h : setHeader name value maxAge = .ok header) :
    (sentBack header).toList = name.toList ++ '=' :: (quote value).toList := by
  obtain ⟨hlegal, rfl⟩ := setHeader_ok h
  obtain ⟨-, hname⟩ := of_isLegalName hlegal
  have hpair : ∀ c ∈ name.toList ++ '=' :: (quote value).toList, (c != ';') = true := by
    intro c hc
    rw [bne_iff_ne]
    rintro rfl
    rcases List.mem_append.1 hc with hc | hc
    · exact (of_isTokenChar (hname _ hc)).2.1 rfl
    · rcases List.mem_cons.1 hc with hc | hc
      · cases hc
      · exact (quoted_quote value).not_mem hc
  have hheader : (name ++ "=" ++ quote value ++ attributes maxAge).toList =
      (name.toList ++ '=' :: (quote value).toList) ++ ';' :: (attributes maxAge).toList.tail := by
    have hattributes : (attributes maxAge).toList = ';' :: (attributes maxAge).toList.tail := by
      unfold attributes
      rw [String.append_assoc, String.toList_append]
      rfl
    have hequals : "=".toList = ['='] := rfl
    rw [List.append_assoc, List.cons_append, ← hattributes]
    simp only [String.toList_append, hequals, List.append_assoc, List.cons_append,
      List.nil_append]
  rw [sentBack, String.toList_ofList, hheader, List.takeWhile_append_of_pos hpair,
    List.takeWhile_cons_of_neg (by simp), List.append_nil]

theorem readPair_pair (hlegal : isLegalName name = true) (value : String) :
    readPair (name.toList ++ '=' :: (quote value).toList) = some (name, value) := by
  obtain ⟨hne, hname⟩ := of_isLegalName hlegal
  have hquoted := quoted_quote value
  have hkeep : ∀ c ∈ name.toList, (c != '=') = true := fun c hc =>
    bne_iff_ne.2 (of_isTokenChar (hname c hc)).2.2.1
  unfold readPair
  rw [if_pos (by simp), List.takeWhile_append_of_pos hkeep, List.dropWhile_append_of_pos hkeep,
    List.takeWhile_cons_of_neg (by simp), List.dropWhile_cons_of_neg (by simp), List.append_nil]
  dsimp only
  rw [List.drop_one, List.tail_cons, strip_tokens hname, hquoted.strip,
    hquoted.unquote, if_neg (by simp [hne]), String.ofList_toList, String.ofList_toList]

/-- **What is set is read again**, once it has been sent back. -/
theorem find?_sentBack (h : setHeader name value maxAge = .ok header) :
    find? [sentBack header] name = some value := by
  obtain ⟨hlegal, -⟩ := setHeader_ok h
  have hpair := readPair_pair hlegal value
  have hwhole : splitOn ';' (sentBack header).toList = [(sentBack header).toList] :=
    splitOn_of_not_mem fun hmem => by
      rw [sentBack, String.toList_ofList] at hmem
      simpa using List.mem_takeWhile_imp hmem
  rw [find?, List.flatMap_singleton, readHeader, hwhole, sentBack_setHeader h]
  simp [hpair]

end Cookie

/-! ### Cookies of a response -/

namespace Response

/-- The cookies that a response sets. -/
def cookies (a : Response) : List String :=
  (a.headers.filter fun h => h.1 == "set-cookie").map Prod.snd

theorem cookies_setCookie (a : Response) (cookie : String) :
    (a.withHeader "set-cookie" cookie).cookies = a.cookies ++ [cookie] := by
  simp [cookies, withHeader]

theorem cookies_withHeader (a : Response) {name : String} (value : String)
    (h : name ≠ "set-cookie") : (a.withHeader name value).cookies = a.cookies := by
  simp [cookies, withHeader, h]

theorem cookies_plain (status : Nat) (body : String) : (plain status body).cookies = [] := by
  simp [cookies, plain]

theorem cookies_json (status : Nat) (body : Json) : (json status body).cookies = [] := by
  simp [cookies, json, jsonText]

end Response

end Gatehouse
