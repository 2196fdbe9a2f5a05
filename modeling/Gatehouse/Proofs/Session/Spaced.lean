import Gatehouse.Proofs.Session.Segments
import Gatehouse.Proofs.Session.Stages
import Gatehouse.Text.Search

/-! # Texts that cannot be session tokens

A text is spaced if there is a blank between any two points of it, as it is in a statement that
lists the columns of a table. Then so is every piece of it (`Spaced.piece`), and no such piece is a
session token: what would be its payload cannot be decoded (`refused_of_spaced`). -/

namespace Gatehouse

namespace Text

/-- Between any two points there is a blank. -/
def Spaced (s : List Char) : Prop := ∀ a m b, s = a ++ '.' :: (m ++ '.' :: b) → ' ' ∈ m

theorem occursIn_iff {part s : List Char} : occursIn part s = true ↔ part <:+: s := by
  induction s with
  | nil => simp [occursIn]
  | cons c rest ih =>
    rw [occursIn, Bool.or_eq_true, List.isPrefixOf_iff_prefix, ih, List.infix_cons_iff]

theorem Spaced.piece {part s : List Char} (h : Spaced s) (hp : occursIn part s = true) :
    Spaced part := by
  obtain ⟨before, after, rfl⟩ := occursIn_iff.1 hp
  rintro a m b rfl
  exact h (before ++ a) m (b ++ after) (by simp)

/-- A text read from left to right; `near` says that there has been no blank since the last
point. -/
def isSpaced (near : Bool) : List Char → Bool
  | [] => true
  | c :: rest => if c = '.' then !near && isSpaced true rest else isSpaced (near && c != ' ') rest

theorem blank_of_isSpaced {m b : List Char} (h : isSpaced true (m ++ '.' :: b) = true) :
    ' ' ∈ m := by
  induction m with
  | nil => simp [isSpaced] at h
  | cons c m ih =>
    by_cases hpoint : c = '.'
    · simp [isSpaced, hpoint] at h
    · by_cases hblank : c = ' '
      · exact hblank ▸ List.mem_cons_self
      · simp only [List.cons_append, isSpaced, hpoint, if_false, bne_iff_ne.2 hblank,
          Bool.and_true] at h
        exact List.mem_cons_of_mem _ (ih h)

theorem isSpaced_after_point {near : Bool} {a t : List Char}
    (h : isSpaced near (a ++ '.' :: t) = true) : isSpaced true t = true := by
  induction a generalizing near with
  | nil =>
    simp only [List.nil_append, isSpaced, if_true, Bool.and_eq_true] at h
    exact h.2
  | cons c a ih =>
    by_cases hpoint : c = '.'
    · simp only [List.cons_append, isSpaced, hpoint, if_true, Bool.and_eq_true] at h
      exact ih h.2
    · simp only [List.cons_append, isSpaced, hpoint, if_false] at h
      exact ih h

theorem Spaced.of_isSpaced {s : List Char} (h : isSpaced false s = true) : Spaced s := by
  rintro a m b rfl
  exact blank_of_isSpaced (isSpaced_after_point h)

end Text

namespace Base64Url

theorem number?_of_mem {c : Char} (hc : value? c = none) {cs : List Char} (h : c ∈ cs) :
    number? cs = none := by
  have hnone : ∀ l : List Char,
      l.foldl (fun acc c => acc.bind fun n => (value? c).map fun d => 64 * n + d)
        (none : Option Nat) = none := by
    intro l
    induction l with
    | nil => rfl
    | cons d l ih => exact ih
  have hfold : ∀ acc : Option Nat,
      cs.foldl (fun acc c => acc.bind fun n => (value? c).map fun d => 64 * n + d) acc = none := by
    induction cs with
    | nil => cases h
    | cons d l ih =>
      intro acc
      rcases List.mem_cons.1 h with rfl | hl
      · have hstep : (acc.bind fun n => (value? c).map fun d => 64 * n + d) = none := by
          rw [hc]
          cases acc <;> rfl
        rw [List.foldl_cons, hstep, hnone]
      · exact ih hl _
  exact hfold (some 0)

/-- A character that is no digit spoils the text. -/
theorem decodeBare?_of_mem {c : Char} (hc : value? c = none) {cs : List Char} (h : c ∈ cs) :
    decodeBare? cs = none := by
  induction cs using decodeBare?.induct with
  | case1 => cases h
  | case2 x => rfl
  | case3 x y => rw [decodeBare?, number?_of_mem hc h]; rfl
  | case4 x y z => rw [decodeBare?, number?_of_mem hc h]; rfl
  | case5 x y z w rest ih =>
    rw [decodeBare?]
    rcases List.mem_append.1 (show c ∈ [x, y, z, w] ++ rest from h) with hfirst | hrest
    · rw [number?_of_mem hc hfirst]
      rfl
    · rw [ih hrest]
      cases number? [x, y, z, w] <;> rfl

/-- Padding takes no other character away. -/
theorem decode?_of_mem {c : Char} (hc : value? c = none) (hpad : c ≠ '=') {s : List Char}
    (h : c ∈ s) : decode? s = none := by
  have hbare : c ∈ (s.reverse.dropWhile (· == '=')).reverse := by
    rw [List.mem_reverse]
    have hmem : c ∈ s.reverse.takeWhile (· == '=') ++ s.reverse.dropWhile (· == '=') := by
      rw [List.takeWhile_append_dropWhile]
      exact List.mem_reverse.2 h
    rcases List.mem_append.1 hmem with htake | hdrop
    · exact absurd (by simpa using List.mem_takeWhile_imp htake) hpad
    · exact hdrop
  unfold decode?
  dsimp only
  rw [decodeBare?_of_mem hc h, decodeBare?_of_mem hc hbare]
  split
  · rfl
  · split <;> rfl

end Base64Url

namespace SessionToken

theorem eq_of_splitFirst {s before after : List Char} (h : splitFirst s = some (before, after)) :
    s = before ++ '.' :: after := by
  unfold splitFirst at h
  split at h
  · rename_i hpoint
    obtain ⟨rfl, rfl⟩ := Prod.mk.inj (Option.some.inj h)
    have hrest : ∃ t, s.dropWhile (· != '.') = '.' :: t := by
      cases e : s.dropWhile (· != '.') with
      | nil =>
        rw [List.dropWhile_eq_nil_iff] at e
        simpa using e '.' (by simpa using hpoint)
      | cons c t =>
        have hne : s.dropWhile (· != '.') ≠ [] := by simp [e]
        have hc := List.head_dropWhile_not (· != '.') hne
        simp only [e, List.head_cons, bne_eq_false_iff_eq] at hc
        exact ⟨t, by rw [hc]⟩
    obtain ⟨t, ht⟩ := hrest
    rw [ht, List.drop_one, List.tail_cons, ← ht, List.takeWhile_append_dropWhile]
  · cases h

theorem eq_of_splitLast {s before after : List Char} (h : splitLast s = some (before, after)) :
    s = before ++ '.' :: after := by
  obtain ⟨⟨x, y⟩, hsplit, he⟩ := Option.map_eq_some_iff.1 h
  obtain ⟨rfl, rfl⟩ := Prod.mk.inj he
  have hreverse := congrArg List.reverse (eq_of_splitFirst hsplit)
  simpa using hreverse

theorem eq_of_splitSegments? {s : List Char} {g : Segments} (h : splitSegments? s = some g) :
    s = g.header ++ '.' :: (g.payload ++ '.' :: g.signature) := by
  unfold splitSegments? at h
  simp only [Option.bind_eq_bind, Option.bind_eq_some_iff, Prod.exists] at h
  obtain ⟨input, signature, hlast, header, payload, hfirst, h⟩ := h
  obtain rfl := Option.some.inj h
  rw [eq_of_splitLast hlast, eq_of_splitFirst hfirst]
  simp

/-- The work ends with a fault of the token. -/
def IsRefused (x : Except Failure α) : Prop := ∃ fault, x = refuse fault

theorem Refuses.then_refused {x : Except Failure α} {next : α → Except Failure β}
    (hx : Refuses x) (hnext : ∀ a, IsRefused (next a)) : IsRefused (x >>= next) := by
  cases e : x with
  | error f =>
    obtain ⟨fault, rfl⟩ := hx f e
    exact ⟨fault, rfl⟩
  | ok a => exact hnext a

/-- **Pieces of statements are no tokens.** -/
theorem refused_of_spaced {token : String} (h : Text.Spaced token.toList) (cfg : SessionConfig)
    (now : Reading) : IsRefused (decode cfg token now) := by
  rw [decode_eq]
  have hsigned : IsRefused (signedClaims cfg token) := by
    unfold signedClaims
    cases hs : splitSegments? token.toList with
    | none => exact ⟨_, rfl⟩
    | some g =>
      have hblank : ' ' ∈ g.payload := h _ _ _ (eq_of_splitSegments? hs)
      have hpayload : bytesOf .payload g.payload = refuse (.padding .payload) := by
        unfold bytesOf
        rw [Base64Url.decode?_of_mem (by decide) (by decide) hblank]
      dsimp only
      unfold Segments.claims
      refine (refuses_bytesOf _ _).then_refused fun bytes => ?_
      refine (refuses_objectOf _ _).then_refused fun header => ?_
      rw [hpayload]
      cases isDetached header && !g.payload.isEmpty with
      | true => exact ⟨_, rfl⟩
      | false => exact ⟨_, rfl⟩
  obtain ⟨fault, hsigned⟩ := hsigned
  exact ⟨fault, by rw [hsigned]; rfl⟩

end SessionToken

end Gatehouse
