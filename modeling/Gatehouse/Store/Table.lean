/-! # Tables

Rows in the order of their ids, no two of which clash. Main statements: placing a row that clashes
with none keeps both, and the rows afterwards are that row and the ones before. -/

namespace Gatehouse

/-- Rows in the order of their ids, no two of which have one id or clash. -/
structure Table (Row : Type) (id : Row → Int) (Clash : Row → Row → Prop) where
  rows : List Row
  ordered : rows.Pairwise fun r s => id r < id s
  distinct : rows.Pairwise fun r s => ¬Clash r s

namespace Table

variable {Row : Type} {id : Row → Int} {Clash : Row → Row → Prop}

def empty : Table Row id Clash := ⟨[], .nil, .nil⟩

/-- The id of a row that comes without one. -/
def nextId (t : Table Row id Clash) : Int :=
  match t.rows.getLast? with
  | none => 1
  | some r => id r + 1

/-- Puts a row in front of the first one with a greater id. -/
def place (id : Row → Int) (r : Row) : List Row → List Row
  | [] => [r]
  | s :: rest => if id s < id r then s :: place id r rest else r :: s :: rest

theorem mem_place {r x : Row} {l : List Row} : x ∈ place id r l ↔ x = r ∨ x ∈ l := by
  induction l with
  | nil => simp [place]
  | cons s rest ih =>
    simp only [place]
    split
    · simp [ih, or_left_comm]
    · simp

theorem ordered_place {r : Row} {l : List Row} (hl : l.Pairwise fun r s => id r < id s)
    (hr : ∀ s ∈ l, id s ≠ id r) : (place id r l).Pairwise fun r s => id r < id s := by
  induction l with
  | nil => simp [place]
  | cons s rest ih =>
    obtain ⟨hs, hrest⟩ := List.pairwise_cons.1 hl
    have hne := hr s (by simp)
    simp only [place]
    split
    · rename_i hlt
      refine List.pairwise_cons.2 ⟨fun x hx => ?_, ih hrest fun x hx => hr x (by simp [hx])⟩
      rcases mem_place.1 hx with rfl | hx
      · exact hlt
      · exact hs x hx
    · rename_i hge
      refine List.pairwise_cons.2 ⟨fun x hx => ?_, hl⟩
      rcases List.mem_cons.1 hx with rfl | hx
      · omega
      · have := hs x hx; omega

theorem distinct_place {r : Row} {l : List Row} (hl : l.Pairwise fun r s => ¬Clash r s)
    (hr : ∀ s ∈ l, ¬Clash s r ∧ ¬Clash r s) :
    (place id r l).Pairwise fun r s => ¬Clash r s := by
  induction l with
  | nil => simp [place]
  | cons s rest ih =>
    obtain ⟨hs, hrest⟩ := List.pairwise_cons.1 hl
    simp only [place]
    split
    · refine List.pairwise_cons.2 ⟨fun x hx => ?_, ih hrest fun x hx => hr x (by simp [hx])⟩
      rcases mem_place.1 hx with rfl | hx
      · exact (hr s (by simp)).1
      · exact hs x hx
    · exact List.pairwise_cons.2 ⟨fun x hx => (hr x hx).2, hl⟩

/-- Whether a row may join the table. -/
def Admits (t : Table Row id Clash) (r : Row) : Prop :=
  ∀ s ∈ t.rows, id s ≠ id r ∧ ¬Clash s r ∧ ¬Clash r s

instance [∀ r s, Decidable (Clash r s)] (t : Table Row id Clash) (r : Row) :
    Decidable (t.Admits r) :=
  inferInstanceAs (Decidable (∀ s ∈ t.rows, id s ≠ id r ∧ ¬Clash s r ∧ ¬Clash r s))

/-- The table with a row that it admits, in its place. -/
def insert (t : Table Row id Clash) (r : Row) (h : t.Admits r) : Table Row id Clash :=
  ⟨place id r t.rows, ordered_place t.ordered fun s hs => (h s hs).1,
    distinct_place t.distinct fun s hs => (h s hs).2⟩

/-- The table without the row of that id. -/
def erase (t : Table Row id Clash) (i : Int) : Table Row id Clash :=
  ⟨t.rows.filter fun r => id r ≠ i, t.ordered.filter _, t.distinct.filter _⟩

/-- The row of that id. -/
def find? (t : Table Row id Clash) (i : Int) : Option Row :=
  t.rows.find? fun r => id r = i

end Table

end Gatehouse
