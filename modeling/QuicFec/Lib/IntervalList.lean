import Mathlib

/-! # Lists of integer intervals

A list of intervals `[lo x, hi x]` stands for the set of integers they cover
(`Covers`).  Kept in increasing order, with every interval nonempty and a gap of at
least one integer between any two (`Ascending`), such a list is the canonical
representation of a finite set of integers by its maximal runs: no two intervals
overlap or touch.  The same list read from the back is in decreasing order with
the same gaps (`Descending`); code that walks such a list backwards is reasoned
about on the reversed list.

The intervals are values of any type, read through `lo` and `hi`.
-/

namespace IntervalList

variable {α : Type} (lo hi : α → Int)

/-- `n` lies in one of the intervals of `l`. -/
def Covers (l : List α) (n : Int) : Prop := ∃ x ∈ l, lo x ≤ n ∧ n ≤ hi x

/-- Nonempty intervals in increasing order, each at least two above the end of
every one before it. -/
structure Ascending (l : List α) : Prop where
  nonempty : ∀ x ∈ l, lo x ≤ hi x
  separated : l.Pairwise fun x y => hi x + 1 < lo y

/-- Nonempty intervals in decreasing order, each ending at least two below the start
of every one before it. -/
structure Descending (l : List α) : Prop where
  nonempty : ∀ x ∈ l, lo x ≤ hi x
  separated : l.Pairwise fun x y => hi y + 1 < lo x

variable {lo hi}

@[simp] theorem not_covers_nil (n : Int) : ¬ Covers lo hi [] n := by
  simp [Covers]

theorem covers_cons {x : α} {l : List α} {n : Int} :
    Covers lo hi (x :: l) n ↔ (lo x ≤ n ∧ n ≤ hi x) ∨ Covers lo hi l n := by
  simp [Covers]

theorem covers_reverse {l : List α} {n : Int} : Covers lo hi l.reverse n ↔ Covers lo hi l n := by
  simp [Covers]

theorem ascending_nil : Ascending lo hi ([] : List α) := ⟨by simp, List.Pairwise.nil⟩

theorem descending_nil : Descending lo hi ([] : List α) := ⟨by simp, List.Pairwise.nil⟩

theorem ascending_cons {x : α} {l : List α} :
    Ascending lo hi (x :: l) ↔ lo x ≤ hi x ∧ (∀ y ∈ l, hi x + 1 < lo y) ∧ Ascending lo hi l := by
  constructor
  · rintro ⟨hne, hsep⟩
    rw [List.pairwise_cons] at hsep
    exact ⟨hne x List.mem_cons_self, hsep.1,
      ⟨fun y hy => hne y (List.mem_cons_of_mem x hy), hsep.2⟩⟩
  · rintro ⟨hx, hbelow, hl⟩
    refine ⟨?_, List.pairwise_cons.2 ⟨hbelow, hl.separated⟩⟩
    intro y hy
    rcases List.mem_cons.1 hy with rfl | hy
    · exact hx
    · exact hl.nonempty y hy

theorem descending_cons {x : α} {l : List α} :
    Descending lo hi (x :: l) ↔ lo x ≤ hi x ∧ (∀ y ∈ l, hi y + 1 < lo x) ∧ Descending lo hi l := by
  constructor
  · rintro ⟨hne, hsep⟩
    rw [List.pairwise_cons] at hsep
    exact ⟨hne x List.mem_cons_self, hsep.1,
      ⟨fun y hy => hne y (List.mem_cons_of_mem x hy), hsep.2⟩⟩
  · rintro ⟨hx, habove, hl⟩
    refine ⟨?_, List.pairwise_cons.2 ⟨habove, hl.separated⟩⟩
    intro y hy
    rcases List.mem_cons.1 hy with rfl | hy
    · exact hx
    · exact hl.nonempty y hy

/-- Read from the back, an increasing list is a decreasing one. -/
theorem ascending_reverse {l : List α} : Ascending lo hi l.reverse ↔ Descending lo hi l := by
  constructor
  · rintro ⟨hne, hsep⟩
    exact ⟨fun x hx => hne x (List.mem_reverse.2 hx), List.pairwise_reverse.1 hsep⟩
  · rintro ⟨hne, hsep⟩
    exact ⟨fun x hx => hne x (List.mem_reverse.1 hx), List.pairwise_reverse.2 hsep⟩

/-- Consecutive intervals of an increasing list are separated by a gap. -/
theorem Ascending.isChain {l : List α} (h : Ascending lo hi l) :
    l.IsChain fun x y => hi x + 1 < lo y :=
  h.separated.isChain

end IntervalList
