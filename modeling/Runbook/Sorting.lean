/-!
# Sorting

Sorting by a comparison that need not be an order.

* `insertionSort` moves each item of a list forward past those that it has to stand before, so that
  items of which neither has to stand before the other keep their order: `perm_insertionSort` says
  that it keeps the items;
* `Sorter` is a sort of which no more is known than a standard library says of its own;
* `Sorter.sortBy` sorts a list with it;
* `Sorter.insertion` sorts every list by insertion.
-/

namespace Runbook

variable {α : Type}

/-- Puts an item into a sorted list, given backwards, before the first that is not after it. -/
def insertBack (before : α → α → Bool) (x : α) : List α → List α
  | [] => [x]
  | y :: rest => if before x y then y :: insertBack before x rest else x :: y :: rest

/-- Sorts a list; an item moves forward past those that it has to stand before. -/
def insertionSort (before : α → α → Bool) (items : List α) : List α :=
  (items.foldl (fun sorted x => insertBack before x sorted) []).reverse

variable {before : α → α → Bool}

theorem perm_insertBack (x : α) (sorted : List α) :
    (insertBack before x sorted).Perm (x :: sorted) := by
  induction sorted with
  | nil => exact .refl _
  | cons y rest ih =>
    unfold insertBack
    split
    · exact (ih.cons y).trans (.swap x y rest)
    · exact .refl _

/-- Sorting keeps the items. -/
theorem perm_insertionSort (before : α → α → Bool) (items : List α) :
    (insertionSort before items).Perm items := by
  have hfold : ∀ sorted : List α,
      (items.foldl (fun sorted x => insertBack before x sorted) sorted).Perm (items ++ sorted) := by
    induction items with
    | nil => exact fun sorted => .refl sorted
    | cons x rest ih =>
      intro sorted
      have hput : (rest ++ insertBack before x sorted).Perm (rest ++ x :: sorted) :=
        (perm_insertBack x sorted).append_left rest
      exact ((ih (insertBack before x sorted)).trans hput).trans List.perm_middle
  have hsorted := hfold []
  rw [List.append_nil] at hsorted
  exact (List.reverse_perm _).trans hsorted

/-- By a comparison, the first of two items is less. -/
def lessBy (compare : α → α → Ordering) (a b : α) : Bool := (compare a b).isLT

/-- The most items of a list that is sorted by insertion whatever the comparison is. -/
def shortLength : Nat := 20

/-- A stable sort.  It goes by how the items at any two positions compare, and tells in which order
it puts the positions.  If the comparison is an order, the items are sorted, and those that compare
as equal keep their order; so a sort by insertion has the same result.  If it is none, the items of
a longer list end up in any order, or sorting them panics. -/
structure Sorter where
  /-- The positions in the order they are put into; none if sorting panics. -/
  arrange : {n : Nat} → (Fin n → Fin n → Ordering) → Option (List (Fin n))
  /-- No position is lost or made up. -/
  perm : ∀ {n : Nat} {compare : Fin n → Fin n → Ordering} {order : List (Fin n)},
    arrange compare = some order → order.Perm (List.finRange n)
  /-- By an order, and in short lists by any comparison, they are sorted like by insertion. -/
  sorts : ∀ {n : Nat} {compare : Fin n → Fin n → Ordering}, Std.TransCmp compare ∨ n ≤ shortLength →
    arrange compare = some (insertionSort (lessBy compare) (List.finRange n))

namespace Sorter

/-- Sorts as many items as there are positions. -/
def sortAt (sorter : Sorter) (compare : α → α → Ordering) {n : Nat} (item : Fin n → α) :
    Option (List α) :=
  (sorter.arrange fun i j => compare (item i) (item j)).map (·.map item)

/-- Sorts a list; there is no result if that panics. -/
def sortBy (sorter : Sorter) (compare : α → α → Ordering) (items : List α) : Option (List α) :=
  sorter.sortAt compare items.get

/-- Sorting by insertion, which never panics. -/
def insertion : Sorter where
  arrange compare := some (insertionSort (lessBy compare) (List.finRange _))
  perm h := by
    cases h
    exact perm_insertionSort _ _
  sorts _ := rfl

/-- Sorting may panic. -/
def Panics (sorter : Sorter) : Prop :=
  ∃ (n : Nat) (compare : Fin n → Fin n → Ordering), sorter.arrange compare = none

theorem panics_of_sortBy {sorter : Sorter} {compare : α → α → Ordering} {items : List α}
    (h : sorter.sortBy compare items = none) : sorter.Panics :=
  ⟨_, _, Option.map_eq_none_iff.1 h⟩

theorem not_panics_insertion : ¬ insertion.Panics := by
  rintro ⟨n, compare, h⟩
  cases h

end Sorter

end Runbook
