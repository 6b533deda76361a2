import Mathlib.Data.List.Basic
import Mathlib.Data.List.Induction
import Runbook.Loop.Items

/-!
# Sorted items

Sorting keeps the items, puts them in order, and keeps the order of those that need not change
places.

* `StablySorted` says this of two lists, and `stablySorted_insertionSort` of sorting by insertion,
  by induction on the items from the last one on, as they are put in;
* `InOneRow` says that being in order is transitive on some items, and `StandardSorted` what comes
  of any sort: `Sorter.standardSorted`;
* `Loop.precedes` is the order of items by the value at a path, and `Key.swap_compareIn` says that
  it is the reverse from the other side;
* `Loop.standardSorted_sortItems` is the sorting of items by it.

The order of keys need not be transitive, since numbers and other texts can go around in a circle.
So `StablySorted.rising` has that as a condition, which the other two parts do without, and a sort
that is given more than a few such items may do anything with them but lose one.
-/

namespace Runbook

variable {α β : Type} {before : α → α → Bool}

/-- Being in order is transitive on some items. -/
def InOneRow (before : α → α → Bool) (items : List α) : Prop :=
  ∀ a ∈ items, ∀ b ∈ items, ∀ c ∈ items,
    before b a = false → before c b = false → before c a = false

/-- A list is sorted by which items have to stand before which, and nothing else is changed. -/
structure StablySorted (before : α → α → Bool) (items sorted : List α) : Prop where
  /-- The items are the same. -/
  perm : sorted.Perm items
  /-- Items that are in order already stay in this order. -/
  stable : ∀ part : List α, part.Pairwise (fun a b => before b a = false) →
    part.Sublist items → part.Sublist sorted
  /-- All items are in order, if being in order is transitive on them. -/
  rising : InOneRow before items → sorted.Pairwise (fun a b => before b a = false)

/-- What came of sorting a list; there may be no result. -/
structure StandardSorted (before : α → α → Bool) (items : List α) (sorted? : Option (List α)) :
    Prop where
  /-- If there is a result, the items are the same. -/
  perm : ∀ sorted, sorted? = some sorted → sorted.Perm items
  /-- There is one, and the items are sorted, if being in order is transitive on them, or they are
  few. -/
  sorts : InOneRow before items ∨ items.length ≤ shortLength →
    ∃ sorted, sorted? = some sorted ∧ StablySorted before items sorted

/-! ## Putting in one item -/

theorem sublist_insertBack (x : α) (sorted : List α) :
    sorted.Sublist (insertBack before x sorted) := by
  induction sorted with
  | nil => exact List.nil_sublist _
  | cons y rest ih =>
    unfold insertBack
    split
    · exact ih.cons_cons y
    · exact List.sublist_cons_self x _

/-- An item does not move past those that it need not stand before. -/
theorem cons_sublist_insertBack {x : α} {part sorted : List α} (hsub : part.Sublist sorted)
    (hpart : ∀ a ∈ part, before x a = false) :
    (x :: part).Sublist (insertBack before x sorted) := by
  induction sorted with
  | nil =>
    rw [List.sublist_nil.1 hsub]
    exact .refl _
  | cons y rest ih =>
    unfold insertBack
    split
    · next hmoves =>
      rcases List.sublist_cons_iff.1 hsub with hrest | ⟨part', rfl, -⟩
      · exact (ih hrest).cons y
      · rw [hpart y List.mem_cons_self] at hmoves
        cases hmoves
    · exact hsub.cons_cons x

/-- An item that is put into a list in order finds its place. -/
theorem pairwise_insertBack {x : α} {sorted : List α}
    (hasymm : ∀ a b, before a b = true → before b a = false)
    (htrans : ∀ a ∈ sorted, ∀ b ∈ sorted,
      before b a = false → before x b = false → before x a = false)
    (h : sorted.Pairwise (fun b a => before b a = false)) :
    (insertBack before x sorted).Pairwise (fun b a => before b a = false) := by
  induction sorted with
  | nil => exact List.pairwise_singleton _ _
  | cons y rest ih =>
    obtain ⟨hy, hrest⟩ := List.pairwise_cons.1 h
    unfold insertBack
    split
    · next hmoves =>
      refine List.pairwise_cons.2 ⟨fun a ha => ?_, ih (fun a ha b hb =>
        htrans a (List.mem_cons_of_mem y ha) b (List.mem_cons_of_mem y hb)) hrest⟩
      rcases List.mem_cons.1 ((perm_insertBack x rest).mem_iff.1 ha) with rfl | ha
      · exact hasymm _ _ hmoves
      · exact hy a ha
    · next hstays =>
      have hstays : before x y = false := Bool.eq_false_iff.2 hstays
      refine List.pairwise_cons.2 ⟨fun a ha => ?_, h⟩
      rcases List.mem_cons.1 ha with rfl | ha'
      · exact hstays
      · exact htrans a ha y List.mem_cons_self (hy a ha') hstays

/-- Items with what they are sorted by are put in like that by which they are sorted. -/
theorem insertBack_map (f : β → α) (x : β) (sorted : List β) :
    insertBack before (f x) (sorted.map f) =
      (insertBack (fun a b => before (f a) (f b)) x sorted).map f := by
  induction sorted with
  | nil => rfl
  | cons y rest ih =>
    rw [List.map_cons]
    unfold insertBack
    rw [ih]
    split <;> rfl

/-! ## Sorting -/

theorem insertionSort_concat (before : α → α → Bool) (items : List α) (x : α) :
    insertionSort before (items ++ [x]) =
      (insertBack before x (insertionSort before items).reverse).reverse := by
  simp only [insertionSort, List.foldl_append, List.foldl_cons, List.foldl_nil,
    List.reverse_reverse]

theorem sublist_insertionSort {items part : List α}
    (hpart : part.Pairwise (fun a b => before b a = false)) (hsub : part.Sublist items) :
    part.Sublist (insertionSort before items) := by
  induction items using List.reverseRecOn generalizing part with
  | nil => exact hsub
  | append_singleton items x ih =>
    rw [insertionSort_concat, ← List.reverse_sublist, List.reverse_reverse]
    obtain ⟨front, back, rfl, hfront, hback⟩ := List.sublist_append_iff.1 hsub
    obtain ⟨hordered, -, hbefore⟩ := List.pairwise_append.1 hpart
    have hin : front.reverse.Sublist (insertionSort before items).reverse :=
      (ih hordered hfront).reverse
    rcases List.sublist_singleton.1 hback with rfl | rfl
    · rw [List.append_nil]
      exact hin.trans (sublist_insertBack x _)
    · rw [List.reverse_append]
      exact cons_sublist_insertBack hin fun a ha =>
        hbefore a (List.mem_reverse.1 ha) x (List.mem_singleton_self x)

theorem pairwise_insertionSort {items : List α}
    (hasymm : ∀ a b, before a b = true → before b a = false) (htrans : InOneRow before items) :
    (insertionSort before items).Pairwise (fun a b => before b a = false) := by
  induction items using List.reverseRecOn with
  | nil => exact .nil
  | append_singleton items x ih =>
    have hmem {a : α} (ha : a ∈ (insertionSort before items).reverse) : a ∈ items ++ [x] :=
      List.mem_append_left _ ((perm_insertionSort before items).mem_iff.1 (List.mem_reverse.1 ha))
    rw [insertionSort_concat, List.pairwise_reverse]
    refine pairwise_insertBack hasymm (fun a ha b hb => htrans a (hmem ha) b (hmem hb) x ?_) ?_
    · exact List.mem_append_right _ (List.mem_singleton_self x)
    · rw [List.pairwise_reverse]
      exact ih fun a ha b hb c hc => htrans a (List.mem_append_left _ ha) b
        (List.mem_append_left _ hb) c (List.mem_append_left _ hc)

/-- Sorting by what has to stand before what is stable. -/
theorem stablySorted_insertionSort (hasymm : ∀ a b, before a b = true → before b a = false)
    (items : List α) : StablySorted before items (insertionSort before items) where
  perm := perm_insertionSort before items
  stable _ := sublist_insertionSort
  rising := pairwise_insertionSort hasymm

theorem insertionSort_map (f : β → α) (items : List β) :
    insertionSort before (items.map f) =
      (insertionSort (fun a b => before (f a) (f b)) items).map f := by
  induction items using List.reverseRecOn with
  | nil => rfl
  | append_singleton items x ih =>
    rw [List.map_append, List.map_singleton, insertionSort_concat, insertionSort_concat, ih,
      ← List.map_reverse, insertBack_map, List.map_reverse]

/-! ## Any sort -/

namespace Sorter

variable (sorter : Sorter) {compare : α → α → Ordering} {items : List α}

theorem lessBy_asymm (hswap : ∀ a b, (compare a b).swap = compare b a) (a b : α)
    (h : lessBy compare a b = true) : lessBy compare b a = false := by
  unfold lessBy at h ⊢
  rw [← hswap]
  revert h
  cases compare a b <;> decide

theorem lessBy_eq_false (hswap : ∀ a b, (compare a b).swap = compare b a) {a b : α} :
    lessBy compare b a = false ↔ (compare a b).isLE := by
  unfold lessBy
  rw [← hswap]
  cases compare a b <;> decide

/-- Items in one row are compared by an order. -/
theorem transCmp_of_inOneRow (hswap : ∀ a b, (compare a b).swap = compare b a)
    (h : InOneRow (lessBy compare) items) :
    Std.TransCmp fun i j => compare (items.get i) (items.get j) where
  eq_swap := (hswap _ _).symm
  isLE_trans {i j k} hij hjk := by
    rw [← lessBy_eq_false hswap] at hij hjk ⊢
    exact h _ (List.get_mem items i) _ (List.get_mem items j) _ (List.get_mem items k) hij hjk

/-- Where a sort is known to sort, it sorts like by insertion. -/
theorem sortBy_eq (hswap : ∀ a b, (compare a b).swap = compare b a)
    (h : InOneRow (lessBy compare) items ∨ items.length ≤ shortLength) :
    sorter.sortBy compare items = some (insertionSort (lessBy compare) items) := by
  have hsorts := sorter.sorts (h.imp_left (transCmp_of_inOneRow hswap))
  have hitems : insertionSort (lessBy compare) ((List.finRange items.length).map items.get) = _ :=
    insertionSort_map items.get (List.finRange items.length)
  rw [List.map_get_finRange] at hitems
  unfold sortBy sortAt
  rw [hsorts, hitems]
  rfl

/-- What comes of a sort. -/
theorem standardSorted (hswap : ∀ a b, (compare a b).swap = compare b a) (items : List α) :
    StandardSorted (lessBy compare) items (sorter.sortBy compare items) where
  perm sorted h := by
    obtain ⟨order, horder, rfl⟩ := Option.map_eq_some_iff.1 h
    have hperm := (sorter.perm horder).map items.get
    rwa [List.map_get_finRange] at hperm
  sorts h := ⟨_, sorter.sortBy_eq hswap h, stablySorted_insertionSort (lessBy_asymm hswap) items⟩

end Sorter

/-! ## Keys -/

namespace Loop

theorem swap_compareNumbers (x y : Decimal.Reading) :
    (compareNumbers x y).swap = compareNumbers y x := by
  cases x with
  | nan => cases y <;> rfl
  | finite x =>
    cases y with
    | nan => rfl
    | finite y => exact Binary64.compare_swap x y
    | infinite negative => cases negative <;> rfl
  | infinite a =>
    cases y with
    | nan => rfl
    | finite y => cases a <;> rfl
    | infinite b => cases a <;> cases b <;> rfl

theorem swap_compareTexts (a b : String) : (compareTexts a b).swap = compareTexts b a := by
  unfold compareTexts
  rcases Std.lt_trichotomy a b with hlt | rfl | hgt
  · have hne : b ≠ a := fun h => String.lt_irrefl a (h ▸ hlt)
    rw [if_pos hlt, if_neg (String.lt_asymm hlt), if_neg hne]
    rfl
  · rw [if_neg (String.lt_irrefl a), if_pos rfl]
    rfl
  · have hne : a ≠ b := fun h => String.lt_irrefl b (h ▸ hgt)
    rw [if_neg (String.lt_asymm hgt), if_neg hne, if_pos hgt]
    rfl

/-- From the other side the order of two keys is the reverse. -/
theorem Key.swap_compareIn (order : SortOrder) (a b : Key) :
    (a.compareIn order b).swap = b.compareIn order a := by
  have hcompare : (a.compare b).swap = b.compare a := by
    unfold Key.compare
    cases a.number with
    | none => cases b.number <;> exact swap_compareTexts _ _
    | some x =>
      cases b.number with
      | none => exact swap_compareTexts _ _
      | some y => exact swap_compareNumbers x y
  cases order with
  | ascending => exact hcompare
  | descending =>
    show (a.compare b).swap.swap = (b.compare a).swap
    rw [hcompare]

/-! ## Items -/

theorem swap_compareAt (path : String) (order : SortOrder) (a b : Value) :
    (compareAt path order a b).swap = compareAt path order b a := Key.swap_compareIn order _ _

/-- An item has to stand before another when they are sorted by the value at a path. -/
def precedes (path : String) (order : SortOrder) (a b : Value) : Bool :=
  (compareAt path order a b).isLT

/-- What comes of sorting items by the value at a path. -/
theorem standardSorted_sortItems (sorter : Sorter) (path : String) (order : SortOrder)
    (items : List Value) :
    StandardSorted (precedes path order) items (sortItems sorter (some path) order items) :=
  sorter.standardSorted (swap_compareAt path order) items

end Loop

end Runbook
