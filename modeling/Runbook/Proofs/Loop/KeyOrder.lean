import Mathlib
import Runbook.Proofs.Loop.Sorted

/-!
# The order of keys

Items are sorted by keys.  Two keys that are numbers compare as numbers and any other two as texts.

Where the keys of all items are numbers, or none is one, sorting puts the items into the order of
their keys:

* `Loop.Extended` are the numbers that a key can be, with the two infinities;
* `Loop.isLE_compareNumbers` and `Loop.isLE_compareTexts` say that keys of one kind compare as
  numbers and as texts do;
* `SortedBy` says of two lists that the one is the other, sorted by a key: the items are the same,
  the keys never fall (or never rise), and items with one key stand in the order they stood in;
  `StablySorted.sortedBy` gets that from a stable sort whose order is that of the key;
* `Loop.sortItems_uniform` is the result, for both kinds of keys, any path and either order.

Keys of both kinds can go around in a circle: `9` is before `10`, `10` before `2a`, and `2a` before
`9`.  And a NaN is equal to all numbers.

* `Loop.Key.Transitive` says of some keys that they stand in one row, and `Loop.Key.Consistent` what
  is asked of numbers and other texts for that;
* `Loop.Key.Transitive.sortsInOrder` and `Loop.transitive_of_sortsInOrder` say that all lists of
  some items are sorted exactly if their keys stand in one row: otherwise three of them are left as
  they are in the wrong order;
* `Loop.keyOrder_lawful` is the result, and `Loop.keys_go_around` has a circle, and a NaN between two
  numbers.
-/

namespace Runbook

/-! ## Sorted by a key -/

/-- Two keys stand in the order that is asked for. -/
def SortOrder.InOrder {κ : Type} [LE κ] : SortOrder → κ → κ → Prop
  | .ascending, a, b => a ≤ b
  | .descending, a, b => b ≤ a

variable {α κ : Type}

/-- A list is sorted by a key, and items with the same key keep their order. -/
structure SortedBy [LE κ] [DecidableEq κ] (key : α → κ) (order : SortOrder)
    (items sorted : List α) : Prop where
  /-- The items are the same. -/
  perm : sorted.Perm items
  /-- The keys are in order. -/
  rising : sorted.Pairwise (fun a b => order.InOrder (key a) (key b))
  /-- The items with one key stand in the order they stood in. -/
  stable : ∀ k, sorted.filter (fun a => decide (key a = k)) =
    items.filter (fun a => decide (key a = k))

theorem SortOrder.inOrder_refl [Preorder κ] (order : SortOrder) (a : κ) : order.InOrder a a := by
  cases order <;> exact le_rfl

theorem SortOrder.InOrder.trans [Preorder κ] {order : SortOrder} {a b c : κ}
    (hab : order.InOrder a b) (hbc : order.InOrder b c) : order.InOrder a c := by
  cases order with
  | ascending => exact le_trans hab hbc
  | descending => exact le_trans hbc hab

section ByKey

variable [Preorder κ] {before : α → α → Bool} {key : α → κ} {order : SortOrder}
  {items sorted : List α}
  (hbefore : ∀ a ∈ items, ∀ b ∈ items, before b a = false ↔ order.InOrder (key a) (key b))
include hbefore

/-- Items that stand in the order of a key stand in one row. -/
theorem inOneRow_of_key : InOneRow before items := by
  intro a ha b hb c hc hab hbc
  have hac := ((hbefore a ha b hb).1 hab).trans ((hbefore b hb c hc).1 hbc)
  exact (hbefore a ha c hc).2 hac

/-- A stable sort by the order of a key sorts by the key. -/
theorem StablySorted.sortedBy [DecidableEq κ] (h : StablySorted before items sorted) :
    SortedBy key order items sorted where
  perm := h.perm
  rising := (h.rising (inOneRow_of_key hbefore)).imp_of_mem fun ha hb hab =>
    (hbefore _ (h.perm.mem_iff.1 ha) _ (h.perm.mem_iff.1 hb)).1 hab
  stable k := by
    have hpart : (items.filter fun a => decide (key a = k)).Pairwise
        (fun a b => before b a = false) := by
      refine List.pairwise_of_forall_mem_list fun a ha b hb => ?_
      obtain ⟨ha, hka⟩ := List.mem_filter.1 ha
      obtain ⟨hb, hkb⟩ := List.mem_filter.1 hb
      rw [hbefore a ha b hb, of_decide_eq_true hka, of_decide_eq_true hkb]
      exact order.inOrder_refl k
    -- the items with the key are a part of the sorted list, and all of that part
    have hsub := (h.stable _ hpart List.filter_sublist).filter (fun a => decide (key a = k))
    rw [List.filter_filter] at hsub
    simp only [Bool.and_self] at hsub
    exact (hsub.eq_of_length (h.perm.filter _).length_eq.symm).symm

/-- So does any sort. -/
theorem StandardSorted.sortedBy [DecidableEq κ] {sorted? : Option (List α)}
    (h : StandardSorted before items sorted?) :
    ∃ sorted, sorted? = some sorted ∧ SortedBy key order items sorted := by
  obtain ⟨sorted, hsorted, hstably⟩ := h.sorts (.inl (inOneRow_of_key hbefore))
  exact ⟨sorted, hsorted, hstably.sortedBy hbefore⟩

end ByKey

/-! ## The two kinds of keys -/

namespace Loop

/-- The numbers, with an infinity at either end. -/
abbrev Extended := WithBot (WithTop Int)

/-- The number that was read, in units of the smallest positive double; a NaN is none. -/
def extended? : Decimal.Reading → Option Extended
  | .finite x => some (x.toUnits : WithTop Int)
  | .infinite true => some ⊥
  | .infinite false => some ⊤
  | .nan => none

variable {x y : Decimal.Reading} {a b : Extended}

theorem bot_lt_finite (x : Binary64) : (⊥ : Extended) < (x.toUnits : WithTop Int) :=
  WithBot.bot_lt_coe _

theorem finite_lt_top (x : Binary64) : ((x.toUnits : WithTop Int) : Extended) < ⊤ :=
  WithBot.coe_lt_coe.2 (WithTop.coe_lt_top _)

/-- Numbers are told apart by how large they are. -/
theorem compareNumbers_eq_lt (hx : extended? x = some a) (hy : extended? y = some b) :
    compareNumbers x y = .lt ↔ a < b := by
  cases x with
  | nan => cases hx
  | finite x =>
    cases hx
    cases y with
    | nan => cases hy
    | finite y =>
      cases hy
      rw [WithBot.coe_lt_coe, WithTop.coe_lt_coe]
      exact Int.compare_eq_lt
    | infinite negative =>
      cases negative <;> cases hy
      · exact iff_of_true rfl (finite_lt_top x)
      · exact iff_of_false (by simp [compareNumbers]) (bot_lt_finite x).asymm
  | infinite negative =>
    cases y with
    | nan => cases hy
    | finite y =>
      cases hy
      cases negative <;> cases hx
      · exact iff_of_false (by simp [compareNumbers]) (finite_lt_top y).asymm
      · exact iff_of_true rfl (bot_lt_finite y)
    | infinite negative' => cases negative <;> cases hx <;> cases negative' <;> cases hy <;> decide

/-- Numbers stand in the order of how large they are. -/
theorem isLE_compareNumbers (hx : extended? x = some a) (hy : extended? y = some b) :
    (compareNumbers x y).isLE ↔ a ≤ b := by
  rw [Ordering.isLE_iff_ne_gt, ← Ordering.swap_eq_lt, swap_compareNumbers,
    compareNumbers_eq_lt hy hx, not_lt]

/-- Texts stand in the order of their characters. -/
theorem isLE_compareTexts (s t : String) : (compareTexts s t).isLE ↔ s ≤ t := by
  unfold compareTexts
  rcases lt_trichotomy s t with hlt | rfl | hgt
  · rw [if_pos hlt]
    exact iff_of_true rfl hlt.le
  · rw [if_neg (lt_irrefl s), if_pos rfl]
    exact iff_of_true rfl le_rfl
  · rw [if_neg hgt.asymm, if_neg hgt.ne']
    exact iff_of_false (by decide) hgt.not_ge

/-! ## Comparing keys -/

variable {k l : Key}

theorem Key.compare_numbers (hk : k.number = some x) (hl : l.number = some y) :
    k.compare l = compareNumbers x y := by
  simp only [Key.compare, hk, hl]

/-- Keys of which the first is no number compare as texts. -/
theorem Key.isLE_of_left (hk : k.number = none) : (k.compare l).isLE ↔ k.text ≤ l.text := by
  rw [← isLE_compareTexts]
  simp only [Key.compare, hk]

/-- Keys of which the second is no number compare as texts. -/
theorem Key.isLE_of_right (hl : l.number = none) : (k.compare l).isLE ↔ k.text ≤ l.text := by
  rw [← isLE_compareTexts]
  cases hk : k.number <;> simp only [Key.compare, hk, hl]

/-! ## Sorting items -/

/-- The number that an item is sorted by, if its key is one and is no NaN. -/
def numberAt? (path : String) (item : Value) : Option Extended :=
  (keyAt path item).number.bind extended?

theorem Key.compareIn_ascending (k l : Key) : k.compareIn .ascending l = k.compare l := rfl

theorem Key.compareIn_descending (k l : Key) : k.compareIn .descending l = l.compare k :=
  Key.swap_compareIn .ascending k l

/-- An item need not stand before another if its key does not compare as less. -/
theorem precedes_eq_false {path : String} {order : SortOrder} {i j : Value} :
    precedes path order j i = false ↔ ((keyAt path i).compareIn order (keyAt path j)).isLE :=
  Sorter.lessBy_eq_false (swap_compareAt path order)

variable {path : String} {order : SortOrder} {items : List Value}

/-- What sorting items by the value at a path comes to where their keys are of one kind. -/
structure UniformlySorted (sorter : Sorter) (path : String) (order : SortOrder)
    (items : List Value) : Prop where
  /-- Items whose keys are numbers are sorted by them. -/
  numbers : ∀ number : Value → Extended,
    (∀ item ∈ items, numberAt? path item = some (number item)) →
      ∃ sorted, sortItems sorter (some path) order items = some sorted ∧
        SortedBy number order items sorted
  /-- Items whose keys are no numbers are sorted by the texts of their keys. -/
  texts : (∀ item ∈ items, (keyAt path item).number = none) →
    ∃ sorted, sortItems sorter (some path) order items = some sorted ∧
      SortedBy (fun item => (keyAt path item).text) order items sorted

/-- **Items with keys of one kind are sorted**: whatever the sort, the path and the order are,
sorting does not panic and gives the same items, in the order of the numbers that their keys are, if
all of them are numbers and none a NaN, and in the order of the texts of their keys, if none of them
is a number; items with equal keys keep their order. -/
theorem sortItems_uniform (sorter : Sorter) (path : String) (order : SortOrder)
    (items : List Value) : UniformlySorted sorter path order items where
  numbers number hnumber := by
    refine (standardSorted_sortItems sorter path order items).sortedBy fun i hi j hj => ?_
    obtain ⟨x, hx, hi⟩ := Option.bind_eq_some_iff.1 (hnumber i hi)
    obtain ⟨y, hy, hj⟩ := Option.bind_eq_some_iff.1 (hnumber j hj)
    rw [precedes_eq_false]
    cases order with
    | ascending =>
      rw [Key.compareIn_ascending, Key.compare_numbers hx hy]
      exact isLE_compareNumbers hi hj
    | descending =>
      rw [Key.compareIn_descending, Key.compare_numbers hy hx]
      exact isLE_compareNumbers hj hi
  texts htexts := by
    refine (standardSorted_sortItems sorter path order items).sortedBy fun i hi j hj => ?_
    rw [precedes_eq_false]
    cases order with
    | ascending =>
      rw [Key.compareIn_ascending]
      exact Key.isLE_of_left (htexts i hi)
    | descending =>
      rw [Key.compareIn_descending]
      exact Key.isLE_of_left (htexts j hj)

/-- Three entries, of which the first and the last have the same rank. -/
def ranked : List Value :=
  [.object [("rank", .string " 10"), ("tag", .string "a")],
    .object [("rank", .int 9), ("tag", .string "b")],
    .object [("rank", .string "1e1"), ("tag", .string "c")]]

/-- The rank of an entry. -/
def rankOf (item : Value) : Extended := (numberAt? "rank" item).getD ⊥

theorem sortItems_uniform_ranked :
    (∀ item ∈ ranked, numberAt? "rank" item = some (rankOf item)) ∧
      (∃ sorted, sortItems .insertion (some "rank") .descending ranked = some sorted ∧
        SortedBy rankOf .descending ranked sorted) ∧
      (sortItems .insertion (some "rank") .descending ranked).map (·.map (·.field? "tag")) =
        some [some (.string "a"), some (.string "c"), some (.string "b")] := by
  have hranks : ∀ item ∈ ranked, numberAt? "rank" item = some (rankOf item) := by decide +kernel
  exact ⟨hranks, (sortItems_uniform .insertion "rank" .descending ranked).numbers rankOf hranks,
    by decide +kernel⟩

/-! ## Keys in one row -/

/-- Keys stand in one row: what is not after a second key is not after a third that the second is
not after. -/
def Key.Transitive (K : Key → Prop) : Prop :=
  ∀ a b c, K a → K b → K c →
    (a.compare b).isLE → (b.compare c).isLE → (a.compare c).isLE

/-- Numbers and other texts do not get in each other's way. -/
structure Key.Consistent (K : Key → Prop) : Prop where
  /-- Beside a NaN all numbers are equal. -/
  nan_alone : ∀ a b c x y, K a → K b → K c →
    a.number = some .nan → b.number = some x → c.number = some y → compareNumbers x y = .eq
  /-- What is no number stands between the texts of two numbers only if the first is less, or both
  are equal and so are their texts. -/
  divides : ∀ a b t x y, K a → K b → K t →
    a.number = some x → b.number = some y → t.number = none →
    a.text ≤ t.text → t.text ≤ b.text →
      compareNumbers x y = .lt ∨ compareNumbers x y = .eq ∧ a.text = b.text

variable {K : Key → Prop} {z : Decimal.Reading}

/-- Numbers that are not after each other either way are equal. -/
theorem compareNumbers_eq_eq (h : (compareNumbers x y).isLE) (h' : (compareNumbers y x).isLE) :
    compareNumbers x y = .eq := by
  rw [← swap_compareNumbers] at h'
  revert h h'
  cases compareNumbers x y <;> decide

/-- What is less is not the other way round. -/
theorem not_isLE_of_lt (h : compareNumbers x y = .lt) : ¬ (compareNumbers y x).isLE := by
  rw [← swap_compareNumbers, h]
  decide

theorem extended?_eq_none : extended? x = none ↔ x = .nan := by
  cases x with
  | infinite negative => cases negative <;> simp [extended?]
  | finite x => simp [extended?]
  | nan => simp [extended?]

/-- A NaN is equal to all numbers. -/
theorem compareNumbers_nan (x : Decimal.Reading) : compareNumbers x .nan = .eq := by
  cases x <;> rfl

/-- The order of numbers is transitive but for a NaN between them. -/
theorem isLE_compareNumbers_trans (hnan : y = .nan → compareNumbers x z = .eq)
    (hxy : (compareNumbers x y).isLE) (hyz : (compareNumbers y z).isLE) :
    (compareNumbers x z).isLE := by
  cases hy : extended? y with
  | none =>
    rw [hnan (extended?_eq_none.1 hy)]
    rfl
  | some b =>
    cases hx : extended? x with
    | none =>
      obtain rfl := extended?_eq_none.1 hx
      rfl
    | some a =>
      cases hz : extended? z with
      | none =>
        obtain rfl := extended?_eq_none.1 hz
        rw [compareNumbers_nan]
        rfl
      | some c =>
        rw [isLE_compareNumbers hx hy] at hxy
        rw [isLE_compareNumbers hy hz] at hyz
        rw [isLE_compareNumbers hx hz]
        exact hxy.trans hyz

/-- Consistent keys stand in one row. -/
theorem Key.Consistent.transitive (h : Key.Consistent K) : Key.Transitive K := by
  intro a b c ha hb hc hab hbc
  cases hx : a.number with
  | none =>
    rw [Key.isLE_of_left hx] at hab ⊢
    cases hy : b.number with
    | none =>
      rw [Key.isLE_of_left hy] at hbc
      exact hab.trans hbc
    | some y =>
      cases hz : c.number with
      | none =>
        rw [Key.isLE_of_right hz] at hbc
        exact hab.trans hbc
      | some z =>
        -- were the third text before the first, the first would stand between two numbers
        rw [Key.compare_numbers hy hz] at hbc
        by_contra hca
        have hca : c.text < a.text := not_le.1 hca
        rcases h.divides c b a z y hc hb ha hz hy hx hca.le hab with hlt | ⟨-, htext⟩
        · exact not_isLE_of_lt hlt hbc
        · exact (hca.trans_le hab).ne htext
  | some x =>
    cases hy : b.number with
    | none =>
      rw [Key.isLE_of_right hy] at hab
      rw [Key.isLE_of_left hy] at hbc
      cases hz : c.number with
      | none =>
        rw [Key.isLE_of_right hz]
        exact hab.trans hbc
      | some z =>
        rw [Key.compare_numbers hx hz]
        rcases h.divides a c b x z ha hc hb hx hz hy hab hbc with hlt | ⟨heq, -⟩
        · rw [hlt]
          rfl
        · rw [heq]
          rfl
    | some y =>
      rw [Key.compare_numbers hx hy] at hab
      cases hz : c.number with
      | none =>
        rw [Key.isLE_of_right hz] at hbc ⊢
        by_contra hca
        have hca : c.text < a.text := not_le.1 hca
        rcases h.divides b a c y x hb ha hc hy hx hz hbc hca.le with hlt | ⟨-, htext⟩
        · exact not_isLE_of_lt hlt hab
        · exact (hbc.trans_lt hca).ne htext
      | some z =>
        rw [Key.compare_numbers hy hz] at hbc
        rw [Key.compare_numbers hx hz]
        refine isLE_compareNumbers_trans (fun hnan => ?_) hab hbc
        exact h.nan_alone b a c x z hb ha hc (hnan ▸ hy) hx hz

/-- Keys in one row are consistent. -/
theorem Key.Transitive.consistent (h : Key.Transitive K) : Key.Consistent K where
  nan_alone a b c x y ha hb hc hnan hx hy := by
    have hbelow : (compareNumbers x y).isLE := by
      rw [← Key.compare_numbers hx hy]
      refine h b a c hb ha hc ?_ ?_
      · rw [Key.compare_numbers hx hnan, compareNumbers_nan]
        rfl
      · rw [Key.compare_numbers hnan hy]
        rfl
    have habove : (compareNumbers y x).isLE := by
      rw [← Key.compare_numbers hy hx]
      refine h c a b hc ha hb ?_ ?_
      · rw [Key.compare_numbers hy hnan, compareNumbers_nan]
        rfl
      · rw [Key.compare_numbers hnan hx]
        rfl
    exact compareNumbers_eq_eq hbelow habove
  divides a b t x y ha hb ht hx hy hnone hat htb := by
    have hle : (compareNumbers x y).isLE := by
      rw [← Key.compare_numbers hx hy]
      exact h a t b ha ht hb ((Key.isLE_of_right hnone).2 hat) ((Key.isLE_of_left hnone).2 htb)
    cases hcompare : compareNumbers x y with
    | lt => exact .inl rfl
    | gt =>
      rw [hcompare] at hle
      cases hle
    | eq =>
      -- the numbers can change places, and so their texts stand on both sides of the other text
      have hba : (b.compare a).isLE := by
        rw [Key.compare_numbers hy hx, ← swap_compareNumbers, hcompare]
        rfl
      have hbt := (Key.isLE_of_right hnone).1 (h b a t hb ha ht hba ((Key.isLE_of_right hnone).2 hat))
      have hta := (Key.isLE_of_left hnone).1 (h t b a ht hb ha ((Key.isLE_of_left hnone).2 htb) hba)
      exact .inr ⟨rfl, (hat.trans htb).antisymm (hbt.trans hta)⟩

/-- Keys that are numbers and no NaN are consistent. -/
theorem Key.consistent_of_numbers (h : ∀ k, K k → (k.number.bind extended?).isSome) :
    Key.Consistent K where
  nan_alone a _ _ _ _ ha _ _ hnan := by
    have hsome := h a ha
    rw [hnan] at hsome
    cases hsome
  divides _ _ t _ _ _ _ ht _ _ hnone := by
    have hsome := h t ht
    rw [hnone] at hsome
    cases hsome

/-- Keys that are no numbers are consistent. -/
theorem Key.consistent_of_texts (h : ∀ k, K k → k.number = none) : Key.Consistent K where
  nan_alone a _ _ _ _ ha _ _ hnan := by
    rw [h a ha] at hnan
    cases hnan
  divides a _ _ _ _ ha _ _ hx := by
    rw [h a ha] at hx
    cases hx

/-! ## Lists in order -/

variable {path : String} {order : SortOrder} {P : Value → Prop}

/-- No item compares as greater than a later one. -/
def InOrder (path : String) (order : SortOrder) (items : List Value) : Prop :=
  items.Pairwise (fun i j => ((keyAt path i).compareIn order (keyAt path j)).isLE)

/-- The keys of some items. -/
def KeysOf (path : String) (P : Value → Prop) (k : Key) : Prop := ∃ item, P item ∧ keyAt path item = k

/-- Items with keys in one row stand in one row. -/
theorem Key.Transitive.inOneRow (h : Key.Transitive (KeysOf path P)) {items : List Value}
    (hitems : ∀ item ∈ items, P item) : InOneRow (precedes path order) items := by
  intro i hi j hj k hk hij hjk
  have hkey {i : Value} (hi : i ∈ items) : KeysOf path P (keyAt path i) := ⟨i, hitems i hi, rfl⟩
  rw [precedes_eq_false] at hij hjk ⊢
  cases order with
  | ascending => exact h _ _ _ (hkey hi) (hkey hj) (hkey hk) hij hjk
  | descending =>
    rw [Key.compareIn_descending] at hij hjk ⊢
    exact h _ _ _ (hkey hk) (hkey hj) (hkey hi) hjk hij

/-- Items are sorted, and none stands after a later one. -/
def SortsInOrder (sorter : Sorter) (path : String) (order : SortOrder) (items : List Value) :
    Prop :=
  ∃ sorted, sortItems sorter (some path) order items = some sorted ∧ sorted.Perm items ∧
    InOrder path order sorted

/-- Items with keys in one row are sorted. -/
theorem Key.Transitive.sortsInOrder (h : Key.Transitive (KeysOf path P)) (sorter : Sorter)
    (order : SortOrder) {items : List Value} (hitems : ∀ item ∈ items, P item) :
    SortsInOrder sorter path order items := by
  have hrow : InOneRow (precedes path order) items := h.inOneRow hitems
  obtain ⟨sorted, hsorted, hstably⟩ :=
    (standardSorted_sortItems sorter path order items).sorts (.inl hrow)
  exact ⟨sorted, hsorted, hstably.perm, (hstably.rising hrow).imp precedes_eq_false.1⟩

/-- Three items of which each need not stand after the next are left as they are. -/
theorem sortItems_three (sorter : Sorter) {i j k : Value} (hij : precedes path order j i = false)
    (hjk : precedes path order k j = false) :
    sortItems sorter (some path) order [i, j, k] = some [i, j, k] := by
  have hshort : [i, j, k].length ≤ shortLength := (by decide : 3 ≤ shortLength)
  have hsort := sorter.sortBy_eq (swap_compareAt path order) (.inr hshort)
  refine hsort.trans (congrArg some ?_)
  show insertionSort (precedes path order) [i, j, k] = [i, j, k]
  simp [insertionSort, insertBack, hij, hjk]

/-- If all lists of some items are sorted, their keys stand in one row. -/
theorem transitive_of_sortsInOrder {sorter : Sorter}
    (h : ∀ items, (∀ item ∈ items, P item) → SortsInOrder sorter path order items) :
    Key.Transitive (KeysOf path P) := by
  have hends {i j k : Value} (hi : P i) (hj : P j) (hk : P k)
      (hij : ((keyAt path i).compareIn order (keyAt path j)).isLE)
      (hjk : ((keyAt path j).compareIn order (keyAt path k)).isLE) :
      ((keyAt path i).compareIn order (keyAt path k)).isLE := by
    obtain ⟨sorted, hsorted, -, hinOrder⟩ := h [i, j, k] (by simp [hi, hj, hk])
    rw [sortItems_three sorter (precedes_eq_false.2 hij) (precedes_eq_false.2 hjk)] at hsorted
    cases hsorted
    exact (List.pairwise_cons.1 hinOrder).1 k (by simp)
  rintro _ _ _ ⟨i, hi, rfl⟩ ⟨j, hj, rfl⟩ ⟨k, hk, rfl⟩ hij hjk
  cases order with
  | ascending => exact hends hi hj hk hij hjk
  | descending =>
    have hki := hends hk hj hi (by rwa [Key.compareIn_descending])
      (by rwa [Key.compareIn_descending])
    rwa [Key.compareIn_descending] at hki

/-- What the order of keys comes to, for the items of some kind. -/
structure OrderLawful (sorter : Sorter) (path : String) (order : SortOrder) (P : Value → Prop) :
    Prop where
  /-- From the other side the order of any two values is the reverse. -/
  reverses : ∀ v w : Value, (Key.ofValue w).compare (Key.ofValue v) =
    ((Key.ofValue v).compare (Key.ofValue w)).swap
  /-- The keys stand in one row exactly if they are consistent. -/
  transitive_iff : Key.Transitive (KeysOf path P) ↔ Key.Consistent (KeysOf path P)
  /-- Then, and only then, all lists of the items are sorted. -/
  sorts_iff : (∀ items, (∀ item ∈ items, P item) → SortsInOrder sorter path order items) ↔
    Key.Consistent (KeysOf path P)
  /-- Keys of one kind are consistent. -/
  uniform : ((∀ item, P item → (numberAt? path item).isSome) ∨
    ∀ item, P item → (keyAt path item).number = none) → Key.Consistent (KeysOf path P)

/-- **The order of keys is lawful exactly on consistent keys**: it is always its own reverse from the
other side, but keys stand in one row, and any sort sorts all lists of items with such keys, exactly
if no two different numbers stand beside a NaN, and what is no number stands among the texts of
numbers only between less ones and greater ones. -/
theorem keyOrder_lawful (sorter : Sorter) (path : String) (order : SortOrder) (P : Value → Prop) :
    OrderLawful sorter path order P where
  reverses v w := (Key.swap_compareIn .ascending _ _).symm
  transitive_iff := ⟨Key.Transitive.consistent, Key.Consistent.transitive⟩
  sorts_iff := by
    constructor
    · intro h
      exact (transitive_of_sortsInOrder h).consistent
    · intro h items hitems
      exact h.transitive.sortsInOrder sorter order hitems
  uniform := by
    rintro (hnumbers | htexts)
    · refine Key.consistent_of_numbers ?_
      rintro _ ⟨item, hitem, rfl⟩
      exact hnumbers item hitem
    · refine Key.consistent_of_texts ?_
      rintro _ ⟨item, hitem, rfl⟩
      exact htexts item hitem

/-- Two numbers and a text go around in a circle, and any sort leaves two numbers with a NaN between
them in the wrong order. -/
theorem keys_go_around :
    ((Key.ofValue (.int 9)).compare (Key.ofValue (.int 10))).isLE ∧
      ((Key.ofValue (.int 10)).compare (Key.ofValue (.string "2a"))).isLE ∧
      ¬ ((Key.ofValue (.int 9)).compare (Key.ofValue (.string "2a"))).isLE ∧
      (∀ sorter, sortItems sorter (some ".") .ascending [.int 2, .string "nan", .int 1] =
        some [.int 2, .string "nan", .int 1]) ∧
      (Key.ofValue (.int 2)).compare (Key.ofValue (.int 1)) = .gt := by
  have hleft : ∀ sorter, sortItems sorter (some ".") .ascending [.int 2, .string "nan", .int 1] =
      some [.int 2, .string "nan", .int 1] := fun sorter =>
    sortItems_three sorter (by decide +kernel) (by decide +kernel)
  exact ⟨by decide +kernel, by decide +kernel, by decide +kernel, hleft, by decide +kernel⟩

end Loop

end Runbook
