/-!
# Maps from names to values

A map keeps its entries in rising order of the names, by code point, which for UTF-8 is the order
of the bytes.  Each name occurs once, and the type says so.

* `find?` is the view of a map; two maps with the same view are equal (`KeyMap.ext_find?`);
* `insert` and `erase` each have one equation through the view.
-/

namespace Runbook

universe u v

/-- Entries in strictly rising order of their names. -/
def RisingKeys {α : Type u} (entries : List (String × α)) : Prop :=
  entries.Pairwise (fun a b => a.1 < b.1)

namespace Entries

variable {α : Type u} {β : Type v}

/-- The value under a name, if there is one. -/
def find? (key : String) : List (String × α) → Option α
  | [] => none
  | (k, v) :: rest => if k = key then some v else find? key rest

/-- Puts a value under a name, in place of an old one. -/
def insert (key : String) (value : α) : List (String × α) → List (String × α)
  | [] => [(key, value)]
  | (k, v) :: rest =>
    if key < k then (key, value) :: (k, v) :: rest
    else if key = k then (key, value) :: rest
    else (k, v) :: insert key value rest

/-- Takes a name out. -/
def erase (key : String) : List (String × α) → List (String × α)
  | [] => []
  | (k, v) :: rest => if k = key then erase key rest else (k, v) :: erase key rest

theorem mem_insert {key : String} {value : α} {entries : List (String × α)} {e : String × α}
    (h : e ∈ insert key value entries) : e = (key, value) ∨ e ∈ entries := by
  induction entries with
  | nil => simpa [insert] using h
  | cons a rest ih =>
    simp only [insert] at h
    split at h
    · simpa using h
    · split at h
      · rcases List.mem_cons.1 h with h | h
        · exact .inl h
        · exact .inr (List.mem_cons_of_mem _ h)
      · rcases List.mem_cons.1 h with h | h
        · exact .inr (h ▸ List.mem_cons_self)
        · rcases ih h with h | h
          · exact .inl h
          · exact .inr (List.mem_cons_of_mem _ h)

theorem mem_of_mem_erase {key : String} {entries : List (String × α)} {e : String × α}
    (h : e ∈ erase key entries) : e ∈ entries := by
  induction entries with
  | nil => simp [erase] at h
  | cons a rest ih =>
    simp only [erase] at h
    split at h
    · exact List.mem_cons_of_mem _ (ih h)
    · rcases List.mem_cons.1 h with h | h
      · exact h ▸ List.mem_cons_self
      · exact List.mem_cons_of_mem _ (ih h)

theorem rising_insert {key : String} {value : α} {entries : List (String × α)}
    (h : RisingKeys entries) : RisingKeys (insert key value entries) := by
  induction entries with
  | nil => simp [insert, RisingKeys]
  | cons a rest ih =>
    obtain ⟨k, v⟩ := a
    have hrest : RisingKeys rest := (List.pairwise_cons.1 h).2
    have hhead := (List.pairwise_cons.1 h).1
    simp only [insert]
    split
    case isTrue hlt =>
      refine List.pairwise_cons.2 ⟨fun e he => ?_, h⟩
      rcases List.mem_cons.1 he with he | he
      · simpa [he] using hlt
      · exact String.lt_trans hlt (hhead e he)
    case isFalse hlt =>
      split
      case isTrue heq =>
        exact List.pairwise_cons.2 ⟨fun e he => heq ▸ hhead e he, hrest⟩
      case isFalse hne =>
        refine List.pairwise_cons.2 ⟨fun e he => ?_, ih hrest⟩
        rcases mem_insert he with he | he
        · simpa [he] using Std.lt_of_le_of_ne (String.not_lt.1 hlt) (Ne.symm hne)
        · exact hhead e he

theorem rising_erase {key : String} {entries : List (String × α)} (h : RisingKeys entries) :
    RisingKeys (erase key entries) := by
  induction entries with
  | nil => exact h
  | cons a rest ih =>
    obtain ⟨k, v⟩ := a
    have hrest : RisingKeys rest := (List.pairwise_cons.1 h).2
    have hhead := (List.pairwise_cons.1 h).1
    simp only [erase]
    split
    · exact ih hrest
    · exact List.pairwise_cons.2 ⟨fun e he => hhead e (mem_of_mem_erase he), ih hrest⟩

@[simp] theorem find?_insert_self (key : String) (value : α) (entries : List (String × α)) :
    find? key (insert key value entries) = some value := by
  induction entries with
  | nil => simp [insert, find?]
  | cons a rest ih =>
    simp only [insert]
    split
    · simp [find?]
    · split
      · simp [find?]
      · rename_i hne
        simp [find?, Ne.symm hne, ih]

theorem find?_insert_of_ne {key other : String} (value : α) (entries : List (String × α))
    (h : other ≠ key) : find? other (insert key value entries) = find? other entries := by
  induction entries with
  | nil => simp [insert, find?, Ne.symm h]
  | cons a rest ih =>
    obtain ⟨k, v⟩ := a
    simp only [insert]
    split
    · simp [find?, Ne.symm h]
    · split
      · rename_i heq
        simp [find?, Ne.symm h, heq ▸ Ne.symm h]
      · simp [find?, ih]

@[simp] theorem find?_erase_self (key : String) (entries : List (String × α)) :
    find? key (erase key entries) = none := by
  induction entries with
  | nil => rfl
  | cons a rest ih =>
    simp only [erase]
    split
    · exact ih
    · rename_i hne
      simp [find?, hne, ih]

theorem find?_erase_of_ne {key other : String} (entries : List (String × α)) (h : other ≠ key) :
    find? other (erase key entries) = find? other entries := by
  induction entries with
  | nil => rfl
  | cons a rest ih =>
    obtain ⟨k, v⟩ := a
    simp only [erase]
    split
    · rename_i heq
      simp [find?, heq ▸ Ne.symm h, ih]
    · simp [find?, ih]

theorem find?_eq_none_of_rising {key : String} {entries : List (String × α)}
    (h : ∀ e ∈ entries, key < e.1) : find? key entries = none := by
  induction entries with
  | nil => rfl
  | cons a rest ih =>
    have ha := h a List.mem_cons_self
    have hne : a.1 ≠ key := fun heq => String.lt_irrefl _ (heq ▸ ha)
    simp [find?, hne, ih fun e he => h e (List.mem_cons_of_mem _ he)]

/-- Rising entries are determined by what is found under each name. -/
theorem eq_of_find?_eq {xs ys : List (String × α)} (hx : RisingKeys xs) (hy : RisingKeys ys)
    (h : ∀ key, find? key xs = find? key ys) : xs = ys := by
  induction xs generalizing ys with
  | nil =>
    cases ys with
    | nil => rfl
    | cons b ys => have := h b.1; simp [find?] at this
  | cons a xs ih =>
    cases ys with
    | nil => have := h a.1; simp [find?] at this
    | cons b ys =>
      have ha := (List.pairwise_cons.1 hx).1
      have hb := (List.pairwise_cons.1 hy).1
      have hkey : a.1 = b.1 := by
        refine Decidable.byContradiction fun hne => ?_
        rcases Decidable.em (a.1 < b.1) with hlt | hnlt
        · have := h a.1
          have hnone : find? a.1 (b :: ys) = none :=
            find?_eq_none_of_rising fun e he => by
              rcases List.mem_cons.1 he with he | he
              · exact he ▸ hlt
              · exact String.lt_trans hlt (hb e he)
          rw [hnone] at this
          simp [find?] at this
        · have hlt : b.1 < a.1 := Std.lt_of_le_of_ne (String.not_lt.1 hnlt) (Ne.symm hne)
          have := h b.1
          have hnone : find? b.1 (a :: xs) = none :=
            find?_eq_none_of_rising fun e he => by
              rcases List.mem_cons.1 he with he | he
              · exact he ▸ hlt
              · exact String.lt_trans hlt (ha e he)
          rw [hnone] at this
          simp [find?] at this
      have hvalue : a.2 = b.2 := by
        have := h a.1
        simpa [find?, hkey] using this
      have hab : a = b := Prod.ext hkey hvalue
      subst hab
      refine congrArg _ (ih (List.pairwise_cons.1 hx).2 (List.pairwise_cons.1 hy).2 fun key => ?_)
      rcases Decidable.em (a.1 = key) with heq | hne
      · subst heq
        rw [find?_eq_none_of_rising ha, find?_eq_none_of_rising hb]
      · have := h key
        simpa [find?, hne] using this

/-- Applies a function to every value. -/
def mapValues (f : α → β) (entries : List (String × α)) : List (String × β) :=
  entries.map fun e => (e.1, f e.2)

theorem rising_mapValues {f : α → β} {entries : List (String × α)} (h : RisingKeys entries) :
    RisingKeys (mapValues f entries) :=
  List.pairwise_map.2 h

theorem find?_mapValues (f : α → β) (key : String) (entries : List (String × α)) :
    find? key (mapValues f entries) = (find? key entries).map f := by
  induction entries with
  | nil => rfl
  | cons a rest ih =>
    simp only [mapValues, List.map_cons, find?] at ih ⊢
    split
    · rfl
    · exact ih

end Entries

/-- A finite map from names to values. -/
structure KeyMap (α : Type u) where
  /-- The entries, in rising order of the names. -/
  entries : List (String × α)
  /-- The names rise strictly. -/
  rising : RisingKeys entries

namespace KeyMap

variable {α : Type u} {β : Type v}

instance [DecidableEq α] : DecidableEq (KeyMap α) := fun a b =>
  if h : a.entries = b.entries then
    isTrue (by cases a; cases b; cases h; rfl)
  else isFalse fun hab => h (hab ▸ rfl)

/-- The map without entries. -/
def empty : KeyMap α := ⟨[], List.Pairwise.nil⟩

instance : EmptyCollection (KeyMap α) := ⟨empty⟩

instance : Inhabited (KeyMap α) := ⟨empty⟩

instance [Repr α] : Repr (KeyMap α) := ⟨fun m n => reprPrec m.entries n⟩

/-- The value under a name, if there is one. -/
def find? (m : KeyMap α) (key : String) : Option α := Entries.find? key m.entries

/-- Whether a name has a value. -/
def contains (m : KeyMap α) (key : String) : Bool := (m.find? key).isSome

/-- Puts a value under a name. -/
def insert (m : KeyMap α) (key : String) (value : α) : KeyMap α :=
  ⟨Entries.insert key value m.entries, Entries.rising_insert m.rising⟩

/-- Takes a name out. -/
def erase (m : KeyMap α) (key : String) : KeyMap α :=
  ⟨Entries.erase key m.entries, Entries.rising_erase m.rising⟩

/-- The number of entries. -/
def size (m : KeyMap α) : Nat := m.entries.length

/-- The names, in rising order. -/
def keys (m : KeyMap α) : List String := m.entries.map (·.1)

/-- The values, in the order of their names. -/
def values (m : KeyMap α) : List α := m.entries.map (·.2)

/-- Inserts entries one after the other, so that the last one under a name stays. -/
def insertAll (m : KeyMap α) (entries : List (String × α)) : KeyMap α :=
  entries.foldl (fun m e => m.insert e.1 e.2) m

/-- The map of a list of entries; of two under one name the later stays. -/
def ofList (entries : List (String × α)) : KeyMap α := insertAll empty entries

/-- Applies a function to every value. -/
def map (f : α → β) (m : KeyMap α) : KeyMap β :=
  ⟨Entries.mapValues f m.entries, Entries.rising_mapValues m.rising⟩

@[simp] theorem find?_empty (key : String) : (empty : KeyMap α).find? key = none := rfl

@[simp] theorem find?_insert_self (m : KeyMap α) (key : String) (value : α) :
    (m.insert key value).find? key = some value :=
  Entries.find?_insert_self key value m.entries

theorem find?_insert_of_ne (m : KeyMap α) {key other : String} (value : α) (h : other ≠ key) :
    (m.insert key value).find? other = m.find? other :=
  Entries.find?_insert_of_ne value m.entries h

theorem find?_insert (m : KeyMap α) (key other : String) (value : α) :
    (m.insert key value).find? other = if other = key then some value else m.find? other := by
  split
  · subst_vars; exact find?_insert_self ..
  · exact find?_insert_of_ne _ _ ‹_›

@[simp] theorem find?_erase_self (m : KeyMap α) (key : String) : (m.erase key).find? key = none :=
  Entries.find?_erase_self key m.entries

theorem find?_erase_of_ne (m : KeyMap α) {key other : String} (h : other ≠ key) :
    (m.erase key).find? other = m.find? other :=
  Entries.find?_erase_of_ne m.entries h

theorem find?_erase (m : KeyMap α) (key other : String) :
    (m.erase key).find? other = if other = key then none else m.find? other := by
  split
  · subst_vars; exact find?_erase_self ..
  · exact find?_erase_of_ne _ ‹_›

theorem contains_insert (m : KeyMap α) (key other : String) (value : α) :
    (m.insert key value).contains other = (decide (other = key) || m.contains other) := by
  rw [contains, find?_insert]
  split <;> simp [contains, *]

theorem contains_erase (m : KeyMap α) (key other : String) :
    (m.erase key).contains other = (decide (other ≠ key) && m.contains other) := by
  rw [contains, find?_erase]
  split <;> simp [contains, *]

@[simp] theorem find?_map (f : α → β) (m : KeyMap α) (key : String) :
    (m.map f).find? key = (m.find? key).map f :=
  Entries.find?_mapValues f key m.entries

/-- Two maps in which every name has the same value are equal. -/
theorem ext_find? {a b : KeyMap α} (h : ∀ key, a.find? key = b.find? key) : a = b := by
  have := Entries.eq_of_find?_eq a.rising b.rising h
  cases a; cases b; cases this; rfl

theorem map_insert (f : α → β) (m : KeyMap α) (key : String) (value : α) :
    (m.insert key value).map f = (m.map f).insert key (f value) := by
  refine ext_find? fun other => ?_
  rw [find?_map, find?_insert, find?_insert, find?_map]
  split <;> rfl

theorem map_erase (f : α → β) (m : KeyMap α) (key : String) :
    (m.erase key).map f = (m.map f).erase key := by
  refine ext_find? fun other => ?_
  rw [find?_map, find?_erase, find?_erase, find?_map]
  split <;> rfl

end KeyMap

end Runbook
