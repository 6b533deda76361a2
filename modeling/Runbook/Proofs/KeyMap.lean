import Runbook.KeyMap

/-!
# Entries of maps

What is found in lists of entries, and in maps that were built from them.

* `Entries.find?_of_notMem`, `Entries.mem_of_find?_eq_some` and `Entries.find?_filter` say what is
  found in a list;
* `KeyMap.find?_insertAll` says what is found after entries with different names are put in;
* `KeyMap.find?_ofList` finds the entries that a map was built from, and `KeyMap.ofList_entries`
  builds a map from its own entries.
-/

namespace Runbook

universe u

namespace Entries

variable {α : Type u} {entries : List (String × α)}

theorem find?_append_of_notMem {key : String} (h : key ∉ entries.map Prod.fst)
    (rest : List (String × α)) : find? key (entries ++ rest) = find? key rest := by
  induction entries with
  | nil => rfl
  | cons e entries ih =>
    rw [List.map_cons, List.mem_cons, not_or] at h
    rw [List.cons_append, find?, if_neg (Ne.symm h.1), ih h.2]

theorem find?_of_notMem {key : String} (h : key ∉ entries.map Prod.fst) :
    find? key entries = none := by
  rw [← List.append_nil entries, find?_append_of_notMem h, find?]

theorem mem_of_find?_eq_some {key : String} {value : α} (h : find? key entries = some value) :
    (key, value) ∈ entries := by
  induction entries with
  | nil => cases h
  | cons e rest ih =>
    obtain ⟨name, first⟩ := e
    rw [find?] at h
    split at h
    case isTrue hname =>
      cases hname
      cases h
      exact List.mem_cons_self
    case isFalse => exact List.mem_cons_of_mem _ (ih h)

/-- At most one entry has the name. -/
theorem filter_name (h : (entries.map Prod.fst).Nodup) (key : String) :
    entries.filter (fun e => e.1 == key) = ((find? key entries).map (key, ·)).toList := by
  induction entries with
  | nil => rfl
  | cons e rest ih =>
    obtain ⟨name, value⟩ := e
    rw [List.map_cons, List.nodup_cons] at h
    rw [List.filter_cons, ih h.2, find?]
    by_cases hname : name = key
    · subst hname
      rw [if_pos (beq_self_eq_true name), if_pos rfl, find?_of_notMem h.1]
      rfl
    · rw [if_neg (by simpa using hname), if_neg hname]

/-- Entries that are kept are found as before. -/
theorem find?_filter (p : String → Bool) {key : String} (h : p key = true) :
    find? key (entries.filter fun e => p e.1) = find? key entries := by
  induction entries with
  | nil => rfl
  | cons e rest ih =>
    obtain ⟨name, value⟩ := e
    rw [List.filter_cons, find?]
    by_cases hname : name = key
    · subst hname
      rw [if_pos h, find?, if_pos rfl, if_pos rfl]
    · rw [if_neg hname]
      split
      · rw [find?, if_neg hname, ih]
      · exact ih

theorem nodup_filter (h : (entries.map Prod.fst).Nodup) (p : String × α → Bool) :
    ((entries.filter p).map Prod.fst).Nodup :=
  h.sublist (List.filter_sublist.map Prod.fst)

end Entries

namespace KeyMap

variable {α : Type u} {key : String} {fields : List (String × α)}

/-- Fields under other names change nothing. -/
theorem find?_insertAll_of_notMem (h : key ∉ fields.map Prod.fst) (m : KeyMap α) :
    (m.insertAll fields).find? key = m.find? key := by
  induction fields generalizing m with
  | nil => rfl
  | cons field fields ih =>
    rw [List.map_cons, List.mem_cons, not_or] at h
    show ((m.insert field.1 field.2).insertAll fields).find? key = _
    rw [ih h.2, find?_insert_of_ne m _ h.1]

/-- Fields with different names all stay. -/
theorem find?_insertAll (h : (fields.map Prod.fst).Nodup) (m : KeyMap α) :
    (m.insertAll fields).find? key = (Entries.find? key fields).or (m.find? key) := by
  induction fields generalizing m with
  | nil => rfl
  | cons field fields ih =>
    obtain ⟨name, value⟩ := field
    rw [List.map_cons, List.nodup_cons] at h
    show ((m.insert name value).insertAll fields).find? key = _
    rw [Entries.find?]
    by_cases hname : name = key
    · subst hname
      rw [if_pos rfl, find?_insertAll_of_notMem h.1, find?_insert_self]
      rfl
    · rw [if_neg hname, ih h.2, find?_insert_of_ne m value fun he => hname he.symm]

/-- What a map of fields with different names holds. -/
theorem find?_ofList (h : (fields.map Prod.fst).Nodup) :
    (ofList fields).find? key = Entries.find? key fields := by
  rw [ofList, find?_insertAll h, find?_empty, Option.or_none]

/-- What is in a map was put there. -/
theorem mem_of_mem_insertAll {m : KeyMap α} {e : String × α}
    (h : e ∈ (m.insertAll fields).entries) : e ∈ m.entries ∨ e ∈ fields := by
  induction fields generalizing m with
  | nil => exact .inl h
  | cons field fields ih =>
    rcases ih h with h | h
    · rcases Entries.mem_insert h with rfl | h
      · exact .inr List.mem_cons_self
      · exact .inl h
    · exact .inr (List.mem_cons_of_mem _ h)

theorem mem_of_mem_ofList {e : String × α} (h : e ∈ (ofList fields).entries) : e ∈ fields :=
  (mem_of_mem_insertAll h).resolve_left List.not_mem_nil

/-- The names of a map differ. -/
theorem nodup_keys (m : KeyMap α) : (m.entries.map Prod.fst).Nodup := by
  refine List.pairwise_map.2 (m.rising.imp ?_)
  rintro ⟨a, _⟩ ⟨b, _⟩ hlt rfl
  exact String.lt_irrefl a hlt

/-- A map is the map of its entries. -/
theorem ofList_entries (m : KeyMap α) : ofList m.entries = m :=
  ext_find? fun _ => find?_ofList m.nodup_keys

end KeyMap

end Runbook
