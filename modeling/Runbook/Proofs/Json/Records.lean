import Runbook.Progress.Snapshot
import Runbook.Proofs.KeyMap

/-!
# Written records

Records that were written field by field, and how they read.

* `Json.record?_ofFields` is the reader of such a record;
* `Json.natural?_int`, `Json.optional?_ofString?`, `Json.optional?_ofNat?` and `mapM_map_eq_some`
  read numbers, texts and lists back;
* `map_eq_self_iff` and `filter_null_eq_self_iff` say when what comes back is what there was.
-/

namespace Runbook

/-- What comes after a step that gives a value. -/
theorem bind_of_eq_some {α β : Type} {x : Option α} {a : α} (h : x = some a)
    (f : α → Option β) : (x >>= f) = f a := by
  rw [h]
  rfl

/-- Items that are read one by one. -/
theorem mapM_eq_some_map {α β : Type} {read : α → Option β} {back : α → β} {items : List α}
    (h : ∀ a ∈ items, read a = some (back a)) : items.mapM read = some (items.map back) := by
  induction items with
  | nil => rfl
  | cons a items ih =>
    have hitems := ih fun b hb => h b (List.mem_cons_of_mem _ hb)
    rw [List.mapM_cons, h a List.mem_cons_self, hitems]
    rfl

/-- Items that are written and then read one by one. -/
theorem mapM_map_eq_some {α β γ : Type} {write : α → β} {read : β → Option γ} {back : α → γ}
    {items : List α} (h : ∀ a ∈ items, read (write a) = some (back a)) :
    (items.map write).mapM read = some (items.map back) := by
  rw [List.mapM_map]
  exact mapM_eq_some_map h

theorem map_eq_self_iff {α : Type} {f : α → α} {items : List α} :
    items.map f = items ↔ ∀ a ∈ items, f a = a := by
  calc items.map f = items ↔ items.map f = items.map id := by rw [List.map_id]
    _ ↔ ∀ a ∈ items, f a = a := List.map_inj_left

/-- Only a null gets lost when nulls do. -/
theorem filter_null_eq_self_iff {v : Option Value} : v.filter (· ≠ .null) = v ↔ v ≠ some .null := by
  cases v with
  | none => simp
  | some v => simp [Option.filter_eq_some_iff]

namespace Json

/-- A record is read by the names of its fields. -/
theorem record?_ofFields (names : List String) {fields : List (String × Value)}
    (h : (fields.map Prod.fst).Nodup) :
    ∃ field, record? names (.ofFields fields) = some field ∧
      ∀ name, field name = Entries.find? name fields :=
  ⟨fun name => (KeyMap.ofList fields).find? name, rfl, fun _ => KeyMap.find?_ofList h⟩

/-- A number that fits is read as it is. -/
theorem natural?_int {n : Nat} (h : n < twoTo 64) : natural? (.int n) = some n := by
  have hfits : (0 : Int) ≤ n ∧ (n : Int) < twoTo 64 := ⟨Int.natCast_nonneg n, Int.ofNat_lt.2 h⟩
  rw [Value.int, natural?, if_pos hfits, Int.toNat_natCast]

/-- A text is read as it is, and null as no text. -/
theorem optional?_ofString? (s : Option String) :
    optional? Value.string? (some (.ofString? s)) = some s := by
  cases s <;> rfl

/-- A number that fits is read as it is, and null as no number. -/
theorem optional?_ofNat? {total : Option Nat} (h : ∀ n, total = some n → n < twoTo 64) :
    optional? natural? (some (.ofNat? total)) = some total := by
  cases htotal : total with
  | none => rfl
  | some n =>
    show (natural? (.int n)).map some = _
    rw [natural?_int (h n htotal)]
    rfl

end Json

end Runbook
