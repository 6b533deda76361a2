import Runbook.Document.Node
import Runbook.Proofs.Json.Records

/-!
# Values as documents

A JSON value stands in a document as it is, or typed once more on the way to a tool.  Both read the
same.

* `Node.ofValueAs` is a value as a node whose lists and maps have a mark;
* `Node.typed?_ofValueAs` says that typing such a node changes the mark alone;
* `Node.value?_ofValueAs` is the way back to the value;
* `Node.wellFormed_value?` says that all values that are read from documents are well formed;
* `Node.field?_fieldsOf` finds a field of a map that was written field by field, and
  `Node.record?_ofFields` reads a whole record.
-/

namespace Runbook

namespace Node

mutual

/-- A JSON value as a node whose lists and maps have this mark. -/
def ofValueAs (mark : Mark) : Value → Node
  | .null => .scalar .null
  | .bool b => .scalar (.bool b)
  | .number (.int i) => .scalar (.int i)
  | .number (.float x) => .scalar (.float (.finite x))
  | .string s => .scalar (.text s)
  | .array items => .list (ofValuesAs mark items) mark
  | .object fields => .map (ofFieldsAs mark fields) mark

/-- JSON values as nodes. -/
def ofValuesAs (mark : Mark) : List Value → List Node
  | [] => []
  | v :: rest => ofValueAs mark v :: ofValuesAs mark rest

/-- The fields of a JSON object as entries. -/
def ofFieldsAs (mark : Mark) : List (String × Value) → List (Node × Node)
  | [] => []
  | (k, v) :: rest => (.scalar (.text k), ofValueAs mark v) :: ofFieldsAs mark rest

end

variable {mark : Mark}

theorem ofValuesAs_eq_map (items : List Value) :
    ofValuesAs mark items = items.map (ofValueAs mark) := by
  induction items with
  | nil => rfl
  | cons v rest ih => rw [ofValuesAs, ih, List.map_cons]

theorem ofFieldsAs_eq_map (fields : List (String × Value)) :
    ofFieldsAs mark fields = fields.map fun e => (.scalar (.text e.1), ofValueAs mark e.2) := by
  induction fields with
  | nil => rfl
  | cons e rest ih => rw [ofFieldsAs, ih, List.map_cons]

mutual

/-- A value as it is has the mark for values. -/
theorem ofValue_eq : ∀ v : Value, ofValue v = ofValueAs .value v
  | .null | .bool _ | .number (.int _) | .number (.float _) | .string _ => rfl
  | .array items => by rw [ofValue, ofValueAs, ofValues_eq items]
  | .object fields => by rw [ofValue, ofValueAs, ofFields_eq fields]

theorem ofValues_eq : ∀ items : List Value, ofValues items = ofValuesAs .value items
  | [] => rfl
  | v :: rest => by rw [ofValues, ofValuesAs, ofValue_eq v, ofValues_eq rest]

theorem ofFields_eq : ∀ fields : List (String × Value), ofFields fields = ofFieldsAs .value fields
  | [] => rfl
  | (k, v) :: rest => by rw [ofFields, ofFieldsAs, ofValue_eq v, ofFields_eq rest]

end

/-! ## Typing -/

mutual

theorem typed?_ofValueAs (h : isPlainMark mark = true) :
    ∀ v : Value, typed? (ofValueAs mark v) = some (ofValueAs .typed v)
  | .null | .bool _ | .number (.int _) | .number (.float _) | .string _ => rfl
  | .array items => by
    rw [ofValueAs, typed?, if_pos h, typedItems?_ofValuesAs h items]
    rfl
  | .object fields => by
    rw [ofValueAs, typed?, if_pos h, typedEntries?_ofFieldsAs h fields]
    rfl

theorem typedItems?_ofValuesAs (h : isPlainMark mark = true) :
    ∀ items : List Value, typedItems? (ofValuesAs mark items) = some (ofValuesAs .typed items)
  | [] => rfl
  | v :: rest => by
    rw [ofValuesAs, typedItems?, typed?_ofValueAs h v, typedItems?_ofValuesAs h rest]
    rfl

theorem typedEntries?_ofFieldsAs (h : isPlainMark mark = true) :
    ∀ fields : List (String × Value),
      typedEntries? (ofFieldsAs mark fields) = some (ofFieldsAs .typed fields)
  | [] => rfl
  | (k, v) :: rest => by
    rw [ofFieldsAs, typedEntries?, typed?_ofValueAs h v, typedEntries?_ofFieldsAs h rest]
    rfl

end

/-! ## The way back -/

mutual

/-- A well-formed value is read back from a document. -/
theorem value?_ofValueAs (h : isPlainMark mark = true) :
    ∀ v : Value, v.WellFormed → value? (ofValueAs mark v) = some v
  | .null, _ | .bool _, _ | .number (.int _), _ | .number (.float _), _ | .string _, _ => rfl
  | .array items, hv => by
    rw [ofValueAs, value?, if_pos h, valueItems?_ofValuesAs h items hv]
    rfl
  | .object fields, hv => by
    have hmap : KeyMap.ofList fields = ⟨fields, hv.1⟩ := KeyMap.ofList_entries ⟨fields, hv.1⟩
    rw [ofValueAs, value?, if_pos h, valueEntries?_ofFieldsAs h fields hv.2, Option.map_some,
      Value.ofFields, hmap]
    rfl

theorem valueItems?_ofValuesAs (h : isPlainMark mark = true) :
    ∀ items : List Value, Value.ItemsWellFormed items →
      valueItems? (ofValuesAs mark items) = some items
  | [], _ => rfl
  | v :: rest, hv => by
    rw [ofValuesAs, valueItems?, value?_ofValueAs h v hv.1, valueItems?_ofValuesAs h rest hv.2]
    rfl

theorem valueEntries?_ofFieldsAs (h : isPlainMark mark = true) :
    ∀ fields : List (String × Value), Value.FieldsWellFormed fields →
      valueEntries? (ofFieldsAs mark fields) = some fields
  | [], _ => rfl
  | (k, v) :: rest, hv => by
    rw [ofFieldsAs, valueEntries?, value?_ofValueAs h v hv.1, valueEntries?_ofFieldsAs h rest hv.2]
    rfl

end

/-! ## Depth -/

mutual

/-- Marks do not count for the depth. -/
theorem depth_ofValueAs (mark' : Mark) :
    ∀ v : Value, depth (ofValueAs mark v) = depth (ofValueAs mark' v)
  | .null | .bool _ | .number (.int _) | .number (.float _) | .string _ => rfl
  | .array items => by rw [ofValueAs, ofValueAs, depth, depth, depthItems_ofValuesAs mark' items]
  | .object fields => by
    rw [ofValueAs, ofValueAs, depth, depth, depthEntries_ofFieldsAs mark' fields]

theorem depthItems_ofValuesAs (mark' : Mark) : ∀ items : List Value,
    depthItems (ofValuesAs mark items) = depthItems (ofValuesAs mark' items)
  | [] => rfl
  | v :: rest => by
    rw [ofValuesAs, ofValuesAs, depthItems, depthItems, depth_ofValueAs mark' v,
      depthItems_ofValuesAs mark' rest]

theorem depthEntries_ofFieldsAs (mark' : Mark) : ∀ fields : List (String × Value),
    depthEntries (ofFieldsAs mark fields) = depthEntries (ofFieldsAs mark' fields)
  | [] => rfl
  | (k, v) :: rest => by
    rw [ofFieldsAs, ofFieldsAs, depthEntries, depthEntries, depth_ofValueAs mark' v,
      depthEntries_ofFieldsAs mark' rest]

end

theorem depth_le_depthItems {items : List Value} {v : Value} (h : v ∈ items) :
    depth (ofValueAs mark v) ≤ depthItems (ofValuesAs mark items) := by
  induction items with
  | nil => exact absurd h List.not_mem_nil
  | cons first rest ih =>
    rw [ofValuesAs, depthItems]
    rcases List.mem_cons.1 h with rfl | h
    · exact Nat.le_max_left _ _
    · exact Nat.le_trans (ih h) (Nat.le_max_right _ _)

theorem depth_le_depthEntries {fields : List (String × Value)} {e : String × Value}
    (h : e ∈ fields) : depth (ofValueAs mark e.2) ≤ depthEntries (ofFieldsAs mark fields) := by
  induction fields with
  | nil => exact absurd h List.not_mem_nil
  | cons first rest ih =>
    rw [ofFieldsAs, depthEntries]
    rcases List.mem_cons.1 h with rfl | h
    · exact Nat.le_trans (Nat.le_max_right _ _) (Nat.le_max_left _ _)
    · exact Nat.le_trans (ih h) (Nat.le_max_right _ _)

/-! ## Values from documents -/

end Node

namespace Value

theorem fieldsWellFormed_iff {fields : List (String × Value)} :
    FieldsWellFormed fields ↔ ∀ e ∈ fields, e.2.WellFormed := by
  induction fields with
  | nil => simp [FieldsWellFormed]
  | cons e rest ih => rw [FieldsWellFormed, ih, List.forall_mem_cons]

/-- A map of well-formed values is a well-formed value. -/
theorem wellFormed_ofFields {fields : List (String × Value)} (h : FieldsWellFormed fields) :
    (ofFields fields).WellFormed := by
  refine ⟨(KeyMap.ofList fields).rising, fieldsWellFormed_iff.2 fun e he => ?_⟩
  exact fieldsWellFormed_iff.1 h e (KeyMap.mem_of_mem_ofList he)

end Value

namespace Node

theorem wellFormed_scalar (s : Scalar) : (Scalar.value s).WellFormed := by
  rcases s with _ | _ | _ | (_ | _ | _) | _ <;> trivial

mutual

/-- What is read from a document is well formed. -/
theorem wellFormed_value? : ∀ (n : Node) {v : Value}, value? n = some v → v.WellFormed
  | .scalar s, _, h => by
    rw [value?, Option.some.injEq] at h
    exact h ▸ wellFormed_scalar s
  | .written _ _ _, _, h => by
    rw [value?, Option.map_eq_some_iff] at h
    obtain ⟨s, -, rfl⟩ := h
    exact wellFormed_scalar s
  | .list items mark, _, h => by
    rw [value?] at h
    split at h
    · obtain ⟨vs, hvs, rfl⟩ := Option.map_eq_some_iff.1 h
      exact wellFormed_valueItems? items hvs
    · cases h
  | .map entries mark, _, h => by
    rw [value?] at h
    split at h
    · obtain ⟨fields, hfields, rfl⟩ := Option.map_eq_some_iff.1 h
      exact Value.wellFormed_ofFields (wellFormed_valueEntries? entries hfields)
    · cases h

theorem wellFormed_valueItems? : ∀ (items : List Node) {vs : List Value},
    valueItems? items = some vs → Value.ItemsWellFormed vs
  | [], _, h => by
    rw [valueItems?, Option.some.injEq] at h
    exact h ▸ trivial
  | n :: rest, _, h => by
    obtain ⟨v, hv, h⟩ := Option.bind_eq_some_iff.1 h
    obtain ⟨vs, hvs, h⟩ := Option.bind_eq_some_iff.1 h
    cases h
    exact ⟨wellFormed_value? n hv, wellFormed_valueItems? rest hvs⟩

theorem wellFormed_valueEntries? : ∀ (entries : List (Node × Node))
    {fields : List (String × Value)}, valueEntries? entries = some fields →
      Value.FieldsWellFormed fields
  | [], _, h => by
    rw [valueEntries?, Option.some.injEq] at h
    exact h ▸ trivial
  | (_, n) :: rest, _, h => by
    obtain ⟨key, -, h⟩ := Option.bind_eq_some_iff.1 h
    obtain ⟨v, hv, h⟩ := Option.bind_eq_some_iff.1 h
    obtain ⟨fields, hfields, h⟩ := Option.bind_eq_some_iff.1 h
    cases h
    exact ⟨wellFormed_value? n hv, wellFormed_valueEntries? rest hfields⟩

end

end Node

/-! ## Records -/

namespace Node

variable {mark : Mark} {entries : List (String × Value)}

/-- Entries with values, as the fields of a record. -/
def fieldsOf (mark : Mark) (entries : List (String × Value)) : List (FieldKey × Node) :=
  entries.map fun e => (.name e.1, ofValueAs mark e.2)

theorem fields?_object :
    fields? (ofValueAs mark (.object entries)) = some (fieldsOf mark entries) := by
  rw [ofValueAs, fields?, ofFieldsAs_eq_map]
  exact mapM_map_eq_some fun _ _ => rfl

theorem named?_object : named? (ofValueAs mark (.object entries))
    = some (entries.map fun e => (e.1, ofValueAs mark e.2)) := by
  rw [ofValueAs, named?, ofFieldsAs_eq_map]
  exact mapM_map_eq_some fun _ _ => rfl

/-- Fields whose names are picked out. -/
theorem filter_fieldsOf (q : FieldKey → Bool) (p : String → Bool)
    (h : ∀ name, q (.name name) = p name) :
    (fieldsOf mark entries).filter (fun (k, _) => q k)
      = fieldsOf mark (entries.filter fun e => p e.1) :=
  List.filter_map.trans (congrArg _ (List.filter_congr fun e _ => h e.1))

/-- A field that is there once is found. -/
theorem field?_fieldsOf (h : (entries.map Prod.fst).Nodup) (name : String) (i : Nat) :
    field? (fieldsOf mark entries) name i
      = some ((Entries.find? name entries).map (ofValueAs mark)) := by
  rw [field?, filter_fieldsOf (·.means name i) (· == name) fun _ => rfl, Entries.filter_name h]
  cases Entries.find? name entries <;> rfl

/-- Fields that are asked for by name. -/
theorem mapM_field?_fieldsOf (h : (entries.map Prod.fst).Nodup) (names : List String) :
    names.zipIdx.mapM (fun (name, i) => field? (fieldsOf mark entries) name i)
      = some (names.map fun name => (Entries.find? name entries).map (ofValueAs mark)) := by
  rw [mapM_eq_some_map fun e _ => field?_fieldsOf h e.1 e.2]
  conv => rhs; rw [← List.zipIdx_map_fst 0 names, List.map_map]
  rfl

/-- A record is read by the names of its fields. -/
theorem record?_ofFields (names : List String) (required : Nat) {fields : List (String × Value)}
    (h : (fields.map Prod.fst).Nodup) :
    record? names required (ofValueAs mark (.ofFields fields))
      = some (names.map fun name => (Entries.find? name fields).map (ofValueAs mark)) := by
  have hfind : ∀ name, Entries.find? name (KeyMap.ofList fields).entries
      = Entries.find? name fields := fun _ => KeyMap.find?_ofList h
  have hfields : fields? (ofValueAs mark (.ofFields fields))
      = some (fieldsOf mark (KeyMap.ofList fields).entries) := fields?_object
  show (fields? (ofValueAs mark (.ofFields fields)) >>= fun given =>
    names.zipIdx.mapM fun (name, i) => field? given name i) = _
  rw [bind_of_eq_some hfields, mapM_field?_fieldsOf (KeyMap.nodup_keys _)]
  simp only [hfind]

end Node

end Runbook
