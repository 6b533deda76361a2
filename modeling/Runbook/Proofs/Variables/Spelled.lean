import Runbook.Attachment
import Runbook.Proofs.Json.ReadBack
import Runbook.Proofs.Run.Items
import Runbook.Proofs.Template.Layout
import Runbook.Shared.Call

/-!
# Values spelled out

A list or a map is as good as its JSON text: what looks into a variable or an item finds the same in
the text.

* `Value.Readable` says of a list or a map that it is read back from its text, and `Spells` that one
  value is another or its text; `Variables.Spells` says so of all variables;
* `Spells.walk` and `Variables.Spells.resolve` say that paths lead to the same values, unless they are
  the names of variables themselves, and `Variables.Spells.rendered` that all paths have the same
  text;
* `Spells.key` says that items are sorted alike, and `rel_sortBy` that sorting sees no more of items
  than how they compare;
* `ReadAlike` and `SortedAlike` say what templates, conditions, filters and sort keys make of this, and
  `Value.Readable.asGoodAs` is the result.
-/

namespace Runbook

/-- A list or a map that is read back from its text: the fields rise, it is not nested too deeply,
and its numbers are read back. -/
structure Value.Readable (v : Value) : Prop where
  /-- It is a list or a map. -/
  nested : v.isNested = true
  /-- The reader goes as deep. -/
  shallow : v.depth ≤ Json.maxDepth
  /-- The fields of its maps rise. -/
  wellFormed : v.WellFormed
  /-- Its numbers are read back. -/
  exact : v.Exact

/-- The second value is the first, or the text of it. -/
inductive Spells : Value → Value → Prop where
  /-- A value spells itself. -/
  | refl (v : Value) : Spells v v
  /-- A text spells what is read from it. -/
  | text {v : Value} (h : v.Readable) : Spells v (.string v.text)

/-! ## What is found -/

/-- The text opens to the value. -/
theorem Value.Readable.opens {v : Value} (h : v.Readable) : openText? v.text = some v := by
  refine openText?_text h.nested ?_
  have hread := Json.parse?_compact h.shallow h.wellFormed h.exact
  have hnested := h.nested
  cases v with
  | null | bool _ | number _ | string _ => cases hnested
  | array _ | object _ => exact hread

namespace Spells

variable {v w : Value} {p : List (List Char)}

theorem text_eq (h : Spells v w) : w.text = v.text := by
  cases h <;> rfl

/-- A path leads to the same value from the text. -/
theorem walk (h : Spells v w) (hp : p ≠ []) : Runbook.walk w p = Runbook.walk v p := by
  cases h with
  | refl => rfl
  | text hv =>
    rw [walk_string hp, hv.opens]
    rfl

end Spells

namespace Variables

/-- The second variables have the same names, and the values of the first or their texts. -/
def Spells (vars texts : Variables) : Prop :=
  ∀ name, Option.Rel Runbook.Spells (vars.find? name) (texts.find? name)

namespace Spells

variable {vars texts : Variables} {v w : Value}

theorem refl (vars : Variables) : vars.Spells vars := by
  intro name
  cases vars.find? name with
  | none => exact .none
  | some v => exact .some (.refl v)

theorem insert (h : vars.Spells texts) (hv : Runbook.Spells v w) (name : String) :
    Variables.Spells (KeyMap.insert vars name v) (KeyMap.insert texts name w) := by
  intro other
  rw [KeyMap.find?_insert, KeyMap.find?_insert]
  by_cases hother : other = name
  · rw [if_pos hother, if_pos hother]
    exact .some hv
  · rw [if_neg hother, if_neg hother]
    exact h other

/-- A name has a value in both or in neither. -/
theorem find?_cases (h : vars.Spells texts) (name : String) :
    vars.find? name = none ∧ texts.find? name = none ∨
      ∃ v w, vars.find? name = some v ∧ texts.find? name = some w ∧ Runbook.Spells v w := by
  have hrel := h name
  cases hv : vars.find? name with
  | none =>
    cases hw : texts.find? name with
    | none => exact .inl ⟨rfl, rfl⟩
    | some w =>
      rw [hv, hw] at hrel
      cases hrel
  | some v =>
    cases hw : texts.find? name with
    | none =>
      rw [hv, hw] at hrel
      cases hrel
    | some w =>
      rw [hv, hw] at hrel
      cases hrel with
      | some hvw => exact .inr ⟨v, w, rfl, rfl, hvw⟩

theorem find?_eq_none (h : vars.Spells texts) {name : String} (hname : vars.find? name = none) :
    texts.find? name = none := by
  rcases h.find?_cases name with ⟨-, hnone⟩ | ⟨v, w, hv, -⟩
  · exact hnone
  · rw [hname] at hv
    cases hv

/-- A path that is no variable leads to the same value. -/
theorem resolve (h : vars.Spells texts) {path : String} (hpath : vars.find? path = none) :
    texts.resolve path = vars.resolve path := by
  obtain ⟨head, rest, hsplit, hjoin⟩ := Template.exists_segments path.toList
  unfold Variables.resolve
  rw [h.find?_eq_none hpath, hpath, hsplit]
  dsimp only
  rcases h.find?_cases (String.ofList head) with ⟨hv, hw⟩ | ⟨v, w, hv, hw, hvw⟩
  · rw [hv, hw]
  · rw [hv, hw]
    refine hvw.walk ?_
    -- without more segments the path would be the name of a variable
    rintro rfl
    rw [List.flatMap_nil, List.append_nil] at hjoin
    rw [← hjoin, String.ofList_toList, hpath] at hv
    cases hv

/-- Every path has the same text. -/
theorem render (h : vars.Spells texts) (path : String) : texts.render path = vars.render path := by
  rcases h.find?_cases path with ⟨hv, -⟩ | ⟨v, w, hv, hw, hvw⟩
  · rw [Variables.render, Variables.render, h.resolve hv]
  · simp [Variables.render, Variables.resolve, hv, hw, hvw.text_eq]

theorem rendered (h : vars.Spells texts) : texts.rendered = vars.rendered := by
  funext path
  rw [Variables.rendered, Variables.rendered, h.render]

end Spells

end Variables

/-! ## What is made of it -/

section Rendered

variable {vars texts : Variables}

theorem interpolate_of_rendered (h : texts.rendered = vars.rendered) (template : String) :
    texts.interpolate template = vars.interpolate template := by
  rw [Variables.interpolate, Variables.interpolate, h]

mutual

theorem interpolateValue_of_rendered (h : texts.rendered = vars.rendered) (v : Value) :
    texts.interpolateValue v = vars.interpolateValue v := by
  cases v with
  | null | bool _ | number _ => rfl
  | string s => exact congrArg Value.string (interpolate_of_rendered h s)
  | array items => exact congrArg Value.array (interpolateItems_of_rendered h items)
  | object fields => exact congrArg Value.object (interpolateFields_of_rendered h fields)

theorem interpolateItems_of_rendered (h : texts.rendered = vars.rendered) (items : List Value) :
    texts.interpolateItems items = vars.interpolateItems items := by
  cases items with
  | nil => rfl
  | cons v rest =>
    rw [Variables.interpolateItems, Variables.interpolateItems, interpolateValue_of_rendered h v,
      interpolateItems_of_rendered h rest]

theorem interpolateFields_of_rendered (h : texts.rendered = vars.rendered)
    (fields : List (String × Value)) :
    texts.interpolateFields fields = vars.interpolateFields fields := by
  cases fields with
  | nil => rfl
  | cons field rest =>
    obtain ⟨name, v⟩ := field
    rw [Variables.interpolateFields, Variables.interpolateFields,
      interpolateValue_of_rendered h v, interpolateFields_of_rendered h rest]

end

theorem attachPieces_of_rendered (h : texts.rendered = vars.rendered) (pieces : List Piece)
    (store : Attachments) : texts.attachPieces store pieces = vars.attachPieces store pieces := by
  induction pieces generalizing store with
  | nil => rfl
  | cons piece rest ih =>
    cases piece with
    | literal c => rw [Variables.attachPieces, Variables.attachPieces, ih]
    | path path =>
      rw [Variables.attachPieces, Variables.attachPieces, h, ih]
      split
      · split
        · rfl
        · rw [ih]
      · rfl

theorem eval_of_rendered (h : texts.rendered = vars.rendered) :
    Condition.Clause.eval texts = Condition.Clause.eval vars := by
  have hoperand : Condition.operand texts = Condition.operand vars := by
    funext cs
    rw [Condition.operand, Condition.operand, h]
  funext clause
  cases clause with
  | compare left op right => rw [Condition.Clause.eval, Condition.Clause.eval, hoperand]
  | truthy text => rw [Condition.Clause.eval, Condition.Clause.eval, hoperand]
  | malformed text => rfl

theorem outcomes_of_rendered (h : texts.rendered = vars.rendered) (condition : String) :
    Condition.outcomes texts condition = Condition.outcomes vars condition := by
  rw [Condition.outcomes, Condition.outcomes, eval_of_rendered h]

theorem next_of_rendered (h : texts.rendered = vars.rendered) :
    Condition.Verdict.next texts = Condition.Verdict.next vars := by
  funext verdict part
  rw [Condition.Verdict.next, Condition.Verdict.next, eval_of_rendered h]

end Rendered

/-- The path of an input or of the items of a loop that are one placeholder. -/
def lonePathOf? : Value → Option String
  | .string s => lonePath? s
  | _ => none

/-- What is read from the second variables is what is read from the first, but for placeholders that
stand alone and name a variable: these stand for the value itself. -/
structure ReadAlike (vars texts : Variables) : Prop where
  /-- A path that is no variable leads to the same value. -/
  resolve : ∀ path, vars.find? path = none → texts.resolve path = vars.resolve path
  /-- Every path has the same text. -/
  render : ∀ path, texts.render path = vars.render path
  /-- Templates turn into the same texts. -/
  interpolate : ∀ template, texts.interpolate template = vars.interpolate template
  /-- So do those inside a value. -/
  interpolateValue : ∀ v, texts.interpolateValue v = vars.interpolateValue v
  /-- So do those for tools that read files, which get the same files. -/
  attach : ∀ store template, texts.attach store template = vars.attach store template
  /-- Conditions hold alike. -/
  evaluate : ∀ condition, Condition.evaluate texts condition = Condition.evaluate vars condition
  /-- They have the same faults. -/
  evaluate? : ∀ condition, Condition.evaluate? texts condition = Condition.evaluate? vars condition
  /-- The same is reported of them. -/
  warnings : ∀ condition, Condition.warnings texts condition = Condition.warnings vars condition
  /-- Inputs stand for the same values. -/
  input : ∀ raw, (∀ path, lonePathOf? raw = some path → vars.find? path = none) →
    resolveInput texts raw = resolveInput vars raw
  /-- Loops have the same items. -/
  items : ∀ raw, (∀ path, lonePathOf? raw = some path → vars.find? path = none) →
    Loop.resolveItems texts raw = Loop.resolveItems vars raw
  /-- Their filters let the same items through. -/
  kept : ∀ (loop : ForeachLoop) items, loop.kept texts items = loop.kept vars items

section Read

variable {vars texts : Variables}

theorem Variables.Spells.resolveInput (h : vars.Spells texts) {raw : Value}
    (hraw : ∀ path, lonePathOf? raw = some path → vars.find? path = none) :
    Runbook.resolveInput texts raw = Runbook.resolveInput vars raw := by
  cases raw with
  | string s =>
    rw [Runbook.resolveInput, Runbook.resolveInput]
    cases hlone : lonePath? s with
    | none => exact congrArg Value.string (interpolate_of_rendered h.rendered s)
    | some path =>
      dsimp only
      rw [h.resolve (hraw path hlone)]
  | null | bool _ | number _ | array _ | object _ => exact interpolateValue_of_rendered h.rendered _

theorem Variables.Spells.resolveItems (h : vars.Spells texts) {raw : Value}
    (hraw : ∀ path, lonePathOf? raw = some path → vars.find? path = none) :
    Loop.resolveItems texts raw = Loop.resolveItems vars raw := by
  cases raw with
  | string s =>
    rw [Loop.resolveItems, Loop.resolveItems]
    cases hlone : lonePath? s with
    | none =>
      dsimp only
      rw [interpolate_of_rendered h.rendered]
    | some path =>
      dsimp only
      rw [h.resolve (hraw path hlone)]
  | array items =>
    rw [Loop.resolveItems, Loop.resolveItems, funext (interpolateValue_of_rendered h.rendered)]
  | null | bool _ | number _ | object _ => rfl

theorem Variables.Spells.evaluate (h : vars.Spells texts) (condition : String) :
    Condition.evaluate texts condition = Condition.evaluate vars condition := by
  rw [Condition.evaluate, Condition.evaluate, outcomes_of_rendered h.rendered]

/-! ## Items that are spelled out -/

theorem keptFrom_cons (loop : ForeachLoop) (vars : Variables) (condition : String) (index : Nat)
    (item : Value) (rest : List Value) :
    loop.keptFrom vars condition index (item :: rest) =
      if Condition.evaluate (loop.bound vars item index) condition then
        item :: loop.keptFrom vars condition (index + 1) rest
      else loop.keptFrom vars condition (index + 1) rest := by
  unfold ForeachLoop.keptFrom
  rw [List.zipIdx_cons, List.filter_cons]
  dsimp only
  split <;> rfl

/-- The items of two lists, of which the second has some as texts, go through a filter alike. -/
theorem forall₂_keptFrom (h : vars.Spells texts) (loop : ForeachLoop) (condition : String)
    {items spelled : List Value} (hitems : List.Forall₂ Spells items spelled) (index : Nat) :
    List.Forall₂ Spells (loop.keptFrom vars condition index items)
      (loop.keptFrom texts condition index spelled) := by
  induction hitems generalizing index with
  | nil => exact .nil
  | @cons v w items spelled hvw _ ih =>
    have hbound : Variables.Spells (loop.bound vars v index) (loop.bound texts w index) :=
      (h.insert hvw _).insert (.refl _) _
    rw [keptFrom_cons, keptFrom_cons, hbound.evaluate]
    split
    · exact .cons hvw (ih (index + 1))
    · exact ih (index + 1)

theorem forall₂_kept (h : vars.Spells texts) (loop : ForeachLoop) {items spelled : List Value}
    (hitems : List.Forall₂ Spells items spelled) :
    List.Forall₂ Spells (loop.kept vars items) (loop.kept texts spelled) := by
  unfold ForeachLoop.kept
  cases loop.filter with
  | none => exact hitems
  | some condition => exact forall₂_keptFrom h loop condition hitems 0

/-- With the same items the same ones go through. -/
theorem Variables.Spells.kept (h : vars.Spells texts) (loop : ForeachLoop) (items : List Value) :
    loop.kept texts items = loop.kept vars items := by
  have hbound : ∀ item index,
      Variables.Spells (loop.bound vars item index) (loop.bound texts item index) :=
    fun item index => (h.insert (.refl item) _).insert (.refl _) _
  unfold ForeachLoop.kept ForeachLoop.keptFrom
  cases loop.filter with
  | none => rfl
  | some condition =>
    dsimp only
    congr 1
    exact List.filter_congr fun (item, index) _ => (hbound item index).evaluate condition

/-- **What reads from variables reads from their texts.** -/
theorem readAlike_of_spells (h : vars.Spells texts) : ReadAlike vars texts where
  resolve _ hpath := h.resolve hpath
  render := h.render
  interpolate := interpolate_of_rendered h.rendered
  interpolateValue := interpolateValue_of_rendered h.rendered
  attach store template := attachPieces_of_rendered h.rendered _ store
  evaluate := h.evaluate
  evaluate? condition := by
    rw [Condition.evaluate?, Condition.evaluate?, next_of_rendered h.rendered]
  warnings condition := by
    rw [Condition.warnings, Condition.warnings, outcomes_of_rendered h.rendered]
  input _ hraw := h.resolveInput hraw
  items _ hraw := h.resolveItems hraw
  kept := h.kept

end Read

/-! ## Items that are sorted -/

section Sorting

variable {α β : Type} {R : α → β → Prop} {compare : α → α → Ordering}
  {compare' : β → β → Ordering} {xs : List α} {ys : List β}

theorem Sorter.sortBy_eq_sortAt (sorter : Sorter) (compare : α → α → Ordering) {n : Nat}
    (hn : n = xs.length) :
    sorter.sortBy compare xs = sorter.sortAt compare fun i : Fin n => xs.get (i.cast hn) := by
  subst hn
  rfl

/-- Lists whose items correspond and compare alike are sorted alike. -/
theorem rel_sortBy (sorter : Sorter)
    (hcompare : ∀ a b a' b', R a a' → R b b' → compare a b = compare' a' b')
    (h : List.Forall₂ R xs ys) :
    Option.Rel (List.Forall₂ R) (sorter.sortBy compare xs) (sorter.sortBy compare' ys) := by
  obtain ⟨hlength, hitems⟩ := List.forall₂_iff_get.1 h
  rw [sorter.sortBy_eq_sortAt compare' hlength]
  -- a sort sees no more of the items than how they compare
  have hpositions : (fun i j : Fin xs.length => compare (xs.get i) (xs.get j)) =
      fun i j => compare' (ys.get (i.cast hlength)) (ys.get (j.cast hlength)) := by
    funext i j
    exact hcompare _ _ _ _ (hitems i i.2 (hlength ▸ i.2)) (hitems j j.2 (hlength ▸ j.2))
  unfold Sorter.sortBy Sorter.sortAt
  rw [hpositions]
  cases sorter.arrange _ with
  | none => exact .none
  | some order =>
    refine .some ?_
    rw [List.forall₂_map_left_iff, List.forall₂_map_right_iff, List.forall₂_same]
    exact fun i _ => hitems i i.2 (hlength ▸ i.2)

end Sorting

/-- A list or a map, as a text, is no number. -/
theorem readFloat?_bracket {c : Char} (hc : c = '[' ∨ c = '\x7b') (cs : List Char) :
    Decimal.readFloat? (trim (c :: cs)) = none := by
  have htrim : ∃ rest, trim (c :: cs) = c :: rest := by
    have hblank : isBlank c = false := by rcases hc with rfl | rfl <;> decide
    rw [trim, trimStart_cons_of_not_blank hblank, trimEnd]
    split
    · exact ⟨[], by rw [hblank, if_neg Bool.false_ne_true]⟩
    · exact ⟨_, rfl⟩
  obtain ⟨rest, htrim⟩ := htrim
  rw [htrim]
  rcases hc with rfl | rfl <;>
    simp [Decimal.readFloat?, Decimal.lowerAscii, Decimal.readUnsigned?, Decimal.splitMantissa,
      Decimal.isDigit, Decimal.digitValue?]

namespace Spells

variable {v w : Value}

/-- A value is sorted like its text. -/
theorem key (h : Spells v w) : Loop.Key.ofValue w = Loop.Key.ofValue v := by
  cases h with
  | refl => rfl
  | text hv =>
    have hnested := hv.nested
    cases v with
    | null | bool _ | number _ | string _ => cases hnested
    | array items =>
      have hnumber : Loop.numberOf? (.string (Value.array items).text) = none := by
        rw [Loop.numberOf?, Value.text, Value.compact, String.toList_ofList]
        exact readFloat?_bracket (.inl rfl) _
      exact congrArg (Loop.Key.mk · _) hnumber
    | object fields =>
      have hnumber : Loop.numberOf? (.string (Value.object fields).text) = none := by
        rw [Loop.numberOf?, Value.text, Value.compact, String.toList_ofList]
        exact readFloat?_bracket (.inr rfl) _
      exact congrArg (Loop.Key.mk · _) hnumber

/-- An item is sorted like its text, whatever it is sorted by. -/
theorem sortKey (h : Spells v w) (path : String) :
    Loop.Key.ofValue (Loop.sortValue path w) = Loop.Key.ofValue (Loop.sortValue path v) := by
  unfold Loop.sortValue
  by_cases hpath : path = "."
  · rw [if_pos hpath, if_pos hpath]
    exact h.key
  · obtain ⟨head, rest, hsplit, -⟩ := Template.exists_segments path.toList
    rw [if_neg hpath, if_neg hpath, h.walk (hsplit ▸ List.cons_ne_nil head rest)]

end Spells

theorem rel_sortItems (sorter : Sorter) (path : Option String) (order : SortOrder)
    {items spelled : List Value} (h : List.Forall₂ Spells items spelled) :
    Option.Rel (List.Forall₂ Spells) (Loop.sortItems sorter path order items)
      (Loop.sortItems sorter path order spelled) := by
  cases path with
  | none => exact .some h
  | some path =>
    refine rel_sortBy sorter (fun a b a' b' ha hb => ?_) h
    have hkey : ∀ {v w}, Spells v w → Loop.keyAt path w = Loop.keyAt path v :=
      fun hvw => hvw.sortKey path
    rw [Loop.compareAt, Loop.compareAt, hkey ha, hkey hb]

/-- What a loop makes of its items is made of their texts. -/
structure SortedAlike (items spelled : List Value) : Prop where
  /-- They are sorted into the same order, or sorting both panics. -/
  sortItems : ∀ (sorter : Sorter) path order,
    Option.Rel (List.Forall₂ Spells) (Loop.sortItems sorter path order items)
      (Loop.sortItems sorter path order spelled)
  /-- The same go through a filter. -/
  kept : ∀ (loop : ForeachLoop) (vars : Variables),
    List.Forall₂ Spells (loop.kept vars items) (loop.kept vars spelled)
  /-- The loop goes over the same. -/
  chosen : ∀ (loop : ForeachLoop) (sorter : Sorter) (vars : Variables),
    Option.Rel (List.Forall₂ Spells) (loop.chosen sorter vars items)
      (loop.chosen sorter vars spelled)

theorem sortedAlike_of_spells {items spelled : List Value}
    (h : List.Forall₂ Spells items spelled) : SortedAlike items spelled where
  sortItems sorter path order := rel_sortItems sorter path order h
  kept loop vars := forall₂_kept (.refl vars) loop h
  chosen loop sorter vars :=
    rel_sortItems sorter loop.sortBy loop.sortOrder (forall₂_kept (.refl vars) loop h)

/-! ## The result -/

/-- What it means that the text of a value is as good as the value. -/
structure AsGoodAs (v : Value) : Prop where
  /-- A path leads to the same from the text. -/
  walks : ∀ p, p ≠ [] → walk (.string v.text) p = walk v p
  /-- A variable may hold the one or the other. -/
  variableHolds : ∀ (vars : Variables) (name : String),
    ReadAlike (KeyMap.insert vars name v) (KeyMap.insert vars name (.string v.text))
  /-- So may an item of a loop. -/
  itemHolds : ∀ before after : List Value,
    SortedAlike (before ++ v :: after) (before ++ .string v.text :: after)

/-- **JSON text is as good as the value**: a list or a map within the depth of the reader, with no
number that is not read back, has the same at every path as its text, and what is made of variables
and items by templates, conditions, filters and sort keys does not tell them apart. -/
theorem Value.Readable.asGoodAs {v : Value} (h : v.Readable) : AsGoodAs v where
  walks _ hp := (Spells.text h).walk hp
  variableHolds vars name :=
    readAlike_of_spells ((Variables.Spells.refl vars).insert (.text h) name)
  itemHolds before after := by
    refine sortedAlike_of_spells (List.rel_append ?_ (.cons (.text h) ?_)) <;>
      exact List.forall₂_same.2 fun v _ => .refl v

/-- A map with a list in it, a double, and a text with quotes and braces. -/
def inventory : Value :=
  .object [("items", .array [.object [("id", .int 7)], .string "\"\x7bid\x7d\""]),
    ("weight", .number (.float ⟨false, 0x3FF8000000000000⟩))]

theorem inventory_asGoodAs : inventory.Readable ∧ AsGoodAs inventory := by
  have hid : (Number.int 7).Exact := by
    unfold Number.Exact
    decide
  have hweight : (Number.float ⟨false, 0x3FF8000000000000⟩).Exact := by
    unfold Number.Exact
    decide +kernel
  have hrising : "items" < "weight" := by decide
  have hfirst : Value.WellFormed (.object [("id", .int 7)]) :=
    ⟨List.pairwise_singleton _ _, trivial, trivial⟩
  have hreadable : inventory.Readable :=
    ⟨rfl, by decide, ⟨List.pairwise_pair.2 hrising, ⟨hfirst, trivial, trivial⟩, trivial, trivial⟩,
      ⟨⟨hid, trivial⟩, trivial, trivial⟩, hweight, trivial⟩
  exact ⟨hreadable, hreadable.asGoodAs⟩

end Runbook
