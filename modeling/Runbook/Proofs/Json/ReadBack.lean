import Mathlib.Tactic.IntervalCases
import Runbook.Proofs.Json.Numbers
import Runbook.Proofs.KeyMap
import Runbook.Proofs.Variables.Walk

/-!
# JSON text read back

The compact text of a value is read as the value, unless it is nested too deeply or has a double in
it that its own text does not read back as.

* `string_quoted` reads a quoted text, character by character;
* `Value.depth` counts the levels of lists and maps, and `Value.Exact` says that all numbers inside a
  value are read back by themselves, which whole numbers of 64 bits always are;
* `value_compact` reads the text of a value before anything that separates, and `parse?_compact` the
  text of a value by itself;
* `openText?_text` says that a text so read opens to the list or map that it was made of.
-/

namespace Runbook

/-! ## Quoted texts -/

namespace Json

variable {fuel : Nat} {acc : List Char}

/-- Two hexadecimal digits behind two zeros stand for a control character. -/
theorem hexFour_escaped {k : Nat} (hk : k < 32) (more : List Char) :
    hexFour ('0' :: '0' :: hexDigit (k / 16) :: hexDigit (k % 16) :: more) = .ok (k, more) := by
  interval_cases k <;> rfl

theorem unicodeEscape_escaped {k : Nat} (hk : k < 32) (more : List Char) :
    unicodeEscape ('0' :: '0' :: hexDigit (k / 16) :: hexDigit (k % 16) :: more) =
      .ok (Char.ofNat k, more) := by
  have hplain : ¬ (0xDC00 ≤ k ∧ k ≤ 0xDFFF) := by omega
  have hlow : k < 0xD800 ∨ 0xDBFF < k := by omega
  unfold unicodeEscape
  rw [hexFour_escaped hk]
  change (if _ then _ else if _ then _ else _) = _
  rw [if_neg hplain, if_pos hlow]

theorem stringFrom_unicode {c : Char} {cs rest : List Char}
    (h : unicodeEscape cs = .ok (c, rest)) :
    stringFrom (fuel + 1) acc ('\\' :: 'u' :: cs) = stringFrom fuel (c :: acc) rest := by
  simp [stringFrom, h]

/-- An escaped character is read in one turn. -/
theorem stringFrom_escapeChar (c : Char) (more : List Char) :
    stringFrom (fuel + 1) acc (escapeChar c ++ more) = stringFrom fuel (c :: acc) more := by
  by_cases hplain : c = '"' ∨ c = '\\' ∨ c = '\n' ∨ c = '\r' ∨ c = '\t' ∨ c = '\x08' ∨ c = '\x0c'
  · rcases hplain with rfl | rfl | rfl | rfl | rfl | rfl | rfl <;> rfl
  · simp only [not_or] at hplain
    obtain ⟨hquote, hslash, hline, hreturn, htab, hback, hfeed⟩ := hplain
    by_cases hcontrol : c.toNat < 32
    · have hescaped : escapeChar c =
          ['\\', 'u', '0', '0', hexDigit (c.toNat / 16), hexDigit (c.toNat % 16)] := by
        simp [escapeChar, *]
      have hread := unicodeEscape_escaped hcontrol more
      rw [Char.ofNat_toNat] at hread
      rw [hescaped]
      exact stringFrom_unicode hread
    · have hescaped : escapeChar c = [c] := by simp [escapeChar, *]
      rw [hescaped, List.singleton_append]
      simp [stringFrom, *]

/-- A text is read up to its closing quote. -/
theorem stringFrom_flatMap (cs after : List Char) (hfuel : cs.length < fuel) :
    stringFrom fuel acc (cs.flatMap escapeChar ++ '"' :: after) =
      .ok (String.ofList (acc.reverse ++ cs), after) := by
  induction cs generalizing fuel acc with
  | nil =>
    obtain ⟨turns, rfl⟩ := Nat.exists_eq_succ_of_ne_zero (Nat.ne_zero_of_lt hfuel)
    rw [List.append_nil]
    rfl
  | cons c rest ih =>
    obtain ⟨turns, rfl⟩ := Nat.exists_eq_succ_of_ne_zero (Nat.ne_zero_of_lt hfuel)
    rw [List.flatMap_cons, List.append_assoc, Nat.succ_eq_add_one, stringFrom_escapeChar,
      ih (Nat.lt_of_succ_lt_succ hfuel), List.reverse_cons, List.append_assoc]
    rfl

theorem escapeChar_ne_nil (c : Char) : escapeChar c ≠ [] := by
  unfold escapeChar
  repeat' split
  all_goals exact List.cons_ne_nil _ _

theorem length_le_flatMap_escapeChar (cs : List Char) :
    cs.length ≤ (cs.flatMap escapeChar).length := by
  induction cs with
  | nil => exact Nat.le_refl _
  | cons c rest ih =>
    have hc := List.length_pos_iff.2 (escapeChar_ne_nil c)
    rw [List.flatMap_cons, List.length_append, List.length_cons]
    omega

/-- A quoted text is read back, and what stands behind it is left. -/
theorem string_quoted (s : String) (after : List Char) :
    string (s.toList.flatMap escapeChar ++ '"' :: after) = .ok (s, after) := by
  have hlength := length_le_flatMap_escapeChar s.toList
  rw [string, stringFrom_flatMap _ _ (by rw [List.length_append]; omega)]
  rw [List.reverse_nil, List.nil_append, String.ofList_toList]

theorem quoted_append (s : String) (after : List Char) :
    quoted s ++ after = '"' :: (s.toList.flatMap escapeChar ++ '"' :: after) := by
  simp [quoted]

end Json

/-! ## Values that are read back -/

namespace Value

mutual

/-- The number of levels of lists and maps. -/
def depth : Value → Nat
  | .array items => depthItems items + 1
  | .object fields => depthFields fields + 1
  | _ => 0

/-- The largest depth of an item. -/
def depthItems : List Value → Nat
  | [] => 0
  | v :: rest => max (depth v) (depthItems rest)

/-- The largest depth of the value of a field. -/
def depthFields : List (String × Value) → Nat
  | [] => 0
  | (_, v) :: rest => max (depth v) (depthFields rest)

end

end Value

/-- The number is read back from its text: a whole number if it has 64 bits, a double if its own text
reads as it. -/
def Number.Exact : Number → Prop
  | .int i => (Number.int i).Valid
  | .float x => Json.parse? (Number.float x).text = some (.number (.float x))

namespace Value

mutual

/-- Every number inside the value is read back from its text. -/
def Exact : Value → Prop
  | .number n => n.Exact
  | .array items => ItemsExact items
  | .object fields => FieldsExact fields
  | _ => True

/-- Every number inside the items is read back from its text. -/
def ItemsExact : List Value → Prop
  | [] => True
  | v :: rest => Exact v ∧ ItemsExact rest

/-- Every number inside the fields is read back from its text. -/
def FieldsExact : List (String × Value) → Prop
  | [] => True
  | (_, v) :: rest => Exact v ∧ FieldsExact rest

end

/-- The items of a list behind the first, with the comma before each, and the closing bracket. -/
def moreItems : List Value → List Char
  | [] => [']']
  | v :: rest => ',' :: (compactChars v ++ moreItems rest)

/-- The fields of a map behind the first, with the comma before each, and the closing brace. -/
def moreFields : List (String × Value) → List Char
  | [] => ['\x7d']
  | (k, v) :: rest => ',' :: (quoted k ++ ':' :: (compactChars v ++ moreFields rest))

theorem compactItems_cons (v : Value) (rest : List Value) :
    compactItems (v :: rest) = compactChars v ++ moreItems rest := by
  induction rest generalizing v with
  | nil => rfl
  | cons u rest ih =>
    rw [compactItems, ih u]
    · rfl
    · exact List.cons_ne_nil _ _

theorem compactFields_cons (k : String) (v : Value) (rest : List (String × Value)) :
    compactFields ((k, v) :: rest) = quoted k ++ ':' :: (compactChars v ++ moreFields rest) := by
  induction rest generalizing k v with
  | nil => rfl
  | cons field rest ih =>
    obtain ⟨l, u⟩ := field
    rw [compactFields, ih l u]
    · rfl
    · exact List.cons_ne_nil _ _

end Value

/-! ## Lists and maps, part by part -/

namespace Json

section Parts

variable {item : Reader Value} {fuel : Nat} {first : Bool} {cs rest more : List Char} {v : Value}

/-- What an item begins with is no blank and no end of a list. -/
def StartsItem (cs : List Char) : Prop :=
  ∃ c ∈ cs.head?, isSpace c = false ∧ c ≠ ']'

theorem StartsItem.append (h : StartsItem cs) (more : List Char) : StartsItem (cs ++ more) := by
  obtain ⟨c, hhead, hc⟩ := h
  obtain ⟨rest, rfl⟩ := List.head?_eq_some_iff.1 hhead
  exact ⟨c, rfl, hc⟩

theorem skipSpace_cons {c : Char} (hc : isSpace c = false) (cs : List Char) :
    skipSpace (c :: cs) = c :: cs := by
  rw [skipSpace, List.dropWhile_cons, hc, if_neg Bool.false_ne_true]

theorem items_first {vs : List Value} (hcs : StartsItem cs) (hv : item cs = .ok (v, rest))
    (hvs : items item fuel false rest = .ok (vs, more)) :
    items item (fuel + 1) true cs = .ok (v :: vs, more) := by
  obtain ⟨c, hhead, hspace, hend⟩ := hcs
  obtain ⟨tail, rfl⟩ := List.head?_eq_some_iff.1 hhead
  unfold items
  rw [skipSpace_cons hspace]
  simp [hv, hvs, bind, Except.bind]

theorem items_next {vs : List Value} (hcs : StartsItem cs) (hv : item cs = .ok (v, rest))
    (hvs : items item fuel false rest = .ok (vs, more)) :
    items item (fuel + 1) false (',' :: cs) = .ok (v :: vs, more) := by
  obtain ⟨c, hhead, hspace, hend⟩ := hcs
  obtain ⟨tail, rfl⟩ := List.head?_eq_some_iff.1 hhead
  unfold items
  rw [skipSpace_cons (by decide)]
  simp [skipSpace_cons hspace, hend, hv, hvs, bind, Except.bind]

theorem fields_first {done : KeyMap Value} {k : String} {u : Value}
    (hk : string cs = .ok (k, ':' :: rest)) {left : List Char}
    (hv : item rest = .ok (v, left))
    (hmore : fields item fuel false (done.insert k v) left = .ok (u, more)) :
    fields item (fuel + 1) true done ('"' :: cs) = .ok (u, more) := by
  unfold fields
  rw [skipSpace_cons (by decide)]
  simp [hk, skipSpace_cons, isSpace, hv, hmore, bind, Except.bind]

theorem fields_next {done : KeyMap Value} {k : String} {u : Value}
    (hk : string cs = .ok (k, ':' :: rest)) {left : List Char}
    (hv : item rest = .ok (v, left))
    (hmore : fields item fuel false (done.insert k v) left = .ok (u, more)) :
    fields item (fuel + 1) false done (',' :: '"' :: cs) = .ok (u, more) := by
  unfold fields
  rw [skipSpace_cons (by decide)]
  simp [hk, skipSpace_cons, isSpace, hv, hmore, bind, Except.bind]

end Parts

/-! ## Whole values -/

theorem startsItem_of_inNumeral {c : Char} {cs : List Char} (hc : InNumeral c) :
    StartsItem (c :: cs) := by
  refine ⟨c, rfl, hc.not_space, ?_⟩
  rintro rfl
  rcases hc with h | h | h | h | h <;> cases h

/-- The text of a number begins like an item. -/
theorem startsItem_number (n : Number) : StartsItem n.text.toList := by
  cases n with
  | int i =>
    rw [Number.text, Decimal.toList_toString, Decimal.signOf]
    split
    · exact startsItem_of_inNumeral (.inr (.inr (.inr (.inr rfl))))
    · have hdigits := Decimal.toDigits_isDigit i.natAbs
      cases hcs : Nat.toDigits 10 i.natAbs with
      | nil => exact absurd hcs Nat.toDigits_ne_nil
      | cons c rest =>
        rw [hcs] at hdigits
        exact startsItem_of_inNumeral (.inl (hdigits c List.mem_cons_self))
  | float x =>
    obtain ⟨body, htext, ⟨c, hhead, hdigit⟩, -⟩ := numeral_render x
    obtain ⟨rest, rfl⟩ := List.head?_eq_some_iff.1 hhead
    rw [Number.text, htext]
    split
    · exact startsItem_of_inNumeral (.inr (.inr (.inr (.inr rfl))))
    · exact startsItem_of_inNumeral (.inl hdigit)

/-- The text of a value begins like an item. -/
theorem startsItem_compact (v : Value) : StartsItem v.compactChars := by
  cases v with
  | null => exact ⟨'n', rfl, rfl, by decide⟩
  | bool b => cases b <;> exact ⟨_, rfl, rfl, by decide⟩
  | number n => exact startsItem_number n
  | string s => exact ⟨'"', rfl, rfl, by decide⟩
  | array items => exact ⟨'[', rfl, rfl, by decide⟩
  | object fields => exact ⟨'\x7b', rfl, rfl, by decide⟩

/-- The text of an exact number is one number. -/
theorem numberText_of_exact {n : Number} (h : n.Exact) : NumberText n.text.toList n := by
  cases n with
  | int i => exact numberText_int h
  | float x =>
    obtain ⟨rest, hvalue, hrest⟩ := parse?_eq_some.1 h
    exact numberText_of_value hvalue hrest

theorem separates_moreItems (vs : List Value) (after : List Char) :
    Separates (Value.moreItems vs ++ after) := by
  cases vs <;>
  · rintro c ⟨⟩
    decide

theorem separates_moreFields (fs : List (String × Value)) (after : List Char) :
    Separates (Value.moreFields fs ++ after) := by
  cases fs <;>
  · rintro c ⟨⟩
    decide

theorem length_lt_moreItems (vs : List Value) : vs.length < (Value.moreItems vs).length := by
  induction vs with
  | nil => exact Nat.one_pos
  | cons v rest ih =>
    rw [Value.moreItems, List.length_cons, List.length_cons, List.length_append]
    omega

theorem length_lt_moreFields (fs : List (String × Value)) :
    fs.length < (Value.moreFields fs).length := by
  induction fs with
  | nil => exact Nat.one_pos
  | cons field rest ih =>
    obtain ⟨k, v⟩ := field
    rw [Value.moreFields, List.length_cons, List.length_cons, List.length_append, List.length_cons,
      List.length_append]
    omega

section Cons

variable {v : Value} {inner : Nat} {after : List Char}

/-- A list is read back if its first item and the others are. -/
theorem value_array_cons {rest : List Value}
    (hv : value inner (v.compactChars ++ (Value.moreItems rest ++ after)) =
      .ok (v, Value.moreItems rest ++ after))
    (hrest : ∀ fuel, rest.length < fuel →
      items (value inner) fuel false (Value.moreItems rest ++ after) = .ok (rest, after)) :
    value (inner + 1) ((Value.array (v :: rest)).compactChars ++ after) =
      .ok (.array (v :: rest), after) := by
  have hlength := length_lt_moreItems rest
  have hstarts := (startsItem_compact v).append (Value.moreItems rest ++ after)
  rw [Value.compactChars, Value.compactItems_cons, List.cons_append, List.append_assoc]
  generalize hchars : v.compactChars ++ (Value.moreItems rest ++ after) = cs at hv hstarts ⊢
  have hfuel : rest.length < cs.length := by
    rw [← hchars, List.length_append, List.length_append]
    omega
  change (items (value inner) (cs.length + 1) true cs).map _ = _
  rw [items_first hstarts hv (hrest _ hfuel)]
  rfl

/-- A map is read back if its first field and the others are. -/
theorem value_object_cons {k : String} {rest : List (String × Value)}
    (hrising : RisingKeys ((k, v) :: rest))
    (hv : value inner (v.compactChars ++ (Value.moreFields rest ++ after)) =
      .ok (v, Value.moreFields rest ++ after))
    (hrest : ∀ fuel, rest.length < fuel → ∀ done,
      fields (value inner) fuel false done (Value.moreFields rest ++ after) =
        .ok (.ofMap (done.insertAll rest), after)) :
    value (inner + 1) ((Value.object ((k, v) :: rest)).compactChars ++ after) =
      .ok (.object ((k, v) :: rest), after) := by
  have hlength := length_lt_moreFields rest
  have hk := string_quoted k (':' :: (v.compactChars ++ (Value.moreFields rest ++ after)))
  rw [Value.compactChars, Value.compactFields_cons, List.cons_append, List.append_assoc,
    List.cons_append, List.append_assoc, quoted_append]
  generalize hchars : k.toList.flatMap escapeChar ++
    '"' :: ':' :: (v.compactChars ++ (Value.moreFields rest ++ after)) = cs at hk ⊢
  have hfuel : rest.length < ('"' :: cs).length := by
    rw [← hchars]
    simp only [List.length_append, List.length_cons]
    omega
  change fields (value inner) (('"' :: cs).length + 1) true .empty ('"' :: cs) = _
  rw [fields_first hk hv (hrest _ hfuel (KeyMap.empty.insert k v))]
  -- the names rise, so the map has the fields as they were
  exact congrArg (fun m => Except.ok (Value.ofMap m, after)) (KeyMap.ofList_entries ⟨_, hrising⟩)

end Cons

mutual

/-- A value is read back from its text, and what separates behind it is left. -/
theorem value_compact (v : Value) {depth : Nat} (hdepth : v.depth ≤ depth) (hw : v.WellFormed)
    (hexact : v.Exact) {after : List Char} (hafter : Separates after) :
    value depth (v.compactChars ++ after) = .ok (v, after) := by
  cases v with
  | null => cases depth <;> rfl
  | bool b => cases b <;> cases depth <;> rfl
  | number n =>
    have hread : ∀ inner, valueWith inner (n.text.toList ++ after) = .ok (.number n, after) :=
      fun inner => (numberText_of_exact hexact).valueWith hafter
    cases depth <;> exact hread _
  | string s =>
    have hread : ∀ inner, valueWith inner (quoted s ++ after) = .ok (.string s, after) := by
      intro inner
      rw [quoted_append]
      change (string (s.toList.flatMap escapeChar ++ '"' :: after)).map _ = _
      rw [string_quoted]
      rfl
    cases depth <;> exact hread _
  | array items =>
    obtain ⟨inner, rfl⟩ := Nat.exists_eq_succ_of_ne_zero
      (Nat.ne_zero_of_lt (Nat.lt_of_lt_of_le (Nat.succ_pos _) hdepth))
    cases items with
    | nil => rfl
    | cons v rest =>
      obtain ⟨hwv, hwrest⟩ := hw
      obtain ⟨hev, herest⟩ := hexact
      obtain ⟨hdv, hdrest⟩ := Nat.max_le.1 (Nat.le_of_succ_le_succ hdepth)
      exact value_array_cons (value_compact v hdv hwv hev (separates_moreItems rest after))
        fun fuel hfuel => items_compact rest hdrest hwrest herest hfuel after
  | object fields =>
    obtain ⟨inner, rfl⟩ := Nat.exists_eq_succ_of_ne_zero
      (Nat.ne_zero_of_lt (Nat.lt_of_lt_of_le (Nat.succ_pos _) hdepth))
    obtain ⟨hrising, hw⟩ := hw
    cases fields with
    | nil => rfl
    | cons field rest =>
      obtain ⟨k, v⟩ := field
      obtain ⟨hwv, hwrest⟩ := hw
      obtain ⟨hev, herest⟩ := hexact
      obtain ⟨hdv, hdrest⟩ := Nat.max_le.1 (Nat.le_of_succ_le_succ hdepth)
      exact value_object_cons hrising
        (value_compact v hdv hwv hev (separates_moreFields rest after))
        fun fuel hfuel done => fields_compact rest hdrest hwrest herest hfuel done after

theorem items_compact (vs : List Value) {depth fuel : Nat} (hdepth : Value.depthItems vs ≤ depth)
    (hw : Value.ItemsWellFormed vs) (hexact : Value.ItemsExact vs) (hfuel : vs.length < fuel)
    (after : List Char) :
    items (value depth) fuel false (Value.moreItems vs ++ after) = .ok (vs, after) := by
  obtain ⟨turns, rfl⟩ := Nat.exists_eq_succ_of_ne_zero (Nat.ne_zero_of_lt hfuel)
  cases vs with
  | nil => rfl
  | cons v rest =>
    obtain ⟨hwv, hwrest⟩ := hw
    obtain ⟨hev, herest⟩ := hexact
    obtain ⟨hdv, hdrest⟩ := Nat.max_le.1 hdepth
    have hv := value_compact v hdv hwv hev (separates_moreItems rest after)
    have hrest := items_compact rest hdrest hwrest herest (Nat.lt_of_succ_lt_succ hfuel) after
    rw [Value.moreItems, List.cons_append, List.append_assoc]
    exact items_next ((startsItem_compact v).append _) hv hrest

theorem fields_compact (fs : List (String × Value)) {depth fuel : Nat}
    (hdepth : Value.depthFields fs ≤ depth) (hw : Value.FieldsWellFormed fs)
    (hexact : Value.FieldsExact fs) (hfuel : fs.length < fuel) (done : KeyMap Value)
    (after : List Char) :
    fields (value depth) fuel false done (Value.moreFields fs ++ after) =
      .ok (.ofMap (done.insertAll fs), after) := by
  obtain ⟨turns, rfl⟩ := Nat.exists_eq_succ_of_ne_zero (Nat.ne_zero_of_lt hfuel)
  cases fs with
  | nil => rfl
  | cons field rest =>
    obtain ⟨k, v⟩ := field
    obtain ⟨hwv, hwrest⟩ := hw
    obtain ⟨hev, herest⟩ := hexact
    obtain ⟨hdv, hdrest⟩ := Nat.max_le.1 hdepth
    have hv := value_compact v hdv hwv hev (separates_moreFields rest after)
    have hrest := fields_compact rest hdrest hwrest herest (Nat.lt_of_succ_lt_succ hfuel)
      (done.insert k v) after
    rw [Value.moreFields, List.cons_append, List.append_assoc, List.cons_append,
      List.append_assoc, quoted_append]
    exact fields_next (string_quoted k _) hv hrest

end

/-- The compact text of a value is read as the value. -/
theorem parse?_compact {v : Value} (hdepth : v.depth ≤ maxDepth) (hw : v.WellFormed)
    (hexact : v.Exact) : parse? v.compact = some v := by
  refine parse?_eq_some.2 ⟨[], ?_, rfl⟩
  have hread := value_compact v hdepth hw hexact separates_nil
  rw [List.append_nil] at hread
  rwa [Value.compact, String.toList_ofList]

end Json

/-- The text of a list or a map opens to the value. -/
theorem openText?_text {v : Value} (hnested : v.isNested = true)
    (hread : Json.parse? v.text = some v) : openText? v.text = some v := by
  have hopens : ∀ c cs, isBlank c = false → c = '[' ∨ c = '\x7b' → v.text = String.ofList (c :: cs) →
      openText? v.text = some v := by
    intro c cs hblank hc htext
    have htrim : trimStart v.text.toList = c :: cs := by
      rw [htext, String.toList_ofList, trimStart_cons_of_not_blank hblank]
    rw [openText?, htrim]
    rw [htext] at hread
    rcases hc with rfl | rfl <;> exact hread
  cases v with
  | null | bool _ | number _ | string _ => cases hnested
  | array items => exact hopens '[' _ (by decide) (.inl rfl) rfl
  | object fields => exact hopens '\x7b' _ (by decide) (.inr rfl) rfl

end Runbook
