import Runbook.Definition.Decoder
import Runbook.Definition.Encoder
import Runbook.Proofs.Document.Values

/-!
# Reading what was read again

A reader of one part of a definition, and what writes this part: what was read once is read again
from what is written.

* `Rereads` says so of a reader and a writer, `RereadsField` of the reader of a field that may be
  missing;
* `Rereads.required`, `Rereads.defaulted` and `Rereads.optional` lead from the first to the second;
* the readers of texts, numbers, choices, bounds, values and maps come first, and then the records;
* `Defaults.rereads` and `InputSchema.rereads` are about records that are read from their nodes;
* `ToolFields.Carry` says that the fields of a tool are those that were written, and
  `StepsReader.PassesOn` that the steps of a loop are read again;
* `ForeachLoop.reread`, `WhileLoop.reread`, `RangeLoop.reread` and `RetryLoop.reread` are about
  loops, `SharedCall.reread` is about calls, and `Tool.reread` about all tools.
-/

namespace Runbook

open Node

variable {α : Type}

/-- What is read and then written is read again, as the same. -/
def Rereads (read : Node → Option α) (write : α → Value) : Prop :=
  ∀ ⦃n a⦄, read n = some a → ∀ ⦃mark⦄, isPlainMark mark = true →
    read (ofValueAs mark (write a)) = some a

/-- What is read from a field, there or not, and then written is read again, as the same. -/
def RereadsField (read : Option Node → Option α) (write : α → Value) : Prop :=
  ∀ ⦃field a⦄, read field = some a → ∀ ⦃mark⦄, isPlainMark mark = true →
    read (some (ofValueAs mark (write a))) = some a

section

variable {read : Node → Option α} {field : Option Node} {n : Node} {a : α} {as : List α}

/-- What is there was read. -/
theorem exists_of_optional? (h : optional? read field = some (some a)) : ∃ n, read n = some a := by
  cases field with
  | none => cases h
  | some n =>
    obtain ⟨absent, -, h⟩ := Option.bind_eq_some_iff.1 h
    cases absent with
    | true => cases h
    | false =>
      obtain ⟨b, hb, hab⟩ := Option.map_eq_some_iff.1 h
      cases hab
      exact ⟨n, hb⟩

/-- What is there is read. -/
theorem optional?_some (hthere : n.isAbsent? = some false) (h : read n = some a) :
    optional? read (some n) = some (some a) := by
  show (n.isAbsent? >>= fun absent => if absent then some none else (read n).map some) = _
  rw [bind_of_eq_some hthere, h]
  rfl

/-- What was read from a list was read from one of its items. -/
theorem exists_of_mem_mapM {β : Type} {read : β → Option α} {items : List β}
    (h : items.mapM read = some as) (ha : a ∈ as) : ∃ b ∈ items, read b = some a := by
  induction items generalizing as with
  | nil =>
    cases h
    exact absurd ha List.not_mem_nil
  | cons b rest ih =>
    rw [List.mapM_cons] at h
    obtain ⟨first, hfirst, h⟩ := Option.bind_eq_some_iff.1 h
    obtain ⟨others, hothers, h⟩ := Option.bind_eq_some_iff.1 h
    cases h
    rcases List.mem_cons.1 ha with rfl | ha
    · exact ⟨b, List.mem_cons_self, hfirst⟩
    · obtain ⟨c, hc, hread⟩ := ih hothers ha
      exact ⟨c, List.mem_cons_of_mem _ hc, hread⟩

/-- Items that are read one by one from what is written of them. -/
theorem mapM_ofValuesAs {write : α → Value} {back : α → α} {mark : Mark}
    (h : ∀ a ∈ as, read (ofValueAs mark (write a)) = some (back a)) :
    (ofValuesAs mark (as.map write)).mapM read = some (as.map back) := by
  rw [ofValuesAs_eq_map, List.map_map]
  exact mapM_map_eq_some h

end

namespace Rereads

variable {read : Node → Option α} {write : α → Value}

/-- A field that has to be given. -/
theorem required (h : Rereads read write) : RereadsField (required? read) write := by
  intro field a hread mark hmark
  cases field with
  | none => cases hread
  | some n => exact h hread hmark

/-- A field with a default that can be read itself. -/
theorem defaulted (h : Rereads read write) {default : α}
    (hdefault : ∀ mark, isPlainMark mark = true →
      read (ofValueAs mark (write default)) = some default) :
    RereadsField (defaulted? read default) write := by
  intro field a hread mark hmark
  cases field with
  | none =>
    cases hread
    exact hdefault mark hmark
  | some n => exact h hread hmark

/-- A field that may be absent, and is never written as absent when it is there. -/
theorem optional (h : Rereads read write)
    (hthere : ∀ mark a, isAbsent? (ofValueAs mark (write a)) = some false) :
    RereadsField (optional? read) (fun a => a.elim .null write) := by
  intro field a hread mark hmark
  cases a with
  | none => rfl
  | some a =>
    obtain ⟨n, hn⟩ := exists_of_optional? hread
    exact optional?_some (hthere mark a) (h hn hmark)

end Rereads

/-- What writes the same serves as well. -/
theorem RereadsField.congr {read : Option Node → Option α} {write write' : α → Value}
    (h : RereadsField read write) (hwrite : ∀ a, write' a = write a) : RereadsField read write' :=
  (funext hwrite : write' = write) ▸ h

/-! ## Texts and numbers -/

theorem rereads_text : Rereads Node.text? .string := fun _ _ _ _ _ => rfl

theorem rereads_textOr (default : String) : RereadsField (defaulted? text? default) .string :=
  rereads_text.defaulted fun _ _ => rfl

theorem rereads_text? : RereadsField (optional? text?) .ofString? :=
  (rereads_text.optional fun _ _ => rfl).congr fun s => by cases s <;> rfl

theorem rereads_truth : Rereads Node.truth? .bool := fun _ _ _ _ _ => rfl

theorem rereads_truthOr (default : Bool) : RereadsField (defaulted? truth? default) .bool :=
  rereads_truth.defaulted fun _ _ => rfl

theorem rereads_truth? : RereadsField (optional? truth?) .ofBool? :=
  (rereads_truth.optional fun _ _ => rfl).congr fun b => by cases b <;> rfl

theorem intWithin?_eq_some_iff {low high i : Int} {n : Node} :
    intWithin? low high n = some i ↔ n.int? = some i ∧ low ≤ i ∧ i ≤ high := by
  rw [intWithin?, Option.bind_eq_some_iff]
  constructor
  · rintro ⟨j, hj, h⟩
    split at h
    case isTrue hwithin =>
      cases h
      exact ⟨hj, hwithin⟩
    case isFalse => cases h
  · rintro ⟨hi, hwithin⟩
    exact ⟨i, hi, if_pos hwithin⟩

theorem rereads_intWithin (low high : Int) : Rereads (intWithin? low high) .int :=
  fun _ _ h _ _ => intWithin?_eq_some_iff.2 ⟨rfl, (intWithin?_eq_some_iff.1 h).2⟩

theorem rereads_natBelow (bits : Nat) : Rereads (natBelow? bits) (fun n => .int n) := by
  intro n a h mark hmark
  obtain ⟨i, hi, rfl⟩ := Option.map_eq_some_iff.1 h
  have hi' := rereads_intWithin _ _ hi hmark
  rw [← Int.toNat_of_nonneg (intWithin?_eq_some_iff.1 hi).2.1] at hi'
  exact Option.map_eq_some_iff.2 ⟨_, hi', rfl⟩

/-- An end of a range is a number, or else a text. -/
theorem rereads_bound : Rereads Bound.ofNode? Bound.toValue := by
  intro n a h mark hmark
  rw [Bound.ofNode?] at h
  split at h
  case h_1 i hi =>
    cases h
    rw [Bound.toValue, Bound.ofNode?, rereads_intWithin _ _ hi hmark]
  case h_2 =>
    obtain ⟨s, -, rfl⟩ := Option.map_eq_some_iff.1 h
    rfl

/-! ## Choices -/

theorem rereads_choice {name : α → String} {all : List α}
    (h : ∀ a, all.find? (name · == name a) = some a) :
    Rereads (choiceOf? name all) (fun a => .string (name a)) :=
  fun _ a _ _ _ => h a

theorem OnError.rereads : Rereads (choiceOf? name all) (fun a => .string a.name) :=
  rereads_choice fun a => by cases a <;> rfl

theorem OnExhausted.rereads : Rereads (choiceOf? name all) (fun a => .string a.name) :=
  rereads_choice fun a => by cases a <;> rfl

theorem SortOrder.rereads : Rereads (choiceOf? name all) (fun a => .string a.name) :=
  rereads_choice fun a => by cases a <;> rfl

theorem InputType.rereads : Rereads (choiceOf? name all) (fun a => .string a.name) :=
  rereads_choice fun a => by cases a <;> rfl

theorem LogLevel.rereads : Rereads (choiceOf? name all) (fun a => .string a.name) :=
  rereads_choice fun a => by cases a <;> rfl

/-! ## Values, lists and maps -/

theorem rereads_value : Rereads Node.value? id :=
  fun _ _ h _ hmark => value?_ofValueAs hmark _ (wellFormed_value? _ h)

/-- A list of what is read again. -/
theorem Rereads.items {read : Node → Option α} {write : α → Value} (h : Rereads read write) :
    Rereads (fun n => do (← n.items?).mapM read) (fun as => .array (as.map write)) := by
  intro n as hread mark hmark
  obtain ⟨items, -, hread⟩ := Option.bind_eq_some_iff.1 hread
  show (ofValuesAs mark (as.map write)).mapM read = some as
  rw [mapM_ofValuesAs fun a ha => ?_, List.map_id]
  obtain ⟨n, -, hn⟩ := exists_of_mem_mapM hread ha
  exact h hn hmark

/-- A map from names to what is read again. -/
theorem Rereads.named {read : Node → Option α} {write : α → Value} (h : Rereads read write) :
    Rereads (fun n => do
        return KeyMap.ofList (← (← n.named?).mapM fun (k, v) => do return (k, ← read v)))
      (fun m => .ofMap (m.map write)) := by
  intro n m hread mark hmark
  obtain ⟨given, -, hread⟩ := Option.bind_eq_some_iff.1 hread
  obtain ⟨entries, hentries, hread⟩ := Option.bind_eq_some_iff.1 hread
  cases hread
  generalize hm : KeyMap.ofList entries = m
  have hnamed : named? (ofValueAs mark (.ofMap (m.map write)))
      = some (m.entries.map fun e => (e.1, ofValueAs mark (write e.2))) := by
    rw [Value.ofMap, named?_object]
    exact congrArg some List.map_map
  have hagain : (m.entries.map fun e => (e.1, ofValueAs mark (write e.2))).mapM
      (fun (k, v) => do return (k, ← read v)) = some (m.entries.map id) := by
    refine mapM_map_eq_some fun e he => ?_
    obtain ⟨⟨k, v⟩, -, hkv⟩ := exists_of_mem_mapM hentries (KeyMap.mem_of_mem_ofList (hm ▸ he))
    obtain ⟨a, ha, hkv⟩ := Option.bind_eq_some_iff.1 hkv
    cases hkv
    exact bind_of_eq_some (h ha hmark) _
  rw [List.map_id] at hagain
  refine (bind_of_eq_some hnamed _).trans ((bind_of_eq_some hagain _).trans ?_)
  rw [KeyMap.ofList_entries]
  rfl

theorem rereads_textMap : Rereads textMap? .ofTexts := rereads_text.named

theorem rereads_valueMap : Rereads valueMap? .ofMap := by
  have hid : ∀ m : KeyMap Value, m.map id = m := fun m =>
    KeyMap.ext_find? fun key => by rw [KeyMap.find?_map, Option.map_id_fun, id]
  intro n m h mark hmark
  have hagain : valueMap? (ofValueAs mark (.ofMap (m.map id))) = some m :=
    rereads_value.named h hmark
  rwa [hid] at hagain

/-!
## Reading parts of definitions again

The records inside a definition, each read again from what is written of it.
-/

/-! ### Records -/

theorem Defaults.rereads : Rereads ofNode? toValue := by
  intro n d h mark hmark
  obtain ⟨given, -, h⟩ := Option.bind_eq_some_iff.1 h
  split at h
  case h_2 => cases h
  obtain ⟨model, hmodel, h⟩ := Option.bind_eq_some_iff.1 h
  obtain ⟨mode, hmode, h⟩ := Option.bind_eq_some_iff.1 h
  obtain ⟨visible, hvisible, h⟩ := Option.bind_eq_some_iff.1 h
  cases h
  have hnames : fieldNames.Nodup := by decide
  have hrecord : record? fieldNames 0 (ofValueAs mark (toValue ⟨model, mode, visible⟩)) = _ :=
    record?_ofFields _ _ hnames
  refine (bind_of_eq_some hrecord _).trans ?_
  refine (bind_of_eq_some (rereads_text? hmodel hmark) _).trans ?_
  refine (bind_of_eq_some (rereads_text? hmode hmark) _).trans ?_
  exact bind_of_eq_some (rereads_truthOr _ hvisible hmark) _

theorem InputSchema.rereads : Rereads ofNode? toValue := by
  intro n s h mark hmark
  obtain ⟨given, -, h⟩ := Option.bind_eq_some_iff.1 h
  split at h
  case h_2 => cases h
  obtain ⟨type, htype, h⟩ := Option.bind_eq_some_iff.1 h
  obtain ⟨allowed, hallowed, h⟩ := Option.bind_eq_some_iff.1 h
  obtain ⟨pattern, hpattern, h⟩ := Option.bind_eq_some_iff.1 h
  cases h
  have htypes : RereadsField (optional? (choiceOf? InputType.name InputType.all))
      (fun type => .ofString? (type.map InputType.name)) :=
    (InputType.rereads.optional fun _ _ => rfl).congr fun type => by cases type <;> rfl
  have hvalues : RereadsField (optional? fun n => do (← n.items?).mapM Node.value?)
      (fun allowed => allowed.elim .null .array) :=
    (rereads_value.items.optional fun _ _ => rfl).congr fun allowed => by
      cases allowed with
      | none => rfl
      | some values => exact congrArg Value.array (List.map_id values).symm
  have hnames : fieldNames.Nodup := by decide
  have hrecord : record? fieldNames 0 (ofValueAs mark (toValue ⟨type, allowed, pattern⟩)) = _ :=
    record?_ofFields _ _ hnames
  refine (bind_of_eq_some hrecord _).trans ?_
  refine (bind_of_eq_some (htypes htype hmark) _).trans ?_
  refine (bind_of_eq_some (hvalues hallowed hmark) _).trans ?_
  exact bind_of_eq_some (rereads_text? hpattern hmark) _

/-! ### Loops and calls -/

/-- The names that the fields of a tool do not have. -/
def Step.reserved : List String := "tool" :: Step.fieldNames.flatten

/-- The fields of a tool are those that were written. -/
def ToolFields.Carry (mark : Mark) (written : List (String × Value)) (fields : ToolFields) : Prop :=
  ∀ names : List String, (∀ name ∈ names, name ∉ Step.reserved) →
    fields.take? names
      = some (names.map fun name => (Entries.find? name written).map (ofValueAs mark))

/-- Steps that one reader read from a field are read by another from what is written of them. -/
def StepsReader.PassesOn (steps steps' : StepsReader) (body : List StepDefinition)
    (written : Node) : Prop :=
  ∀ field, required? steps field = some body → steps' written = some body

section

variable {mark : Mark} {steps steps' : StepsReader} {fields fields' : ToolFields}
  {body : List StepDefinition} {written : Value}

theorem ForeachLoop.reread {l : ForeachLoop} (h : ofFields? steps fields = some (l, body))
    (hmark : isPlainMark mark = true)
    (hbody : StepsReader.PassesOn steps steps' body (ofValueAs mark written))
    (hfields : fields'.Carry mark (l.fields ++ [("steps", written)])) :
    ofFields? steps' fields' = some (l, body) := by
  obtain ⟨given, -, h⟩ := Option.bind_eq_some_iff.1 h
  split at h
  case h_2 => cases h
  obtain ⟨items, hitems, h⟩ := Option.bind_eq_some_iff.1 h
  obtain ⟨itemVar, hitemVar, h⟩ := Option.bind_eq_some_iff.1 h
  obtain ⟨indexVar, hindexVar, h⟩ := Option.bind_eq_some_iff.1 h
  obtain ⟨filter, hfilter, h⟩ := Option.bind_eq_some_iff.1 h
  obtain ⟨sortBy, hsortBy, h⟩ := Option.bind_eq_some_iff.1 h
  obtain ⟨sortOrder, hsortOrder, h⟩ := Option.bind_eq_some_iff.1 h
  obtain ⟨stopWhen, hstopWhen, h⟩ := Option.bind_eq_some_iff.1 h
  obtain ⟨inner, hinner, h⟩ := Option.bind_eq_some_iff.1 h
  cases h
  refine (bind_of_eq_some (hfields _ (by decide)) _).trans ?_
  refine (bind_of_eq_some (rereads_value.required hitems hmark) _).trans ?_
  refine (bind_of_eq_some (rereads_textOr _ hitemVar hmark) _).trans ?_
  refine (bind_of_eq_some (rereads_textOr _ hindexVar hmark) _).trans ?_
  refine (bind_of_eq_some (rereads_text? hfilter hmark) _).trans ?_
  refine (bind_of_eq_some (rereads_text? hsortBy hmark) _).trans ?_
  refine (bind_of_eq_some
    ((SortOrder.rereads.defaulted fun _ _ => rfl) hsortOrder hmark) _).trans ?_
  refine (bind_of_eq_some (rereads_text? hstopWhen hmark) _).trans ?_
  exact bind_of_eq_some (hbody _ hinner) _

theorem WhileLoop.reread {l : WhileLoop} (h : ofFields? steps fields = some (l, body))
    (hmark : isPlainMark mark = true)
    (hbody : StepsReader.PassesOn steps steps' body (ofValueAs mark written))
    (hfields : fields'.Carry mark (l.fields ++ [("steps", written)])) :
    ofFields? steps' fields' = some (l, body) := by
  obtain ⟨given, -, h⟩ := Option.bind_eq_some_iff.1 h
  split at h
  case h_2 => cases h
  obtain ⟨condition, hcondition, h⟩ := Option.bind_eq_some_iff.1 h
  obtain ⟨maxPasses, hmaxPasses, h⟩ := Option.bind_eq_some_iff.1 h
  obtain ⟨counterVar, hcounterVar, h⟩ := Option.bind_eq_some_iff.1 h
  obtain ⟨onExhausted, honExhausted, h⟩ := Option.bind_eq_some_iff.1 h
  obtain ⟨inner, hinner, h⟩ := Option.bind_eq_some_iff.1 h
  cases h
  refine (bind_of_eq_some (hfields _ (by decide)) _).trans ?_
  refine (bind_of_eq_some (rereads_text.required hcondition hmark) _).trans ?_
  refine (bind_of_eq_some
    (((rereads_natBelow 32).defaulted fun _ _ => rfl) hmaxPasses hmark) _).trans ?_
  refine (bind_of_eq_some (rereads_textOr _ hcounterVar hmark) _).trans ?_
  refine (bind_of_eq_some
    ((OnExhausted.rereads.defaulted fun _ _ => rfl) honExhausted hmark) _).trans ?_
  exact bind_of_eq_some (hbody _ hinner) _

theorem RangeLoop.reread {l : RangeLoop} (h : ofFields? steps fields = some (l, body))
    (hmark : isPlainMark mark = true)
    (hbody : StepsReader.PassesOn steps steps' body (ofValueAs mark written))
    (hfields : fields'.Carry mark (l.fields ++ [("steps", written)])) :
    ofFields? steps' fields' = some (l, body) := by
  obtain ⟨given, -, h⟩ := Option.bind_eq_some_iff.1 h
  split at h
  case h_2 => cases h
  obtain ⟨first, hfirst, h⟩ := Option.bind_eq_some_iff.1 h
  obtain ⟨last, hlast, h⟩ := Option.bind_eq_some_iff.1 h
  obtain ⟨stride, hstride, h⟩ := Option.bind_eq_some_iff.1 h
  obtain ⟨var, hvar, h⟩ := Option.bind_eq_some_iff.1 h
  obtain ⟨inner, hinner, h⟩ := Option.bind_eq_some_iff.1 h
  cases h
  refine (bind_of_eq_some (hfields _ (by decide)) _).trans ?_
  refine (bind_of_eq_some (rereads_bound.required hfirst hmark) _).trans ?_
  refine (bind_of_eq_some (rereads_bound.required hlast hmark) _).trans ?_
  refine (bind_of_eq_some
    (((rereads_intWithin _ _).defaulted fun _ _ => rfl) hstride hmark) _).trans ?_
  refine (bind_of_eq_some (rereads_textOr _ hvar hmark) _).trans ?_
  exact bind_of_eq_some (hbody _ hinner) _

theorem RetryLoop.reread {l : RetryLoop} (h : ofFields? steps fields = some (l, body))
    (hmark : isPlainMark mark = true)
    (hbody : StepsReader.PassesOn steps steps' body (ofValueAs mark written))
    (hfields : fields'.Carry mark (l.fields ++ [("steps", written)])) :
    ofFields? steps' fields' = some (l, body) := by
  obtain ⟨given, -, h⟩ := Option.bind_eq_some_iff.1 h
  split at h
  case h_2 => cases h
  obtain ⟨maxAttempts, hmaxAttempts, h⟩ := Option.bind_eq_some_iff.1 h
  obtain ⟨delay, hdelay, h⟩ := Option.bind_eq_some_iff.1 h
  obtain ⟨stopWhen, hstopWhen, h⟩ := Option.bind_eq_some_iff.1 h
  obtain ⟨attemptVar, hattemptVar, h⟩ := Option.bind_eq_some_iff.1 h
  obtain ⟨onExhausted, honExhausted, h⟩ := Option.bind_eq_some_iff.1 h
  obtain ⟨inner, hinner, h⟩ := Option.bind_eq_some_iff.1 h
  cases h
  refine (bind_of_eq_some (hfields _ (by decide)) _).trans ?_
  refine (bind_of_eq_some
    (((rereads_natBelow 32).defaulted fun _ _ => rfl) hmaxAttempts hmark) _).trans ?_
  refine (bind_of_eq_some
    (((rereads_natBelow 64).defaulted fun _ _ => rfl) hdelay hmark) _).trans ?_
  refine (bind_of_eq_some (rereads_text? hstopWhen hmark) _).trans ?_
  refine (bind_of_eq_some (rereads_textOr _ hattemptVar hmark) _).trans ?_
  refine (bind_of_eq_some
    ((OnExhausted.rereads.defaulted fun _ _ => rfl) honExhausted hmark) _).trans ?_
  exact bind_of_eq_some (hbody _ hinner) _

theorem SharedCall.reread {c : SharedCall} {given : List (Option Node)}
    (h : ofParts? given = some c) (hmark : isPlainMark mark = true) :
    ofParts? (fieldNames.map fun name => (Entries.find? name c.fields).map (ofValueAs mark))
      = some c := by
  rw [ofParts?.eq_def] at h
  split at h
  case h_2 => cases h
  obtain ⟨uses, huses, h⟩ := Option.bind_eq_some_iff.1 h
  obtain ⟨inputs, hinputs, h⟩ := Option.bind_eq_some_iff.1 h
  obtain ⟨outputs, houtputs, h⟩ := Option.bind_eq_some_iff.1 h
  cases h
  refine (bind_of_eq_some (rereads_text.required huses hmark) _).trans ?_
  refine (bind_of_eq_some
    ((rereads_valueMap.defaulted fun _ _ => rfl) hinputs hmark) _).trans ?_
  exact bind_of_eq_some ((rereads_textMap.defaulted fun _ _ => rfl) houtputs hmark) _

/-! ### Tools -/

namespace Tool

variable {tool : Tool}

theorem reread_bash (h : ofFields? steps "bash" fields = some tool) (hmark : isPlainMark mark = true)
    (hfields : fields'.Carry mark tool.fields) : ofFields? steps' tool.kind fields' = some tool := by
  obtain ⟨given, -, h⟩ := Option.bind_eq_some_iff.1 h
  split at h
  case h_2 => cases h
  obtain ⟨command, hcommand, h⟩ := Option.bind_eq_some_iff.1 h
  obtain ⟨timeout, htimeout, h⟩ := Option.bind_eq_some_iff.1 h
  cases h
  refine (bind_of_eq_some (hfields _ (by decide)) _).trans ?_
  refine (bind_of_eq_some (rereads_text.required hcommand hmark) _).trans ?_
  exact bind_of_eq_some (((rereads_natBelow 64).optional fun _ _ => rfl) htimeout hmark) _

/-- A tool with one field, a text. -/
theorem reread_text {make : String → Tool} {field : String} (hfield : field ∉ Step.reserved)
    (hmake : ∀ text, (make text).fields = [(field, .string text)])
    (h : (do match ← fields.take? [field] with
      | [text] => return make (← required? Node.text? text)
      | _ => none) = some tool)
    (hmark : isPlainMark mark = true) (hfields : fields'.Carry mark tool.fields) :
    ∃ text, tool = make text ∧
      (do match ← fields'.take? [field] with
        | [text] => return make (← required? Node.text? text)
        | _ => none) = some (make text) := by
  obtain ⟨given, -, h⟩ := Option.bind_eq_some_iff.1 h
  split at h
  case h_2 => cases h
  obtain ⟨text, htext, h⟩ := Option.bind_eq_some_iff.1 h
  cases h
  refine ⟨text, rfl, ?_⟩
  have htake := hfields [field] (by simpa using hfield)
  rw [hmake, List.map_singleton, Entries.find?, if_pos rfl] at htake
  refine (bind_of_eq_some htake _).trans ?_
  exact bind_of_eq_some (rereads_text.required htext hmark) _

theorem reread_set (h : ofFields? steps "set" fields = some tool) (hmark : isPlainMark mark = true)
    (hfields : fields'.Carry mark tool.fields) : ofFields? steps' tool.kind fields' = some tool := by
  obtain ⟨given, -, h⟩ := Option.bind_eq_some_iff.1 h
  split at h
  case h_2 => cases h
  obtain ⟨var, hvar, h⟩ := Option.bind_eq_some_iff.1 h
  obtain ⟨value, hvalue, h⟩ := Option.bind_eq_some_iff.1 h
  obtain ⟨parseJson, hparseJson, h⟩ := Option.bind_eq_some_iff.1 h
  cases h
  refine (bind_of_eq_some (hfields _ (by decide)) _).trans ?_
  refine (bind_of_eq_some (rereads_text.required hvar hmark) _).trans ?_
  refine (bind_of_eq_some (rereads_value.required hvalue hmark) _).trans ?_
  exact bind_of_eq_some (rereads_truthOr _ hparseJson hmark) _

theorem reread_log (h : ofFields? steps "log" fields = some tool) (hmark : isPlainMark mark = true)
    (hfields : fields'.Carry mark tool.fields) : ofFields? steps' tool.kind fields' = some tool := by
  obtain ⟨given, -, h⟩ := Option.bind_eq_some_iff.1 h
  split at h
  case h_2 => cases h
  obtain ⟨message, hmessage, h⟩ := Option.bind_eq_some_iff.1 h
  obtain ⟨level, hlevel, h⟩ := Option.bind_eq_some_iff.1 h
  cases h
  refine (bind_of_eq_some (hfields _ (by decide)) _).trans ?_
  refine (bind_of_eq_some (rereads_text.required hmessage hmark) _).trans ?_
  exact bind_of_eq_some ((LogLevel.rereads.defaulted fun _ _ => rfl) hlevel hmark) _

theorem reread_adapter (h : ofFields? steps "adapter" fields = some tool)
    (hmark : isPlainMark mark = true) (hfields : fields'.Carry mark tool.fields) :
    ofFields? steps' tool.kind fields' = some tool := by
  obtain ⟨given, -, h⟩ := Option.bind_eq_some_iff.1 h
  split at h
  case h_2 => cases h
  obtain ⟨name, hname, h⟩ := Option.bind_eq_some_iff.1 h
  obtain ⟨params, hparams, h⟩ := Option.bind_eq_some_iff.1 h
  cases h
  refine (bind_of_eq_some (hfields _ (by decide)) _).trans ?_
  refine (bind_of_eq_some (rereads_text.required hname hmark) _).trans ?_
  exact bind_of_eq_some ((rereads_value.defaulted fun _ _ => rfl) hparams hmark) _

/-- A tool is read again; if it is a loop, its steps are read by a reader that reads them again. -/
theorem reread {kind : String} (h : ofFields? steps kind fields = some tool)
    (hmark : isPlainMark mark = true)
    (hsteps : ∀ body, Entries.find? "steps" tool.fields = some (.array (stepValues body)) →
      StepsReader.PassesOn steps steps' body (ofValueAs mark (.array (stepValues body))))
    (hfields : fields'.Carry mark tool.fields) :
    ofFields? steps' tool.kind fields' = some tool := by
  rw [ofFields?.eq_def] at h
  split at h
  case h_1 => exact reread_bash (show ofFields? steps "bash" fields = some tool from h) hmark hfields
  case h_2 => -- agent
    obtain ⟨text, rfl, hread⟩ := reread_text (by decide) (fun _ => rfl) h hmark hfields
    exact hread
  case h_3 => -- prompt
    obtain ⟨text, rfl, hread⟩ := reread_text (by decide) (fun _ => rfl) h hmark hfields
    exact hread
  case h_4 => exact reread_set (show ofFields? steps "set" fields = some tool from h) hmark hfields
  case h_5 => exact reread_log (show ofFields? steps "log" fields = some tool from h) hmark hfields
  case h_6 => -- goto
    obtain ⟨text, rfl, hread⟩ := reread_text (by decide) (fun _ => rfl) h hmark hfields
    exact hread
  case h_7 => -- break
    cases h
    rfl
  case h_8 => -- continue
    cases h
    rfl
  case h_9 => -- foreach
    obtain ⟨⟨loop, body⟩, hloop, h⟩ := Option.bind_eq_some_iff.1 h
    cases h
    exact bind_of_eq_some (ForeachLoop.reread hloop hmark (hsteps body rfl) hfields) _
  case h_10 => -- while
    obtain ⟨⟨loop, body⟩, hloop, h⟩ := Option.bind_eq_some_iff.1 h
    cases h
    exact bind_of_eq_some (WhileLoop.reread hloop hmark (hsteps body rfl) hfields) _
  case h_11 => -- range
    obtain ⟨⟨loop, body⟩, hloop, h⟩ := Option.bind_eq_some_iff.1 h
    cases h
    exact bind_of_eq_some (RangeLoop.reread hloop hmark (hsteps body rfl) hfields) _
  case h_12 => -- retry
    obtain ⟨⟨loop, body⟩, hloop, h⟩ := Option.bind_eq_some_iff.1 h
    cases h
    exact bind_of_eq_some (RetryLoop.reread hloop hmark (hsteps body rfl) hfields) _
  case h_13 => -- shared
    obtain ⟨given, -, h⟩ := Option.bind_eq_some_iff.1 h
    obtain ⟨call, hcall, h⟩ := Option.bind_eq_some_iff.1 h
    cases h
    refine (bind_of_eq_some (hfields SharedCall.fieldNames (by decide)) _).trans ?_
    exact bind_of_eq_some (SharedCall.reread hcall hmark) _
  case h_14 =>
    exact reread_adapter (show ofFields? steps "adapter" fields = some tool from h) hmark hfields
  case h_15 => cases h

end Tool

end

end Runbook
