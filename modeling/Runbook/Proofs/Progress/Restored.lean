import Mathlib.Data.List.Forall2
import Runbook.Proofs.Json.Records

/-!
# Restored snapshots

What comes back from a snapshot, and how a run goes on from there.

* `Progress.ofValue?_toValue` says that a snapshot is always read, and gives back everything but
  the nulls that loops are to put back: each of them counts as a variable that there was not;
* `Progress.Fades` relates a run to one that lost such nulls, and `Operation.fades` and
  `Progress.Fades.after` say that the two stay that close, whatever is done to both;
* `Progress.restored` puts these together.
-/

namespace Runbook

/-! ## What a snapshot keeps -/

namespace Saved

/-- The kept value without a null. -/
def forgetNull (s : Saved) : Saved := { s with value := s.value.filter (· ≠ .null) }

/-- A kept value is read back without a null. -/
theorem ofValue?_toValue (s : Saved) : ofValue? s.toValue = some s.forgetNull := by
  have hnames : ["name", "value"].Nodup := by decide
  obtain ⟨field, hrecord, hfield⟩ :
      ∃ field, Json.record? ["name", "value"] s.toValue = some field ∧ _ :=
    Json.record?_ofFields ["name", "value"] hnames
  have hname : field "name" = some (.string s.name) := hfield _
  have htext : (Value.string s.name).string? = some s.name := rfl
  have hvalue : Json.optional? some (field "value") = some (s.value.filter (· ≠ .null)) := by
    rw [show field "value" = some (s.value.getD .null) from hfield _]
    cases s.value with
    | none => rfl
    | some v => cases v <;> rfl
  rw [ofValue?, bind_of_eq_some hrecord, bind_of_eq_some hname, bind_of_eq_some htext,
    bind_of_eq_some hvalue]
  rfl

end Saved

namespace Frame

/-- Whether the numbers of a frame fit 64 bits. -/
structure Fits (f : Frame) : Prop where
  /-- The position of the loop step. -/
  entry : f.entry < twoTo 64
  /-- The number of the pass. -/
  cursor : f.cursor < twoTo 64
  /-- The number of passes. -/
  total : ∀ n, f.total = some n → n < twoTo 64

/-- The frame without the nulls to put back. -/
def forgetNulls (f : Frame) : Frame := { f with saved := f.saved.map Saved.forgetNull }

/-- A frame is read back without the nulls to put back. -/
theorem ofValue?_toValue {f : Frame} (h : f.Fits) : ofValue? f.toValue = some f.forgetNulls := by
  have hnames : fieldNames.Nodup := by decide
  obtain ⟨field, hrecord, hfield⟩ : ∃ field, Json.record? fieldNames f.toValue = some field ∧ _ :=
    Json.record?_ofFields fieldNames hnames
  have hkind : field "kind" = some (.string f.kind.name) := hfield _
  have hstep : field "step" = some (.string f.step) := hfield _
  have hentry : field "entry_index" = some (.int f.entry) := hfield _
  have hcursor : field "cursor" = some (.int f.cursor) := hfield _
  have htotal : field "total" = some (.ofNat? f.total) := hfield _
  have hsaved : field "saved" = some (.array (f.saved.map Saved.toValue)) := hfield _
  have hchoice : Json.choice? LoopKind.name LoopKind.all (.string f.kind.name) = some f.kind := by
    cases f.kind <;> rfl
  have htext : (Value.string f.step).string? = some f.step := rfl
  have hlist : (Value.array (f.saved.map Saved.toValue)).array? = some (f.saved.map Saved.toValue) :=
    rfl
  have hitems : (f.saved.map Saved.toValue).mapM Saved.ofValue?
      = some (f.saved.map Saved.forgetNull) := mapM_map_eq_some fun s _ => s.ofValue?_toValue
  rw [ofValue?, bind_of_eq_some hrecord, bind_of_eq_some hkind, bind_of_eq_some hchoice,
    bind_of_eq_some hstep, bind_of_eq_some htext, bind_of_eq_some hentry,
    bind_of_eq_some (Json.natural?_int h.entry), bind_of_eq_some hcursor,
    bind_of_eq_some (Json.natural?_int h.cursor), htotal,
    bind_of_eq_some (Json.optional?_ofNat? h.total), bind_of_eq_some hsaved,
    bind_of_eq_some hlist, bind_of_eq_some hitems]
  rfl

end Frame

namespace Progress

/-- Whether the numbers of a run's progress fit 64 bits. -/
structure Fits (p : Progress) : Prop where
  /-- The position of the step that is up. -/
  stepIndex : p.stepIndex < twoTo 64
  /-- The numbers of the loops. -/
  loops : ∀ f ∈ p.loops, f.Fits

/-- The progress without the nulls that its loops are to put back. -/
def forgetNulls (p : Progress) : Progress := { p with loops := p.loops.map Frame.forgetNulls }

/-- A snapshot is read back without the nulls that loops are to put back. -/
theorem ofValue?_toValue {p : Progress} (h : p.Fits) :
    ofValue? p.toValue = some p.forgetNulls := by
  have hnames : fieldNames.Nodup := by decide
  obtain ⟨field, hrecord, hfield⟩ : ∃ field, Json.record? fieldNames p.toValue = some field ∧ _ :=
    Json.record?_ofFields fieldNames hnames
  have hvariables : field "variables" = some (.ofFields [("vars", .ofMap p.vars)]) := hfield _
  have hindex : field "current_step_index" = some (.int p.stepIndex) := hfield _
  have hstack : field "loop_stack" = some (.array (p.loops.reverse.map Frame.toValue)) := hfield _
  have hsignal : field "signal" = some (.string p.signal.name) := hfield _
  have hcompleted : field "completed" = some (.bool p.completed) := hfield _
  have herror : field "error" = some (.ofString? p.error) := hfield _
  have hjump : field "goto_target" = some (.ofString? p.jump) := hfield _
  obtain ⟨bound, hbound, hvars⟩ :
      ∃ bound, Json.record? ["vars"] (.ofFields [("vars", .ofMap p.vars)]) = some bound ∧ _ :=
    Json.record?_ofFields ["vars"] (show ["vars"].Nodup by decide)
  have hmap : bound "vars" = some (.ofMap p.vars) := hvars _
  have hentries : (Value.ofMap p.vars).fields? = some p.vars.entries := rfl
  have hlist : (Value.array (p.loops.reverse.map Frame.toValue)).array?
      = some (p.loops.reverse.map Frame.toValue) := rfl
  have hframes : (p.loops.reverse.map Frame.toValue).mapM Frame.ofValue?
      = some (p.loops.reverse.map Frame.forgetNulls) :=
    mapM_map_eq_some fun f hf => Frame.ofValue?_toValue (h.loops f (List.mem_reverse.1 hf))
  have hchoice : Json.choice? Signal.name Signal.all (.string p.signal.name) = some p.signal := by
    cases p.signal <;> rfl
  have hbool : (Value.bool p.completed).bool? = some p.completed := rfl
  rw [ofValue?, bind_of_eq_some hrecord, bind_of_eq_some hvariables, bind_of_eq_some hbound,
    bind_of_eq_some hmap, bind_of_eq_some hentries, bind_of_eq_some hindex,
    bind_of_eq_some (Json.natural?_int h.stepIndex), bind_of_eq_some hstack,
    bind_of_eq_some hlist, bind_of_eq_some hframes, bind_of_eq_some hsignal,
    bind_of_eq_some hchoice, bind_of_eq_some hcompleted, bind_of_eq_some hbool, herror,
    bind_of_eq_some (Json.optional?_ofString? p.error), hjump,
    bind_of_eq_some (Json.optional?_ofString? p.jump), KeyMap.ofList_entries, ← List.map_reverse,
    List.reverse_reverse]
  rfl

end Progress

/-! ## Which snapshots are exact -/

/-- A loop is to put a null back. -/
def Progress.KeepsNull (p : Progress) : Prop := ∃ f ∈ p.loops, ∃ s ∈ f.saved, s.value = some .null

theorem Saved.forgetNull_eq_self_iff (s : Saved) : s.forgetNull = s ↔ s.value ≠ some .null := by
  have hvalue : s.forgetNull = s ↔ s.value.filter (· ≠ .null) = s.value :=
    ⟨fun h => congrArg Saved.value h, fun h => by rw [forgetNull, h]⟩
  rw [hvalue, filter_null_eq_self_iff]

theorem Frame.forgetNulls_eq_self_iff (f : Frame) :
    f.forgetNulls = f ↔ ∀ s ∈ f.saved, s.value ≠ some .null := by
  have hsaved : f.forgetNulls = f ↔ f.saved.map Saved.forgetNull = f.saved :=
    ⟨fun h => congrArg Frame.saved h, fun h => by rw [forgetNulls, h]⟩
  rw [hsaved, map_eq_self_iff]
  exact forall₂_congr fun s _ => s.forgetNull_eq_self_iff

/-- Only the nulls that loops are to put back get lost. -/
theorem Progress.forgetNulls_eq_self_iff (p : Progress) : p.forgetNulls = p ↔ ¬ p.KeepsNull := by
  have hloops : p.forgetNulls = p ↔ p.loops.map Frame.forgetNulls = p.loops :=
    ⟨fun h => congrArg Progress.loops h, fun h => by rw [forgetNulls, h]⟩
  rw [hloops, map_eq_self_iff, KeepsNull]
  constructor
  · rintro h ⟨f, hf, s, hs, hnull⟩
    exact (Frame.forgetNulls_eq_self_iff f).1 (h f hf) s hs hnull
  · intro h f hf
    exact (Frame.forgetNulls_eq_self_iff f).2 fun s hs hnull => h ⟨f, hf, s, hs, hnull⟩

/-! ## Going on without the nulls -/

/-- What a variable holds, and what it holds in a run that may have lost a null. -/
inductive Fades : Option Value → Option Value → Prop
  /-- Nothing was lost. -/
  | same (value : Option Value) : Fades value value
  /-- A null was lost. -/
  | lost : Fades (some .null) none

/-- A kept value that may have been a null. -/
structure Saved.Fades (s t : Saved) : Prop where
  /-- The variable is the same. -/
  name_eq : t.name = s.name
  /-- Its value may be gone if it is null. -/
  value : Runbook.Fades s.value t.value

/-- A frame in which nulls to put back may be gone. -/
structure Frame.Fades (f g : Frame) : Prop where
  /-- The rest is the same. -/
  rest : g = { f with saved := g.saved }
  /-- The values to put back. -/
  saved : List.Forall₂ Saved.Fades f.saved g.saved

/-- The progress of a run in which nulls may be gone. -/
structure Progress.Fades (p q : Progress) : Prop where
  /-- The rest is the same. -/
  rest : q = { p with vars := q.vars, loops := q.loops }
  /-- The variables. -/
  vars : ∀ name, Runbook.Fades (p.vars.find? name) (q.vars.find? name)
  /-- The loops. -/
  loops : List.Forall₂ Frame.Fades p.loops q.loops

theorem Saved.fades_forgetNull (s : Saved) : s.Fades s.forgetNull := by
  refine ⟨rfl, ?_⟩
  rw [forgetNull]
  cases s.value with
  | none => exact .same none
  | some v =>
    by_cases hv : v = .null
    · subst hv
      exact .lost
    · rw [Option.filter_some, if_pos (decide_eq_true hv)]
      exact .same _

theorem Frame.fades_forgetNulls (f : Frame) : f.Fades f.forgetNulls := by
  refine ⟨rfl, List.forall₂_map_right_iff.2 ?_⟩
  exact List.forall₂_same.2 fun s _ => s.fades_forgetNull

theorem Progress.fades_forgetNulls (p : Progress) : p.Fades p.forgetNulls := by
  refine ⟨rfl, fun _ => .same _, List.forall₂_map_right_iff.2 ?_⟩
  exact List.forall₂_same.2 fun f _ => f.fades_forgetNulls

/-- What can be done to the progress of a run from outside. -/
inductive Operation where
  /-- Binds a variable. -/
  | bind (name : String) (value : Value)
  /-- Removes a variable. -/
  | unbind (name : String)
  /-- Opens a loop. -/
  | enterLoop (kind : LoopKind) (step : String) (entry : Nat) (names : List String)
  /-- Closes the innermost loop. -/
  | exitLoop
  /-- Notes the number of the pass. -/
  | setCursor (cursor : Nat)
  /-- Notes the number of passes. -/
  | setTotal (total : Nat)
  /-- Asks something of the loop, or takes it back. -/
  | setSignal (signal : Signal)

/-- Does something to the progress of a run. -/
def Operation.apply (p : Progress) : Operation → Progress
  | bind name value => p.bind name value
  | unbind name => p.unbind name
  | enterLoop kind step entry names => p.enterLoop kind step entry names
  | exitLoop => p.exitLoop
  | setCursor cursor => p.setCursor cursor
  | setTotal total => p.setTotal total
  | setSignal signal => p.setSignal signal

/-- Does one thing after the other. -/
def Progress.after (p : Progress) (ops : List Operation) : Progress := ops.foldl Operation.apply p

namespace Progress

variable {p q : Progress} {xs ys : Variables}

/-- Binding a variable in both runs. -/
theorem fades_insert (h : ∀ name, Runbook.Fades (xs.find? name) (ys.find? name)) (key : String)
    (value : Value) (name : String) :
    Runbook.Fades ((xs.insert key value).find? name) ((ys.insert key value).find? name) := by
  rw [KeyMap.find?_insert, KeyMap.find?_insert]
  by_cases hkey : name = key
  · rw [if_pos hkey, if_pos hkey]
    exact .same _
  · rw [if_neg hkey, if_neg hkey]
    exact h name

/-- Removing a variable in both runs. -/
theorem fades_erase (h : ∀ name, Runbook.Fades (xs.find? name) (ys.find? name)) (key name : String) :
    Runbook.Fades ((xs.erase key).find? name) ((ys.erase key).find? name) := by
  by_cases hkey : name = key
  · subst hkey
    rw [KeyMap.find?_erase_self, KeyMap.find?_erase_self]
    exact .same _
  · rw [KeyMap.find?_erase_of_ne _ hkey, KeyMap.find?_erase_of_ne _ hkey]
    exact h name

/-- Putting back a null in one run and removing the variable in the other. -/
theorem fades_lost (h : ∀ name, Runbook.Fades (xs.find? name) (ys.find? name)) (key name : String) :
    Runbook.Fades ((xs.insert key .null).find? name) ((ys.erase key).find? name) := by
  by_cases hkey : name = key
  · subst hkey
    rw [KeyMap.find?_insert_self, KeyMap.find?_erase_self]
    exact .lost
  · rw [KeyMap.find?_insert_of_ne _ _ hkey, KeyMap.find?_erase_of_ne _ hkey]
    exact h name

/-- Putting the values of a loop back in both runs. -/
theorem fades_restore {kept left : List Saved} (hsaved : List.Forall₂ Saved.Fades kept left)
    (h : ∀ name, Runbook.Fades (xs.find? name) (ys.find? name)) :
    ∀ name, Runbook.Fades ((restore kept xs).find? name) ((restore left ys).find? name) := by
  induction hsaved with
  | nil => exact h
  | @cons s t kept left hst _ ih =>
    show ∀ name, Runbook.Fades ((restoreOne s (restore kept xs)).find? name)
      ((restoreOne t (restore left ys)).find? name)
    obtain ⟨key, value⟩ := s
    obtain ⟨key', value'⟩ := t
    obtain ⟨rfl, hvalue⟩ := hst
    cases hvalue with
    | same =>
      cases value with
      | none => exact fades_erase ih key'
      | some v => exact fades_insert ih key' v
    | lost => exact fades_lost ih key'

/-- Changing the innermost frame in both runs. -/
theorem Fades.onFrame {change : Frame → Frame} (h : p.Fades q)
    (hchange : ∀ f g : Frame, f.Fades g → (change f).Fades (change g)) :
    (p.onFrame change).Fades (q.onFrame change) := by
  obtain ⟨pvars, stepIndex, ploops, signal, completed, error, jump⟩ := p
  obtain ⟨qvars, _, qloops, _, _, _, _⟩ := q
  obtain ⟨rest, vars, loops⟩ := h
  cases rest
  cases loops with
  | nil => exact ⟨rfl, vars, .nil⟩
  | cons frame loops => exact ⟨rfl, vars, .cons (hchange _ _ frame) loops⟩

end Progress

/-- What is done to both runs keeps them as close as they were. -/
theorem Operation.fades {p q : Progress} (op : Operation) (h : p.Fades q) :
    (op.apply p).Fades (op.apply q) := by
  obtain ⟨pvars, stepIndex, ploops, signal, completed, error, jump⟩ := p
  obtain ⟨qvars, _, qloops, _, _, _, _⟩ := q
  obtain ⟨rest, vars, loops⟩ := h
  cases rest
  cases op with
  | bind name value => exact ⟨rfl, Progress.fades_insert vars name value, loops⟩
  | unbind name => exact ⟨rfl, Progress.fades_erase vars name, loops⟩
  | enterLoop kind step entry names =>
    refine ⟨rfl, vars, .cons ⟨rfl, ?_⟩ loops⟩
    refine List.forall₂_map_left_iff.2 (List.forall₂_map_right_iff.2 ?_)
    exact List.forall₂_same.2 fun name _ => ⟨rfl, vars name⟩
  | exitLoop =>
    cases loops with
    | nil => exact ⟨rfl, vars, .nil⟩
    | cons frame loops => exact ⟨rfl, Progress.fades_restore frame.saved vars, loops⟩
  | setCursor cursor =>
    refine Progress.Fades.onFrame ⟨rfl, vars, loops⟩ ?_
    rintro f g ⟨hrest, hsaved⟩
    exact ⟨by rw [hrest], hsaved⟩
  | setTotal total =>
    refine Progress.Fades.onFrame ⟨rfl, vars, loops⟩ ?_
    rintro f g ⟨hrest, hsaved⟩
    exact ⟨by rw [hrest], hsaved⟩
  | setSignal signal => exact ⟨rfl, vars, loops⟩

/-- However a run that lost nulls goes on, it stays as close to the run that did not. -/
theorem Progress.Fades.after {p q : Progress} (h : p.Fades q) (ops : List Operation) :
    (p.after ops).Fades (q.after ops) := by
  induction ops generalizing p q with
  | nil => exact h
  | cons op ops ih => exact ih (op.fades h)

/-- A snapshot is read back, and exactly if no loop is to put a null back; in any case a run goes on
from it as it would have gone on, but for variables that are missing where they were null.

The snapshot is the value that the fields are written to and read from, not its text: how a text
spells numbers, and how deep the values in a text may be nested, are left out. -/
theorem Progress.restored {p : Progress} (h : p.Fits) :
    ∃ q, ofValue? p.toValue = some q ∧ (q = p ↔ ¬ p.KeepsNull) ∧
      ∀ ops, (p.after ops).Fades (q.after ops) :=
  ⟨p.forgetNulls, ofValue?_toValue h, p.forgetNulls_eq_self_iff, p.fades_forgetNulls.after⟩

/-- A loop over a variable that is null. -/
def Progress.overNull : Progress :=
  (Progress.start (.ofList [("x", .null)])).enterLoop .iteration "each" 0 ["x"]

theorem Progress.overNull_fits : Progress.overNull.Fits := by
  refine ⟨by decide, fun f hf => ?_⟩
  obtain rfl : f = ⟨.iteration, "each", 0, 0, none, [⟨"x", some .null⟩]⟩ := List.mem_singleton.1 hf
  exact ⟨by decide, by decide, by simp⟩

theorem Progress.restored_overNull :
    Progress.overNull.Fits ∧ ∃ q, Progress.ofValue? Progress.overNull.toValue = some q ∧
      (q = Progress.overNull ↔ ¬ Progress.overNull.KeepsNull) ∧
      ∀ ops, (Progress.overNull.after ops).Fades (q.after ops) :=
  ⟨Progress.overNull_fits, Progress.restored Progress.overNull_fits⟩

/-- The variable is null when the loop ends, but missing when the loop ends after a snapshot. -/
theorem Progress.overNull_not_restored :
    ∃ q, Progress.ofValue? Progress.overNull.toValue = some q ∧
      Progress.overNull.exitLoop.vars.find? "x" = some .null ∧
      q.exitLoop.vars.find? "x" = none :=
  ⟨Progress.overNull.forgetNulls, Progress.ofValue?_toValue Progress.overNull_fits, by decide,
    by decide⟩

end Runbook
