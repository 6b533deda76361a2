import Runbook.Variables

/-!
# Following a path

A walk along two paths, one behind the other, is a walk along the first and from there along the
second; and a walk comes to its end, though it stays at the segment where it is while it opens a
text.

* `Value.isNested` says that a value is a list or a map, and `isNested_of_openText?` that a text
  holds nothing else to step into: so what was opened need not be opened again;
* `walk_append` takes a walk apart;
* `walkWithin` is the walk turn by turn, where opening a text is a turn that takes no segment;
* `walkWithin_mono` says that more turns change no answer, and `walkWithin_two_mul` that two turns
  for each segment are enough;
* `Walks` says of a walk that it composes and ends, and `walk_composes` is the result.
-/

namespace Runbook

/-- The value is a list or a map. -/
def Value.isNested : Value → Bool
  | .array _ | .object _ => true
  | _ => false

/-! ## What a text holds -/

namespace Json

/-- The fields that are read make up a map. -/
theorem isNested_of_fields {item : Reader Value} {fuel : Nat} {first : Bool} {done : KeyMap Value}
    {cs rest : List Char} {v : Value} (h : fields item fuel first done cs = .ok (v, rest)) :
    v.isNested = true := by
  induction fuel generalizing first done cs with
  | zero => cases h
  | succ fuel ih =>
    unfold fields at h
    split at h
    · cases h
    · cases h
      rfl
    · -- every other way is a fault or goes on to the next field
      simp only [bind, Except.bind] at h
      repeat' split at h
      all_goals first
        | exact ih h
        | cases h

/-- A value that starts with a bracket or a brace is a list or a map. -/
theorem isNested_of_value {depth : Nat} {cs rest : List Char} {c : Char} {v : Value}
    (hc : c = '[' ∨ c = '\x7b') (h : value depth (c :: cs) = .ok (v, rest)) :
    v.isNested = true := by
  cases depth with
  | zero =>
    rcases hc with rfl | rfl <;> cases h
  | succ depth =>
    rcases hc with rfl | rfl
    · change ((items (value depth) (cs.length + 1) true cs).map fun found =>
        (Value.array found.1, found.2)) = .ok (v, rest) at h
      cases hitems : items (value depth) (cs.length + 1) true cs with
      | error fault => rw [hitems] at h; cases h
      | ok found => rw [hitems] at h; cases h; rfl
    · exact isNested_of_fields (show fields (value depth) (cs.length + 1) true .empty cs = _ from h)

/-- A text is one value if nothing but blanks follows the value. -/
theorem parse?_eq_some {s : String} {v : Value} :
    parse? s = some v ↔
      ∃ rest, value maxDepth s.toList = .ok (v, rest) ∧ skipSpace rest = [] := by
  rw [parse?, parse]
  cases hvalue : value maxDepth s.toList with
  | error fault =>
    constructor
    · rintro ⟨⟩
    · rintro ⟨_, ⟨⟩, -⟩
  | ok found =>
    obtain ⟨u, rest⟩ := found
    simp only [bind, Except.bind]
    cases hspace : skipSpace rest with
    | nil =>
      constructor
      · rintro ⟨⟩
        exact ⟨rest, rfl, hspace⟩
      · rintro ⟨_, ⟨⟩, -⟩
        rfl
    | cons c more =>
      constructor
      · rintro ⟨⟩
      · rintro ⟨_, ⟨⟩, hnil⟩
        cases hspace.symm.trans hnil

theorem isNested_of_parse? {cs : List Char} {c : Char} {v : Value}
    (hc : c = '[' ∨ c = '\x7b') (h : parse? (String.ofList (c :: cs)) = some v) :
    v.isNested = true := by
  obtain ⟨rest, hvalue, -⟩ := parse?_eq_some.1 h
  rw [String.toList_ofList] at hvalue
  exact isNested_of_value hc hvalue

end Json

/-- What a text opens to is a list or a map. -/
theorem isNested_of_openText? {s : String} {v : Value} (h : openText? s = some v) :
    v.isNested = true := by
  unfold openText? at h
  split at h
  · exact Json.isNested_of_parse? (.inl rfl) h
  · exact Json.isNested_of_parse? (.inr rfl) h
  · cases h

/-- A list or a map is stepped into as it is. -/
theorem opened?_of_isNested {v : Value} (h : v.isNested = true) : opened? v = some v := by
  cases v with
  | null | bool _ | number _ | string _ => cases h
  | array _ | object _ => rfl

/-! ## Walks, one behind the other -/

section Walk

variable {v u w : Value} {segment : List Char} {p q : List (List Char)}

theorem walk_cons (v : Value) (segment : List Char) (p : List (List Char)) :
    walk v (segment :: p) = ((opened? v).bind (child? segment)).bind (walk · p) := by
  rw [walk]
  cases opened? v <;> rfl

/-- A walk along a path and on along another. -/
theorem walk_append (v : Value) (p q : List (List Char)) :
    walk v (p ++ q) = (walk v p).bind (walk · q) := by
  induction p generalizing v with
  | nil => rfl
  | cons segment p ih =>
    rw [List.cons_append, walk_cons, walk_cons, Option.bind_assoc _ _ (walk · q)]
    exact congrArg _ (funext fun u => ih u)

/-- A walk from a text with some way to go is one from what the text holds. -/
theorem walk_string {s : String} (hp : p ≠ []) :
    walk (.string s) p = (openText? s).bind (walk · p) := by
  obtain ⟨segment, p, rfl⟩ := List.exists_cons_of_ne_nil hp
  rw [walk_cons]
  change ((openText? s).bind (child? segment)).bind (walk · p) = _
  cases hs : openText? s with
  | none => rfl
  | some v =>
    rw [Option.bind_some, Option.bind_some, walk_cons, opened?_of_isNested (isNested_of_openText? hs)]
    rfl

end Walk

/-! ## Turn by turn -/

/-- Follows a path in a bounded number of turns.  A turn steps down by one segment, or opens a text
and stays at the segment where it is.  There is no answer once the turns are used up. -/
def walkWithin : Nat → Value → List (List Char) → Option (Option Value)
  | _, v, [] => some (some v)
  | 0, _, _ :: _ => none
  | turns + 1, .string s, segment :: rest =>
    match openText? s with
    | some v => walkWithin turns v (segment :: rest)
    | none => some none
  | turns + 1, v, segment :: rest =>
    match child? segment v with
    | some u => walkWithin turns u rest
    | none => some none

section Turns

variable {v : Value} {segment : List Char} {p : List (List Char)} {turns : Nat}

@[simp] theorem walkWithin_nil (turns : Nat) (v : Value) :
    walkWithin turns v [] = some (some v) := by
  cases turns <;> rfl

/-- A turn at a text. -/
theorem walkWithin_string (turns : Nat) (s : String) (segment : List Char)
    (p : List (List Char)) :
    walkWithin (turns + 1) (.string s) (segment :: p) =
      (openText? s).elim (some none) (walkWithin turns · (segment :: p)) := by
  rw [walkWithin]
  cases openText? s <;> rfl

/-- A turn at what is no text. -/
theorem walkWithin_down (turns : Nat) (segment : List Char) (p : List (List Char))
    (hv : ∀ s, v ≠ .string s) :
    walkWithin (turns + 1) v (segment :: p) =
      (child? segment v).elim (some none) (walkWithin turns · p) := by
  rw [walkWithin]
  · cases child? segment v <;> rfl
  · exact fun s h => hv s h

/-- One more turn changes no answer. -/
theorem walkWithin_succ {answer : Option Value} (h : walkWithin turns v p = some answer) :
    walkWithin (turns + 1) v p = some answer := by
  induction turns generalizing v p with
  | zero =>
    cases p with
    | nil => rwa [walkWithin_nil] at h ⊢
    | cons segment p => cases h
  | succ turns ih =>
    cases p with
    | nil => rwa [walkWithin_nil] at h ⊢
    | cons segment p =>
      by_cases hv : ∃ s, v = .string s
      · obtain ⟨s, rfl⟩ := hv
        rw [walkWithin_string] at h ⊢
        cases hs : openText? s with
        | none => rwa [hs] at h
        | some u =>
          rw [hs] at h
          exact ih h
      · have htext : ∀ s, v ≠ .string s := fun s hs => hv ⟨s, hs⟩
        rw [walkWithin_down _ _ _ htext] at h ⊢
        cases hc : child? segment v with
        | none => rwa [hc] at h
        | some u =>
          rw [hc] at h
          exact ih h

/-- More turns change no answer. -/
theorem walkWithin_mono {answer : Option Value} (h : walkWithin turns v p = some answer)
    (more : Nat) : walkWithin (turns + more) v p = some answer := by
  induction more with
  | zero => exact h
  | succ more ih => exact walkWithin_succ ih

/-- Two turns for each segment are enough: what a text opens to is stepped into at once. -/
theorem walkWithin_two_mul (v : Value) (p : List (List Char)) :
    walkWithin (2 * p.length) v p = some (walk v p) := by
  -- one turn down, from what is no text
  have hdown : ∀ (v : Value) (segment : List Char) (p : List (List Char)),
      (∀ u, walkWithin (2 * p.length) u p = some (walk u p)) → (∀ s, v ≠ .string s) →
      walkWithin (2 * p.length + 1) v (segment :: p) = some ((child? segment v).bind (walk · p)) := by
    intro v segment p ih hv
    rw [walkWithin_down _ _ _ hv]
    cases child? segment v with
    | none => rfl
    | some u => exact ih u
  induction p generalizing v with
  | nil => rfl
  | cons segment p ih =>
    have hlength : 2 * (segment :: p).length = 2 * p.length + 1 + 1 := by
      rw [List.length_cons]
      omega
    rw [hlength]
    cases v with
    | string s =>
      rw [walkWithin_string, walk_string (List.cons_ne_nil segment p)]
      cases hs : openText? s with
      | none => rfl
      | some u =>
        have hu := isNested_of_openText? hs
        refine (hdown u segment p ih ?_).trans ?_
        · rintro s rfl
          cases hu
        · rw [Option.bind_some, walk_cons, opened?_of_isNested hu]
          rfl
    | null | bool _ | number _ | array _ | object _ =>
      refine walkWithin_succ ((hdown _ segment p ih (by simp)).trans ?_)
      rw [walk_cons]
      rfl

end Turns

/-! ## The result -/

/-- What is to be said of a walk from a value along a path, and of going on along another. -/
structure Walks (v : Value) (p q : List (List Char)) : Prop where
  /-- The whole walk leads where its second part leads from where the first one ends. -/
  composes : ∀ w, walk v (p ++ q) = some w ↔ ∃ u, walk v p = some u ∧ walk u q = some w
  /-- Twice as many turns as there are segments, or more, bring the walk to its end. -/
  ends : ∀ more, walkWithin (2 * p.length + more) v p = some (walk v p)
  /-- A walk that comes to its end in fewer turns has the same answer. -/
  answers : ∀ turns answer, walkWithin turns v p = some answer → answer = walk v p

/-- **Walks compose and end**: a walk along two paths, one behind the other, leads to a value
exactly if the first leads to one from which the second leads there, and every walk ends within two
turns for each segment, however often documents stand in the texts of documents. -/
theorem walk_composes (v : Value) (p q : List (List Char)) : Walks v p q := by
  have hends : ∀ more, walkWithin (2 * p.length + more) v p = some (walk v p) :=
    walkWithin_mono (walkWithin_two_mul v p)
  refine ⟨fun w => ?_, hends, fun turns answer h => ?_⟩
  · rw [walk_append]
    exact Option.bind_eq_some_iff
  · have hmore := walkWithin_mono h (2 * p.length)
    rw [Nat.add_comm, hends] at hmore
    exact (Option.some.inj hmore).symm

/-- A document in a text in a document: two of the four turns open a text. -/
example :
    walkWithin 4 (.string "\x7b\"a\":\"[7]\"\x7d") [['a'], ['0']] = some (some (.int 7)) ∧
      walkWithin 3 (.string "\x7b\"a\":\"[7]\"\x7d") [['a'], ['0']] = none := by
  decide +kernel

end Runbook
