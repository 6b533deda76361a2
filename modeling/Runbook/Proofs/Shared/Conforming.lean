import Runbook.Proofs.Number.Decimal
import Runbook.Shared.Schema

/-!
# Values that conform to a schema

What a check lets through is of the type that the schema asks for and meets its constraints, in the
form in which it is let through; and checking it once more changes nothing.

* `InputType.Holds` says that a value is of a type, and `InputSchema.Conforms` that it is all that a
  schema asks for;
* `InputType.holds_of_coerce?` and `InputType.coerce?_of_holds` say that a value is brought to its
  type, and stays as it is when it is of the type already;
* `InputSchema.check_eq_ok` says when a check succeeds, part by part, and
  `InputSchema.check_conforms` what that comes to.
-/

namespace Runbook

/-- The numbers that a JSON document can hold: whole ones that fit 64 bits, with or without a sign,
and finite doubles. -/
def Number.Valid : Number → Prop
  | .int i => -twoTo 63 ≤ i ∧ i < twoTo 64
  | .float x => x.Finite

instance (n : Number) : Decidable n.Valid :=
  match n with
  | .int i => inferInstanceAs (Decidable (-twoTo 63 ≤ i ∧ i < twoTo 64))
  | .float x => inferInstanceAs (Decidable x.Finite)

theorem Number.valid_of_readInt64? {cs : List Char} {i : Int}
    (h : Decimal.readInt64? cs = some i) : (Number.int i).Valid := by
  obtain ⟨hlow, hhigh⟩ := Decimal.readInt?_within h
  have hwide : twoTo 63 ≤ twoTo 64 := by decide
  exact ⟨hlow, by omega⟩

/-- The value is not a number beyond those that a JSON document can hold. -/
def Value.Representable (v : Value) : Prop := ∀ n, v = .number n → n.Valid

namespace InputType

variable {type : InputType} {v w : Value}

/-- The value is of the type. -/
inductive Holds : InputType → Value → Prop
  /-- A text. -/
  | string (s : String) : Holds .string (.string s)
  /-- A number of either kind. -/
  | number (n : Number) (valid : n.Valid) : Holds .number (.number n)
  /-- A whole number of 64 bits. -/
  | integer (i : Int) (valid : (Number.int i).Valid) : Holds .integer (.number (.int i))
  /-- A truth value. -/
  | boolean (b : Bool) : Holds .boolean (.bool b)
  /-- A list. -/
  | array (items : List Value) : Holds .array (.array items)
  /-- A map. -/
  | object (fields : List (String × Value)) : Holds .object (.object fields)

/-- What a value is brought to is of the type. -/
theorem holds_of_coerce? (hv : v.Representable) (h : type.coerce? v = some w) : type.Holds w := by
  unfold coerce? at h
  split at h
  -- a text asked for
  · exact Option.some.inj h ▸ .string _
  · exact Option.some.inj h ▸ .string _
  · exact Option.some.inj h ▸ .string _
  -- a number asked for
  · next n => exact Option.some.inj h ▸ .number n (hv n rfl)
  · obtain ⟨x, hx, rfl⟩ := Option.map_eq_some_iff.1 h
    obtain ⟨reading, hread, hfinite⟩ := Option.bind_eq_some_iff.1 hx
    cases reading with
    | finite y =>
      cases hfinite
      exact .number _ (Decimal.readFloat?_finite hread)
    | infinite _ | nan => cases hfinite
  -- a whole number asked for
  · next i => exact Option.some.inj h ▸ .integer i (hv _ rfl)
  · obtain ⟨i, hi, rfl⟩ := Option.map_eq_some_iff.1 h
    exact .integer i (Number.valid_of_readInt64? hi)
  -- a truth value asked for
  · exact Option.some.inj h ▸ .boolean _
  · obtain ⟨b, -, rfl⟩ := Option.map_eq_some_iff.1 h
    exact .boolean b
  -- a list asked for
  · exact Option.some.inj h ▸ .array _
  · split at h
    · exact Option.some.inj h ▸ .array _
    · cases h
  -- a map asked for
  · exact Option.some.inj h ▸ .object _
  · split at h
    · exact Option.some.inj h ▸ .object _
    · cases h
  · cases h

/-- A value of the type stays as it is. -/
theorem coerce?_of_holds (h : type.Holds w) : type.coerce? w = some w := by
  cases h <;> rfl

theorem coerce_eq_ok : type.coerce v = .ok w ↔ type.coerce? v = some w := by
  unfold coerce
  cases type.coerce? v <;> simp

end InputType

namespace InputSchema

variable {schema : InputSchema} {v w : Value}

/-- The value is all that the schema asks for. -/
structure Conforms (schema : InputSchema) (w : Value) : Prop where
  /-- It is of the type. -/
  type : ∀ type, schema.type = some type → type.Holds w
  /-- It is among the values allowed, by itself or by its text. -/
  allowed : ∀ allowed, schema.allowed = some allowed →
    ∃ a ∈ allowed, a.same w = true ∨ a.text = w.text
  /-- The pattern matches in its text. -/
  pattern : ∀ pattern, schema.pattern = some pattern → Pattern.search pattern w.text = .ok true

/-! ## The parts of a check -/

theorem bind_eq_ok {ε α β : Type} {x : Except ε α} {f : α → Except ε β} {b : β} :
    (x >>= f) = .ok b ↔ ∃ a, x = .ok a ∧ f a = .ok b := by
  cases x with
  | error e => exact ⟨fun h => (by cases h), fun ⟨_, h, _⟩ => (by cases h)⟩
  | ok a =>
    refine ⟨fun h => ⟨a, rfl, h⟩, ?_⟩
    rintro ⟨_, ⟨⟩, hb⟩
    exact hb

theorem coerce_eq_ok :
    schema.coerce v = .ok w ↔
      (∀ type, schema.type = some type → type.coerce? v = some w) ∧
        (schema.type = none → v = w) := by
  unfold coerce
  cases schema.type with
  | some type => simp [InputType.coerce_eq_ok]
  | none => simp

theorem checkAllowed_eq_ok :
    schema.checkAllowed w = .ok () ↔ ∀ allowed, schema.allowed = some allowed →
      ∃ a ∈ allowed, a.same w = true ∨ a.text = w.text := by
  unfold checkAllowed
  cases schema.allowed with
  | none => simp
  | some allowed =>
    dsimp only
    split
    · next h => simpa [isAllowed, List.any_eq_true] using h
    · next h => simpa [isAllowed] using h

theorem checkPattern_eq_ok :
    schema.checkPattern w = .ok () ↔
      ∀ pattern, schema.pattern = some pattern → Pattern.search pattern w.text = .ok true := by
  unfold checkPattern
  cases schema.pattern with
  | none => simp
  | some pattern =>
    dsimp only
    split
    · next hfound => simp [hfound]
    · next hmissed => simp [hmissed]
    · next hinvalid => simp [hinvalid]

/-- A check succeeds when each of its parts does, on the value brought to the type. -/
theorem check_eq_ok :
    schema.check v = .ok w ↔
      schema.coerce v = .ok w ∧ schema.checkAllowed w = .ok () ∧
        schema.checkPattern w = .ok () := by
  unfold check
  simp only [bind_eq_ok]
  constructor
  · rintro ⟨u, hcoerce, ⟨⟩, hallowed, ⟨⟩, hpattern, hreturn⟩
    cases hreturn
    exact ⟨hcoerce, hallowed, hpattern⟩
  · rintro ⟨hcoerce, hallowed, hpattern⟩
    exact ⟨w, hcoerce, (), hallowed, (), hpattern, rfl⟩

/-! ## What passes a check -/

theorem conforms_of_check (hv : v.Representable) (h : schema.check v = .ok w) :
    schema.Conforms w := by
  obtain ⟨hcoerce, hallowed, hpattern⟩ := check_eq_ok.1 h
  exact ⟨fun type htype => InputType.holds_of_coerce? hv ((coerce_eq_ok.1 hcoerce).1 type htype),
    checkAllowed_eq_ok.1 hallowed, checkPattern_eq_ok.1 hpattern⟩

/-- A value that conforms passes unchanged. -/
theorem check_of_conforms (h : schema.Conforms w) : schema.check w = .ok w :=
  check_eq_ok.2 ⟨coerce_eq_ok.2 ⟨fun type htype => InputType.coerce?_of_holds (h.type type htype),
    fun _ => rfl⟩, checkAllowed_eq_ok.2 h.allowed, checkPattern_eq_ok.2 h.pattern⟩

/-- **Checks are sound and idempotent**: what a check lets through is of the type, is among the
values allowed and has the pattern, and passes a second check unchanged. -/
theorem check_conforms (hv : v.Representable) (h : schema.check v = .ok w) :
    schema.Conforms w ∧ schema.check w = .ok w :=
  ⟨conforms_of_check hv h, check_of_conforms (conforms_of_check hv h)⟩

/-- A whole number out of two, one of them given as a text, that begins with a four. -/
def fortyish : InputSchema :=
  { type := some .integer, allowed := some [.string "42", .int 47], pattern := some "^4" }

theorem check_conforms_fortyish :
    fortyish.check (.string " 42 ") = .ok (.int 42) ∧ fortyish.Conforms (.int 42) ∧
      fortyish.check (.int 42) = .ok (.int 42) := by
  have hv : (Value.string " 42 ").Representable := fun _ h => by cases h
  have hcheck : fortyish.check (.string " 42 ") = .ok (.int 42) := by decide +kernel
  exact ⟨hcheck, check_conforms hv hcheck⟩

end InputSchema

end Runbook
