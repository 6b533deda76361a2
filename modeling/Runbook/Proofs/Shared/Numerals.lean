import Runbook.Proofs.Shared.Conforming

/-!
# Whole numbers given as texts

An input often arrives as a text where a number is asked for.  The text of a whole number is read,
but not always as that number: a schema for whole numbers reads signed words of 64 bits and takes
the unsigned ones only as numbers, and a schema for numbers reads a double.

* `InputSchema.JudgesNumeral` says how a schema judges the text of a whole number beside the number;
* `InputType.coerce?_integer_numeral` and `InputType.coerce?_number_numeral` are what the text is
  read as;
* `Binary64.render_ne_toString` says that no double has the text of a whole number;
* `InputSchema.judgesNumeral` is the result, and `InputSchema.numerals_unlike` has two schemas that
  take a number and refuse its text.
-/

namespace Runbook

variable {n : Int}

/-! ## What numerals are read as -/

namespace InputType

/-- A schema for whole numbers reads signed words only. -/
theorem coerce?_integer_numeral (hn : (Number.int n).Valid) :
    integer.coerce? (.string (toString n)) = if n < twoTo 63 then some (.int n) else none := by
  have hlow : (-twoTo 63 : Int) < 0 := by decide
  have hwithin : (-twoTo 63 ≤ n ∧ n ≤ twoTo 63 - 1) ↔ n < twoTo 63 := by
    have := hn.1
    omega
  rw [coerce?, Decimal.trim_toString, Decimal.readInt64?, Decimal.readInt?_toString hlow]
  simp only [hwithin]
  split <;> rfl

/-- A schema for numbers reads the nearest double. -/
theorem coerce?_number_numeral (hn : (Number.int n).Valid) :
    number.coerce? (.string (toString n)) = some (.number (.float (.ofInt n))) := by
  have hsize : n.natAbs < twoTo 64 := by
    obtain ⟨hlow, hhigh⟩ := hn
    have hwide : twoTo 63 < twoTo 64 := by decide
    omega
  rw [coerce?, Decimal.trim_toString, Decimal.readFloat?_toString hsize]
  rfl

end InputType

/-! ## Texts of doubles -/

/-- The text of a double has a point or an exponent. -/
theorem Binary64.render_marked (layout : Binary64.Layout) (x : Binary64) :
    ∃ c ∈ (x.render layout).toList, c = '.' ∨ c = 'e' := by
  unfold Binary64.render
  dsimp only
  generalize (if x.negative = true then "-" else "") = sign
  split
  · exact ⟨'.', by simp, .inl rfl⟩
  · split
    · exact ⟨'.', by simp, .inl rfl⟩
    · split
      · exact ⟨'.', by simp, .inl rfl⟩
      · split
        · exact ⟨'.', by simp, .inl rfl⟩
        · exact ⟨'e', by simp, .inr rfl⟩

/-- No double has the text of a whole number. -/
theorem Binary64.render_ne_toString (layout : Binary64.Layout) (x : Binary64) (i : Int) :
    x.render layout ≠ toString i := by
  intro heq
  obtain ⟨c, hc, hmark⟩ := Binary64.render_marked layout x
  rw [heq] at hc
  rcases hmark with rfl | rfl
  · exact absurd (Decimal.mem_toString hc) (by decide)
  · exact absurd (Decimal.mem_toString hc) (by decide)

/-- No double is among allowed values that are whole numbers. -/
theorem isAllowed_float {allowed : List Value} (hwhole : ∀ a ∈ allowed, ∃ i, a = .int i)
    (x : Binary64) : isAllowed allowed (.number (.float x)) = false := by
  refine List.any_eq_false.2 fun a ha => ?_
  obtain ⟨i, rfl⟩ := hwhole a ha
  have htext : (Value.int i).text ≠ (Value.number (.float x)).text :=
    (Binary64.render_ne_toString numberLayout x i).symm
  simpa [Value.int, Value.same, Number.same] using htext

/-! ## Judging numerals -/

namespace InputSchema

variable {schema : InputSchema} {type : InputType} {v w : Value}

/-- The schema lets the value through, in some form. -/
def Accepts (schema : InputSchema) (v : Value) : Prop := ∃ w, schema.check v = .ok w

/-- How a schema for numbers judges the text of a whole number, beside the number itself. -/
structure JudgesNumeral (schema : InputSchema) (n : Int) : Prop where
  /-- Where whole numbers are asked for, the text of a signed word is as good as the word. -/
  signed : schema.type = some .integer → n < twoTo 63 →
    schema.check (.string (toString n)) = schema.check (.int n)
  /-- The text of a greater number is refused, whatever becomes of the number. -/
  unsigned : schema.type = some .integer → twoTo 63 ≤ n →
    schema.check (.string (toString n)) =
      .error (InputType.integer.mismatch (.string (toString n)))
  /-- Where numbers are asked for, the text stands for the nearest double. -/
  rounded : schema.type = some .number →
    schema.check (.string (toString n)) = schema.check (.number (.float (.ofInt n)))
  /-- Without constraints, text and number are both taken. -/
  unconstrained : schema.type = some .number → schema.allowed = none → schema.pattern = none →
    schema.Accepts (.string (toString n)) ∧ schema.Accepts (.int n)
  /-- Where the values allowed are whole numbers, no text of one is taken. -/
  listed : schema.type = some .number → ∀ allowed, schema.allowed = some allowed →
    (∀ a ∈ allowed, ∃ i, a = .int i) → ¬ schema.Accepts (.string (toString n))

theorem coerce_of_type (htype : schema.type = some type) (hw : type.coerce? v = some w) :
    schema.coerce v = .ok w := by
  rw [coerce, htype]
  exact InputType.coerce_eq_ok.2 hw

/-- A check does not see more of a value than what it is brought to. -/
theorem check_congr {v' : Value} (h : schema.coerce v = schema.coerce v') :
    schema.check v = schema.check v' := by
  rw [check, h, check]

theorem check_refused {reason : String} (h : schema.coerce v = .error reason) :
    schema.check v = .error reason := by
  rw [check, h]
  rfl

/-- Without constraints, what can be brought to the type is accepted. -/
theorem accepts_of_coerce (hallowed : schema.allowed = none) (hpattern : schema.pattern = none)
    (h : schema.coerce v = .ok w) : schema.Accepts v := by
  refine ⟨w, check_eq_ok.2 ⟨h, checkAllowed_eq_ok.2 ?_, checkPattern_eq_ok.2 ?_⟩⟩
  · simp [hallowed]
  · simp [hpattern]

/-- **Whole numbers given as texts**: a schema for whole numbers judges the text of a signed word
like the word and refuses the text of any greater number; a schema for numbers judges the text like
the nearest double, which is never among allowed values that are whole numbers. -/
theorem judgesNumeral (hn : (Number.int n).Valid) : schema.JudgesNumeral n where
  signed htype hsigned := by
    have hread := InputType.coerce?_integer_numeral hn
    rw [if_pos hsigned] at hread
    exact check_congr ((coerce_of_type htype hread).trans (coerce_of_type htype rfl).symm)
  unsigned htype hlarge := by
    have hread := InputType.coerce?_integer_numeral hn
    rw [if_neg (Int.not_lt.2 hlarge)] at hread
    refine check_refused ?_
    simp only [coerce, htype, InputType.coerce, hread]
  rounded htype := by
    have hread := InputType.coerce?_number_numeral hn
    exact check_congr ((coerce_of_type htype hread).trans (coerce_of_type htype rfl).symm)
  unconstrained htype hallowed hpattern :=
    ⟨accepts_of_coerce hallowed hpattern
        (coerce_of_type htype (InputType.coerce?_number_numeral hn)),
      accepts_of_coerce hallowed hpattern (coerce_of_type htype rfl)⟩
  listed htype allowed hallowed hwhole := by
    rintro ⟨w, hw⟩
    obtain ⟨hcoerce, hamong, -⟩ := check_eq_ok.1 hw
    rw [coerce_of_type htype (InputType.coerce?_number_numeral hn)] at hcoerce
    cases hcoerce
    simp only [checkAllowed, hallowed, isAllowed_float hwhole] at hamong
    cases hamong

/-- A whole number. -/
def whole : InputSchema := { type := some .integer }

/-- The number five. -/
def five : InputSchema := { type := some .number, allowed := some [.int 5] }

theorem judgesNumeral_fortyish :
    (Number.int 42).Valid ∧ fortyish.check (.string "42") = fortyish.check (.int 42) := by
  have hn : (Number.int 42).Valid := by decide
  have htext : toString (42 : Int) = "42" := by decide
  exact ⟨hn, htext ▸ (judgesNumeral hn).signed rfl (by decide)⟩

/-- Neither of the two schemas judges a certain number and its text alike. -/
theorem numerals_unlike :
    ¬ (whole.Accepts (.string "9223372036854775808") ↔ whole.Accepts (.int 9223372036854775808)) ∧
      ¬ (five.Accepts (.string "5") ↔ five.Accepts (.int 5)) := by
  have hwhole : whole.check (.string "9223372036854775808") =
      .error "expected integer, got \"9223372036854775808\"" := by decide +kernel
  have hfive : five.check (.string "5") = .error "'5.0' is not one of [5]" := by decide +kernel
  refine ⟨fun halike => ?_, fun halike => ?_⟩
  · obtain ⟨w, hw⟩ := halike.2 ⟨.int 9223372036854775808, by rfl⟩
    rw [hwhole] at hw
    cases hw
  · obtain ⟨w, hw⟩ := halike.2 ⟨.int 5, by rfl⟩
    rw [hfive] at hw
    cases hw

end InputSchema

end Runbook
