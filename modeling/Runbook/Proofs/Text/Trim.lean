import Runbook.Text.Blank

/-!
# Trimming

* `Tight` says of a text that it neither begins nor ends with a blank, so that trimming leaves it as
  it is (`trim_of_tight`);
* `trim_blank_cons` and `trim_append_blank` say that a blank at either end does not matter;
* `trim_part` says that what is left of a text is a part of it, and `exists_trimEnd` that only
  blanks are dropped at its end.
-/

namespace Runbook

variable {c : Char} {cs : List Char}

/-- The characters of ASCII from the space on have no blank but the space. -/
theorem isBlank_of_visible (hlow : 0x20 < c.toNat) (hhigh : c.toNat < 0x85) :
    isBlank c = false := by
  have hplace : ¬ c.toNat < 0x9 ∧ ¬ c.toNat ≤ 0xD ∧ ¬ c.toNat < 0x20 ∧ ¬ c.toNat ≤ 0x20 := by omega
  simp [isBlank, blankRanges, Ranges.has, Ranges.hasCode, hplace, hhigh]

/-- The letter case does not make a blank. -/
theorem isBlank_toLower (c : Char) : isBlank c.toLower = isBlank c := by
  unfold Char.toLower
  split
  · next hc =>
    have hlow : 65 ≤ c.toNat := hc.1
    have hhigh : c.toNat ≤ 90 := hc.2
    have hcode : (c.val + ('a'.val - 'A'.val)).toNat = c.toNat + 32 := by
      have hsmall : c.val.toNat ≤ 90 := hhigh
      have hshift : ('a'.val - 'A'.val).toNat = 32 := rfl
      rw [UInt32.toNat_add, hshift]
      exact Nat.mod_eq_of_lt (by omega)
    rw [isBlank_of_visible (c := c) (by omega) (by omega)]
    refine isBlank_of_visible ?_ ?_
    · exact Nat.lt_of_lt_of_eq (by omega) hcode.symm
    · exact Nat.lt_of_le_of_lt (Nat.le_of_eq hcode) (by omega)
  · rfl

theorem trimStart_cons_of_not_blank (h : isBlank c = false) : trimStart (c :: cs) = c :: cs := by
  simp [trimStart, h]

theorem trimStart_blank_cons (h : isBlank c = true) : trimStart (c :: cs) = trimStart cs := by
  simp [trimStart, h]

theorem trimEnd_append_blank (h : isBlank c = true) (cs : List Char) :
    trimEnd (cs ++ [c]) = trimEnd cs := by
  induction cs with
  | nil => simp [trimEnd, h]
  | cons d rest ih => simp only [List.cons_append, trimEnd, ih]

theorem trimEnd_append_of_not_blank (h : isBlank c = false) (cs : List Char) :
    trimEnd (cs ++ [c]) = cs ++ [c] := by
  induction cs with
  | nil => simp [trimEnd, h]
  | cons d rest ih =>
    rw [List.cons_append, trimEnd, ih]
    cases rest <;> rfl

/-- A text that neither begins nor ends with a blank. -/
structure Tight (cs : List Char) : Prop where
  head : ∀ c, cs.head? = some c → isBlank c = false
  last : ∀ c, cs.getLast? = some c → isBlank c = false

/-- A text between two characters that are no blanks. -/
theorem tight_between {a b : Char} (ha : isBlank a = false) (hb : isBlank b = false)
    (cs : List Char) : Tight (a :: (cs ++ [b])) := by
  constructor
  · intro c hc
    have : a = c := by simpa using hc
    exact this ▸ ha
  · intro c hc
    have : b = c := by simpa [List.getLast?_cons] using hc
    exact this ▸ hb

/-- A text without blanks. -/
theorem tight_of_forall (h : ∀ c ∈ cs, isBlank c = false) : Tight cs :=
  ⟨fun c hc => h c (List.mem_of_mem_head? hc), fun c hc => h c (List.mem_of_getLast? hc)⟩

theorem trimStart_of_tight (h : Tight cs) : trimStart cs = cs := by
  cases cs with
  | nil => rfl
  | cons c rest => exact trimStart_cons_of_not_blank (h.head c rfl)

theorem trimEnd_of_tight (h : Tight cs) : trimEnd cs = cs := by
  rcases List.eq_nil_or_concat cs with rfl | ⟨rest, c, rfl⟩
  · rfl
  · rw [List.concat_eq_append] at h ⊢
    exact trimEnd_append_of_not_blank (h.last c (by simp)) rest

/-- Trimming leaves a tight text as it is. -/
theorem trim_of_tight (h : Tight cs) : trim cs = cs := by
  rw [trim, trimStart_of_tight h, trimEnd_of_tight h]

/-- A blank before a text does not matter. -/
theorem trim_blank_cons (hc : isBlank c = true) (cs : List Char) : trim (c :: cs) = trim cs := by
  rw [trim, trimStart_blank_cons hc, trim]

/-- A blank after a tight text does not matter. -/
theorem trim_append_blank (hc : isBlank c = true) (h : Tight cs) : trim (cs ++ [c]) = cs := by
  cases cs with
  | nil => rw [List.nil_append, trim_blank_cons hc]; rfl
  | cons d rest =>
    have hd : isBlank d = false := h.head d rfl
    rw [trim, List.cons_append, trimStart_cons_of_not_blank hd, ← List.cons_append,
      trimEnd_append_blank hc, trimEnd_of_tight h]

theorem trimEnd_part (cs : List Char) : trimEnd cs <+: cs := by
  induction cs with
  | nil => exact List.prefix_rfl
  | cons c rest ih =>
    rw [trimEnd]
    split
    · split
      · exact List.nil_prefix
      · exact List.cons_prefix_cons.2 ⟨rfl, List.nil_prefix⟩
    · exact List.cons_prefix_cons.2 ⟨rfl, ih⟩

/-- At the end of a text blanks are dropped and nothing else. -/
theorem exists_trimEnd (cs : List Char) :
    ∃ blanks, cs = trimEnd cs ++ blanks ∧ ∀ c ∈ blanks, isBlank c = true := by
  induction cs with
  | nil => exact ⟨[], rfl, nofun⟩
  | cons c rest ih =>
    obtain ⟨blanks, hrest, hblanks⟩ := ih
    rw [trimEnd]
    split
    · next hnil =>
      rw [hnil, List.nil_append] at hrest
      split
      · next hc => exact ⟨c :: rest, rfl, List.forall_mem_cons.2 ⟨hc, hrest ▸ hblanks⟩⟩
      · exact ⟨rest, rfl, hrest ▸ hblanks⟩
    · exact ⟨blanks, congrArg (c :: ·) hrest, hblanks⟩

/-- A text that ends with no blank ends with the same character when it is trimmed. -/
theorem exists_trim_concat (hc : isBlank c = false) (cs : List Char) :
    ∃ head, trim (cs ++ [c]) = head ++ [c] := by
  induction cs with
  | nil =>
    refine ⟨[], ?_⟩
    rw [List.nil_append, trim, trimStart_cons_of_not_blank hc]
    simp [trimEnd, hc]
  | cons d cs ih =>
    cases hd : isBlank d with
    | true => rwa [List.cons_append, trim_blank_cons hd]
    | false =>
      refine ⟨d :: cs, ?_⟩
      rw [trim, List.cons_append, trimStart_cons_of_not_blank hd, ← List.cons_append,
        trimEnd_append_of_not_blank hc]

/-- What is left of a text is a part of it. -/
theorem trim_part (cs : List Char) : trim cs <:+: cs :=
  (trimEnd_part _).isInfix.trans (List.dropWhile_suffix isBlank).isInfix

end Runbook
