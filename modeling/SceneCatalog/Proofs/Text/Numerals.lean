import SceneCatalog.Scene.Inline

/-
This file says which characters stand in numbers.
-/

namespace SceneCatalog.Text

/-- Digits, the sign and the point, and the letters for what is not finite. -/
def isNumeral (c : Char) : Bool := c.isDigit || "-.NaNinf".toList.contains c

/-- All characters of the text can stand in numbers. -/
def Numeral (text : String) : Prop := ∀ c ∈ text.toList, isNumeral c = true

namespace Numeral

instance (text : String) : Decidable (Numeral text) :=
  decidable_of_iff (text.toList.all isNumeral = true) List.all_eq_true

/-- A text is a numeral exactly when both of its parts are. -/
@[simp]
theorem append_iff (first second : String) :
    Numeral (first ++ second) ↔ Numeral first ∧ Numeral second := by
  rw [Numeral, String.toList_append, List.forall_mem_append]
  rfl

/-- A part of a number need not be a number, but has no other characters. -/
theorem sublist {text : String} (numeral : Numeral text) {part : List Char}
    (within : part.Sublist text.toList) : Numeral (String.ofList part) := by
  intro c member
  rw [String.toList_ofList] at member
  exact numeral c (within.subset member)

theorem natural (number : Nat) : Numeral (toString number) := by
  intro c member
  rw [Nat.toString_eq_repr, Nat.toList_repr] at member
  have digit := Nat.isDigit_of_mem_toDigits (by decide) (by decide) member
  simp [isNumeral, digit]

theorem integer (number : Int) : Numeral (toString number) := by
  cases number with
  | ofNat number => exact natural number
  | negSucc number =>
      show Numeral ("-" ++ number.succ.repr)
      rw [append_iff]
      exact ⟨by decide, natural number.succ⟩

theorem zeros (count : Nat) : Numeral (Number.zeros count) := by
  show Numeral (Nat.repeat (·.push '0') count "")
  induction count with
  | zero => decide
  | succ count inductionHypothesis =>
      rw [Nat.repeat, String.push_eq_append, append_iff]
      exact ⟨inductionHypothesis, by decide⟩

/-- A decimal in positional form is a numeral. -/
theorem positional (decimal : Number.Decimal) (keepsPoint : Bool) :
    Numeral (decimal.positional keepsPoint) := by
  unfold Number.Decimal.positional
  extract_lets text
  have digits : Numeral text := natural decimal.digits
  split
  · rw [append_iff, append_iff]
    refine ⟨⟨digits, zeros _⟩, ?_⟩
    cases keepsPoint <;> decide
  · extract_lets places padded whole
    have held : Numeral padded := by
      unfold padded
      split
      · exact (append_iff _ _).2 ⟨zeros _, digits⟩
      · exact digits
    rw [append_iff, append_iff]
    exact ⟨⟨held.sublist (List.take_sublist whole _), by decide⟩,
      held.sublist (List.drop_sublist whole _)⟩

/-- Numbers that are never written with an exponent. -/
theorem write {format : Number.Format} (always : format.positional = none) (number : Float) :
    Numeral (format.write number) := by
  unfold Number.Format.write
  split
  · decide
  · split <;> decide
  · rename_i binary _
    rw [append_iff, Number.Format.decimal, always]
    refine ⟨?_, positional _ _⟩
    split <;> decide

/-- The text of every number is a numeral. -/
theorem number (number : Float) : Numeral (numberText number) := by
  unfold numberText
  split
  · decide
  · exact write rfl number

end Numeral

end SceneCatalog.Text
