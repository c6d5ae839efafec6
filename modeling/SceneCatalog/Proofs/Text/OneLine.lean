import SceneCatalog.Proofs.Text.Columns
import SceneCatalog.Proofs.Text.Marks
import SceneCatalog.Proofs.Text.Words

/-
This file shows that names, literals of numbers and strings, and rows of single lines stand in one
line.
-/

namespace SceneCatalog.Text

/-- The digits of a number are those before it and digit characters. -/
theorem mem_toDigitsCore {base fuel number : Nat} {digits : List Char} {c : Char}
    (member : c ∈ Nat.toDigitsCore base fuel number digits) :
    c ∈ digits ∨ ∃ digit, c = Nat.digitChar digit := by
  induction fuel generalizing number digits with
  | zero => exact .inl member
  | succ fuel inductionHypothesis =>
      have here : c ∈ Nat.digitChar (number % base) :: digits →
          c ∈ digits ∨ ∃ digit, c = Nat.digitChar digit := by
        rintro (_ | ⟨_, before⟩)
        · exact .inr ⟨_, rfl⟩
        · exact .inl before
      rw [Nat.toDigitsCore] at member
      split at member
      · exact here member
      · rcases inductionHypothesis member with before | digit
        · exact here before
        · exact .inr digit

/-- No digit is a line end. -/
theorem digitChar_ne_lineFeed (digit : Nat) : digit.digitChar ≠ '\n' := by
  by_cases below : digit < 16
  · have checked : ∀ digit < 16, Nat.digitChar digit ≠ '\n' := by decide
    exact checked digit below
  · have different : ∀ value < 16, digit ≠ value := by omega
    have star : digit.digitChar = '*' := by simp [Nat.digitChar, different]
    rw [star]
    decide

/-- The text has no line feed in it. -/
def OneLine (text : String) : Prop := '\n' ∉ text.toList

namespace OneLine

instance (text : String) : Decidable (OneLine text) :=
  inferInstanceAs (Decidable ('\n' ∉ text.toList))

/-- The empty text has no line end. -/
theorem empty : OneLine "" := List.not_mem_nil

/-- A text has no line end when neither of its parts has one. -/
@[simp]
theorem append_iff (first second : String) :
    OneLine (first ++ second) ↔ OneLine first ∧ OneLine second := by
  rw [OneLine, String.toList_append, List.mem_append, not_or]
  rfl

/-- A text without marks has no line end. -/
theorem of_marks {text : String} (free : marks text.toList = []) : OneLine text :=
  blockwise_oneLine.toFormal.unmarked free

/-- Only texts whose characters are all allowed are considered, and line feeds are not allowed. -/
theorem of_all {text : String} {allowed : Char → Bool} (excluded : allowed '\n' = false)
    (all : ∀ c ∈ text.toList, allowed c = true) : OneLine text := fun member =>
  absurd (all _ member) (by simp [excluded])

/-- A text of letters and digits has no line end. -/
theorem of_alphanumeric {name : String} (alphanumeric : ∀ c ∈ name.toList, c.isAlphanum = true) :
    OneLine name :=
  of_all (by decide) alphanumeric

/-- A text in snake case has no line end. -/
theorem of_snakeCase {name : String} (snake : SnakeCase name.toList) : OneLine name :=
  of_all (by decide) snake.all

/-- The digits of a number stand on one line. -/
theorem natural (number : Nat) : OneLine (toString number) := of_marks (marks_natural number)

theorem integer (number : Int) : OneLine (toString number) := of_marks (marks_integer number)

/-- The literal of a float stands on one line. -/
theorem floatLiteral (number : Float) : OneLine (Number.literal.write number) :=
  of_marks (marks_of_numeral (.write rfl number))

/-- Hexadecimal digits stand on one line. -/
theorem hexDigits (number : Nat) : OneLine (hexDigits number) := by
  rw [OneLine, Text.hexDigits, String.toList_ofList]
  intro member
  obtain ⟨digit, same⟩ := (mem_toDigitsCore member).resolve_left List.not_mem_nil
  exact digitChar_ne_lineFeed digit same.symm

/-- Line feeds are escaped. -/
theorem quote (text : String) : OneLine (quote text) := by
  have escaped (c : Char) : '\n' ∉ sceneEscape c := by
    unfold sceneEscape
    split
    case h_4 lineFeed =>
      exact fun member => lineFeed (List.mem_singleton.1 member).symm
    all_goals decide
  rw [OneLine, Text.quote, String.toList_ofList]
  simpa using fun c _ => escaped c

/-- An escaped character stands on one line, as a line end is escaped by a letter. -/
theorem sourceEscape (c : Char) : OneLine (sourceEscape c) := by
  unfold Text.sourceEscape
  split
  case h_6 noFeed _ _ =>
    split
    · decide
    · split
      · show '\n' ∉ (String.singleton c).toList
        rw [String.toList_singleton, List.mem_singleton]
        exact fun same => noFeed same.symm
      · simp +decide [hexDigits]
  all_goals decide

/-- The characters of a literal stand on one line. -/
theorem literalFrom (text : List Char) : OneLine (literalFrom text) := by
  induction text with
  | nil => exact empty
  | cons c rest inductionHypothesis =>
      rw [Text.literalFrom, append_iff]
      refine ⟨?_, inductionHypothesis⟩
      split
      · decide
      · exact sourceEscape c

/-- The literal of any string stands on one line. -/
theorem sourceLiteral (text : String) : OneLine (sourceLiteral text) := by
  simp +decide [Text.sourceLiteral, literalFrom]

/-- An aligned row of single cells stands on one line. -/
theorem alignRow {widths : List Nat} {cells : List String}
    (each : ∀ cell ∈ cells, OneLine cell) : OneLine (alignRow widths cells) := by
  induction widths generalizing cells with
  | nil => exact empty
  | cons width rest inductionHypothesis =>
      cases cells with
      | nil => exact empty
      | cons cell cells =>
          obtain ⟨here, later⟩ := List.forall_mem_cons.1 each
          have padding : OneLine ("".pushn ' ' (width - cell.length)) := by
            rw [OneLine, toList_pushn]
            exact fun member => absurd (List.eq_of_mem_replicate member) (by decide)
          rw [alignRow_cons, append_iff, pad, append_iff]
          exact ⟨⟨here, padding⟩, inductionHypothesis later⟩

end OneLine

end SceneCatalog.Text
