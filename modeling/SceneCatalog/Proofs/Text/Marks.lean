import Mathlib.Data.List.Infix
import SceneCatalog.Proofs.Text.Numerals

/-
This file counts braces, and says which texts keep a property that only line ends and braces decide.
-/

namespace SceneCatalog.Text

/-- Line ends and braces give scene text its form. -/
def isMark (c : Char) : Bool := c == '\n' || c == '\x7b' || c == '\x7d'

def marks (text : List Char) : List Char := text.filter isMark

/-- The braces that are opened less those that are closed. -/
def braceDepth (text : List Char) : Int := text.count '\x7b' - text.count '\x7d'

/-- No brace closes before it has been opened, and none stays open. -/
structure Balanced (text : List Char) : Prop where
  opened : ∀ start, start <+: text → 0 ≤ braceDepth start
  closed : braceDepth text = 0

/-- A property of texts that depends on line ends and braces only. It outlasts putting texts
together and taking line ends away. -/
structure Formal (holds : List Char → Prop) : Prop where
  nil : holds []
  append : ∀ {first second}, holds first → holds second → holds (first ++ second)
  congr : ∀ {first second}, marks first = marks second → holds first → holds second
  unbroken : ∀ {text}, holds text → holds (text.filter (· != '\n'))

/-- A formal property that also lasts when a text is put in braces. -/
structure Blockwise (holds : List Char → Prop) : Prop extends Formal holds where
  braced : ∀ {text}, holds text → holds ('\x7b' :: text ++ ['\x7d'])

instance (text : List Char) : Decidable (Balanced text) :=
  decidable_of_iff ((∀ start ∈ text.inits, 0 ≤ braceDepth start) ∧ braceDepth text = 0) <| by
    simp only [List.mem_inits]
    exact ⟨fun ⟨opened, closed⟩ => ⟨opened, closed⟩, fun ⟨opened, closed⟩ => ⟨opened, closed⟩⟩

/-- Marks are the line end and the two braces. -/
theorem isMark_false_iff {c : Char} : isMark c = false ↔ c ≠ '\n' ∧ c ≠ '\x7b' ∧ c ≠ '\x7d' := by
  simp [isMark, and_assoc]

theorem marks_append (first second : List Char) :
    marks (first ++ second) = marks first ++ marks second := List.filter_append ..

/-- A text has no marks when none of its characters is one. -/
theorem marks_eq_nil_iff {text : List Char} : marks text = [] ↔ ∀ c ∈ text, isMark c = false := by
  simp [marks]

/-- The depths of two texts add up. -/
theorem braceDepth_append (first second : List Char) :
    braceDepth (first ++ second) = braceDepth first + braceDepth second := by
  simp only [braceDepth, List.count_append]
  omega

/-- The depth depends on the braces alone. -/
theorem braceDepth_filter {keeps : Char → Bool} (opening : keeps '\x7b' = true)
    (closing : keeps '\x7d' = true) (text : List Char) :
    braceDepth (text.filter keeps) = braceDepth text := by
  rw [braceDepth, braceDepth, List.count_filter opening, List.count_filter closing]

/-- A part of a text without marks has none. -/
theorem marks_sublist {part text : List Char} (within : part.Sublist text)
    (free : marks text = []) : marks part = [] := by
  rw [marks_eq_nil_iff] at free ⊢
  exact fun c member => free c (within.subset member)

/-- Escapes hide the line ends of a string and no braces. -/
theorem marks_escaped (text : List Char) :
    marks (text.flatMap sceneEscape) = marks (text.filter (· != '\n')) := by
  induction text with
  | nil => rfl
  | cons c rest inductionHypothesis =>
      rw [List.flatMap_cons, marks_append, inductionHypothesis]
      by_cases lineEnd : c = '\n'
      · subst lineEnd
        rfl
      · have escaped : marks (sceneEscape c) = marks [c] := by
          unfold sceneEscape
          split <;> first | rfl | contradiction
        rw [List.filter_cons_of_pos (by simpa using lineEnd), escaped, ← marks_append]
        rfl

namespace Balanced

theorem nil : Balanced [] where
  opened start within := by
    rw [List.prefix_nil.1 within]
    decide
  closed := rfl

theorem append {first second : List Char} (firstBalanced : Balanced first)
    (secondBalanced : Balanced second) : Balanced (first ++ second) where
  opened := by
    -- A start of both texts ends within the first or within the second.
    rintro start ⟨rest, split⟩
    rcases List.append_eq_append_iff.1 split with ⟨left, whole, _⟩ | ⟨taken, rfl, whole⟩
    · exact firstBalanced.opened start ⟨left, whole.symm⟩
    · rw [braceDepth_append, firstBalanced.closed, Int.zero_add]
      exact secondBalanced.opened taken ⟨rest, whole.symm⟩
  closed := by rw [braceDepth_append, firstBalanced.closed, secondBalanced.closed, Int.zero_add]

/-- Only the braces of a text matter. -/
theorem filter_iff {keeps : Char → Bool} (opening : keeps '\x7b' = true)
    (closing : keeps '\x7d' = true) {text : List Char} :
    Balanced (text.filter keeps) ↔ Balanced text := by
  constructor
  · intro balanced
    refine ⟨fun start within => ?_, ?_⟩
    · rw [← braceDepth_filter opening closing]
      exact balanced.opened _ (within.filter keeps)
    · rw [← braceDepth_filter opening closing, balanced.closed]
  · intro balanced
    refine ⟨fun start within => ?_, ?_⟩
    · obtain ⟨rest, split⟩ := within
      obtain ⟨shown, hidden, rfl, rfl, _⟩ := List.filter_eq_append_iff.1 split.symm
      rw [braceDepth_filter opening closing]
      exact balanced.opened shown (List.prefix_append shown hidden)
    · rw [braceDepth_filter opening closing, balanced.closed]

/-- Line ends may come and go. -/
theorem unbroken_iff {text : List Char} : Balanced (text.filter (· != '\n')) ↔ Balanced text :=
  filter_iff (by decide) (by decide)

/-- A balanced text in braces stays within them up to the last one. -/
theorem enclosed {inner : List Char} (balanced : Balanced inner) :
    (∀ start, start <+: '\x7b' :: inner → start ≠ [] → 0 < braceDepth start) ∧
      braceDepth ('\x7b' :: inner ++ ['\x7d']) = 0 := by
  have opens (rest : List Char) : braceDepth ('\x7b' :: rest) = 1 + braceDepth rest :=
    braceDepth_append ['\x7b'] rest
  constructor
  · intro start within nonempty
    rcases List.prefix_cons_iff.1 within with rfl | ⟨rest, rfl, restWithin⟩
    · contradiction
    · have opened := balanced.opened rest restWithin
      rw [opens]
      omega
  · have closes : braceDepth ['\x7d'] = -1 := rfl
    rw [List.cons_append, opens, braceDepth_append, balanced.closed, closes]
    rfl

/-- Balance is kept by putting texts into blocks. -/
theorem blockwise : Blockwise Balanced where
  nil := nil
  append := append
  braced := by
    intro inner balanced
    obtain ⟨positive, closed⟩ := balanced.enclosed
    refine ⟨fun start within => ?_, closed⟩
    -- A start is empty, ends in the braces, or is the whole text.
    rcases List.prefix_concat_iff.1 within with rfl | shorter
    · exact Int.le_of_eq closed.symm
    · by_cases empty : start = []
      · exact empty ▸ Int.le_refl 0
      · exact Int.le_of_lt (positive start shorter empty)
  congr := by
    intro first second same balanced
    have kept : Balanced (marks first) := (filter_iff rfl rfl).2 balanced
    rw [same] at kept
    exact (filter_iff rfl rfl).1 kept
  unbroken := unbroken_iff.2

end Balanced

example : Balanced "a \x7b b \x7b \x7d \x7d".toList ∧ ¬Balanced "\x7d \x7b".toList := by decide

/-- Blocks of single lines are blocks of single lines. -/
theorem blockwise_oneLine : Blockwise fun text => '\n' ∉ text where
  nil := List.not_mem_nil
  append := by
    intro first second firstFree secondFree
    simp [firstFree, secondFree]
  congr := by
    intro first second same free
    have known (text : List Char) : '\n' ∈ text ↔ '\n' ∈ marks text := by
      simp [marks, isMark]
    rwa [known, ← same, ← known]
  unbroken := by simp
  braced := by
    intro text free
    simpa using free

theorem blockwise_any : Blockwise fun _ => True where
  nil := trivial
  append _ _ := trivial
  congr _ _ := trivial
  unbroken _ := trivial
  braced _ := trivial

/-- Having no marks is a formal property. -/
theorem formal_unmarked : Formal fun text => marks text = [] where
  nil := rfl
  append := by
    intro first second firstFree secondFree
    rw [marks_append, firstFree, secondFree, List.nil_append]
  congr same free := same ▸ free
  unbroken free := marks_sublist List.filter_sublist free

namespace Formal

variable {holds : List Char → Prop} (formal : Formal holds)
include formal

theorem unmarked {text : List Char} (free : marks text = []) : holds text := by
  have same : marks [] = marks text := free.symm
  exact formal.congr same formal.nil

/-- Texts without marks may stand anywhere between the others. -/
theorem intercalate {separator : String} (free : marks separator.toList = []) {parts : List String}
    (held : ∀ part ∈ parts, holds part.toList) : holds (separator.intercalate parts).toList := by
  rw [String.toList_intercalate]
  induction parts with
  | nil => exact formal.nil
  | cons part rest inductionHypothesis =>
      have first := held part List.mem_cons_self
      have others := inductionHypothesis fun other member => held other (.tail _ member)
      cases rest with
      | nil => simpa [List.intercalate] using first
      | cons next rest =>
          have opened := formal.append first (formal.append (formal.unmarked free) others)
          simpa [List.intercalate] using opened

/-- Texts with a formal property have it when they are joined. -/
theorem join {parts : List String} (held : ∀ part ∈ parts, holds part.toList) :
    holds (parts.flatMap String.toList) := by
  induction parts with
  | nil => exact formal.nil
  | cons part rest inductionHypothesis =>
      rw [List.flatMap_cons]
      apply formal.append (held part List.mem_cons_self)
      exact inductionHypothesis fun other member => held other (.tail _ member)

/-- A text keeps a formal property when it is quoted. -/
theorem quote {text : String} (held : holds text.toList) : holds (Text.quote text).toList := by
  have quoted : marks ('"' :: text.toList.flatMap sceneEscape ++ ['"']) =
      marks (text.toList.filter (· != '\n')) := by
    rw [← marks_escaped, List.cons_append, ← List.singleton_append, marks_append,
      marks_append]
    simp [marks, isMark]
  rw [Text.quote, String.toList_ofList]
  exact formal.congr quoted.symm (formal.unbroken held)

end Formal

/-- Numbers have no marks. -/
theorem marks_of_numeral {text : String} (numeral : Numeral text) : marks text.toList = [] := by
  rw [marks_eq_nil_iff]
  intro c member
  have allowed := numeral c member
  rw [isMark_false_iff]
  refine ⟨?_, ?_, ?_⟩ <;> rintro rfl <;> contradiction

theorem marks_natural (number : Nat) : marks (toString number).toList = [] :=
  marks_of_numeral (.natural number)

theorem marks_integer (number : Int) : marks (toString number).toList = [] :=
  marks_of_numeral (.integer number)

/-- The text of a number has no marks. -/
theorem marks_number (number : Float) : marks (numberText number).toList = [] :=
  marks_of_numeral (.number number)

theorem marks_numbers (numbers : List Float) :
    marks (", ".intercalate (numbers.map numberText)).toList = [] := by
  apply formal_unmarked.intercalate rfl
  intro part member
  obtain ⟨number, _, rfl⟩ := List.mem_map.1 member
  exact marks_number number

theorem marks_coordinates (coordinates : Coordinates) : marks coordinates.text.toList = [] := by
  have numbers := marks_numbers coordinates.components
  have body :
      marks ("<" ++ ", ".intercalate (coordinates.components.map numberText) ++ ">").toList =
        [] := by
    simp only [String.toList_append, marks_append, numbers]
    rfl
  unfold Coordinates.text
  dsimp only
  split
  · rw [String.toList_append, marks_append, body]
    rfl
  · exact body

end SceneCatalog.Text
