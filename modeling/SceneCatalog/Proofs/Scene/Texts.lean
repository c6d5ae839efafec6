import SceneCatalog.Proofs.Scene.Graph
import SceneCatalog.Proofs.Scene.Outcome
import SceneCatalog.Proofs.Text.Marks

/-
This file shows that values without objects always have a text, and what their texts keep.
-/

namespace SceneCatalog

open Text

/-- A text with the property. -/
abbrev Phrase (holds : List Char → Prop) (text : String) : Prop := holds text.toList

/-- Lines that have the property together. -/
abbrev Passage (holds : List Char → Prop) (lines : List String) : Prop :=
  holds (lines.flatMap String.toList)

theorem passage_single {holds : List Char → Prop} {line : String} (held : Phrase holds line) :
    Passage holds [line] := by
  simpa [Passage] using held

/-- A value without objects whose strings and code have the property. -/
inductive Value.Textual (holds : List Char → Prop) : Value → Prop where
  | bool (flag : Bool) : Textual holds (.bool flag)
  | float (number : Float) : Textual holds (.float number)
  | int (number : Int64) : Textual holds (.int number)
  | list {items : List Value} (each : ∀ item ∈ items, Textual holds item) :
      Textual holds (.list items)
  | code {content : String} (held : Phrase holds content) : Textual holds (.code content)
  | text {content : String} (held : Phrase holds content) : Textual holds (.text content)
  | vector (coordinates : Coordinates) : Textual holds (.vector coordinates)

/-- No object is the value or stands in it. -/
def Value.Bare (value : Value) : Prop := ∀ child, ¬value.Holds child

/-- A value without objects is textual when its strings and code have the property. -/
theorem Value.Bare.textual {holds : List Char → Prop} {value : Value} (bare : value.Bare)
    (held : ∀ content, value.Mentions content → Phrase holds content) : value.Textual holds := by
  match value with
  | .bool flag => exact .bool flag
  | .float number => exact .float number
  | .int number => exact .int number
  | .vector coordinates => exact .vector coordinates
  | .code content => exact .code (held content (.inr .here))
  | .text content => exact .text (held content (.inl .here))
  | .node identity object => exact absurd ⟨identity, .here⟩ (bare object)
  | .list items =>
      apply Value.Textual.list
      intro item member
      have itemBare : item.Bare := fun child within =>
        bare child (Value.holds_list_iff.2 ⟨item, member, within⟩)
      exact itemBare.textual fun content mentioned =>
        held content (Value.mentions_list_iff.2 ⟨item, member, mentioned⟩)
termination_by sizeOf value
decreasing_by
  have smaller := List.sizeOf_lt_of_mem member
  simp only [Value.list.sizeOf_spec]
  omega

/-- The items of a list are written one by one. -/
theorem Value.inlineItems_eq (writer : NodeWriter) (stops : Nat) (items : List Value) :
    Value.inlineItems writer stops items = items.mapM (·.inline writer stops) := by
  induction items with
  | nil => rfl
  | cons item rest inductionHypothesis =>
      rw [inlineItems, inductionHypothesis, List.mapM_cons]

theorem Value.Textual.not_isNode {holds : List Char → Prop} {value : Value}
    (textual : value.Textual holds) : value.isNode = false := by
  cases textual <;> rfl

section Texts

variable {holds : List Char → Prop} (formal : Formal holds)
include formal

/-- Texts with the property keep it side by side. -/
theorem Text.Formal.beside {first second : String} (firstHeld : Phrase holds first)
    (secondHeld : Phrase holds second) : Phrase holds (first ++ second) := by
  rw [Phrase, String.toList_append]
  exact formal.append firstHeld secondHeld

/-- A text without marks has every formal property. -/
theorem Text.Formal.words {text : String} (free : marks text.toList = []) : Phrase holds text :=
  formal.unmarked free

namespace Value.Textual

/-- Whatever writes objects, it is not needed. -/
theorem inline {value : Value} (textual : value.Textual holds) (writer : NodeWriter)
    (stops : Nat) : Gives (Phrase holds) (value.inline writer stops) := by
  induction textual with
  | bool flag =>
      rw [Value.inline]
      exact .ok (formal.unmarked (by cases flag <;> rfl))
  | float number =>
      rw [Value.inline]
      exact .ok (formal.unmarked (marks_number number))
  | int number =>
      rw [Value.inline]
      exact .ok (formal.unmarked (marks_integer number.toInt))
  | vector coordinates =>
      rw [Value.inline]
      exact .ok (formal.unmarked (marks_coordinates coordinates))
  | code held =>
      rw [Value.inline]
      exact .ok held
  | text held =>
      rw [Value.inline]
      exact .ok (formal.quote held)
  | @list items each inductionHypothesis =>
      have parts : Gives (fun parts => ∀ part ∈ parts, Phrase holds part)
          (inlineItems writer stops items) := by
        rw [inlineItems_eq]
        exact Gives.mapM inductionHypothesis
      have plain : items.any isNode = false := by
        simpa using fun item member => (each item member).not_isNode
      rw [Value.inline, plain]
      exact parts.bind fun parts held => .ok (formal.intercalate rfl held)

/-- A textual value is written verbatim with the property. -/
theorem verbatim {value : Value} (textual : value.Textual holds) (writer : NodeWriter) :
    Gives (Phrase holds) (value.verbatim writer) := by
  cases textual with
  | code held => exact .ok held
  | text held => exact .ok held
  | bool flag => exact inline formal (.bool flag) writer 0
  | float number => exact inline formal (.float number) writer 0
  | int number => exact inline formal (.int number) writer 0
  | list each => exact inline formal (.list each) writer 0
  | vector coordinates => exact inline formal (.vector coordinates) writer 0

/-- A textual value is written in angle brackets with the property. -/
theorem angled {value : Value} (textual : value.Textual holds) (writer : NodeWriter) :
    Gives (Phrase holds) (value.angled writer) := by
  apply (inline formal textual writer 0).bind
  intro text held
  have opened : Phrase holds ("<" ++ text) := formal.beside (formal.words rfl) held
  exact .ok (formal.beside opened (formal.words rfl))

/-- Words of a vocabulary have no marks. -/
theorem keyed {value : Value} (textual : value.Textual holds) {vocabulary : Vocabulary}
    (free : ∀ keyword ∈ vocabulary, marks keyword.word.toList = []) (writer : NodeWriter) :
    Gives (Phrase holds) (value.keyed vocabulary writer) := by
  cases textual with
  | @text content held =>
      rw [Value.keyed]
      apply Gives.ok
      cases found : vocabulary.word? content with
      | none => exact held
      | some word =>
          obtain ⟨keyword, there, rfl⟩ := Option.map_eq_some_iff.1 found
          exact formal.unmarked (free keyword (List.mem_of_find?_eq_some there))
  | bool flag => exact verbatim formal (.bool flag) writer
  | float number => exact verbatim formal (.float number) writer
  | int number => exact verbatim formal (.int number) writer
  | list each => exact verbatim formal (.list each) writer
  | code held => exact verbatim formal (.code held) writer
  | vector coordinates => exact verbatim formal (.vector coordinates) writer

end Value.Textual

end Texts

end SceneCatalog
