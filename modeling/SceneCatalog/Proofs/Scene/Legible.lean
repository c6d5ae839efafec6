import SceneCatalog.Proofs.Catalog.Contents

/-
This file says what the attributes of an object read, apart from the class that it is of.
-/

namespace SceneCatalog

/-- Attributes without objects read texts with the property, and those for objects read parts. -/
structure Object.Legible (holds : List Char → Prop) (cls : Class) (object : Object) : Prop where
  texts : ∀ {name value}, cls.readsText name = true → object.value? name = some value →
    value.Textual holds
  parts : ∀ {name value}, cls.readsParts name = true → object.value? name = some value →
    value.Parts ∧ (∀ content, value.Mentions content → Phrase holds content) ∧
      ∀ child, value.Holds child → object.Holds child

/-- A slot that is read without being computed holds code, or a value that the validator keeps as
it is. -/
theorem Attribute.Settles.shows {rule : Attribute} {slot : Slot} (settles : rule.Settles slot)
    (computed : slot.isDeferred = false) {value : Value} (read : slot.read = some value) :
    (∃ code, value = .code code) ∨
      ∃ validator, rule.validator = some validator ∧ validator.apply value = .ok value := by
  cases settles with
  | unset => contradiction
  | raw code => exact .inl ⟨code, (Option.some.inj read).symm⟩
  | deferred later => contradiction
  | literal applies fixed =>
      obtain rfl := Option.some.inj read
      exact .inr ⟨_, applies, fixed⟩

namespace Object.Made

variable {object : Object} (made : object.Made) {cls : Class}
  (known : catalog.class? object.className = some cls)
include made known

theorem reached : cls.Reachable object := by
  obtain ⟨found, foundKnown, reached⟩ := made.known
  rw [known] at foundKnown
  exact Option.some.inj foundKnown ▸ reached

/-- What is read has been stored, and is code or what the validator keeps as it is. -/
theorem reads {name : String} {rule : Attribute} (ruled : cls.rule? name = some rule)
    {value : Value} (read : object.value? name = some value) :
    object.Stores value ∧ ((∃ code, value = .code code) ∨
      ∃ validator, rule.validator = some validator ∧ validator.apply value = .ok value) := by
  obtain ⟨table, declared⟩ := Class.declaration_of_rule ruled
  obtain ⟨slot, member, shown, settles⟩ := (made.reached known).reads known declared
  rw [shown] at read
  exact ⟨⟨slot, member, read⟩, settles.shows (made.computed _ member) read⟩

/-- Where no attribute of the class takes objects, none is held. -/
theorem holds_none (texts : ∀ table ∈ cls.tables, table.attributes.all Attribute.takesTexts = true)
    (child : Object) : ¬object.Holds child := by
  rintro ⟨value, ⟨slot, member, read⟩, held⟩
  obtain ⟨table, tableMember, rule, ruleMember, settles⟩ :=
    (made.reached known).settles known member
  rcases settles.shows (made.computed _ member) read with ⟨code, rfl⟩ | ⟨validator, applies, fixed⟩
  · obtain ⟨identity, within⟩ := held
    cases within
  · have tableKnown := (Catalog.class_known known).2.2 table tableMember
    have takes := List.all_eq_true.1 (texts table tableMember) rule ruleMember
    exact Attribute.refusesObjects_of_takesTexts tableKnown ruleMember takes applies value fixed
      child held

/-- An object that has been made is legible when its strings and code have the property. -/
theorem legible {holds : List Char → Prop}
    (held : ∀ content, object.Mentions content → Phrase holds content) :
    object.Legible holds cls where
  texts := by
    intro name value text read
    obtain ⟨rule, ruled, takes⟩ := (Option.any_eq_true _ _).1 text
    obtain ⟨stored, shape⟩ := made.reads known ruled read
    have heldHere : ∀ content, value.Mentions content → Phrase holds content :=
      fun content mentioned => held content ⟨value, stored, mentioned⟩
    rcases shape with ⟨code, rfl⟩ | ⟨validator, applies, fixed⟩
    · exact .code (heldHere code (.inr .here))
    · obtain ⟨table, declared⟩ := Class.declaration_of_rule ruled
      have nearest := ClassTable.nearest_mem (cls.declaration_eq name ▸ declared)
      have tableKnown := (Catalog.class_known known).2.2 table nearest.1
      have member := (ClassTable.declaration_mem nearest.2).1
      have bare := Attribute.refusesObjects_of_takesTexts tableKnown member takes applies
      exact (bare value fixed).textual heldHere
  parts := by
    intro name value part read
    obtain ⟨rule, ruled, takes⟩ := (Option.any_eq_true _ _).1 part
    obtain ⟨stored, shape⟩ := made.reads known ruled read
    refine ⟨?_, fun content mentioned => held content ⟨value, stored, mentioned⟩,
      fun child within => ⟨value, stored, within⟩⟩
    rcases shape with ⟨code, rfl⟩ | ⟨validator, applies, fixed⟩
    · exact .code code
    · rw [applies] at takes
      cases validator with
      | check condition => exact Check.parts_of_accepts takes (Validator.accepts_of_fixed fixed)
      | _ => contradiction

end Object.Made

end SceneCatalog
