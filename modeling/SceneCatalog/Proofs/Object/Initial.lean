import SceneCatalog.Proofs.Object.Slots
import SceneCatalog.Proofs.Source.Generation

/-
This file compares the initial slot of an attribute with what an assignment of its value stores.
-/

namespace SceneCatalog

/-- The initial slot is written to the one field of the attribute. -/
theorem ClassTable.slot_blank {table : ClassTable} (distinct : table.attributeNames.Nodup)
    {rule : Attribute} (member : rule ∈ table.attributes) :
    table.blank.slot? rule.name = some rule.initialSlot := by
  obtain ⟨before, after, order⟩ := List.append_of_mem member
  have names : (table.attributes.map (·.name)).Nodup := (List.nodup_append.1 distinct).2.1
  rw [order, List.map_append, List.map_cons, List.nodup_append] at names
  have others : ∀ other ∈ before, other.name ≠ rule.name := fun other earlier =>
    names.2.2 other.name (List.mem_map_of_mem earlier) rule.name (.head _)
  have skipped : (before.map fun other => Field.mk other.name other.initialSlot).find?
      (·.name == rule.name) = none := by
    simpa using others
  rw [Level.slot?, blank, order, List.map_append, List.map_cons, List.find?_append, skipped,
    Option.none_or, List.find?_cons_of_pos (by simp)]
  rfl

/-- Whatever is no conversion keeps the values of constants, if it accepts them. -/
theorem Validator.keeps_constant {validator : Validator}
    (plain : ∀ convert, validator ≠ .coerce convert) {constant : Constant} {value stored : Value}
    (valued : constant.toValue? = some value) (accepted : validator.apply value = .ok stored) :
    stored = value := by
  cases validator with
  | check condition =>
      rw [apply] at accepted
      split at accepted
      · exact (Except.ok.inj accepted).symm
      · contradiction
  | coerce convert => exact absurd rfl (plain convert)
  | vector | vectors =>
      -- Tuples are made of lists only, and no constant is a list.
      cases constant <;> cases valued <;> cases accepted

/-- The initial slot of a well-formed attribute holds its initial value, which could be assigned.
Assigning it stores the same slot, unless a conversion does not keep the value. -/
theorem initial_as_assigned {tables : Catalog} (silent : tables.review = .ok ())
    {table : ClassTable} (tableMember : table ∈ tables) {rule : Attribute}
    (member : rule ∈ table.attributes) {initial : Constant} (given : rule.initial = some initial)
    {value : Value} (valued : initial.toValue? = some value) :
    table.blank.slot? rule.name = some (.literal value) ∧
      (∃ stored, rule.accept table.name (.literal value) = .ok (.literal stored)) ∧
      (rule.accept table.name (.literal value) = .ok (.literal value) ↔
        ∀ convert, rule.validator = some (.coerce convert) → convert value = .ok value) := by
  have wellFormed := Catalog.wellFormed_of_review silent tableMember
  have starts : rule.initialSlot = .literal value := by
    rw [Attribute.initialSlot, given, Option.bind_some, valued]
  refine ⟨starts ▸ ClassTable.slot_blank wellFormed.distinct member, ?_⟩
  obtain ⟨slot, accepted⟩ := (wellFormed.rules rule member).accepted initial value given valued
  cases ruled : rule.validator with
  | none =>
      have kept : rule.accept table.name (.literal value) = .ok (.literal value) := by
        simp [Attribute.accept, ruled]
      exact ⟨⟨value, kept⟩, iff_of_true kept (by simp)⟩
  | some validator =>
      cases Attribute.takes_of_accept ruled accepted with
      | @literal _ _ stored applies applied =>
          obtain rfl := Option.some.inj (ruled.symm.trans applies)
          refine ⟨⟨stored, accepted⟩, ?_⟩
          rw [accepted, Except.ok.injEq, Slot.literal.injEq]
          constructor
          · rintro rfl convert same
            obtain rfl := Option.some.inj same
            exact applied
          · intro keeps
            cases validator with
            | coerce convert => exact Except.ok.inj (applied.symm.trans (keeps convert rfl))
            | _ => exact Validator.keeps_constant (by simp) valued applied

/-- An attribute of the catalog stores its initial value as an assignment does. -/
theorem catalog_initial {table : ClassTable} (tableMember : table ∈ catalog) {rule : Attribute}
    (member : rule ∈ table.attributes) {value : Value} (starts : rule.initialSlot = .literal value)
    (className : String) :
    rule.accept className (.literal value) = .ok rule.initialSlot := by
  have settles := (catalog_rules tableMember member).1
  rw [starts] at settles ⊢
  cases settles with
  | literal ruled fixed => simp only [Attribute.accept, ruled, fixed]

/-- A class whose attribute makes a list of whatever is assigned to it. -/
def wrapping : ClassTable where
  location := ⟨"tables", "WRAPPING"⟩
  name := "Wrapping"
  attributes := [{
    name := "sizes", typeName := "[integer]", complaint := "sizes must be a list.",
    validator := some (.coerce fun value => .ok (.list [value])), initial := some (.int 1) }]

/-- Its initial value is accepted, but the initial slot is not what an assignment would store. -/
theorem wrapping_unlike :
    Catalog.review [wrapping] = .ok () ∧
      wrapping.blank.slot? "sizes" = some (.literal (.int 1)) ∧
      ∃ rule ∈ wrapping.attributes, rule.name = "sizes" ∧ rule.initial = some (.int 1) ∧
        rule.accept "Wrapping" (.literal (.int 1)) = .ok (.literal (.list [.int 1])) ∧
        rule.accept "Wrapping" (.literal (.int 1)) ≠ .ok (.literal (.int 1)) := by
  have silent : Catalog.review [wrapping] = .ok () := by
    rw [Catalog.review, Issues.result, if_pos (by decide)]
  have only : wrapping.attributes.head (List.cons_ne_nil _ _) ∈ wrapping.attributes := .head _
  obtain ⟨slot, _, stored⟩ := initial_as_assigned silent (.head _) only rfl rfl
  refine ⟨silent, slot, _, .head _, rfl, rfl, rfl, fun same => ?_⟩
  exact absurd (stored.1 same _ rfl) (by simp)

end SceneCatalog
