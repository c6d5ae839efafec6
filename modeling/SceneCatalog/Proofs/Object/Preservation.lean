import SceneCatalog.Proofs.Object.Shape

/-
This file says what an assignment changes, and which properties of an object it keeps.
-/

namespace SceneCatalog

/-- What an attribute stores for a slot: a literal as the validator gives it back, and all other
slots as they are. -/
inductive Attribute.Takes (rule : Attribute) : Slot → Slot → Prop where
  | unset : Takes rule .unset .unset
  | raw (code : String) : Takes rule (.raw code) (.raw code)
  | deferred (value : Value) : Takes rule (.deferred value) (.deferred value)
  | literal {validator : Validator} {value stored : Value} (ruled : rule.validator = some validator)
      (accepted : validator.apply value = .ok stored) :
      Takes rule (.literal value) (.literal stored)

/-- A rule that accepts a slot takes it for what is stored. -/
theorem Attribute.takes_of_accept {rule : Attribute} {validator : Validator}
    (ruled : rule.validator = some validator) {className : String} {slot stored : Slot}
    (accepted : rule.accept className slot = .ok stored) : rule.Takes slot stored := by
  cases slot with
  | literal value =>
      simp only [accept, ruled] at accepted
      split at accepted
      · rename_i made applied
        obtain rfl := Except.ok.inj accepted
        exact .literal ruled applied
      · contradiction
  | unset => exact Except.ok.inj accepted ▸ .unset
  | raw code => exact Except.ok.inj accepted ▸ .raw code
  | deferred value => exact Except.ok.inj accepted ▸ .deferred value

/-- A rule refuses only literals, only when its validator does, and always with its own
complaint. -/
theorem Attribute.accept_error_iff {rule : Attribute} {className : String} {slot : Slot}
    {error : SceneError} :
    rule.accept className slot = .error error ↔
      ∃ value validator refused, slot = .literal value ∧ rule.validator = some validator ∧
        validator.apply value = .error refused ∧
        error = .invalid className rule.name rule.complaint := by
  unfold accept
  split
  · rename_i value validator ruled
    cases applied : validator.apply value with
    | ok stored => simp [ruled, applied]
    | error refused => simp [ruled, applied, eq_comm]
  · rename_i unchecked
    simp only [reduceCtorEq, false_iff, not_exists, not_and]
    intro value validator refused literal ruled
    exact absurd ruled (unchecked value validator literal)

namespace Class

variable {cls : Class} {object : Object}

/-- Whether a slot is accepted does not depend on the object. -/
theorem assign_ok_iff {name : String} {slot : Slot} {next : Object} :
    cls.assign object name slot = .ok next ↔
      ∃ stored, cls.accept name slot = .ok stored ∧ next = object.put name stored := by
  rw [assign]
  cases cls.accept name slot with
  | error error => simp [Except.map]
  | ok stored => simp [Except.map, eq_comm]

/-- An assignment fails exactly as the rule fails, whatever the object is. -/
theorem assign_error_iff {name : String} {slot : Slot} {error : SceneError} :
    cls.assign object name slot = .error error ↔ cls.accept name slot = .error error := by
  rw [assign]
  cases cls.accept name slot <;> simp [Except.map]

/-- Only a mutable attribute takes a slot. -/
theorem accept_ok_declared {name : String} {slot stored : Slot}
    (accepted : cls.accept name slot = .ok stored) :
    ∃ table rule, ClassTable.nearest? cls.tables name = some (table, .mutable rule) ∧
      rule.accept table.name slot = .ok stored := by
  rw [accept, declaration_eq] at accepted
  split at accepted
  · contradiction
  · contradiction
  · rename_i table rule declared
    exact ⟨table, rule, declared, accepted⟩

end Class

/-- A property of levels that no accepted slot destroys. -/
structure Level.Invariant (holds : ClassTable → Level → Prop) : Prop where
  fits : ∀ {table level}, holds table level → Level.Fits table level
  blank : ∀ table, holds table table.blank
  put : ∀ {table level name rule slot stored}, holds table level →
    table.declaration? name = some (.mutable rule) → rule.accept table.name slot = .ok stored →
    holds table (level.put name stored)

namespace Level.Invariant

variable {holds : ClassTable → Level → Prop} (invariant : Level.Invariant holds)
include invariant

theorem blankObject (cls : Class) : List.Forall₂ holds cls.tables cls.blank.levels := by
  rw [Class.tables, Object.levels, Class.blank, List.forall₂_cons, List.forall₂_map_right_iff,
    List.forall₂_same]
  exact ⟨invariant.blank cls.own, fun table _ => invariant.blank table⟩

theorem fitsAll {tables : List ClassTable} {levels : List Level}
    (held : List.Forall₂ holds tables levels) : List.Forall₂ Level.Fits tables levels :=
  held.imp fun _ _ => invariant.fits

/-- An assignment that succeeds keeps the invariant at each level. -/
theorem assign {cls : Class} {object next : Object} {name : String} {slot : Slot}
    (held : List.Forall₂ holds cls.tables object.levels)
    (assigned : cls.assign object name slot = .ok next) :
    List.Forall₂ holds cls.tables next.levels := by
  obtain ⟨stored, accepted, rfl⟩ := Class.assign_ok_iff.1 assigned
  obtain ⟨table, rule, declared, ruled⟩ := Class.accept_ok_declared accepted
  rw [Object.levels_put]
  apply forall₂_putInFirst (invariant.fitsAll held) held declared
  intro level _ here
  exact invariant.put here (ClassTable.nearest_mem declared).2 ruled

/-- A batch that succeeds keeps the invariant at each level. -/
theorem assignAll {cls : Class} {object next : Object} {pairs : List (String × Slot)}
    (held : List.Forall₂ holds cls.tables object.levels)
    (assigned : cls.assignAll object pairs = .ok next) :
    List.Forall₂ holds cls.tables next.levels := by
  induction pairs generalizing object with
  | nil => exact Except.ok.inj assigned ▸ held
  | cons pair rest inductionHypothesis =>
      rw [Class.assignAll] at assigned
      split at assigned
      · rename_i middle first
        exact inductionHypothesis (invariant.assign held first) assigned
      · contradiction

end Level.Invariant

/-- Having the fields of the table is an invariant of levels. -/
theorem Level.Fits.invariant : Level.Invariant Level.Fits where
  fits := id
  blank := .blank
  put fits _ _ := fits.put _ _

end SceneCatalog
