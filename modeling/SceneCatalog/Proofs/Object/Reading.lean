import SceneCatalog.Proofs.Object.Slots
import SceneCatalog.Proofs.Scene.Outcome

/-
This file finds the slot behind every value that is read.
-/

namespace SceneCatalog

open ClassTable

/-- The slots of all attributes, those of ancestors included. -/
def Object.slots (object : Object) : List Slot :=
  object.levels.flatMap fun level => level.fields.map fun field => field.slot

/-- The slot of the nearest level that has an attribute of the name. -/
def Object.slot? (object : Object) (name : String) : Option Slot :=
  object.levels.findSome? (·.slot? name)

/-- The field of a rule is the first one of its name. -/
theorem field_of_attribute {rules : List Attribute} {fields : List Field}
    (settled : List.Forall₂ (fun rule field => field.name = rule.name ∧ rule.Settles field.slot)
      rules fields) {name : String} {rule : Attribute}
    (found : rules.find? (·.name == name) = some rule) :
    ∃ field ∈ fields, fields.find? (·.name == name) = some field ∧ rule.Settles field.slot := by
  induction settled with
  | nil => contradiction
  | @cons first field _ _ related _ inductionHypothesis =>
      obtain ⟨sameName, settles⟩ := related
      by_cases here : first.name = name
      · have same : first = rule := by simpa [List.find?_cons, here] using found
        refine ⟨field, .head _, ?_, same ▸ settles⟩
        simp [sameName, here]
      · have later := inductionHypothesis (by simpa [List.find?_cons, here] using found)
        obtain ⟨other, member, otherFound, otherSettles⟩ := later
        refine ⟨other, .tail _ member, ?_, otherSettles⟩
        simpa [List.find?_cons, sameName, here] using otherFound

/-- A settled level reads a declared name from a slot that its rule settles. -/
theorem Level.Settled.read {table : ClassTable} {level : Level}
    (settled : Level.Settled table level) {name : String} {rule : Attribute}
    (declared : table.declaration? name = some (.mutable rule)) :
    ∃ slot ∈ level.fields.map Field.slot, level.slot? name = some slot ∧
      level.read? name = some slot.read ∧ rule.Settles slot := by
  obtain ⟨free, found⟩ := attribute_of_declaration declared
  obtain ⟨field, member, fieldFound, settles⟩ := field_of_attribute settled.fields found
  have unhidden : level.constant? name = none := by
    rw [Level.constant?, settled.constants]
    simpa [immutable?] using free
  have stored : level.slot? name = some field.slot := by
    rw [Level.slot?, fieldFound, Option.map_some]
  refine ⟨field.slot, List.mem_map_of_mem member, stored, ?_, settles⟩
  simp [Level.read?, unhidden, stored]

/-- A mutable attribute stores the slot that its rule has settled, and reads it. -/
theorem read_settled {tables : List ClassTable} {levels : List Level}
    (fits : List.Forall₂ Level.Fits tables levels)
    (settled : List.Forall₂ Level.Settled tables levels) {name : String} {table : ClassTable}
    {rule : Attribute} (declared : nearest? tables name = some (table, .mutable rule)) :
    ∃ slot ∈ levels.flatMap (fun level => level.fields.map Field.slot),
      levels.findSome? (·.slot? name) = some slot ∧
        levels.findSome? (·.read? name) = some slot.read ∧ rule.Settles slot := by
  induction fits with
  | nil => simp [nearest?] at declared
  | cons first _ inductionHypothesis =>
      obtain ⟨here, later⟩ := List.forall₂_cons.1 settled
      rw [nearest_cons] at declared
      rw [List.flatMap_cons]
      split at declared
      · rename_i declares
        obtain ⟨rfl, rfl⟩ := Prod.mk.inj (Option.some.inj declared)
        obtain ⟨slot, member, stored, read, settles⟩ := here.read declares
        refine ⟨slot, List.mem_append_left _ member, ?_, ?_, settles⟩
        · rw [List.findSome?_cons, stored]
        · rw [List.findSome?_cons, read]
      · rename_i undeclared
        obtain ⟨slot, member, stored, read, settles⟩ := inductionHypothesis later declared
        refine ⟨slot, List.mem_append_right _ member, ?_, ?_, settles⟩
        · rw [List.findSome?_cons, first.slot_undeclared undeclared, stored]
        · rw [List.findSome?_cons, first.read_undeclared undeclared, read]

/-- What an object of a class in the catalog stores for a mutable attribute, and reads. -/
theorem Class.Reachable.stores {className : String} {cls : Class}
    (known : catalog.class? className = some cls) {object : Object} (reached : cls.Reachable object)
    {name : String} {table : ClassTable} {rule : Attribute}
    (declared : cls.declaration? name = some (table, .mutable rule)) :
    ∃ slot ∈ object.slots, object.slot? name = some slot ∧ object.value? name = slot.read ∧
      rule.Settles slot := by
  have settled := ClassTable.Sound.settled (catalog_sound known) reached
  obtain ⟨slot, member, stored, read, settles⟩ := read_settled reached.fits settled declared
  refine ⟨slot, member, stored, ?_, settles⟩
  rw [Object.value?, Object.get, read]

/-- A reachable object of the catalog reads a declared name from a slot that the rule settles. -/
theorem Class.Reachable.reads {className : String} {cls : Class}
    (known : catalog.class? className = some cls) {object : Object} (reached : cls.Reachable object)
    {name : String} {table : ClassTable} {rule : Attribute}
    (declared : cls.declaration? name = some (table, .mutable rule)) :
    ∃ slot ∈ object.slots, object.value? name = slot.read ∧ rule.Settles slot := by
  obtain ⟨slot, member, _, read, settles⟩ := reached.stores known declared
  exact ⟨slot, member, read, settles⟩

/-- A mutable attribute reads what is in its slot. -/
theorem Class.Reachable.value_of_slot {className : String} {cls : Class}
    (known : catalog.class? className = some cls) {object : Object} (reached : cls.Reachable object)
    {name : String} {table : ClassTable} {rule : Attribute}
    (declared : cls.declaration? name = some (table, .mutable rule)) {slot : Slot}
    (stored : object.slot? name = some slot) :
    object.value? name = slot.read ∧ rule.Settles slot := by
  obtain ⟨found, _, there, read, settles⟩ := reached.stores known declared
  obtain rfl : slot = found := Option.some.inj (stored.symm.trans there)
  exact ⟨read, settles⟩

/-- Each slot of an object has been settled by a rule of its class or of an ancestor. -/
theorem Class.Reachable.settles {className : String} {cls : Class}
    (known : catalog.class? className = some cls) {object : Object} (reached : cls.Reachable object)
    {slot : Slot} (member : slot ∈ object.slots) :
    ∃ table ∈ cls.tables, ∃ rule ∈ table.attributes, rule.Settles slot := by
  have settled := ClassTable.Sound.settled (catalog_sound known) reached
  obtain ⟨level, levelMember, inLevel⟩ := List.mem_flatMap.1 member
  obtain ⟨field, fieldMember, rfl⟩ := List.mem_map.1 inLevel
  obtain ⟨table, tableMember, levelSettled⟩ := exists_of_forall₂_right settled levelMember
  obtain ⟨rule, ruleMember, _, settles⟩ :=
    exists_of_forall₂_right levelSettled.fields fieldMember
  exact ⟨table, tableMember, rule, ruleMember, settles⟩

/-- A name that the class does not declare has no value. -/
theorem Class.Reachable.value_undeclared {cls : Class} {object : Object}
    (reached : cls.Reachable object) {name : String} (undeclared : cls.declaration? name = none) :
    object.value? name = none := by
  have unread : object.levels.findSome? (·.read? name) = none := by
    rw [List.findSome?_eq_none_iff]
    intro level member
    obtain ⟨table, tableMember, fits⟩ := exists_of_forall₂_right reached.fits member
    apply fits.read_undeclared
    rw [Class.declaration?, List.findSome?_eq_none_iff] at undeclared
    exact Option.map_eq_none_iff.1 (undeclared table tableMember)
  rw [Object.value?, Object.get, unread]

end SceneCatalog
