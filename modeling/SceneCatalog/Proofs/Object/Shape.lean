import Mathlib.Data.List.Nodup
import SceneCatalog.Proofs.Object.Levels

/-
This file relates the levels of an object to the tables of its class.
-/

namespace SceneCatalog

namespace ClassTable

theorem isSome_immutable_iff (table : ClassTable) (name : String) :
    (table.immutable? name).isSome ↔ ∃ constant ∈ table.immutables, constant.name = name := by
  simp [immutable?]

theorem isSome_attribute_iff (table : ClassTable) (name : String) :
    (table.attribute? name).isSome ↔ ∃ rule ∈ table.attributes, rule.name = name := by
  simp [attribute?]

/-- A name is declared immutable exactly when a constant of the table has it. -/
theorem declaration_immutable_iff {table : ClassTable} {name : String} :
    table.declaration? name = some .immutable ↔
      ∃ constant ∈ table.immutables, constant.name = name := by
  rw [← isSome_immutable_iff, declaration?]
  split
  · simp [*]
  · simp [*]

/-- A name declared mutable is no constant and finds its rule. -/
theorem attribute_of_declaration {table : ClassTable} {name : String} {rule : Attribute}
    (declared : table.declaration? name = some (.mutable rule)) :
    table.immutable? name = none ∧ table.attribute? name = some rule := by
  rw [declaration?] at declared
  split at declared
  · simp at declared
  · rename_i free
    refine ⟨by simpa using free, ?_⟩
    simpa using declared

/-- The rule a name is declared with is an attribute of that name. -/
theorem declaration_mem {table : ClassTable} {name : String} {rule : Attribute}
    (declared : table.declaration? name = some (.mutable rule)) :
    rule ∈ table.attributes ∧ rule.name = name := by
  have found := (attribute_of_declaration declared).2
  exact ⟨List.mem_of_find?_eq_some found, by simpa using List.find?_some found⟩

/-- A constant is found by its name if no other attribute has it. -/
theorem immutable_of_mem {table : ClassTable} (distinct : table.attributeNames.Nodup)
    {constant : Immutable} (member : constant ∈ table.immutables) :
    table.immutable? constant.name = some constant := by
  obtain ⟨found, here⟩ := Option.isSome_iff_exists.1
    ((table.isSome_immutable_iff constant.name).2 ⟨constant, member, rfl⟩)
  have sameName : found.name = constant.name := by simpa using List.find?_some here
  have same : found = constant := List.inj_on_of_nodup_map (List.nodup_append.1 distinct).1
    (List.mem_of_find?_eq_some here) member sameName
  rw [here, same]

/-- A rule is found by its name if no other attribute has it. -/
theorem declaration_of_mem {table : ClassTable} (distinct : table.attributeNames.Nodup)
    {rule : Attribute} (member : rule ∈ table.attributes) :
    table.declaration? rule.name = some (.mutable rule) := by
  obtain ⟨_, ruleDistinct, apart⟩ := List.nodup_append.1 distinct
  have free : ¬(table.immutable? rule.name).isSome := by
    rw [isSome_immutable_iff]
    rintro ⟨constant, constantMember, sameName⟩
    exact apart constant.name (List.mem_map_of_mem constantMember) rule.name
      (List.mem_map_of_mem member) sameName
  obtain ⟨found, here⟩ := Option.isSome_iff_exists.1
    ((table.isSome_attribute_iff rule.name).2 ⟨rule, member, rfl⟩)
  have sameName : found.name = rule.name := by simpa using List.find?_some here
  have same : found = rule := List.inj_on_of_nodup_map ruleDistinct
    (List.mem_of_find?_eq_some here) member sameName
  rw [declaration?, if_neg free, here, same, Option.map_some]

/-- A table declares exactly the names it lists. -/
theorem declaration_none_iff {table : ClassTable} {name : String} :
    table.declaration? name = none ↔ name ∉ table.attributeNames := by
  rw [declaration?]
  split
  · rename_i fixed
    simp only [reduceCtorEq, false_iff, not_not]
    obtain ⟨constant, member, rfl⟩ := (table.isSome_immutable_iff name).1 fixed
    exact immutable_mem_names member
  · rename_i free
    rw [isSome_immutable_iff] at free
    simp only [Option.map_eq_none_iff, attribute?, List.find?_eq_none, attributeNames,
      List.mem_append, List.mem_map, not_or]
    constructor
    · intro absent
      exact ⟨free, by simpa using absent⟩
    · intro absent
      simpa using absent.2

theorem isSome_declaration_iff {table : ClassTable} {name : String} :
    (table.declaration? name).isSome = true ↔ name ∈ table.attributeNames := by
  rw [Option.isSome_iff_ne_none, Ne, declaration_none_iff, not_not]

end ClassTable

/-- A level holds the attributes of its table under their names. -/
structure Level.Fits (table : ClassTable) (level : Level) : Prop where
  className : level.className = table.name
  constants : level.constants = table.immutables
  names : level.fields.map Field.name = table.attributes.map Attribute.name

/-- The levels of the object are those that the tables of the class describe. -/
abbrev Class.Fits (cls : Class) (object : Object) : Prop :=
  List.Forall₂ Level.Fits cls.tables object.levels

theorem Class.className_of_fits {cls : Class} {object : Object} (fits : cls.Fits object) :
    object.className = cls.name :=
  (List.forall₂_cons.1 fits).1.className

namespace Level.Fits

variable {table : ClassTable} {level : Level}

theorem blank (table : ClassTable) : Level.Fits table table.blank :=
  ⟨rfl, rfl, by simp [ClassTable.blank]⟩

theorem put (fits : Level.Fits table level) (name : String) (slot : Slot) :
    Level.Fits table (level.put name slot) :=
  ⟨fits.className, fits.constants, by rw [Level.fieldNames_put, fits.names]⟩

/-- A level holds the constants of its table. -/
theorem constant_eq (fits : Level.Fits table level) (name : String) :
    level.constant? name = (table.immutable? name).map Immutable.value := by
  rw [Level.constant?, fits.constants, ClassTable.immutable?]

/-- A level has a slot for each attribute of its table, and for no other name. -/
theorem isSome_slot (fits : Level.Fits table level) (name : String) :
    (level.slot? name).isSome = (table.attribute? name).isSome := by
  have named : name ∈ level.fields.map Field.name ↔ name ∈ table.attributes.map Attribute.name := by
    rw [fits.names]
  apply Bool.eq_iff_iff.2
  simpa [Level.slot?, ClassTable.attribute?] using named

/-- A level declares what its table declares. -/
theorem declares_eq (fits : Level.Fits table level) (name : String) :
    level.declares name = (table.declaration? name).isSome := by
  rw [Level.declares, Level.read?, fits.constant_eq, ClassTable.declaration?]
  cases table.immutable? name with
  | some constant => simp
  | none => simp [fits.isSome_slot]

theorem slot_undeclared (fits : Level.Fits table level) {name : String}
    (undeclared : table.declaration? name = none) : level.slot? name = none := by
  have silent := fits.declares_eq name
  rw [undeclared, Level.declares, Level.read?] at silent
  cases hidden : level.constant? name with
  | some constant => simp [hidden] at silent
  | none => simpa [hidden] using silent

theorem read_undeclared (fits : Level.Fits table level) {name : String}
    (undeclared : table.declaration? name = none) : level.read? name = none := by
  have silent := fits.declares_eq name
  rw [undeclared, Level.declares] at silent
  simpa using silent

/-- A level reads a constant as its table has it. -/
theorem read_immutable (fits : Level.Fits table level) {name : String} {constant : Immutable}
    (found : table.immutable? name = some constant) :
    level.read? name = some constant.value.toValue? := by
  simp [Level.read?, fits.constant_eq, found]

/-- A mutable name reads as the slot just stored under it. -/
theorem read_put (fits : Level.Fits table level) {name : String} {rule : Attribute}
    (declared : table.declaration? name = some (.mutable rule)) (slot : Slot) :
    (level.put name slot).read? name = some slot.read := by
  obtain ⟨free, found⟩ := ClassTable.attribute_of_declaration declared
  apply Level.read_put_self
  · rw [fits.constant_eq, free, Option.map_none]
  · rw [fits.isSome_slot, found, Option.isSome_some]

end Level.Fits

/-- The nearest declaration along a line of tables. -/
def ClassTable.nearest? (tables : List ClassTable) (name : String) :
    Option (ClassTable × Declaration) :=
  tables.findSome? fun table => (table.declaration? name).map fun found => (table, found)

/-- A class looks a name up along its line. -/
theorem Class.declaration_eq (cls : Class) (name : String) :
    cls.declaration? name = ClassTable.nearest? cls.tables name := rfl

theorem ClassTable.nearest_cons (table : ClassTable) (rest : List ClassTable) (name : String) :
    ClassTable.nearest? (table :: rest) name =
      match table.declaration? name with
      | some found => some (table, found)
      | none => ClassTable.nearest? rest name := by
  rw [ClassTable.nearest?, List.findSome?_cons]
  cases table.declaration? name <;> rfl

/-- The table that answers a look-up is in the line and declares the name. -/
theorem ClassTable.nearest_mem {tables : List ClassTable} {name : String} {table : ClassTable}
    {found : Declaration} (declared : ClassTable.nearest? tables name = some (table, found)) :
    table ∈ tables ∧ table.declaration? name = some found := by
  obtain ⟨source, member, here⟩ := List.exists_of_findSome?_eq_some declared
  obtain ⟨declaration, declares, same⟩ := Option.map_eq_some_iff.1 here
  obtain ⟨rfl, rfl⟩ := Prod.mk.inj same
  exact ⟨member, declares⟩

/-- Where no name is declared twice, each declaration is the nearest one. -/
theorem ClassTable.nearest_of_mem {tables : List ClassTable} {name : String} {table : ClassTable}
    {found : Declaration} (distinct : (tables.flatMap attributeNames).Nodup)
    (member : table ∈ tables) (declared : table.declaration? name = some found) :
    nearest? tables name = some (table, found) := by
  have named : name ∈ table.attributeNames := by
    by_contra absent
    rw [declaration_none_iff.2 absent] at declared
    contradiction
  induction tables with
  | nil => contradiction
  | cons first rest inductionHypothesis =>
      rw [List.flatMap_cons, List.nodup_append] at distinct
      obtain ⟨_, restDistinct, apart⟩ := distinct
      rw [nearest_cons]
      rcases List.mem_cons.1 member with rfl | later
      · rw [declared]
      · have elsewhere : name ∈ rest.flatMap attributeNames := List.mem_flatMap.2 ⟨_, later, named⟩
        have undeclared : first.declaration? name = none :=
          declaration_none_iff.2 fun here => apart name here name elsewhere rfl
        rw [undeclared]
        exact inductionHypothesis restDistinct later

/-- A look-up fails exactly when no table of the line lists the name. -/
theorem ClassTable.nearest_none_iff {tables : List ClassTable} {name : String} :
    ClassTable.nearest? tables name = none ↔ ∀ table ∈ tables, name ∉ table.attributeNames := by
  simp [ClassTable.nearest?, ClassTable.declaration_none_iff]

open ClassTable

section Line

variable {tables : List ClassTable} {levels : List Level} {name : String} {table : ClassTable}

/-- A change reaches the level of the declaring table and no other. -/
theorem forall₂_putInFirst {holds : ClassTable → Level → Prop} {found : Declaration} {slot : Slot}
    (fits : List.Forall₂ Level.Fits tables levels) (held : List.Forall₂ holds tables levels)
    (declared : nearest? tables name = some (table, found))
    (changed : ∀ level, Level.Fits table level → holds table level →
      holds table (level.put name slot)) :
    List.Forall₂ holds tables (Object.putInFirst name slot levels) := by
  induction fits with
  | nil => exact held
  | cons first _ inductionHypothesis =>
      cases held with
      | cons here later =>
          rw [nearest_cons] at declared
          rw [Object.putInFirst, first.declares_eq]
          split at declared
          · rename_i own declares
            obtain ⟨rfl, rfl⟩ := Prod.mk.inj (Option.some.inj declared)
            rw [declares]
            exact .cons (changed _ first here) later
          · rename_i undeclared
            rw [undeclared]
            exact .cons here (inductionHypothesis later declared)

/-- The attribute that has been assigned reads its new slot. -/
theorem read_putInFirst {rule : Attribute} (fits : List.Forall₂ Level.Fits tables levels)
    (declared : nearest? tables name = some (table, .mutable rule)) (slot : Slot) :
    (Object.putInFirst name slot levels).findSome? (·.read? name) = some slot.read := by
  induction fits with
  | nil => simp [nearest?] at declared
  | cons first _ inductionHypothesis =>
      rw [nearest_cons] at declared
      rw [Object.putInFirst, first.declares_eq]
      split at declared
      · rename_i own declares
        obtain ⟨rfl, rfl⟩ := Prod.mk.inj (Option.some.inj declared)
        rw [declares, Option.isSome_some, if_pos rfl, List.findSome?_cons,
          first.read_put declares]
      · rename_i undeclared
        rw [undeclared, Option.isSome_none, if_neg Bool.false_ne_true, List.findSome?_cons,
          first.read_undeclared undeclared, inductionHypothesis declared]

/-- An attribute that is immutable where it is declared first reads its constant. -/
theorem read_constant {constant : Immutable} (fits : List.Forall₂ Level.Fits tables levels)
    (declared : nearest? tables name = some (table, .immutable))
    (found : table.immutable? name = some constant) :
    levels.findSome? (·.read? name) = some constant.value.toValue? := by
  induction fits with
  | nil => simp [nearest?] at declared
  | cons first _ inductionHypothesis =>
      rw [nearest_cons] at declared
      split at declared
      · obtain ⟨rfl, _⟩ := Prod.mk.inj (Option.some.inj declared)
        rw [List.findSome?_cons, first.read_immutable found]
      · rename_i undeclared
        rw [List.findSome?_cons, first.read_undeclared undeclared, inductionHypothesis declared]

end Line

end SceneCatalog
