import SceneCatalog.Catalog
import SceneCatalog.Object.Class

/-
This file states what the lines of tables in the catalog have in common.
-/

namespace SceneCatalog

namespace Catalog

variable {tables : Catalog}

theorem find_mem {name : String} {table : ClassTable} (found : tables.find? name = some table) :
    table ∈ tables ∧ table.name = name :=
  ⟨List.mem_of_find?_eq_some found, by simpa using List.find?_some found⟩

/-- A climb visits tables of the catalog only. -/
theorem climb_mem {steps : Nat} {seen : List String} {start : Option ClassTable}
    (inside : ∀ table, start = some table → table ∈ tables) {table : ClassTable}
    (member : table ∈ tables.climb steps seen start) : table ∈ tables := by
  induction steps generalizing seen start with
  | zero => simp [climb] at member
  | succ steps inductionHypothesis =>
      cases start with
      | none => simp [climb] at member
      | some first =>
          rw [climb] at member
          split at member
          · simp at member
          · rcases List.mem_cons.1 member with rfl | later
            · exact inside table rfl
            · apply inductionHypothesis _ later
              intro parent found
              obtain ⟨name, _, found⟩ := Option.bind_eq_some_iff.1 found
              exact (find_mem found).1

/-- A line begins with the table from which it climbs. -/
theorem climb_head {steps : Nat} {seen : List String} {start : Option ClassTable}
    {own : ClassTable} {ancestors : List ClassTable}
    (line : tables.climb steps seen start = own :: ancestors) : start = some own := by
  cases steps with
  | zero => simp [climb] at line
  | succ steps =>
      cases start with
      | none => simp [climb] at line
      | some first =>
          rw [climb] at line
          split at line
          · simp at line
          · rw [(List.cons.inj line).1]

/-- The line of a class begins with the table of its name and stays in the catalog. -/
theorem class_known {name : String} {cls : Class} (known : tables.class? name = some cls) :
    cls.own.name = name ∧ cls.own ∈ tables ∧ ∀ table ∈ cls.tables, table ∈ tables := by
  rw [class?] at known
  split at known
  · contradiction
  · rename_i own ancestors line
    obtain rfl := Option.some.inj known
    have found := climb_head line
    obtain ⟨member, named⟩ := find_mem found
    refine ⟨named, member, ?_⟩
    intro table inLine
    have climbed : table ∈ tables.climb tables.length [] (tables.find? name) := by
      rw [← lineage, line]
      exact inLine
    exact climb_mem (fun first start => (find_mem start).1) climbed

/-- What can be checked class by class holds of every class that is known. -/
theorem class_all {check : Class → Bool}
    (checked : (tables.all fun table => (tables.class? table.name).all check) = true)
    {name : String} {cls : Class} (known : tables.class? name = some cls) : check cls = true := by
  obtain ⟨named, member, _⟩ := class_known known
  have here := List.all_eq_true.1 checked cls.own member
  rw [named, known] at here
  exact here

/-- A class whose superclass has none has a line of two tables. -/
theorem class_of_parent {name parentName : String} {own parent : ClassTable}
    (found : tables.find? name = some own) (parentFound : tables.find? parentName = some parent)
    (descends : own.superclass = some parentName) (top : parent.superclass = none)
    (different : parent.name ≠ own.name) (enough : 2 ≤ tables.length) :
    tables.class? name = some ⟨own, [parent]⟩ := by
  obtain ⟨steps, length⟩ := Nat.exists_eq_add_of_le' enough
  have climbed : tables.lineage name = [own, parent] := by
    rw [lineage, length, found]
    cases steps <;> simp [climb, descends, parentFound, top, different]
  rw [class?, climbed]

/-- A table without a superclass is a class with no ancestors. -/
theorem class_of_top {name : String} {own : ClassTable} (found : tables.find? name = some own)
    (top : own.superclass = none) : tables.class? name = some ⟨own, []⟩ := by
  have climbed : tables.lineage name = [own] := by
    obtain ⟨steps, length⟩ := Nat.exists_eq_add_of_lt (List.length_pos_of_mem (find_mem found).1)
    rw [lineage, length, found]
    cases steps <;> simp [climb, top]
  rw [class?, climbed]

end Catalog

/-- No attribute is declared twice along a line. -/
theorem catalog_distinct {name : String} {cls : Class} (known : catalog.class? name = some cls) :
    (cls.tables.flatMap ClassTable.attributeNames).Nodup := by
  have checked : (catalog.all fun table => (catalog.class? table.name).all fun cls =>
      decide (cls.tables.flatMap ClassTable.attributeNames).Nodup) = true := by
    decide +kernel
  exact of_decide_eq_true (Catalog.class_all checked known)

/-- Every line ends at a class without a superclass. -/
theorem catalog_rooted {name : String} {cls : Class} (known : catalog.class? name = some cls) :
    ∃ root, cls.tables.getLast? = some root ∧ root.superclass = none := by
  have checked : (catalog.all fun table => (catalog.class? table.name).all fun cls =>
      cls.tables.getLast?.any fun root => root.superclass.isNone) = true := by
    decide +kernel
  have rooted := Catalog.class_all checked known
  cases last : cls.tables.getLast? with
  | none => simp [last] at rooted
  | some root => exact ⟨root, rfl, by simpa [last] using rooted⟩

/-- A table that extends `Primitive` is a class with that one ancestor. -/
theorem Catalog.class_of_primitive {name : String} {own : ClassTable}
    (found : catalog.find? name = some own) (descends : own.superclass = some "Primitive")
    (different : primitive.name ≠ own.name) : catalog.class? name = some ⟨own, [primitive]⟩ :=
  class_of_parent found (by rfl) descends rfl different (by decide)

/-- Cameras, which have attributes of their own and those of all objects. -/
def Catalog.cameraClass : Class := ⟨camera, [primitive]⟩

theorem catalog_camera : catalog.class? "Camera" = some Catalog.cameraClass :=
  Catalog.class_of_primitive (by rfl) rfl (by decide)

end SceneCatalog
