import SceneCatalog.Catalog
import SceneCatalog.Schema.Review

/-
This file states what class tables have to fulfil before code is generated from them.
-/

namespace SceneCatalog

/-- Letters and digits of ASCII, the first of them a letter of one case, in 64 bytes at most. -/
structure Naming.Proper (isFirst : Char → Bool) (name : String) : Prop where
  begins : ∃ first rest, name.toList = first :: rest ∧ isFirst first = true
  alphanumeric : ∀ character ∈ name.toList, character.isAlphanum = true
  short : name.utf8ByteSize ≤ 64

/-- The methods that write and read an attribute. -/
def Naming.methods (name : String) : List String := ["set_" ++ methodName name, methodName name]

/-- Only a float can fail to be finite. -/
def Constant.Finite (constant : Constant) : Prop :=
  ∀ number, constant = .float number → number.isFinite = true

/-- A validator says what it complains about, and the initial value is finite and would be accepted
if it were assigned. -/
structure Attribute.WellFormed (className : String) (rule : Attribute) : Prop where
  complaint : rule.validator.isSome = true → rule.complaint ≠ ""
  typeName : rule.typeName ≠ ""
  finite : ∀ initial, rule.initial = some initial → initial.Finite
  accepted : ∀ initial value, rule.initial = some initial → initial.toValue? = some value →
    ∃ stored, rule.accept className (.literal value) = .ok stored

/-- What can be asked of a class by itself. -/
structure ClassTable.WellFormed (table : ClassTable) : Prop where
  name : Naming.Proper Char.isUpper table.name
  ident : table.location.ident ≠ ""
  distinct : table.attributeNames.Nodup
  attributeNames : ∀ name ∈ table.attributeNames, Naming.Proper Char.isLower name
  unreserved : ∀ name ∈ table.attributeNames, Naming.methodName name ∉ Naming.reservedMethods
  usable : ∀ name ∈ table.attributeNames, Naming.methodName name ∉ Naming.neverNames
  apart : ∀ first ∈ table.attributeNames, ∀ second ∈ table.attributeNames, first ≠ second →
    ∀ method ∈ Naming.methods first, method ∉ Naming.methods second
  rules : ∀ rule ∈ table.attributes, rule.WellFormed table.name
  immutables : ∀ immutable ∈ table.immutables, immutable.value.Finite
  construction : table.parameters.isSome = table.body.isSome

/-- Classes have modules of their own, and a superclass that takes options stands in front of each
class that extends it. -/
structure Catalog.WellFormed (catalog : Catalog) : Prop where
  tables : ∀ table ∈ catalog, table.WellFormed
  modules : (catalog.map fun table => Naming.snakeName table.name).Nodup
  superclasses : ∀ (index : Nat) (table : ClassTable) (superclass : String),
    catalog[index]? = some table → table.superclass = some superclass →
    ∃ (place : Nat) (parent : ClassTable), place < index ∧ catalog[place]? = some parent ∧
      parent.name = superclass ∧ parent.takesOptions = true

end SceneCatalog
