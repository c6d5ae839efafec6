import SceneCatalog.Schema.Check

/-
This file decides what a mutable attribute stores for a value.
-/

namespace SceneCatalog

/-- A tuple of the kind stays as it is, and a list of numbers becomes one. Anything else is handed
back. -/
def toVector (kind : VectorKind) (value : Value) : Except Value Value :=
  match value with
  | .vector coordinates => if coordinates.kind == kind then .ok value else .error value
  | .list _ =>
    match value.floats?.bind (Coordinates.ofNumbers? kind) with
    | some coordinates => .ok (.vector coordinates)
    | none => .error value
  | _ => .error value

/-- Every item of the list has to become a tuple, or the list is handed back. -/
def toVectors (kind : VectorKind) (least : Nat) (most : Option Nat) (value : Value) :
    Except Value Value :=
  match value with
  | .list items =>
    if lengthWithin least most items.length then
      match items.mapM (fun item => (toVector kind item).toOption) with
      | some vectors => .ok (.list vectors)
      | none => .error value
    else .error value
  | _ => .error value

/-- A validator accepts a value as it is, or in a richer form. -/
inductive Validator where
  | check (condition : Check)
  | vector (kind : VectorKind)
  | vectors (kind : VectorKind) (least : Nat) (most : Option Nat)
  | coerce (convert : Value → Except Value Value)

/-- The value to store, or the value refused. -/
def Validator.apply : Validator → Value → Except Value Value
  | check condition, value => if condition.accepts value then .ok value else .error value
  | vector kind, value => toVector kind value
  | vectors kind least most, value => toVectors kind least most value
  | coerce convert, value => convert value

end SceneCatalog
