import SceneCatalog.Object.Fields

/-
This file overwrites an attribute in an object and in all objects within, and shows what is read
afterwards.
-/

namespace SceneCatalog

mutual

/-- The slots of one name are replaced by another slot, wherever they stand. -/
def Value.overwrite (name : String) (cover : Slot) : Value → Value
  | .list items => .list (Value.overwriteItems name cover items)
  | .node identity object => .node identity (object.overwrite name cover)
  | value => value

def Value.overwriteItems (name : String) (cover : Slot) : List Value → List Value
  | [] => []
  | item :: items => item.overwrite name cover :: Value.overwriteItems name cover items

def Slot.overwrite (name : String) (cover : Slot) : Slot → Slot
  | .literal value => .literal (value.overwrite name cover)
  | .deferred value => .deferred (value.overwrite name cover)
  | slot => slot
termination_by structural slot => slot

def Level.overwriteFields (name : String) (cover : Slot) : List Field → List Field
  | [] => []
  | ⟨other, slot⟩ :: fields =>
    ⟨other, if other == name then cover else Slot.overwrite name cover slot⟩ ::
      Level.overwriteFields name cover fields

def Object.overwriteLevels (name : String) (cover : Slot) : List Level → List Level
  | [] => []
  | ⟨className, constants, fields⟩ :: levels =>
    ⟨className, constants, Level.overwriteFields name cover fields⟩ ::
      Object.overwriteLevels name cover levels

def Object.overwrite (name : String) (cover : Slot) : Object → Object
  | ⟨⟨className, constants, fields⟩, ancestors⟩ =>
    ⟨⟨className, constants, Level.overwriteFields name cover fields⟩,
      Object.overwriteLevels name cover ancestors⟩

end

def Level.overwrite (name : String) (cover : Slot) (level : Level) : Level :=
  { level with fields := Level.overwriteFields name cover level.fields }

variable (name : String) (cover : Slot)

theorem Value.overwriteItems_eq (items : List Value) :
    Value.overwriteItems name cover items = items.map (Value.overwrite name cover) := by
  induction items with
  | nil => rfl
  | cons item items inductionHypothesis =>
      rw [Value.overwriteItems, List.map_cons, inductionHypothesis]

/-- A slot reads as before, up to the overwriting in its value. -/
theorem Slot.read_overwrite (slot : Slot) :
    (Slot.overwrite name cover slot).read = slot.read.map (Value.overwrite name cover) := by
  cases slot <;> rfl

/-- Constants hold no objects. -/
theorem Constant.overwrite_toValue (constant : Constant) :
    constant.toValue?.map (Value.overwrite name cover) = constant.toValue? := by
  cases constant <;> rfl

namespace Level

/-- The slot under the overwritten name is the cover, every other slot is overwritten inside. -/
theorem slot_overwrite (level : Level) (other : String) :
    (level.overwrite name cover).slot? other =
      (level.slot? other).map
        fun slot => if other = name then cover else Slot.overwrite name cover slot := by
  unfold slot? Level.overwrite
  dsimp only
  induction level.fields with
  | nil => rfl
  | cons field rest inductionHypothesis =>
      obtain ⟨fieldName, slot⟩ := field
      rw [Level.overwriteFields]
      by_cases here : fieldName = other
      · simp [here]
      · simpa [List.find?_cons, here] using inductionHypothesis

/-- Constants and unknown names read as before, and the slots of the name as the other slot. -/
theorem read_overwrite_self (level : Level) :
    (level.overwrite name cover).read? name =
      match level.constant? name with
      | some constant => some constant.toValue?
      | none => (level.slot? name).map fun _ => cover.read := by
  have sameConstants : (level.overwrite name cover).constant? name = level.constant? name := rfl
  rw [read?, sameConstants, slot_overwrite]
  cases level.constant? name with
  | some constant => rfl
  | none => cases level.slot? name <;> simp

/-- Under any other name a level reads as before, up to the overwriting in the value. -/
theorem read_overwrite_other {name other : String} (different : other ≠ name) (level : Level) :
    (level.overwrite name cover).read? other =
      (level.read? other).map (Option.map (Value.overwrite name cover)) := by
  have sameConstants : (level.overwrite name cover).constant? other = level.constant? other := rfl
  rw [read?, read?, sameConstants, slot_overwrite]
  cases level.constant? other with
  | some constant => exact congrArg some (constant.overwrite_toValue name cover).symm
  | none =>
      cases level.slot? other with
      | none => rfl
      | some slot => simp [different, Slot.read_overwrite]

end Level

namespace Object

theorem overwriteLevels_eq (levels : List Level) :
    Object.overwriteLevels name cover levels = levels.map (Level.overwrite name cover) := by
  induction levels with
  | nil => rfl
  | cons level levels inductionHypothesis =>
      obtain ⟨className, constants, fields⟩ := level
      rw [Object.overwriteLevels, List.map_cons, inductionHypothesis, Level.overwrite]

/-- The levels of an overwritten object are the overwritten levels. -/
theorem levels_overwrite (object : Object) :
    (object.overwrite name cover).levels = object.levels.map (Level.overwrite name cover) := by
  obtain ⟨⟨className, constants, fields⟩, ancestors⟩ := object
  rw [Object.overwrite, levels, levels, List.map_cons, overwriteLevels_eq, Level.overwrite]

theorem className_overwrite (object : Object) :
    (object.overwrite name cover).className = object.className := by
  obtain ⟨⟨className, constants, fields⟩, ancestors⟩ := object
  rw [Object.overwrite, Object.className, Object.className]

/-- Other attributes show the same values, in which the attribute is overwritten as well. -/
theorem value_overwrite_other {name other : String} (different : other ≠ name) (object : Object) :
    (object.overwrite name cover).value? other =
      (object.value? other).map (Value.overwrite name cover) := by
  have first (levels : List Level) :
      (levels.map (Level.overwrite name cover)).findSome? (·.read? other) =
        (levels.findSome? (·.read? other)).map (Option.map (Value.overwrite name cover)) := by
    induction levels with
    | nil => rfl
    | cons level levels inductionHypothesis =>
        rw [List.map_cons, List.findSome?_cons, List.findSome?_cons,
          level.read_overwrite_other cover different, inductionHypothesis]
        cases level.read? other <;> rfl
  rw [value?, value?, get, get, levels_overwrite, first]
  cases object.levels.findSome? (·.read? other) <;> rfl

/-- The attribute itself shows the other slot, unless a constant comes first or nothing has it. -/
theorem value_overwrite_self (object : Object) :
    (object.overwrite name cover).value? name = object.value? name ∨
      (object.overwrite name cover).value? name = cover.read := by
  have first (levels : List Level) :
      (levels.map (Level.overwrite name cover)).findSome? (·.read? name) =
          levels.findSome? (·.read? name) ∨
        (levels.map (Level.overwrite name cover)).findSome? (·.read? name) = some cover.read := by
    induction levels with
    | nil => exact .inl rfl
    | cons level levels inductionHypothesis =>
        rw [List.map_cons, List.findSome?_cons, List.findSome?_cons, level.read_overwrite_self,
          Level.read?]
        cases level.constant? name with
        | some constant => exact .inl rfl
        | none =>
            cases level.slot? name with
            | none => exact inductionHypothesis
            | some slot => exact .inr rfl
  rw [value?, value?, get, get, levels_overwrite]
  rcases first object.levels with same | covered
  · rw [same]
    cases object.levels.findSome? (·.read? name) with
    | none => exact .inl rfl
    | some value => exact .inl rfl
  · rw [covered]
    exact .inr rfl

end Object

end SceneCatalog
