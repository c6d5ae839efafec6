import SceneCatalog.Proofs.Object.Reading
import SceneCatalog.Scene.Writing

/-
This file says which strings and which objects an object holds, and states properties of all the
objects within.
-/

namespace SceneCatalog

namespace Value

/-- The value itself, or an item of a list at any depth. -/
inductive Within (part : Value) : Value → Prop where
  | here : Within part part
  | item {item : Value} {items : List Value} (member : item ∈ items) (within : Within part item) :
      Within part (.list items)

def Holds (value : Value) (child : Object) : Prop := ∃ identity, Within (.node identity child) value

/-- A string or a piece of code stands in the value. -/
def Mentions (value : Value) (content : String) : Prop :=
  Within (.text content) value ∨ Within (.code content) value

/-- An object as a value holds itself and nothing else. -/
theorem holds_node_iff {identity : Nat} {object child : Object} :
    (node identity object).Holds child ↔ child = object := by
  constructor
  · rintro ⟨other, within⟩
    cases within
    rfl
  · rintro rfl
    exact ⟨identity, .here⟩

/-- A list holds what its items hold. -/
theorem holds_list_iff {items : List Value} {child : Object} :
    (list items).Holds child ↔ ∃ item ∈ items, item.Holds child := by
  constructor
  · rintro ⟨identity, within⟩
    cases within with
    | item member within => exact ⟨_, member, identity, within⟩
  · rintro ⟨item, member, identity, within⟩
    exact ⟨identity, .item member within⟩

/-- A list mentions what its items mention. -/
theorem mentions_list_iff {items : List Value} {content : String} :
    (list items).Mentions content ↔ ∃ item ∈ items, item.Mentions content := by
  constructor
  · rintro (within | within)
    · cases within with
      | item member within => exact ⟨_, member, .inl within⟩
    · cases within with
      | item member within => exact ⟨_, member, .inr within⟩
  · rintro ⟨item, member, mentioned⟩
    exact mentioned.imp (.item member) (.item member)

theorem not_mentions_node (identity : Nat) (object : Object) (content : String) :
    ¬(node identity object).Mentions content := by
  rintro (within | within) <;> cases within

theorem depth_le_of_mem {items : List Value} {item : Value} (member : item ∈ items) :
    item.depth ≤ Value.depthOfItems items := by
  induction items with
  | nil => contradiction
  | cons first rest inductionHypothesis =>
      rw [Value.depthOfItems]
      rcases List.mem_cons.1 member with rfl | later
      · exact Nat.le_max_left ..
      · exact Nat.le_trans (inductionHypothesis later) (Nat.le_max_right ..)

theorem Within.depth_le {part value : Value} (within : Within part value) :
    part.depth ≤ value.depth := by
  induction within with
  | here => exact Nat.le_refl _
  | item member _ inductionHypothesis =>
      rw [Value.depth]
      exact Nat.le_trans inductionHypothesis (depth_le_of_mem member)

end Value

/-- The slot is left to be computed when it is read. -/
def Slot.isDeferred : Slot → Bool
  | deferred _ => true
  | _ => false

/-- What a slot reads as is no deeper than the slot. -/
theorem Slot.depth_le_of_read {slot : Slot} {value : Value} (read : slot.read = some value) :
    value.depth ≤ slot.depth := by
  cases slot with
  | unset => contradiction
  | literal found => exact Option.some.inj read ▸ Nat.le_refl _
  | deferred found => exact Option.some.inj read ▸ Nat.le_refl _
  | raw code => simp [← Option.some.inj read, Value.depth]

namespace Object

/-- Some attribute has a slot with the value. -/
def Stores (object : Object) (value : Value) : Prop :=
  ∃ slot ∈ object.slots, slot.read = some value

def Holds (object child : Object) : Prop := ∃ value, object.Stores value ∧ value.Holds child

def Mentions (object : Object) (content : String) : Prop :=
  ∃ value, object.Stores value ∧ value.Mentions content

/-- The object and all objects within have the property. -/
inductive Everywhere (property : Object → Prop) : Object → Prop where
  | intro {object : Object} (here : property object)
      (within : ∀ child, object.Holds child → Everywhere property child) :
      Everywhere property object

/-- Calls on a class of the catalog have made the object, and nothing is left to be computed. -/
structure Made (object : Object) : Prop where
  known : ∃ cls, catalog.class? object.className = some cls ∧ cls.Reachable object
  computed : ∀ slot ∈ object.slots, slot.isDeferred = false

/-- An object that can stand in a scene. -/
structure Built (object : Object) : Prop extends Made object where
  isNode : object.isNode = true

theorem Everywhere.here {property : Object → Prop} {object : Object}
    (everywhere : object.Everywhere property) : property object := by
  cases everywhere with
  | intro here _ => exact here

/-- What holds everywhere in an object holds everywhere in the objects it holds. -/
theorem Everywhere.within {property : Object → Prop} {object child : Object}
    (everywhere : object.Everywhere property) (held : object.Holds child) :
    child.Everywhere property := by
  cases everywhere with
  | intro _ within => exact within child held

/-- A weaker property holds wherever the stronger one does. -/
theorem Everywhere.mono {property weaker : Object → Prop}
    (implies : ∀ object, property object → weaker object) {object : Object}
    (everywhere : object.Everywhere property) : object.Everywhere weaker := by
  induction everywhere with
  | intro here _ inductionHypothesis => exact .intro (implies _ here) inductionHypothesis

/-- Two properties that hold everywhere hold together everywhere. -/
theorem Everywhere.and {first second : Object → Prop} {object : Object}
    (everywhere : object.Everywhere first) (also : object.Everywhere second) :
    object.Everywhere fun inside => first inside ∧ second inside := by
  induction everywhere with
  | intro here _ inductionHypothesis =>
      exact .intro ⟨here, also.here⟩ fun child held =>
        inductionHypothesis child held (also.within held)

theorem depth_le_of_field {fields : List Field} {field : Field} (member : field ∈ fields) :
    field.slot.depth ≤ Level.depthOfFields fields := by
  induction fields with
  | nil => contradiction
  | cons first rest inductionHypothesis =>
      obtain ⟨name, slot⟩ := first
      rw [Level.depthOfFields]
      rcases List.mem_cons.1 member with rfl | later
      · exact Nat.le_max_left ..
      · exact Nat.le_trans (inductionHypothesis later) (Nat.le_max_right ..)

theorem depth_le_of_level {levels : List Level} {level : Level} (member : level ∈ levels) :
    Level.depthOfFields level.fields ≤ Object.depthOfLevels levels := by
  induction levels with
  | nil => contradiction
  | cons first rest inductionHypothesis =>
      obtain ⟨className, constants, fields⟩ := first
      rw [Object.depthOfLevels]
      rcases List.mem_cons.1 member with rfl | later
      · exact Nat.le_max_left ..
      · exact Nat.le_trans (inductionHypothesis later) (Nat.le_max_right ..)

theorem depth_eq (object : Object) : object.depth = Object.depthOfLevels object.levels := by
  obtain ⟨⟨className, constants, fields⟩, ancestors⟩ := object
  rw [Object.depth, levels, Object.depthOfLevels]

/-- A stored value is no deeper than its object. -/
theorem depth_le_of_stored {object : Object} {value : Value} (stored : object.Stores value) :
    value.depth ≤ object.depth := by
  obtain ⟨slot, member, read⟩ := stored
  obtain ⟨level, levelMember, inLevel⟩ := List.mem_flatMap.1 member
  obtain ⟨field, fieldMember, rfl⟩ := List.mem_map.1 inLevel
  have inSlot : value.depth ≤ field.slot.depth := Slot.depth_le_of_read read
  have inLevel := depth_le_of_field fieldMember
  have inObject := depth_le_of_level levelMember
  rw [depth_eq]
  omega

/-- The values that an object stores can be listed. -/
theorem stores_iff {object : Object} {value : Value} :
    object.Stores value ↔ value ∈ object.slots.filterMap Slot.read := by
  rw [List.mem_filterMap]
  rfl

/-- Objects within have less depth. -/
theorem Holds.depth_lt {object child : Object} (held : object.Holds child) :
    child.depth < object.depth := by
  obtain ⟨value, stored, identity, within⟩ := held
  have inValue := within.depth_le
  have inObject := depth_le_of_stored stored
  rw [Value.depth] at inValue
  omega

end Object

end SceneCatalog
