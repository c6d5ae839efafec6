import SceneCatalog.Object.Class

/-
This file says what is read after a slot has been put into a level or an object.
-/

namespace SceneCatalog

namespace Level

theorem constant_put (level : Level) (name other : String) (slot : Slot) :
    (level.put name slot).constant? other = level.constant? other := rfl

theorem fieldNames_put (level : Level) (name : String) (slot : Slot) :
    (level.put name slot).fields.map Field.name = level.fields.map Field.name := by
  rw [put, List.map_map]
  apply List.map_congr_left
  intro field _
  dsimp only [Function.comp_apply]
  split <;> rfl

/-- A stored slot is found under its name, and the slots under all other names are as before. -/
theorem slot_put (level : Level) (name other : String) (slot : Slot) :
    (level.put name slot).slot? other =
      if other = name then (level.slot? name).map fun _ => slot else level.slot? other := by
  unfold slot? put
  dsimp only
  induction level.fields with
  | nil => simp
  | cons field rest inductionHypothesis =>
      by_cases named : field.name = name
      · by_cases same : other = name
        · simp [named, same]
        · simpa [List.find?_cons, named, same, Ne.symm same] using inductionHypothesis
      · by_cases here : field.name = other
        · have different : other ≠ name := here ▸ named
          simp [here, different]
        · simpa [List.find?_cons, named, here] using inductionHypothesis

/-- Other attributes read as before. -/
theorem read_put_other (level : Level) {name other : String} (different : other ≠ name)
    (slot : Slot) : (level.put name slot).read? other = level.read? other := by
  simp [read?, constant_put, slot_put, different]

/-- A field that no constant hides reads what has been put into it. -/
theorem read_put_self (level : Level) {name : String} (slot : Slot)
    (unhidden : level.constant? name = none) (present : (level.slot? name).isSome) :
    (level.put name slot).read? name = some slot.read := by
  obtain ⟨old, found⟩ := Option.isSome_iff_exists.1 present
  simp [read?, constant_put, slot_put, unhidden, found]

theorem declares_put (level : Level) (name other : String) (slot : Slot) :
    (level.put name slot).declares other = level.declares other := by
  by_cases same : other = name
  · subst same
    cases constant : level.constant? other <;>
      simp [declares, read?, constant_put, slot_put, constant]
  · rw [declares, read_put_other level same, declares]

/-- Slots under different names can be stored in any order. -/
theorem put_comm (level : Level) {first second : String} (different : first ≠ second)
    (slot other : Slot) :
    (level.put first slot).put second other = (level.put second other).put first slot := by
  simp only [put, List.map_map, Level.mk.injEq, true_and]
  apply List.map_congr_left
  intro field _
  by_cases isFirst : field.name = first
  · have notSecond : field.name ≠ second := isFirst ▸ different
    simp [isFirst, different]
  · by_cases isSecond : field.name = second
    · simp [isSecond, different.symm]
    · simp [isFirst, isSecond]

end Level

namespace Object

theorem ext_levels {first second : Object} (same : first.levels = second.levels) :
    first = second := by
  cases first
  cases second
  simpa [levels] using same

/-- The object's own level stands first. -/
theorem levels_put (object : Object) (name : String) (slot : Slot) :
    (object.put name slot).levels = putInFirst name slot object.levels := by
  unfold put levels
  rw [putInFirst]
  split <;> rfl

/-- Storing a slot somewhere in a line changes no reading under another name. -/
theorem findSome_putInFirst_other {name other : String} (different : other ≠ name) (slot : Slot)
    (levels : List Level) :
    (putInFirst name slot levels).findSome? (·.read? other) = levels.findSome? (·.read? other) := by
  induction levels with
  | nil => rfl
  | cons level rest inductionHypothesis =>
      rw [putInFirst]
      split
      · rw [List.findSome?_cons, List.findSome?_cons, Level.read_put_other level different]
      · rw [List.findSome?_cons, List.findSome?_cons, inductionHypothesis]

theorem classNames_putInFirst (name : String) (slot : Slot) (levels : List Level) :
    (putInFirst name slot levels).map Level.className = levels.map Level.className := by
  induction levels with
  | nil => rfl
  | cons level rest inductionHypothesis =>
      rw [putInFirst]
      split
      · rfl
      · rw [List.map_cons, List.map_cons, inductionHypothesis]

/-- The class at the end of the line. -/
theorem rootName_eq (object : Object) :
    (object.levels.map Level.className).getLast? = some object.rootName := by
  simp [levels, rootName, List.getLast?_cons]

theorem rootName_put (object : Object) (name : String) (slot : Slot) :
    (object.put name slot).rootName = object.rootName := by
  apply Option.some.inj
  rw [← rootName_eq, ← rootName_eq, levels_put, classNames_putInFirst]

/-- Other attributes of the object read as before, unknown ones included. -/
theorem get_put_other (object : Object) {name other : String} (different : other ≠ name)
    (slot : Slot) : (object.put name slot).get other = object.get other := by
  rw [get, get, levels_put, findSome_putInFirst_other different, rootName_put]

theorem value_of_get {first second : Object} {name : String}
    (same : first.get name = second.get name) : first.value? name = second.value? name := by
  rw [value?, value?, same]

/-- Slots under different names can be stored in a line in any order. -/
theorem putInFirst_comm {first second : String} (different : first ≠ second) (slot other : Slot)
    (levels : List Level) :
    putInFirst second other (putInFirst first slot levels) =
      putInFirst first slot (putInFirst second other levels) := by
  induction levels with
  | nil => rfl
  | cons level rest inductionHypothesis =>
      by_cases hasFirst : level.declares first = true
      · by_cases hasSecond : level.declares second = true
        · simp [putInFirst, hasFirst, hasSecond, Level.declares_put,
            Level.put_comm level different]
        · simp [putInFirst, hasFirst, hasSecond, Level.declares_put]
      · by_cases hasSecond : level.declares second = true
        · simp [putInFirst, hasFirst, hasSecond, Level.declares_put]
        · simp [putInFirst, hasFirst, hasSecond, inductionHypothesis]

/-- Slots of different attributes may be put in either order. -/
theorem put_comm (object : Object) {first second : String} (different : first ≠ second)
    (slot other : Slot) :
    (object.put first slot).put second other = (object.put second other).put first slot := by
  apply ext_levels
  simp only [levels_put]
  exact putInFirst_comm different slot other object.levels

end Object

end SceneCatalog
