import SceneCatalog.Proofs.Catalog.Lines
import SceneCatalog.Proofs.Object.Runs
import SceneCatalog.Proofs.Value.Coercion

/-
This file shows that stored literals stay in the form that their validators give them, and that
constants never change.
-/

namespace SceneCatalog

/-- What an attribute may store: literals that its validator keeps as they are, and all slots that
it does not look at. -/
inductive Attribute.Settles (rule : Attribute) : Slot → Prop where
  | unset : Settles rule .unset
  | raw (code : String) : Settles rule (.raw code)
  | deferred (value : Value) : Settles rule (.deferred value)
  | literal {validator : Validator} {value : Value} (ruled : rule.validator = some validator)
      (fixed : validator.apply value = .ok value) : Settles rule (.literal value)

/-- The level has the constants of its table, and for each rule a field with a slot of it. -/
structure Level.Settled (table : ClassTable) (level : Level) : Prop where
  className : level.className = table.name
  constants : level.constants = table.immutables
  fields : List.Forall₂ (fun rule field => field.name = rule.name ∧ rule.Settles field.slot)
    table.attributes level.fields

/-- Names are distinct, initial slots are in order and validators keep what they make. -/
structure ClassTable.Sound (table : ClassTable) : Prop where
  distinct : table.attributeNames.Nodup
  starts : ∀ rule ∈ table.attributes, rule.Settles rule.initialSlot
  stable : ∀ rule ∈ table.attributes, ∃ validator, rule.validator = some validator ∧
    validator.Stable

/-- A stored slot is settled when the rule is stable. -/
theorem Attribute.Takes.settles {rule : Attribute} {slot stored : Slot}
    (takes : rule.Takes slot stored)
    (stable : ∃ validator, rule.validator = some validator ∧ validator.Stable) :
    rule.Settles stored := by
  obtain ⟨validator, ruled, keeps⟩ := stable
  cases takes with
  | unset => exact .unset
  | raw code => exact .raw code
  | deferred value => exact .deferred value
  | literal applies accepted =>
      obtain rfl := Option.some.inj (ruled.symm.trans applies)
      exact .literal ruled (keeps _ _ accepted)

/-- A literal that is stored is one that the validator keeps. -/
theorem Attribute.Settles.fixed {rule : Attribute} {value : Value}
    (settles : rule.Settles (.literal value)) {validator : Validator}
    (ruled : rule.validator = some validator) : validator.apply value = .ok value := by
  cases settles with
  | literal applies kept =>
      obtain rfl := Option.some.inj (ruled.symm.trans applies)
      exact kept

namespace Level.Settled

variable {table : ClassTable} {level : Level}

theorem blank (sound : table.Sound) : Level.Settled table table.blank where
  className := rfl
  constants := rfl
  fields := by
    rw [ClassTable.blank, List.forall₂_map_right_iff, List.forall₂_same]
    exact fun rule member => ⟨rfl, sound.starts rule member⟩

/-- The slot goes to the one field of its name, whose rule has accepted it. -/
theorem put (sound : table.Sound) (settled : Level.Settled table level) {name : String}
    {rule : Attribute} {slot stored : Slot}
    (declared : table.declaration? name = some (.mutable rule))
    (accepted : rule.accept table.name slot = .ok stored) :
    Level.Settled table (level.put name stored) where
  className := settled.className
  constants := settled.constants
  fields := by
    obtain ⟨ruleMember, ruleNamed⟩ := ClassTable.declaration_mem declared
    obtain ⟨validator, ruled, _⟩ := sound.stable rule ruleMember
    have members : ∀ other ∈ table.attributes, other ∈ table.attributes := fun _ member => member
    rw [Level.put, List.forall₂_map_right_iff]
    apply ((List.forall₂_and_left _ _).2 ⟨members, settled.fields⟩).imp
    rintro other field ⟨member, sameName, settles⟩
    by_cases here : field.name = name
    · have same : other = rule := List.inj_on_of_nodup_map
        (List.nodup_append.1 sound.distinct).2.1 member ruleMember
        (by rw [← sameName, here, ruleNamed])
      subst same
      simp only [here, beq_self_eq_true, if_true]
      exact ⟨ruleNamed.symm, (Attribute.takes_of_accept ruled accepted).settles
        (sound.stable _ ruleMember)⟩
    · simp only [beq_iff_eq, here, if_false]
      exact ⟨sameName, settles⟩

/-- Fitting the table, and being settled when the table is sound, is an invariant of levels. -/
theorem invariant : Level.Invariant fun table level =>
    Level.Fits table level ∧ (table.Sound → Level.Settled table level) where
  fits := And.left
  blank table := ⟨.blank table, .blank⟩
  put := by
    rintro table level name rule slot stored ⟨fits, settled⟩ declared accepted
    exact ⟨fits.put name stored, fun sound => (settled sound).put sound declared accepted⟩

end Level.Settled

/-- A reachable object of sound tables is settled at each level. -/
theorem ClassTable.Sound.settled {cls : Class} (sound : ∀ table ∈ cls.tables, table.Sound)
    {object : Object} (reached : cls.Reachable object) :
    List.Forall₂ Level.Settled cls.tables object.levels := by
  have held := Level.Settled.invariant.reachable reached
  apply ((List.forall₂_and_left _ _).2 ⟨sound, held⟩).imp
  rintro table level ⟨tableSound, _, settled⟩
  exact settled tableSound

/-- A constant that no other attribute hides reads as its table says. -/
theorem Class.get_constant {cls : Class} {object : Object} (fits : cls.Fits object)
    (distinct : (cls.tables.flatMap ClassTable.attributeNames).Nodup) {table : ClassTable}
    (member : table ∈ cls.tables) {constant : Immutable} (declared : constant ∈ table.immutables) :
    object.get constant.name = .ok constant.value.toValue? := by
  have tableDistinct : table.attributeNames.Nodup := by
    rw [List.nodup_flatMap] at distinct
    exact distinct.1 table member
  have nearest : ClassTable.nearest? cls.tables constant.name = some (table, .immutable) :=
    ClassTable.nearest_of_mem distinct member
      (ClassTable.declaration_immutable_iff.2 ⟨constant, declared, rfl⟩)
  rw [Object.get, read_constant fits nearest (ClassTable.immutable_of_mem tableDistinct declared)]

/-- The initial slot passes, and the validator is none that the table writes by hand. -/
def Attribute.isOrderly (rule : Attribute) : Bool :=
  match rule.validator, rule.initialSlot with
  | some validator, .unset => validator.isPlain
  | some (.check condition), .literal value => condition.accepts value
  | _, _ => false

/-- An orderly attribute settles its initial slot and has a stable rule. -/
theorem Attribute.sound_of_isOrderly {rule : Attribute} (orderly : rule.isOrderly = true) :
    rule.Settles rule.initialSlot ∧
      ∃ validator, rule.validator = some validator ∧ validator.Stable := by
  rw [isOrderly] at orderly
  split at orderly
  · rename_i validator ruled unset
    rw [unset]
    exact ⟨.unset, validator, ruled, Validator.stable_of_isPlain orderly⟩
  · rename_i condition value ruled start
    rw [start]
    have fixed : (Validator.check condition).apply value = .ok value := by
      rw [Validator.apply, if_pos orderly]
    exact ⟨.literal ruled fixed, _, ruled, Validator.stable_of_isPlain rfl⟩
  · contradiction

theorem mem_eraseIdx_or {Item : Type} {items : List Item} {place : Nat} {item chosen : Item}
    (there : items[place]? = some chosen) (member : item ∈ items) :
    item ∈ items.eraseIdx place ∨ item = chosen := by
  obtain ⟨index, found⟩ := List.mem_iff_getElem?.1 member
  by_cases same : index = place
  · rw [same, there] at found
    exact .inr (Option.some.inj found).symm
  · exact .inl (List.mem_eraseIdx_iff_getElem?.2 ⟨index, same, found⟩)

/-- The bokeh colour of cameras is the only attribute with a validator written by hand. -/
theorem catalog_rules {table : ClassTable} (tableMember : table ∈ catalog) {rule : Attribute}
    (member : rule ∈ table.attributes) :
    rule.Settles rule.initialSlot ∧
      ∃ validator, rule.validator = some validator ∧ validator.Stable := by
  have orderly : ((catalog.eraseIdx 6).all fun table =>
      table.attributes.all Attribute.isOrderly) = true := by
    decide +kernel
  have orderlyCamera : (Catalog.camera.attributes.eraseIdx 4).all Attribute.isOrderly = true := by
    decide +kernel
  have seventh : catalog[6]? = some Catalog.camera := rfl
  rcases mem_eraseIdx_or seventh tableMember with other | rfl
  · exact Attribute.sound_of_isOrderly
      (List.all_eq_true.1 (List.all_eq_true.1 orderly table other) rule member)
  · have fifth : ∃ bokeh, Catalog.camera.attributes[4]? = some bokeh ∧ bokeh.initialSlot = .unset ∧
        bokeh.validator = some (.coerce Catalog.Rules.bokeh) := ⟨_, rfl, rfl, rfl⟩
    obtain ⟨bokeh, found, starts, ruled⟩ := fifth
    rcases mem_eraseIdx_or found member with other | rfl
    · exact Attribute.sound_of_isOrderly (List.all_eq_true.1 orderlyCamera rule other)
    · exact ⟨starts ▸ .unset, _, ruled, Validator.stable_bokeh⟩

/-- Every table of a catalog class is sound. -/
theorem catalog_sound {name : String} {cls : Class} (known : catalog.class? name = some cls) :
    ∀ table ∈ cls.tables, table.Sound := by
  intro table member
  have inside := (Catalog.class_known known).2.2 table member
  exact {
    distinct := (List.nodup_flatMap.1 (catalog_distinct known)).1 table member
    starts := fun rule ruleMember => (catalog_rules inside ruleMember).1
    stable := fun rule ruleMember => (catalog_rules inside ruleMember).2 }

/-- Whatever is called on an object, with whatever success, its slots stay settled and its
constants stay those of the tables. -/
theorem run_settled {className : String} {cls : Class}
    (known : catalog.class? className = some cls) {start : Object} (made : cls.Makes start)
    (calls : List Call) :
    List.Forall₂ Level.Settled cls.tables (cls.run start calls).levels ∧
      ∀ table ∈ cls.tables, ∀ constant ∈ table.immutables,
        (cls.run start calls).get constant.name = .ok constant.value.toValue? := by
  have reached : cls.Reachable (cls.run start calls) := ⟨start, calls, made, rfl⟩
  constructor
  · exact ClassTable.Sound.settled (catalog_sound known) reached
  · intro table member constant declared
    exact Class.get_constant reached.fits (catalog_distinct known) member declared

/-- A camera is given a colour as a list, an angle that is refused, and flags of its base. -/
theorem run_settled_camera :
    catalog.class? "Camera" = some Catalog.cameraClass ∧
      Catalog.cameraClass.Makes Catalog.cameraClass.blank ∧
      ∃ object, Catalog.cameraClass.run Catalog.cameraClass.blank [
          .assign "bokeh" (.literal (.list [.float 0.5, .float 1, .float 0])),
          .set "angle" (.literal (.float (-1))),
          .base (.apply (SortedMap.ofList [("active", .raw "off"), ("csg", .unset)])),
          .base (.set "hollow" (.literal (.bool true)))] = object ∧
        List.Forall₂ Level.Settled Catalog.cameraClass.tables object.levels ∧
        object.get "csg" = .ok (some (.bool false)) := by
  have made : Catalog.cameraClass.Makes Catalog.cameraClass.blank :=
    .options SortedMap.empty rfl rfl
  have csg : ⟨"csg", .bool false⟩ ∈ Catalog.camera.immutables := .tail _ (.tail _ (.head _))
  refine ⟨catalog_camera, made, _, rfl, ?_⟩
  apply (run_settled catalog_camera made _).imp_right
  intro constants
  exact constants Catalog.camera (.head _) _ csg

end SceneCatalog
