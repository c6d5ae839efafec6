import SceneCatalog.Proofs.Scene.Texts

/-
This file tells the attributes that take no objects from those that take nothing else.
-/

namespace SceneCatalog

/-- Code, an object, or a list of objects that is not empty. -/
inductive Value.Parts : Value → Prop where
  | code (content : String) : Parts (.code content)
  | node (identity : Nat) (object : Object) : Parts (.node identity object)
  | list {items : List Value} (some : items ≠ []) (each : ∀ item ∈ items, item.isNode = true) :
      Parts (.list items)

/-- A value is an object exactly when it was built as one. -/
theorem Value.isNode_iff {value : Value} :
    value.isNode = true ↔ ∃ identity object, value = .node identity object := by
  cases value <;> simp [isNode]

namespace Check

/-- No value that passes is an object or holds one. -/
def refusesObjects : Check → Bool
  | ofClass _ => false
  | descendant _ => false
  | satisfies _ => false
  | list _ _ item => item.refusesObjects
  | either first second => first.refusesObjects && second.refusesObjects
  | both first second => first.refusesObjects || second.refusesObjects
  | _ => true

/-- Every value that passes is an object. -/
def takesObjectsOnly : Check → Bool
  | ofClass names => VectorKind.all.all fun kind => !names.contains kind.className
  | descendant _ => true
  | _ => false

/-- The value is an object, or a list with at least one of them. -/
def takesPartsOnly : Check → Bool
  | list least _ item => decide (0 < least) && item.takesObjectsOnly
  | check => check.takesObjectsOnly

/-- What a list check accepts is a list of enough items, each of them accepted. -/
theorem accepts_item {least : Nat} {most : Option Nat} {item : Check} {value : Value}
    (accepted : (list least most item).accepts value = true) :
    ∃ items, value = .list items ∧ least ≤ items.length ∧
      ∀ other ∈ items, item.accepts other = true := by
  cases value with
  | list items =>
      simp only [accepts, Value.asList?, Option.any_some, lengthWithin, Bool.and_eq_true,
        decide_eq_true_eq, List.all_eq_true] at accepted
      exact ⟨items, rfl, accepted.1.1, accepted.2⟩
  | _ => simp [accepts, Value.asList?] at accepted

/-- A check that passes the test for refusing objects accepts no value with an object inside. -/
theorem bare_of_accepts {check : Check} (refuses : check.refusesObjects = true) {value : Value}
    (accepted : check.accepts value = true) : value.Bare := by
  induction check generalizing value with
  | list least most item inductionHypothesis =>
      obtain ⟨items, rfl, _, each⟩ := accepts_item accepted
      intro child held
      obtain ⟨other, member, within⟩ := Value.holds_list_iff.1 held
      exact inductionHypothesis refuses (each other member) child within
  | either first second firstHypothesis secondHypothesis =>
      have both : first.refusesObjects = true ∧ second.refusesObjects = true := by
        simpa [refusesObjects] using refuses
      have one : first.accepts value = true ∨ second.accepts value = true := by
        simpa [accepts] using accepted
      exact one.elim (firstHypothesis both.1) (secondHypothesis both.2)
  | both first second firstHypothesis secondHypothesis =>
      have one : first.refusesObjects = true ∨ second.refusesObjects = true := by
        simpa [refusesObjects] using refuses
      have both : first.accepts value = true ∧ second.accepts value = true := by
        simpa [accepts] using accepted
      exact one.elim (firstHypothesis · both.1) (secondHypothesis · both.2)
  | ofClass => contradiction
  | descendant => contradiction
  | satisfies => contradiction
  | _ =>
      -- The other conditions read a flag, a number or a text off the value.
      cases value with
      | node => simp [accepts, Value.asBool?, Value.asInt?, Value.finite?, Value.asFloat?,
          Value.asText?] at accepted
      | list => simp [accepts, Value.asBool?, Value.asInt?, Value.finite?, Value.asFloat?,
          Value.asText?] at accepted
      | _ =>
          rintro child ⟨identity, within⟩
          cases within

/-- A check for objects accepts nothing else. -/
theorem isNode_of_accepts {check : Check} (takes : check.takesObjectsOnly = true) {value : Value}
    (accepted : check.accepts value = true) : value.isNode = true := by
  cases check with
  | ofClass names =>
      cases value with
      | node => rfl
      | vector coordinates =>
          have listed : coordinates.kind ∈ VectorKind.all := by cases coordinates.kind <;> decide
          have absent := List.all_eq_true.1 takes coordinates.kind listed
          simp [accepts, Value.className?] at accepted
          simp [accepted] at absent
      | _ => simp [accepts, Value.className?] at accepted
  | descendant base =>
      cases value with
      | node => rfl
      | _ => simp [accepts, Value.asObject?] at accepted
  | _ => contradiction

/-- A check for lists of components accepts only lists of components. -/
theorem parts_of_accepts {check : Check} (takes : check.takesPartsOnly = true) {value : Value}
    (accepted : check.accepts value = true) : value.Parts := by
  unfold takesPartsOnly at takes
  split at takes
  · rename_i least most item
    have both : 0 < least ∧ item.takesObjectsOnly = true := by simpa using takes
    obtain ⟨items, rfl, enough, each⟩ := accepts_item accepted
    refine .list ?_ fun other member => isNode_of_accepts both.2 (each other member)
    rintro rfl
    simp at enough
    omega
  · obtain ⟨identity, object, rfl⟩ := Value.isNode_iff.1 (isNode_of_accepts takes accepted)
    exact .node identity object

end Check

/-- No vector holds an object. -/
theorem Value.bare_vector (coordinates : Coordinates) : (Value.vector coordinates).Bare := by
  rintro child ⟨identity, within⟩
  cases within

theorem Value.bare_int (number : Int64) : (Value.int number).Bare := by
  rintro child ⟨identity, within⟩
  cases within

/-- Only lists are read as lists. -/
theorem Value.list_of_asList {value : Value} {items : List Value}
    (found : value.asList? = some items) : value = .list items := by
  cases value with
  | list others => exact congrArg Value.list (Option.some.inj found)
  | _ => contradiction

/-- A list holds no object when none of its items does. -/
theorem Value.bare_list {items : List Value} (each : ∀ item ∈ items, item.Bare) :
    (Value.list items).Bare := by
  intro child held
  obtain ⟨item, member, within⟩ := Value.holds_list_iff.1 held
  exact each item member child within

namespace Catalog.Rules

/-- The rule for `bokeh` stores what the coercion to colors makes of the value. -/
theorem toVector_of_bokeh {value stored : Value} (accepted : bokeh value = .ok stored) :
    toVector .color value = .ok stored := by
  rw [bokeh] at accepted
  split at accepted
  · contradiction
  · rename_i color made
    dsimp only at accepted
    split at accepted
    · rw [made, Except.ok.inj accepted]
    · contradiction

/-- What `expand_thresholds` accepts is a number followed by an integer. -/
theorem pair_of_expandThresholds {value : Value}
    (accepted : expandThresholds.accepts value = true) :
    ∃ percentage photons, value = .list [percentage, photons] ∧
      Check.number.accepts percentage = true ∧ Check.int.accepts photons = true := by
  rw [expandThresholds, Check.accepts] at accepted
  split at accepted
  · rename_i percentage photons shape
    exact ⟨percentage, photons, Value.list_of_asList shape, by simpa using accepted⟩
  · contradiction

/-- What `gather` accepts is a pair of integers. -/
theorem pair_of_gather {value : Value} (accepted : gather.accepts value = true) :
    ∃ low high, value = .list [.int low, .int high] := by
  rw [gather, Check.accepts] at accepted
  split at accepted
  · rename_i low high shape
    exact ⟨low, high, Value.list_of_asList shape⟩
  · contradiction

end Catalog.Rules

namespace Validator

/-- No value that the validator keeps as it is holds an object. -/
def RefusesObjects (validator : Validator) : Prop :=
  ∀ value, validator.apply value = .ok value → value.Bare

/-- What can be said without a look at conditions written by hand. -/
def refusesObjects : Validator → Bool
  | check condition => condition.refusesObjects
  | coerce _ => false
  | _ => true

def takesPartsOnly : Validator → Bool
  | check condition => condition.takesPartsOnly
  | _ => false

/-- A coercion to a vector stores no object. -/
theorem bare_of_toVector {kind : VectorKind} {value stored : Value}
    (accepted : toVector kind value = .ok stored) : stored.Bare := by
  obtain ⟨coordinates, _, rfl⟩ := toVector_ok_vector accepted
  exact Value.bare_vector coordinates

/-- A check that hands a value back has accepted it. -/
theorem accepts_of_fixed {condition : Check} {value stored : Value}
    (fixed : (check condition).apply value = .ok stored) : condition.accepts value = true := by
  rw [apply] at fixed
  split at fixed
  · assumption
  · contradiction

/-- The Boolean test of a validator implies that it never stores an object. -/
theorem refusesObjects_sound {validator : Validator} (refuses : validator.refusesObjects = true) :
    validator.RefusesObjects := by
  intro value fixed
  cases validator with
  | check condition => exact Check.bare_of_accepts refuses (accepts_of_fixed fixed)
  | vector kind => exact bare_of_toVector fixed
  | vectors kind least most =>
      obtain ⟨_, vectors, shape, rfl, fits, made⟩ := toVectors_ok_iff.1 fixed
      apply Value.bare_list
      clear fixed fits shape
      induction made with
      | nil => exact nofun
      | cons itemMade _ inductionHypothesis =>
          exact List.forall_mem_cons.2 ⟨bare_of_toVector itemMade, inductionHypothesis⟩
  | coerce convert => contradiction

/-- The rule for `bokeh` stores no object, although the Boolean test does not look into it. -/
theorem refusesObjects_bokeh : (Validator.coerce Catalog.Rules.bokeh).RefusesObjects := by
  intro value fixed
  exact bare_of_toVector (Catalog.Rules.toVector_of_bokeh fixed)

/-- The rule for `expand_thresholds` stores no object. -/
theorem refusesObjects_expandThresholds :
    (Validator.check Catalog.Rules.expandThresholds).RefusesObjects := by
  intro value fixed
  obtain ⟨percentage, photons, rfl, number, int⟩ :=
    Catalog.Rules.pair_of_expandThresholds (accepts_of_fixed fixed)
  apply Value.bare_list
  simp only [List.forall_mem_cons, List.not_mem_nil, false_implies, implies_true, and_true]
  exact ⟨Check.bare_of_accepts rfl number, Check.bare_of_accepts rfl int⟩

/-- The rule for `gather` stores no object. -/
theorem refusesObjects_gather : (Validator.check Catalog.Rules.gather).RefusesObjects := by
  intro value fixed
  obtain ⟨low, high, rfl⟩ := Catalog.Rules.pair_of_gather (accepts_of_fixed fixed)
  apply Value.bare_list
  simp only [List.forall_mem_cons, List.not_mem_nil, false_implies, implies_true, and_true]
  exact ⟨Value.bare_int low, Value.bare_int high⟩

end Validator

/-- The attributes with a condition written by hand. -/
def Attribute.handwritten : List String := ["bokeh", "photonExpandThresholds", "photonGather"]

def Attribute.takesTexts (rule : Attribute) : Bool :=
  rule.validator.any Validator.refusesObjects || handwritten.contains rule.name

/-- The catalog has three attributes with handwritten rules, each with one of its own. -/
theorem catalog_handwritten :
    ((catalog.flatMap ClassTable.attributes).filter fun rule =>
        Attribute.handwritten.contains rule.name).map Attribute.validator =
      [some (.check Catalog.Rules.expandThresholds), some (.check Catalog.Rules.gather),
        some (.coerce Catalog.Rules.bokeh)] := by
  rfl

/-- An attribute of the catalog with a handwritten rule has one of the three. -/
theorem Attribute.validator_of_handwritten {table : ClassTable} (known : table ∈ catalog)
    {rule : Attribute} (member : rule ∈ table.attributes)
    (special : handwritten.contains rule.name = true) {validator : Validator}
    (ruled : rule.validator = some validator) :
    validator = .check Catalog.Rules.expandThresholds ∨ validator = .check Catalog.Rules.gather ∨
      validator = .coerce Catalog.Rules.bokeh := by
  have listed : rule.validator ∈ ((catalog.flatMap ClassTable.attributes).filter fun rule =>
      Attribute.handwritten.contains rule.name).map Attribute.validator :=
    List.mem_map_of_mem
      (List.mem_filter.2 ⟨List.mem_flatMap.2 ⟨table, known, member⟩, special⟩)
  rw [catalog_handwritten, ruled] at listed
  simpa using listed

/-- An attribute whose slot is written as text never holds an object. -/
theorem Attribute.refusesObjects_of_takesTexts {table : ClassTable} (known : table ∈ catalog)
    {rule : Attribute} (member : rule ∈ table.attributes) (takes : rule.takesTexts = true)
    {validator : Validator} (ruled : rule.validator = some validator) :
    validator.RefusesObjects := by
  rw [takesTexts, Bool.or_eq_true] at takes
  rcases takes with plain | special
  · rw [ruled] at plain
    exact Validator.refusesObjects_sound plain
  · rcases validator_of_handwritten known member special ruled with rfl | rfl | rfl
    · exact Validator.refusesObjects_expandThresholds
    · exact Validator.refusesObjects_gather
    · exact Validator.refusesObjects_bokeh

namespace Class

/-- The rule of a mutable attribute, own or inherited. -/
def rule? (cls : Class) (name : String) : Option Attribute :=
  match cls.declaration? name with
  | some (_, .mutable rule) => some rule
  | _ => none

def readsText (cls : Class) (name : String) : Bool := (cls.rule? name).any Attribute.takesTexts

def readsParts (cls : Class) (name : String) : Bool :=
  (cls.rule? name).any fun rule => rule.validator.any Validator.takesPartsOnly

/-- A rule that a class finds under a name is what its line declares under that name. -/
theorem declaration_of_rule {cls : Class} {name : String} {rule : Attribute}
    (ruled : cls.rule? name = some rule) :
    ∃ table, cls.declaration? name = some (table, .mutable rule) := by
  rw [rule?] at ruled
  split at ruled
  · rename_i table found declared
    exact ⟨table, Option.some.inj ruled ▸ declared⟩
  · contradiction

end Class

end SceneCatalog
