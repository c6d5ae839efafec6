import SceneCatalog.Proofs.Catalog.Contents

/-
This file shows that no number is stored that is not finite.
-/

namespace SceneCatalog

/-- Each number in the value is finite, and each tuple in it has a finite number for each of its
components. -/
structure Value.Finite (value : Value) : Prop where
  numbers : ∀ number, Within (.float number) value → number.isFinite = true
  tuples : ∀ coordinates, Within (.vector coordinates) value →
    coordinates.components.length = coordinates.kind.arity ∧
      ∀ component ∈ coordinates.components, component.isFinite = true

/-- The value is no number, tuple or list. -/
def Value.isNumberless : Value → Bool
  | float _ => false
  | vector _ => false
  | list _ => false
  | _ => true

namespace Value.Finite

/-- A value that holds no number at all is finite. -/
theorem of_isNumberless {value : Value} (none : value.isNumberless = true) : value.Finite := by
  constructor <;> intro part within <;> cases within <;> contradiction

theorem float {number : Float} (finite : number.isFinite = true) :
    (Value.float number).Finite where
  numbers := by
    intro other within
    cases within
    exact finite
  tuples := by
    intro coordinates within
    cases within

theorem vector (coordinates : Coordinates) : (Value.vector coordinates).Finite where
  numbers := by
    intro number within
    cases within
  tuples := by
    intro other within
    cases within
    exact ⟨coordinates.length_eq, coordinates.finite⟩

/-- A list is finite when each of its items is. -/
theorem list {items : List Value} (each : ∀ item ∈ items, item.Finite) :
    (Value.list items).Finite where
  numbers := by
    intro number within
    cases within with
    | item member inside => exact (each _ member).numbers number inside
  tuples := by
    intro coordinates within
    cases within with
    | item member inside => exact (each _ member).tuples coordinates inside

end Value.Finite

namespace Check

/-- No value that passes has a number in it that is not finite. -/
def refusesInfinities : Check → Bool
  | satisfies _ => false
  | list _ _ item => item.refusesInfinities
  | either first second => first.refusesInfinities && second.refusesInfinities
  | both first second => first.refusesInfinities || second.refusesInfinities
  | _ => true

/-- A check that passes the test accepts finite values only, by induction on the check. -/
theorem finite_of_accepts {check : Check} (refuses : check.refusesInfinities = true)
    {value : Value} (accepted : check.accepts value = true) : value.Finite := by
  induction check generalizing value with
  | list least most item inductionHypothesis =>
      obtain ⟨items, rfl, _, each⟩ := accepts_item accepted
      exact .list fun other member => inductionHypothesis refuses (each other member)
  | either first second firstHypothesis secondHypothesis =>
      have both : first.refusesInfinities = true ∧ second.refusesInfinities = true := by
        simpa [refusesInfinities] using refuses
      have one : first.accepts value = true ∨ second.accepts value = true := by
        simpa [accepts] using accepted
      exact one.elim (firstHypothesis both.1) (secondHypothesis both.2)
  | both first second firstHypothesis secondHypothesis =>
      have one : first.refusesInfinities = true ∨ second.refusesInfinities = true := by
        simpa [refusesInfinities] using refuses
      have both : first.accepts value = true ∧ second.accepts value = true := by
        simpa [accepts] using accepted
      exact one.elim (firstHypothesis · both.1) (secondHypothesis · both.2)
  | satisfies => contradiction
  | _ =>
      -- The other conditions take no lists, and look at numbers only if they are finite.
      cases value with
      | float number =>
          refine .float ?_
          by_contra infinite
          simp [accepts, Value.asBool?, Value.asInt?, Value.finite?, Value.asFloat?, Value.asText?,
            Value.asObject?, Value.className?, infinite] at accepted
      | list items =>
          simp [accepts, Value.asBool?, Value.asInt?, Value.finite?, Value.asFloat?, Value.asText?,
            Value.asObject?, Value.className?] at accepted
      | vector coordinates => exact .vector coordinates
      | _ => exact .of_isNumberless rfl

end Check

namespace Validator

/-- What the validator makes of a value, finite or not, is finite. -/
def RefusesInfinities (validator : Validator) : Prop :=
  ∀ value stored, validator.apply value = .ok stored → stored.Finite

/-- What can be said without a look at conditions written by hand. -/
def refusesInfinities : Validator → Bool
  | check condition => condition.refusesInfinities
  | coerce _ => false
  | _ => true

theorem accepts_of_apply {condition : Check} {value stored : Value}
    (applied : (check condition).apply value = .ok stored) :
    stored = value ∧ condition.accepts value = true := by
  rw [apply] at applied
  split at applied
  · rename_i accepted
    exact ⟨(Except.ok.inj applied).symm, accepted⟩
  · contradiction

/-- A coercion to a vector stores finite values only. -/
theorem finite_of_toVector {kind : VectorKind} {value stored : Value}
    (accepted : toVector kind value = .ok stored) : stored.Finite := by
  obtain ⟨coordinates, _, rfl⟩ := toVector_ok_vector accepted
  exact .vector coordinates

/-- The Boolean test of a validator implies that it stores finite values only. -/
theorem refusesInfinities_sound {validator : Validator}
    (refuses : validator.refusesInfinities = true) : validator.RefusesInfinities := by
  intro value stored applied
  cases validator with
  | check condition =>
      obtain ⟨rfl, accepted⟩ := accepts_of_apply applied
      exact Check.finite_of_accepts refuses accepted
  | vector kind => exact finite_of_toVector applied
  | vectors kind least most =>
      obtain ⟨items, vectors, _, rfl, _, made⟩ := toVectors_ok_iff.1 applied
      refine .list fun item member => ?_
      obtain ⟨_, _, itemMade⟩ := exists_of_forall₂_right made member
      exact finite_of_toVector itemMade
  | coerce convert => contradiction

/-- The rule for `bokeh` stores finite values only, as it ends in a coercion. -/
theorem refusesInfinities_bokeh : (Validator.coerce Catalog.Rules.bokeh).RefusesInfinities := by
  intro value stored applied
  exact finite_of_toVector (Catalog.Rules.toVector_of_bokeh applied)

theorem refusesInfinities_expandThresholds :
    (Validator.check Catalog.Rules.expandThresholds).RefusesInfinities := by
  intro value stored applied
  obtain ⟨rfl, accepted⟩ := accepts_of_apply applied
  obtain ⟨percentage, photons, rfl, number, int⟩ :=
    Catalog.Rules.pair_of_expandThresholds accepted
  have each := And.intro (Check.finite_of_accepts rfl number) (Check.finite_of_accepts rfl int)
  exact .list (by simpa using each)

theorem refusesInfinities_gather : (Validator.check Catalog.Rules.gather).RefusesInfinities := by
  intro value stored applied
  obtain ⟨rfl, accepted⟩ := accepts_of_apply applied
  obtain ⟨low, high, rfl⟩ := Catalog.Rules.pair_of_gather accepted
  have whole (number : Int64) : (Value.int number).Finite := .of_isNumberless rfl
  exact .list (by simpa using And.intro (whole low) (whole high))

end Validator

/-- Every rule of the catalog tests the numbers that it stores. -/
theorem catalog_refusesInfinities {table : ClassTable} (known : table ∈ catalog)
    {rule : Attribute} (member : rule ∈ table.attributes) {validator : Validator}
    (ruled : rule.validator = some validator) : validator.RefusesInfinities := by
  have checked : (catalog.all fun table => table.attributes.all fun rule =>
      rule.validator.any Validator.refusesInfinities ||
        Attribute.handwritten.contains rule.name) = true := by
    decide +kernel
  have here := List.all_eq_true.1 (List.all_eq_true.1 checked table known) rule member
  rw [ruled, Option.any_some, Bool.or_eq_true] at here
  rcases here with plain | special
  · exact Validator.refusesInfinities_sound plain
  · rcases Attribute.validator_of_handwritten known member special ruled with rfl | rfl | rfl
    · exact Validator.refusesInfinities_expandThresholds
    · exact Validator.refusesInfinities_gather
    · exact Validator.refusesInfinities_bokeh

/-- What an attribute of the catalog stores as a literal is finite. -/
theorem Attribute.Settles.finite {table : ClassTable} (known : table ∈ catalog)
    {rule : Attribute} (member : rule ∈ table.attributes) {value : Value}
    (settles : rule.Settles (.literal value)) : value.Finite := by
  cases settles with
  | literal ruled fixed => exact catalog_refusesInfinities known member ruled value value fixed

/-- Whatever is called on an object, with whatever numbers, only finite ones are stored, and tuples
keep as many of them as they have components. -/
theorem run_finite {className : String} {cls : Class}
    (known : catalog.class? className = some cls) {start : Object} (made : cls.Makes start)
    (calls : List Call) {value : Value} (stored : .literal value ∈ (cls.run start calls).slots) :
    value.Finite := by
  have reached : cls.Reachable (cls.run start calls) := ⟨start, calls, made, rfl⟩
  obtain ⟨table, tableMember, rule, ruleMember, settles⟩ := reached.settles known stored
  exact settles.finite ((Catalog.class_known known).2.2 table tableMember) ruleMember

/-- A colour in the unit square of red and green. -/
def Coordinates.amber : Coordinates := ⟨.color, [0.5, 1, 0, 0, 0], rfl, by decide +kernel⟩

/-- A camera keeps the colour that it is given as a list, and none of the angles that are no
numbers. -/
theorem run_finite_camera :
    catalog.class? "Camera" = some Catalog.cameraClass ∧
      Catalog.cameraClass.Makes Catalog.cameraClass.blank ∧
      ∃ object, Catalog.cameraClass.run Catalog.cameraClass.blank [
          .assign "bokeh" (.literal (.list [.float 0.5, .float 1, .float 0])),
          .set "angle" (.literal (.float (0 / 0))),
          .apply (SortedMap.ofList [("angle", .literal (.list [.float 10, .float (1 / 0)]))])] =
          object ∧
        object.get "angle" = .ok none ∧ .literal (.vector .amber) ∈ object.slots ∧
        (Value.vector .amber).Finite := by
  have made : Catalog.cameraClass.Makes Catalog.cameraClass.blank :=
    .options SortedMap.empty rfl rfl
  have stored : .literal (.vector .amber) ∈ (Catalog.cameraClass.run Catalog.cameraClass.blank [
      .assign "bokeh" (.literal (.list [.float 0.5, .float 1, .float 0])),
      .set "angle" (.literal (.float (0 / 0))),
      .apply (SortedMap.ofList
        [("angle", .literal (.list [.float 10, .float (1 / 0)]))])]).slots :=
    List.mem_of_getElem? (show _[4]? = _ from rfl)
  exact ⟨catalog_camera, made, _, rfl, rfl, stored, run_finite catalog_camera made _ stored⟩

end SceneCatalog
