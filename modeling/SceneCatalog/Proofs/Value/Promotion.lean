import SceneCatalog.Proofs.Catalog.Contents

/-
This file says which values become tuples, which tuples they become, and what is handed back for
all other values.
-/

namespace SceneCatalog

/-- An integer or a float, and the number that it stands for. -/
inductive Value.Counts : Value → Float → Prop where
  | float (number : Float) : Counts (.float number) number
  | int (number : Int64) : Counts (.int number) (Float.ofInt number.toInt)

theorem Value.counts_iff {value : Value} {number : Float} :
    value.Counts number ↔ value.asFloat? = some number := by
  constructor
  · rintro (_ | _) <;> rfl
  · intro read
    cases value with
    | float own => exact Option.some.inj read ▸ .float own
    | int own => exact Option.some.inj read ▸ .int own
    | _ => contradiction

/-- A list of finite numbers, not fewer than the kind needs and not more than it has channels. -/
inductive Value.Spells (kind : VectorKind) : Value → List Float → Prop where
  | list {items : List Value} {numbers : List Float}
      (each : List.Forall₂ Value.Counts items numbers) (enough : kind.leastArity ≤ items.length)
      (room : items.length ≤ kind.arity) (finite : ∀ number ∈ numbers, number.isFinite = true) :
      Spells kind (.list items) numbers

/-- A tuple of the kind stays as it is. Numbers become the tuple of them, with zeros for the
channels that are left out. -/
inductive Value.Promotes (kind : VectorKind) : Value → Value → Prop where
  | tuple {coordinates : Coordinates} (sameKind : coordinates.kind = kind) :
      Promotes kind (.vector coordinates) (.vector coordinates)
  | numbers {value : Value} {numbers : List Float} {coordinates : Coordinates}
      (spelled : value.Spells kind numbers) (sameKind : coordinates.kind = kind)
      (padded : coordinates.components =
        numbers ++ List.replicate (kind.arity - numbers.length) 0) :
      Promotes kind value (.vector coordinates)

namespace Coordinates

/-- Numbers make coordinates when they are finite and of a length the kind has, with zeros behind
them. -/
theorem ofNumbers_some_iff {kind : VectorKind} {numbers : List Float} {coordinates : Coordinates} :
    ofNumbers? kind numbers = some coordinates ↔
      (kind.leastArity ≤ numbers.length ∧ numbers.length ≤ kind.arity ∧
        ∀ number ∈ numbers, number.isFinite = true) ∧
      coordinates.kind = kind ∧
      coordinates.components = numbers ++ List.replicate (kind.arity - numbers.length) 0 := by
  unfold ofNumbers?
  split
  · rename_i fits
    rw [and_iff_right fits, Option.some.injEq]
    constructor
    · rintro rfl
      exact ⟨rfl, rfl⟩
    · rintro ⟨sameKind, padded⟩
      cases coordinates
      simp_all
  · rename_i unfit
    simp [unfit]

/-- Finite numbers make a tuple if they are as many as the kind takes. -/
theorem exists_ofNumbers {kind : VectorKind} {numbers : List Float}
    (fits : kind.leastArity ≤ numbers.length ∧ numbers.length ≤ kind.arity ∧
      ∀ number ∈ numbers, number.isFinite = true) :
    ∃ coordinates, ofNumbers? kind numbers = some coordinates := by
  rw [ofNumbers?, dif_pos fits]
  exact ⟨_, rfl⟩

/-- The components of a tuple make the tuple. -/
theorem ofNumbers_components (coordinates : Coordinates) :
    ofNumbers? coordinates.kind coordinates.components = some coordinates := by
  have least : coordinates.kind.leastArity ≤ coordinates.kind.arity := by
    cases coordinates.kind <;> decide
  rw [ofNumbers_some_iff, coordinates.length_eq, Nat.sub_self, List.replicate_zero,
    List.append_nil]
  exact ⟨⟨least, Nat.le_refl _, coordinates.finite⟩, rfl, rfl⟩

end Coordinates

/-- A list is read as floats when each item counts for its number. -/
theorem Value.floats_list_iff {items : List Value} {numbers : List Float} :
    (list items).floats? = some numbers ↔ List.Forall₂ Value.Counts items numbers := by
  rw [floats?, asList?, Option.bind_some, mapM_some_iff]
  exact ⟨fun read => read.imp fun _ _ => counts_iff.2, fun each => each.imp fun _ _ => counts_iff.1⟩

/-- A value spells the numbers of a kind when it is a list of so many finite numbers. -/
theorem Value.spells_iff {kind : VectorKind} {value : Value} {numbers : List Float} :
    value.Spells kind numbers ↔ ∃ items, value = .list items ∧
      value.floats? = some numbers ∧ kind.leastArity ≤ numbers.length ∧
      numbers.length ≤ kind.arity ∧ ∀ number ∈ numbers, number.isFinite = true := by
  constructor
  · rintro ⟨each, enough, room, finite⟩
    rw [each.length_eq] at enough room
    exact ⟨_, rfl, floats_list_iff.2 each, enough, room, finite⟩
  · rintro ⟨items, rfl, read, enough, room, finite⟩
    have each := floats_list_iff.1 read
    rw [← each.length_eq] at enough room
    exact .list each enough room finite

/-- Some tuple has the numbers of a list that spells one. -/
theorem Value.Spells.promotes {kind : VectorKind} {value : Value} {numbers : List Float}
    (spelled : value.Spells kind numbers) :
    ∃ coordinates, value.Promotes kind (.vector coordinates) := by
  obtain ⟨_, _, _, fits⟩ := spells_iff.1 spelled
  obtain ⟨coordinates, made⟩ := Coordinates.exists_ofNumbers fits
  obtain ⟨_, sameKind, padded⟩ := Coordinates.ofNumbers_some_iff.1 made
  exact ⟨coordinates, .numbers spelled sameKind padded⟩

/-- The coercion succeeds with exactly the values the kind promotes. -/
theorem toVector_ok_iff {kind : VectorKind} {value stored : Value} :
    toVector kind value = .ok stored ↔ value.Promotes kind stored := by
  constructor
  · intro accepted
    cases value with
    | vector coordinates =>
        simp only [toVector, beq_iff_eq] at accepted
        split at accepted
        · rename_i sameKind
          exact Except.ok.inj accepted ▸ .tuple sameKind
        · contradiction
    | list items =>
        simp only [toVector] at accepted
        split at accepted
        · rename_i coordinates made
          obtain ⟨numbers, read, made⟩ := Option.bind_eq_some_iff.1 made
          obtain ⟨⟨enough, room, finite⟩, sameKind, padded⟩ :=
            Coordinates.ofNumbers_some_iff.1 made
          have spelled : (Value.list items).Spells kind numbers :=
            Value.spells_iff.2 ⟨items, rfl, read, enough, room, finite⟩
          exact Except.ok.inj accepted ▸ .numbers spelled sameKind padded
        · contradiction
    | _ => contradiction
  · intro promotes
    cases promotes with
    | tuple sameKind => exact toVector_vector sameKind
    | numbers spelled sameKind padded =>
        obtain ⟨items, rfl, read, fits⟩ := Value.spells_iff.1 spelled
        have made := Coordinates.ofNumbers_some_iff.2 ⟨fits, sameKind, padded⟩
        simp only [toVector, read, Option.bind_some, made]

/-- A refused value is handed back as it came. -/
theorem toVector_error {kind : VectorKind} {value refused : Value}
    (rejected : toVector kind value = .error refused) : refused = value := by
  cases value with
  | vector coordinates =>
      rw [toVector] at rejected
      split at rejected
      · contradiction
      · exact (Except.error.inj rejected).symm
  | list items =>
      simp only [toVector] at rejected
      split at rejected
      · contradiction
      · exact (Except.error.inj rejected).symm
  | _ => exact (Except.error.inj rejected).symm

/-- A list that is refused comes back without the tuples that some of its items have become. -/
theorem toVectors_error {kind : VectorKind} {least : Nat} {most : Option Nat}
    {value refused : Value} (rejected : toVectors kind least most value = .error refused) :
    refused = value := by
  cases value with
  | list items =>
      simp only [toVectors] at rejected
      split at rejected
      · split at rejected
        · contradiction
        · exact (Except.error.inj rejected).symm
      · exact (Except.error.inj rejected).symm
  | _ => exact (Except.error.inj rejected).symm

/-- The components of a tuple, written as a list, become the tuple. -/
theorem toVector_components (coordinates : Coordinates) :
    toVector coordinates.kind (.list (coordinates.components.map .float)) =
      .ok (.vector coordinates) := by
  have read : (Value.list (coordinates.components.map .float)).floats? =
      some coordinates.components := by
    rw [Value.floats_list_iff, List.forall₂_map_left_iff, List.forall₂_same]
    exact fun number _ => .float number
  simp only [toVector, read, Option.bind_some, coordinates.ofNumbers_components]

/-- A list is coerced exactly when its length is within the bounds and each item can be coerced. -/
theorem toVectors_isOk_iff {kind : VectorKind} {least : Nat} {most : Option Nat} {value : Value} :
    (∃ stored, toVectors kind least most value = .ok stored) ↔
      ∃ items, value = .list items ∧ least ≤ items.length ∧
        (∀ bound ∈ most, items.length ≤ bound) ∧
        ∀ item ∈ items, ∃ made, toVector kind item = .ok made := by
  have within (items : List Value) : lengthWithin least most items.length = true ↔
      least ≤ items.length ∧ ∀ bound ∈ most, items.length ≤ bound := by
    cases most <;> simp [lengthWithin]
  simp only [toVectors_ok_iff]
  constructor
  · rintro ⟨stored, items, vectors, rfl, rfl, fits, made⟩
    obtain ⟨enough, room⟩ := (within items).1 fits
    refine ⟨items, rfl, enough, room, fun item member => ?_⟩
    obtain ⟨vector, _, itemMade⟩ := exists_of_forall₂_right made.flip member
    exact ⟨vector, itemMade⟩
  · rintro ⟨items, rfl, enough, room, each⟩
    obtain ⟨vectors, made⟩ : ∃ vectors,
        List.Forall₂ (fun item made => toVector kind item = .ok made) items vectors := by
      obtain ⟨vectors, made⟩ := mapM_isOk_iff.2 each
      exact ⟨vectors, mapM_ok_iff.1 made⟩
    exact ⟨_, items, vectors, rfl, rfl, (within items).2 ⟨enough, room⟩, made⟩

/-- What becomes of a value where a tuple of a kind is wanted. Exactly the tuples of the kind and
the lists of numbers that spell one become tuples of it. What has become a tuple, and the list of
its components, become the same tuple again. A value that is refused comes back as it was. -/
structure Becomes (kind : VectorKind) (value : Value) : Prop where
  accepted : (∃ stored, toVector kind value = .ok stored) ↔
    (∃ coordinates : Coordinates, coordinates.kind = kind ∧ value = .vector coordinates) ∨
      ∃ numbers, value.Spells kind numbers
  promoted : ∀ stored, toVector kind value = .ok stored → value.Promotes kind stored
  settled : ∀ stored, toVector kind value = .ok stored → toVector kind stored = .ok stored
  components : ∀ coordinates : Coordinates, coordinates.kind = kind →
    toVector kind (.list (coordinates.components.map .float)) = .ok (.vector coordinates)
  refused : ∀ refused, toVector kind value = .error refused → refused = value

/-- What becomes of a value where a list of tuples is wanted: lists of values that become tuples
become the lists of them, item by item, and others come back as they were. -/
structure BecomesList (kind : VectorKind) (least : Nat) (most : Option Nat) (value : Value) :
    Prop where
  accepted : (∃ stored, toVectors kind least most value = .ok stored) ↔
    ∃ items, value = .list items ∧ least ≤ items.length ∧
      (∀ bound ∈ most, items.length ≤ bound) ∧
      ∀ item ∈ items, ∃ made, toVector kind item = .ok made
  promoted : ∀ stored, toVectors kind least most value = .ok stored →
    ∃ items vectors, value = .list items ∧ stored = .list vectors ∧
      List.Forall₂ (fun item made => toVector kind item = .ok made) items vectors
  refused : ∀ refused, toVectors kind least most value = .error refused → refused = value

/-- Values become tuples, and lists of them lists of tuples, in this way and no other. -/
theorem toVector_exact (kind : VectorKind) (value : Value) :
    Becomes kind value ∧ ∀ least most, BecomesList kind least most value := by
  refine ⟨⟨?_, fun _ => toVector_ok_iff.1, fun _ => toVector_stored, ?_, fun _ => toVector_error⟩,
    fun least most => ⟨toVectors_isOk_iff, ?_, fun _ => toVectors_error⟩⟩
  · simp only [toVector_ok_iff]
    constructor
    · rintro ⟨stored, promotes⟩
      cases promotes with
      | tuple sameKind => exact .inl ⟨_, sameKind, rfl⟩
      | numbers spelled _ _ => exact .inr ⟨_, spelled⟩
    · rintro (⟨coordinates, sameKind, rfl⟩ | ⟨numbers, spelled⟩)
      · exact ⟨_, .tuple sameKind⟩
      · obtain ⟨coordinates, promotes⟩ := spelled.promotes
        exact ⟨_, promotes⟩
  · rintro coordinates rfl
    exact toVector_components coordinates
  · intro stored accepted
    obtain ⟨items, vectors, shape, made, _, each⟩ := toVectors_ok_iff.1 accepted
    exact ⟨items, vectors, shape, made, each⟩

/-- What the validator refuses, it hands back as it was given. -/
def Validator.HandsBack (validator : Validator) : Prop :=
  ∀ value refused, validator.apply value = .error refused → refused = value

/-- A plain validator that refuses a value hands it back. -/
theorem Validator.handsBack_of_isPlain {validator : Validator} (plain : validator.isPlain = true) :
    validator.HandsBack := by
  intro value refused rejected
  cases validator with
  | check condition =>
      rw [apply] at rejected
      split at rejected
      · contradiction
      · exact (Except.error.inj rejected).symm
  | vector kind => exact toVector_error rejected
  | vectors kind least most => exact toVectors_error rejected
  | coerce convert => contradiction

/-- Bokeh colours that are refused come back as they were, or as the colour that a list has
become. -/
theorem Catalog.Rules.bokeh_error {value refused : Value}
    (rejected : Catalog.Rules.bokeh value = .error refused) :
    refused = value ∨ toVector .color value = .ok refused := by
  rw [bokeh] at rejected
  split at rejected
  · rename_i back unmade
    exact .inl (Except.error.inj rejected ▸ toVector_error unmade)
  · rename_i color made
    dsimp only at rejected
    split at rejected
    · contradiction
    · exact .inr (Except.error.inj rejected ▸ made)

/-- A list of three numbers, the first of which is too large for a bokeh colour. -/
def Catalog.Rules.glaring : Value := .list [.int 2, .int 0, .int 0]

/-- The colour that the list becomes. -/
def Catalog.Rules.glare : Coordinates := ⟨.color, [2, 0, 0, 0, 0], rfl, by decide⟩

theorem Catalog.Rules.bokeh_glaring : bokeh glaring = .error (.vector glare) := rfl

/-- The rule for `bokeh` does not hand back every value that it refuses. -/
theorem Validator.not_handsBack_bokeh : ¬(Validator.coerce Catalog.Rules.bokeh).HandsBack := by
  intro handsBack
  have same := handsBack Catalog.Rules.glaring (.vector Catalog.Rules.glare)
    Catalog.Rules.bokeh_glaring
  contradiction

/-- Every attribute of the catalog hands back what it refuses, except for the bokeh of cameras. That
one hands back the colour that a refused list has become. -/
theorem Attribute.handsBack_iff {table : ClassTable} (tableMember : table ∈ catalog)
    {rule : Attribute} (member : rule ∈ table.attributes) {validator : Validator}
    (ruled : rule.validator = some validator) :
    (validator.HandsBack ↔ ¬(table.name = "Camera" ∧ rule.name = "bokeh")) ∧
      ∀ value refused, validator.apply value = .error refused →
        refused = value ∨ toVector .color value = .ok refused := by
  have checked : (catalog.all fun table => table.attributes.all fun rule =>
      rule.validator.all fun validator =>
        validator.isPlain == !(table.name == "Camera" && rule.name == "bokeh")) = true := by
    decide
  have here := List.all_eq_true.1 (List.all_eq_true.1 checked table tableMember) rule member
  rw [ruled, Option.all_some, beq_iff_eq] at here
  by_cases special : table.name = "Camera" ∧ rule.name = "bokeh"
  · have handwritten : handwritten.contains rule.name = true := special.2 ▸ rfl
    have unplain : validator.isPlain = false := by simpa [special] using here
    obtain rfl : validator = .coerce Catalog.Rules.bokeh := by
      rcases validator_of_handwritten tableMember member handwritten ruled with rfl | rfl | rfl
      · contradiction
      · contradiction
      · rfl
    exact ⟨iff_of_false Validator.not_handsBack_bokeh (not_not_intro special),
      fun value refused => Catalog.Rules.bokeh_error⟩
  · have plain : validator.isPlain = true := by
      rw [here, Bool.not_eq_true', Bool.and_eq_false_iff, beq_eq_false_iff_ne, beq_eq_false_iff_ne]
      exact not_and_or.1 special
    have handsBack := Validator.handsBack_of_isPlain plain
    exact ⟨iff_of_true handsBack special,
      fun value refused rejected => .inl (handsBack value refused rejected)⟩

end SceneCatalog
