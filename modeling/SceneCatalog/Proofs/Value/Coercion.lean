import Mathlib.Data.List.Forall2
import SceneCatalog.Catalog.Rules

/-
This file shows that validators keep the values that they have made.
-/

namespace SceneCatalog

theorem Coordinates.ofNumbers_kind {kind : VectorKind} {numbers : List Float}
    {coordinates : Coordinates} (made : Coordinates.ofNumbers? kind numbers = some coordinates) :
    coordinates.kind = kind := by
  unfold Coordinates.ofNumbers? at made
  split at made
  · rw [← Option.some.inj made]
  · contradiction

/-- A tuple of the kind passes as it is. -/
theorem toVector_vector {kind : VectorKind} {coordinates : Coordinates}
    (sameKind : coordinates.kind = kind) :
    toVector kind (.vector coordinates) = .ok (.vector coordinates) := by
  simp [toVector, sameKind]

/-- Only tuples of the kind come out. -/
theorem toVector_ok_vector {kind : VectorKind} {value stored : Value}
    (accepted : toVector kind value = .ok stored) :
    ∃ coordinates : Coordinates, coordinates.kind = kind ∧ stored = .vector coordinates := by
  cases value with
  | vector coordinates =>
      simp only [toVector, beq_iff_eq] at accepted
      split at accepted
      · rename_i sameKind
        exact ⟨coordinates, sameKind, (Except.ok.inj accepted).symm⟩
      · contradiction
  | list items =>
      simp only [toVector] at accepted
      split at accepted
      · rename_i coordinates made
        obtain ⟨numbers, _, read⟩ := Option.bind_eq_some_iff.1 made
        exact ⟨coordinates, Coordinates.ofNumbers_kind read, (Except.ok.inj accepted).symm⟩
      · contradiction
  | _ => contradiction

theorem toVector_stored {kind : VectorKind} {value stored : Value}
    (accepted : toVector kind value = .ok stored) : toVector kind stored = .ok stored := by
  obtain ⟨coordinates, sameKind, rfl⟩ := toVector_ok_vector accepted
  exact toVector_vector sameKind

/-- Items are read together exactly if each of them can be read. -/
theorem mapM_some_iff {Item Other : Type} {read : Item → Option Other} {items : List Item}
    {found : List Other} :
    items.mapM read = some found ↔
      List.Forall₂ (fun item other => read item = some other) items found := by
  induction items generalizing found with
  | nil => simp [eq_comm]
  | cons first rest inductionHypothesis =>
      rw [List.mapM_cons, List.forall₂_cons_left_iff]
      constructor
      · intro all
        obtain ⟨other, here, continued⟩ := Option.bind_eq_some_iff.1 all
        obtain ⟨others, later, combined⟩ := Option.bind_eq_some_iff.1 continued
        exact ⟨other, others, here, inductionHypothesis.1 later, (Option.some.inj combined).symm⟩
      · rintro ⟨other, others, here, later, rfl⟩
        rw [here, inductionHypothesis.2 later]
        rfl

/-- Every item is coerced by itself, and one refusal refuses the list. -/
theorem mapM_toVector_iff {kind : VectorKind} {items vectors : List Value} :
    items.mapM (fun item => (toVector kind item).toOption) = some vectors ↔
      List.Forall₂ (fun item stored => toVector kind item = .ok stored) items vectors := by
  have made (item stored : Value) :
      (toVector kind item).toOption = some stored ↔ toVector kind item = .ok stored := by
    cases toVector kind item <;> simp [Except.toOption]
  simp only [mapM_some_iff, made]

/-- A list is coerced item by item, within the bounds on its length. -/
theorem toVectors_ok_iff {kind : VectorKind} {least : Nat} {most : Option Nat}
    {value stored : Value} :
    toVectors kind least most value = .ok stored ↔
      ∃ items vectors, value = .list items ∧ stored = .list vectors ∧
        lengthWithin least most items.length = true ∧
        List.Forall₂ (fun item made => toVector kind item = .ok made) items vectors := by
  constructor
  · intro accepted
    cases value with
    | list items =>
        simp only [toVectors] at accepted
        split at accepted
        · rename_i fits
          split at accepted
          · rename_i vectors made
            exact ⟨items, vectors, rfl, (Except.ok.inj accepted).symm, fits,
              mapM_toVector_iff.1 made⟩
          · contradiction
        · contradiction
    | _ => contradiction
  · rintro ⟨items, vectors, rfl, rfl, fits, made⟩
    simp only [toVectors, fits, mapM_toVector_iff.2 made, if_true]

/-- A coerced list is coerced to itself. -/
theorem toVectors_stored {kind : VectorKind} {least : Nat} {most : Option Nat}
    {value stored : Value} (accepted : toVectors kind least most value = .ok stored) :
    toVectors kind least most stored = .ok stored := by
  obtain ⟨items, vectors, rfl, rfl, fits, made⟩ := toVectors_ok_iff.1 accepted
  refine toVectors_ok_iff.2 ⟨vectors, vectors, rfl, rfl, made.length_eq ▸ fits, ?_⟩
  clear fits accepted
  induction made with
  | nil => exact .nil
  | cons itemAccepted _ inductionHypothesis =>
      exact .cons (toVector_stored itemAccepted) inductionHypothesis

/-- A colour that is accepted is stored as a colour, and a stored one is judged by its channels
again. -/
theorem Catalog.Rules.bokeh_stored {value stored : Value}
    (accepted : Catalog.Rules.bokeh value = .ok stored) :
    Catalog.Rules.bokeh stored = .ok stored := by
  unfold Catalog.Rules.bokeh at accepted
  split at accepted
  · contradiction
  · rename_i color made
    dsimp only at accepted
    split at accepted
    · rename_i fits
      obtain rfl := Except.ok.inj accepted
      unfold Catalog.Rules.bokeh
      rw [toVector_stored made]
      dsimp only
      rw [if_pos fits]
    · contradiction

/-- What the validator makes of a value, it accepts without a change. -/
def Validator.Stable (validator : Validator) : Prop :=
  ∀ value stored, validator.apply value = .ok stored → validator.apply stored = .ok stored

/-- Conditions and coercions to tuples, which no class table writes by hand. -/
def Validator.isPlain : Validator → Bool
  | coerce _ => false
  | _ => true

/-- A plain validator accepts what it has stored and stores it unchanged. -/
theorem Validator.stable_of_isPlain {validator : Validator} (plain : validator.isPlain = true) :
    validator.Stable := by
  intro value stored accepted
  cases validator with
  | check condition =>
      simp only [Validator.apply] at accepted ⊢
      split at accepted
      · rename_i holds
        obtain rfl := Except.ok.inj accepted
        rw [if_pos holds]
      · contradiction
  | vector kind => exact toVector_stored accepted
  | vectors kind least most => exact toVectors_stored accepted
  | coerce convert => contradiction

/-- The rule for `bokeh` is stable, since any color it stored passed its test. -/
theorem Validator.stable_bokeh : (Validator.coerce Catalog.Rules.bokeh).Stable :=
  fun _ _ accepted => Catalog.Rules.bokeh_stored accepted

end SceneCatalog
