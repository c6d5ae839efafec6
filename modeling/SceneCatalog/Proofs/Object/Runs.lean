import SceneCatalog.Proofs.Object.Calls

/-
This file shows that what holds of new levels, and survives each accepted slot, holds of every
object that a run ends in.
-/

namespace SceneCatalog

namespace Level.Invariant

variable {holds : ClassTable → Level → Prop} (invariant : Level.Invariant holds)
include invariant

theorem makes {cls : Class} {object : Object} (made : cls.Makes object) :
    List.Forall₂ holds cls.tables object.levels := by
  cases made with
  | options _ _ made => exact invariant.assignAll (invariant.blankObject cls) made
  | numbers _ _ _ made => exact invariant.assignAll (invariant.blankObject cls) made

/-- A call of the generated setter keeps the invariant at each level, also when it fails. -/
theorem set {cls : Class} {object : Object} (held : List.Forall₂ holds cls.tables object.levels)
    (name : String) (slot : Slot) :
    List.Forall₂ holds cls.tables (Object.left (cls.own.set name slot object)).levels := by
  obtain ⟨here, later⟩ := List.forall₂_cons.1 held
  rw [ClassTable.set]
  split
  · exact held
  · exact held
  · rename_i rule declared
    split
    · rename_i stored ruled
      exact .cons (invariant.put here declared ruled) later
    · exact held

/-- No call destroys the property, whether it fails or not. -/
theorem perform (call : Call) {cls : Class} {object : Object}
    (held : List.Forall₂ holds cls.tables object.levels) :
    List.Forall₂ holds cls.tables (cls.after object call).levels := by
  induction call generalizing cls object with
  | set name slot => exact invariant.set held name slot
  | assign name slot =>
      rw [Class.after, Call.perform, Class.assigning_eq (invariant.fitsAll held)]
      exact Object.left_atomically held fun next assigned => invariant.assign held assigned
  | apply options =>
      rw [Class.after, Call.perform, Class.applying_eq (invariant.fitsAll held)]
      exact Object.left_atomically held fun next applied => invariant.assignAll held applied
  | base call inductionHypothesis =>
      obtain ⟨own, ancestors⟩ := cls
      cases ancestors with
      | nil => exact held
      | cons base ancestors =>
          obtain ⟨level, levels⟩ := object
          obtain ⟨here, later⟩ := List.forall₂_cons.1 held
          obtain ⟨first, rest, _, _, rfl⟩ := List.forall₂_cons_left_iff.1 later
          rw [Class.after, Call.perform, Class.base?, Mutation.left_onBase]
          have baseHeld : List.Forall₂ holds (Class.mk base ancestors).tables
              (Object.mk first rest).levels := later
          exact .cons here (inductionHypothesis baseHeld)

/-- A run keeps what each of its calls keeps. -/
theorem run {cls : Class} {object : Object} (calls : List Call)
    (held : List.Forall₂ holds cls.tables object.levels) :
    List.Forall₂ holds cls.tables (cls.run object calls).levels := by
  induction calls generalizing object with
  | nil => exact held
  | cons call rest inductionHypothesis => exact inductionHypothesis (invariant.perform call held)

/-- Every reachable object has the invariant at each level, by induction on the calls. -/
theorem reachable {cls : Class} {object : Object} (reached : cls.Reachable object) :
    List.Forall₂ holds cls.tables object.levels := by
  obtain ⟨start, calls, made, rfl⟩ := reached
  exact invariant.run calls (invariant.makes made)

end Level.Invariant

/-- A reachable object has the fields of its class. -/
theorem Class.Reachable.fits {cls : Class} {object : Object} (reached : cls.Reachable object) :
    cls.Fits object :=
  Level.Fits.invariant.reachable reached

/-- A run of calls can be cut at any place. -/
theorem Class.run_append (cls : Class) (object : Object) (calls later : List Call) :
    cls.run object (calls ++ later) = cls.run (cls.run object calls) later :=
  List.foldl_append

theorem Class.Reachable.run {cls : Class} {object : Object} (reached : cls.Reachable object)
    (calls : List Call) : cls.Reachable (cls.run object calls) := by
  obtain ⟨start, earlier, made, rfl⟩ := reached
  exact ⟨start, earlier ++ calls, made, cls.run_append start earlier calls⟩

theorem Class.Reachable.after {cls : Class} {object : Object} (reached : cls.Reachable object)
    (call : Call) : cls.Reachable (cls.after object call) :=
  reached.run [call]

end SceneCatalog
