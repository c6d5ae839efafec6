import SceneCatalog.Proofs.Catalog.Lines
import SceneCatalog.Proofs.Object.Runs
import SceneCatalog.Proofs.Options.Collecting
import SceneCatalog.Proofs.Text.ByteOrder

/-
This file shows that a batch of options is assigned as a whole or not at all, in whatever order it
is given.
-/

namespace SceneCatalog

namespace Class

variable {cls : Class} {object next : Object} {pairs : List (String × Slot)}

/-- A batch succeeds when its first pair is accepted and the rest succeeds on what that leaves. -/
theorem assignAll_cons_ok_iff {pair : String × Slot} :
    cls.assignAll object (pair :: pairs) = .ok next ↔
      ∃ stored, cls.accept pair.1 pair.2 = .ok stored ∧
        cls.assignAll (object.put pair.1 stored) pairs = .ok next := by
  rw [assignAll, assign]
  cases cls.accept pair.1 pair.2 <;> simp [Except.map]

/-- What comes before does not decide whether a slot is accepted. -/
theorem assignAll_succeeds_iff :
    (∃ next, cls.assignAll object pairs = .ok next) ↔
      ∀ pair ∈ pairs, ∃ stored, cls.accept pair.1 pair.2 = .ok stored := by
  induction pairs generalizing object with
  | nil => simp [assignAll]
  | cons pair rest inductionHypothesis =>
      simp only [assignAll_cons_ok_iff, List.forall_mem_cons]
      constructor
      · rintro ⟨next, stored, accepted, assigned⟩
        exact ⟨⟨stored, accepted⟩, inductionHypothesis.1 ⟨next, assigned⟩⟩
      · rintro ⟨⟨stored, accepted⟩, others⟩
        obtain ⟨next, assigned⟩ := inductionHypothesis.2 others
        exact ⟨next, stored, accepted, assigned⟩

/-- The error is that of the first pair that is refused. -/
theorem first_refused {error : SceneError} (failed : cls.assignAll object pairs = .error error) :
    ∃ before pair after, pairs = before ++ pair :: after ∧
      (∀ earlier ∈ before, ∃ stored, cls.accept earlier.1 earlier.2 = .ok stored) ∧
      cls.accept pair.1 pair.2 = .error error := by
  induction pairs generalizing object with
  | nil => contradiction
  | cons pair rest inductionHypothesis =>
      rw [assignAll] at failed
      split at failed
      · rename_i middle assigned
        obtain ⟨stored, accepted, _⟩ := assign_ok_iff.1 assigned
        obtain ⟨before, refused, after, rfl, earlier, here⟩ := inductionHypothesis failed
        refine ⟨pair :: before, refused, after, rfl, ?_, here⟩
        exact List.forall_mem_cons.2 ⟨⟨stored, accepted⟩, earlier⟩
      · rename_i refused assigned
        obtain rfl := Except.error.inj failed
        exact ⟨[], pair, rest, rfl, by simp, assign_error_iff.1 assigned⟩

/-- Assignments of different attributes may change places. -/
theorem assignAll_perm {others : List (String × Slot)} (permuted : pairs.Perm others)
    (distinct : (pairs.map (·.1)).Nodup) (assigned : cls.assignAll object pairs = .ok next) :
    cls.assignAll object others = .ok next := by
  induction permuted generalizing object with
  | nil => exact assigned
  | cons pair _ inductionHypothesis =>
      obtain ⟨stored, accepted, later⟩ := assignAll_cons_ok_iff.1 assigned
      exact assignAll_cons_ok_iff.2
        ⟨stored, accepted, inductionHypothesis (List.nodup_cons.1 distinct).2 later⟩
  | swap first second rest =>
      have different : second.1 ≠ first.1 := by
        intro same
        simp [same] at distinct
      obtain ⟨secondStored, secondAccepted, later⟩ := assignAll_cons_ok_iff.1 assigned
      obtain ⟨firstStored, firstAccepted, rest⟩ := assignAll_cons_ok_iff.1 later
      rw [Object.put_comm object different] at rest
      exact assignAll_cons_ok_iff.2
        ⟨firstStored, firstAccepted, assignAll_cons_ok_iff.2 ⟨secondStored, secondAccepted, rest⟩⟩
  | trans left _ toMiddle toRight =>
      exact toRight ((left.map _).nodup_iff.1 distinct) (toMiddle distinct assigned)

/-- Whether an assignment succeeds is decided by the rule alone, whatever the object holds. -/
theorem assigning_succeeds_iff (fits : cls.Fits object) {name : String} {slot : Slot} :
    (∃ next, cls.assigning name slot object = .ok () next) ↔
      ∃ stored, cls.accept name slot = .ok stored := by
  simp only [assigning_eq fits, Object.atomically_ok_iff, assign_ok_iff]
  constructor
  · rintro ⟨next, stored, accepted, _⟩
    exact ⟨stored, accepted⟩
  · rintro ⟨stored, accepted⟩
    exact ⟨object.put name stored, stored, accepted, rfl⟩

end Class

/-- Options pass together if each of them passes alone, and then they may be assigned in any order.
If they do not, the object stays as it is, and the error is that of the refused name whose bytes
come first. -/
theorem applying_transaction {cls : Class} {object : Object} (reached : cls.Reachable object)
    (options : Options) :
    cls.apply object options = Object.outcome (cls.applying options object) ∧
      ((∃ next, cls.applying options object = .ok () next) ↔
        ∀ pair ∈ options.entries, ∃ next, cls.assigning pair.1 pair.2 object = .ok () next) ∧
      (∀ next, cls.applying options object = .ok () next →
        ∀ pairs : List (String × Slot), pairs.Perm options.entries →
          cls.assigningEach pairs object = .ok () next) ∧
      ∀ error left, cls.applying options object = .error error left →
        (∀ name, left.get name = object.get name) ∧
          ∃ pair ∈ options.entries, cls.assigning pair.1 pair.2 object = .error error object ∧
            ∀ earlier ∈ options.entries, Text.bytes earlier.1 < Text.bytes pair.1 →
              ∃ next, cls.assigning earlier.1 earlier.2 object = .ok () next := by
  simp only [Class.assigning_succeeds_iff reached.fits, Class.applying_eq reached.fits,
    Object.atomically_ok_iff, Object.atomically_error_iff]
  refine ⟨(Object.outcome_atomically object _).symm, Class.assignAll_succeeds_iff, ?_, ?_⟩
  · intro next applied pairs permuted
    have assigned := Class.assignAll_perm permuted.symm options.entries_keys_nodup applied
    rw [← Class.outcome_assigningEach reached.fits] at assigned
    exact Object.outcome_ok_iff.1 assigned
  · rintro error left ⟨failed, rfl⟩
    refine ⟨fun _ => rfl, ?_⟩
    obtain ⟨before, pair, after, entries, earlierPass, refused⟩ := Class.first_refused failed
    refine ⟨pair, by simp [entries], ?_, ?_⟩
    · rw [Class.assigning_eq reached.fits]
      exact Object.atomically_error_iff.2 ⟨Class.assign_error_iff.2 refused, rfl⟩
    · intro earlier member less
      rw [Text.bytes_lt_iff] at less
      exact earlierPass earlier (options.mem_before_of_lt entries member less)

/-- Of two options for a camera the one for a constant is refused, and the other one is not kept. -/
theorem applying_transaction_camera :
    Catalog.cameraClass.Reachable Catalog.cameraClass.blank ∧
      ∃ left, Catalog.cameraClass.applying
          (SortedMap.ofList [("active", .raw "off"), ("csg", .unset)])
          Catalog.cameraClass.blank = .error (.readOnly "Camera" "csg") left ∧
        ∀ name, left.get name = Catalog.cameraClass.blank.get name := by
  have reached := Catalog.cameraClass.reachable_blank rfl
  refine ⟨reached, _, rfl, ?_⟩
  obtain ⟨_, _, _, failure⟩ := applying_transaction reached
    (SortedMap.ofList [("active", .raw "off"), ("csg", .unset)])
  exact (failure _ _ rfl).1

/-- The constructor does what an update of an object without options does, and the order in which
the options are collected or inserted does not count. -/
theorem construct_applying (cls : Class) {pairs : List (String × Slot)}
    (distinct : (pairs.map (·.1)).Nodup) :
    cls.new (SortedMap.ofList pairs) = cls.construct (SortedMap.ofList pairs) ∧
      (∃ blank, cls.construct SortedMap.empty = .ok blank ∧
        cls.applying (SortedMap.ofList pairs) blank =
          blank.atomically (cls.construct (SortedMap.ofList pairs))) ∧
      ∀ others : List (String × Slot), others.Perm pairs →
        cls.construct (SortedMap.ofList others) = cls.construct (SortedMap.ofList pairs) ∧
        cls.construct (SortedMap.collect others) = cls.construct (SortedMap.ofList pairs) := by
  refine ⟨(Class.construct_eq cls _).symm, ⟨cls.blank, Class.construct_eq cls _, ?_⟩, ?_⟩
  · have fits : cls.Fits cls.blank := Level.Fits.invariant.blankObject cls
    rw [Class.applying_eq fits, Class.construct_eq, Class.apply, Class.new]
  · intro others permuted
    rw [SortedMap.collect_eq, SortedMap.ofList_perm permuted distinct]
    exact ⟨rfl, rfl⟩

theorem construct_applying_camera :
    ([("hollow", Slot.raw "on"), ("active", Slot.unset)].map (·.1)).Nodup ∧
      Catalog.cameraClass.construct
          (SortedMap.collect [("active", .unset), ("hollow", .raw "on")]) =
        Catalog.cameraClass.construct
          (SortedMap.ofList [("hollow", .raw "on"), ("active", .unset)]) := by
  have distinct : ([("hollow", Slot.raw "on"), ("active", Slot.unset)].map (·.1)).Nodup := by
    decide
  obtain ⟨_, _, alike⟩ := construct_applying Catalog.cameraClass distinct
  exact ⟨distinct, (alike _ (.swap _ _ [])).2⟩

end SceneCatalog
