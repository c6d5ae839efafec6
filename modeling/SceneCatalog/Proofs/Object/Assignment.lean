import SceneCatalog.Proofs.Object.Slots

/-
This file states which assignments a class refuses, with which error, and what is read after the
others.
-/

namespace SceneCatalog

namespace Class

/-- Constants and unknown names are refused with any slot, other attributes with literals that the
validator refuses. The error names the declaring class, or the one at the end of the line. -/
inductive Refuses (cls : Class) (name : String) : Slot → SceneError → Prop where
  | readOnly {slot : Slot} {table : ClassTable} {constant : Immutable}
      (inLine : table ∈ cls.tables) (declared : constant ∈ table.immutables)
      (named : constant.name = name) : Refuses cls name slot (.readOnly table.name name)
  | unknown {slot : Slot} {root : ClassTable}
      (undeclared : ∀ table ∈ cls.tables, name ∉ table.attributeNames)
      (last : cls.tables.getLast? = some root) (top : root.superclass = none) :
      Refuses cls name slot (.unknownAttribute root.name name)
  | invalid {value refused : Value} {table : ClassTable} {rule : Attribute} {validator : Validator}
      (inLine : table ∈ cls.tables) (declared : rule ∈ table.attributes) (named : rule.name = name)
      (ruled : rule.validator = some validator)
      (rejected : validator.apply value = .error refused) :
      Refuses cls name (.literal value) (.invalid table.name name rule.complaint)

/-- What is read after the slot has been assigned: literals are seen as their validator gives them
back. -/
inductive Shows (cls : Class) (name : String) : Slot → Option Value → Prop where
  | unset : Shows cls name .unset none
  | raw (code : String) : Shows cls name (.raw code) (some (.code code))
  | deferred (value : Value) : Shows cls name (.deferred value) (some value)
  | literal {value stored : Value} {table : ClassTable} {rule : Attribute} {validator : Validator}
      (inLine : table ∈ cls.tables) (declared : rule ∈ table.attributes) (named : rule.name = name)
      (ruled : rule.validator = some validator) (accepted : validator.apply value = .ok stored) :
      Shows cls name (.literal value) (some stored)

variable {cls : Class} {name : String}

/-- The root of a class is the last table of its line. -/
theorem rootName_of_last {root : ClassTable} (last : cls.tables.getLast? = some root) :
    cls.rootName = root.name := by
  rw [tables, List.getLast?_cons] at last
  rw [rootName, Option.some.inj last]

/-- The class finds the one reason to refuse a slot where no name is declared twice. -/
theorem accept_error_iff (distinct : (cls.tables.flatMap ClassTable.attributeNames).Nodup)
    (rooted : ∃ root, cls.tables.getLast? = some root ∧ root.superclass = none) {slot : Slot}
    {error : SceneError} : cls.accept name slot = .error error ↔ cls.Refuses name slot error := by
  have tableDistinct : ∀ table ∈ cls.tables, table.attributeNames.Nodup :=
    (List.nodup_flatMap.1 distinct).1
  rw [accept, declaration_eq]
  constructor
  · intro refused
    split at refused
    · rename_i undeclared
      obtain ⟨root, last, top⟩ := rooted
      obtain rfl := Except.error.inj refused
      rw [rootName_of_last last]
      exact .unknown (ClassTable.nearest_none_iff.1 undeclared) last top
    · rename_i table declared
      obtain ⟨inLine, fixed⟩ := ClassTable.nearest_mem declared
      obtain ⟨constant, member, named⟩ := ClassTable.declaration_immutable_iff.1 fixed
      obtain rfl := Except.error.inj refused
      exact .readOnly inLine member named
    · rename_i table rule declared
      obtain ⟨inLine, free⟩ := ClassTable.nearest_mem declared
      obtain ⟨member, named⟩ := ClassTable.declaration_mem free
      obtain ⟨value, validator, rest, rfl, ruled, rejected, rfl⟩ :=
        Attribute.accept_error_iff.1 refused
      rw [named]
      exact .invalid inLine member named ruled rejected
  · intro refuses
    cases refuses with
    | readOnly inLine declared named =>
        rw [ClassTable.nearest_of_mem distinct inLine
          (ClassTable.declaration_immutable_iff.2 ⟨_, declared, named⟩)]
    | unknown undeclared last top =>
        rw [ClassTable.nearest_none_iff.2 undeclared, rootName_of_last last]
    | invalid inLine declared named ruled rejected =>
        subst named
        rw [ClassTable.nearest_of_mem distinct inLine
          (ClassTable.declaration_of_mem (tableDistinct _ inLine) declared)]
        exact Attribute.accept_error_iff.2 ⟨_, _, _, rfl, ruled, rejected, rfl⟩

/-- A slot that is accepted is stored in the form in which readers see it. -/
theorem shows_of_accept
    (ruled : ∀ table ∈ cls.tables, ∀ rule ∈ table.attributes, ∃ validator,
      rule.validator = some validator) {slot stored : Slot}
    (accepted : cls.accept name slot = .ok stored) : cls.Shows name slot stored.read := by
  obtain ⟨table, rule, declared, taken⟩ := accept_ok_declared accepted
  obtain ⟨inLine, free⟩ := ClassTable.nearest_mem declared
  obtain ⟨member, named⟩ := ClassTable.declaration_mem free
  obtain ⟨validator, checked⟩ := ruled table inLine rule member
  cases Attribute.takes_of_accept checked taken with
  | unset => exact .unset
  | raw code => exact .raw code
  | deferred value => exact .deferred value
  | literal applies given => exact .literal inLine member named applies given

/-- What has been accepted is read, and nothing else is read differently. -/
theorem get_assign {object next : Object} (fits : cls.Fits object) {slot : Slot}
    (assigned : cls.assign object name slot = .ok next) :
    (∃ stored, cls.accept name slot = .ok stored ∧ next.get name = .ok stored.read) ∧
      ∀ other, other ≠ name → next.get other = object.get other := by
  obtain ⟨stored, accepted, rfl⟩ := assign_ok_iff.1 assigned
  constructor
  · obtain ⟨table, rule, declared, _⟩ := accept_ok_declared accepted
    refine ⟨stored, accepted, ?_⟩
    rw [Object.get, Object.levels_put, read_putInFirst fits declared]
  · intro other different
    exact Object.get_put_other object different stored

/-- An assignment, whether it fails or not, leaves all other attributes as they are. -/
theorem get_after_assign {object : Object} (fits : cls.Fits object) (name : String) (slot : Slot)
    {other : String} (different : other ≠ name) :
    (cls.after object (.assign name slot)).get other = object.get other := by
  rw [after, Call.perform, assigning_eq fits]
  refine @Object.left_atomically (fun left => left.get other = object.get other) _ _ rfl ?_
  intro next assigned
  exact (get_assign fits assigned).2 other different

end Class

/-- An assignment fails exactly for the reasons that its class has to refuse it, and then changes
nothing. Otherwise the attribute reads what has been assigned, and all others read as before. -/
theorem assigning_reads {className : String} {cls : Class}
    (known : catalog.class? className = some cls) {object : Object}
    (reached : cls.Reachable object) (name : String) (slot : Slot) :
    cls.assign object name slot = Object.outcome (cls.assigning name slot object) ∧
      (∀ error, (∃ left, cls.assigning name slot object = .error error left) ↔
        cls.Refuses name slot error) ∧
      (∀ error left, cls.assigning name slot object = .error error left →
        ∀ other, left.get other = object.get other) ∧
      ∀ next, cls.assigning name slot object = .ok () next →
        (∃ value, cls.Shows name slot value ∧ next.get name = .ok value) ∧
          ∀ other, other ≠ name → next.get other = object.get other := by
  have ruled : ∀ table ∈ cls.tables, ∀ rule ∈ table.attributes, ∃ validator,
      rule.validator = some validator := by
    intro table inLine rule member
    obtain ⟨validator, here, _⟩ := (catalog_sound known table inLine).stable rule member
    exact ⟨validator, here⟩
  rw [Class.assigning_eq reached.fits]
  refine ⟨(Object.outcome_atomically object _).symm, ?_, ?_, ?_⟩
  · intro error
    simp only [Object.atomically_error_iff, exists_and_left, exists_eq, and_true]
    rw [Class.assign_error_iff,
      Class.accept_error_iff (catalog_distinct known) (catalog_rooted known)]
  · intro error left failed other
    rw [(Object.atomically_error_iff.1 failed).2]
  · intro next succeeded
    obtain ⟨⟨stored, accepted, here⟩, elsewhere⟩ :=
      Class.get_assign reached.fits (Object.atomically_ok_iff.1 succeeded)
    exact ⟨⟨stored.read, Class.shows_of_accept ruled accepted, here⟩, elsewhere⟩

/-- A constant of cameras is refused, and code for a flag of their base is not. -/
theorem assigning_reads_camera :
    catalog.class? "Camera" = some Catalog.cameraClass ∧
      Catalog.cameraClass.Reachable Catalog.cameraClass.blank ∧
      (∃ left, Catalog.cameraClass.assigning "csg" .unset Catalog.cameraClass.blank =
        .error (.readOnly "Camera" "csg") left) ∧
      ∃ next, Catalog.cameraClass.assigning "hollow" (.raw "on") Catalog.cameraClass.blank =
          .ok () next ∧
        next.get "hollow" = .ok (some (.code "on")) ∧
        next.get "active" = Catalog.cameraClass.blank.get "active" := by
  have reached := Catalog.cameraClass.reachable_blank rfl
  refine ⟨catalog_camera, reached, ?_, ?_⟩
  · have csg : ⟨"csg", .bool false⟩ ∈ Catalog.camera.immutables := .tail _ (.tail _ (.head _))
    obtain ⟨_, refusal, _⟩ := assigning_reads catalog_camera reached "csg" .unset
    exact (refusal _).2 (.readOnly (.head _) csg rfl)
  · obtain ⟨_, _, _, success⟩ := assigning_reads catalog_camera reached "hollow" (.raw "on")
    obtain ⟨⟨value, shows, read⟩, others⟩ := success _ rfl
    cases shows
    exact ⟨_, rfl, read, others "active" (by decide)⟩

end SceneCatalog
