import SceneCatalog.Proofs.Object.Preservation

/-
This file describes the calls that change an object in place, and shows that they end where the
assignments of its class end.
-/

namespace SceneCatalog

/-- A change of an object. One that fails leaves behind what it has done so far. -/
abbrev Mutation := EStateM SceneError Object Unit

/-- The object is what the result holds, or as it was before. -/
def Object.atomically (object : Object) :
    Except SceneError Object → EStateM.Result SceneError Object Unit
  | .ok next => .ok () next
  | .error error => .error error object

/-- The object at the end of a change, whether it has failed or not. -/
def Object.left : EStateM.Result SceneError Object Unit → Object
  | .ok () object => object
  | .error _ object => object

/-- An atomic call keeps a property that its successful results have. -/
theorem Object.left_atomically {property : Object → Prop} {object : Object}
    {result : Except SceneError Object} (before : property object)
    (kept : ∀ next, result = .ok next → property next) :
    property (left (object.atomically result)) := by
  cases result with
  | ok next => exact kept next rfl
  | error _ => exact before

theorem Object.atomically_ok_iff {object next : Object} {result : Except SceneError Object} :
    object.atomically result = .ok () next ↔ result = .ok next := by
  cases result <;> simp [atomically]

/-- A failing atomic call hands the object back as it was. -/
theorem Object.atomically_error_iff {object left : Object} {result : Except SceneError Object}
    {error : SceneError} :
    object.atomically result = .error error left ↔ result = .error error ∧ left = object := by
  cases result <;> simp [atomically, eq_comm]

/-- The object that a change has made, unless it has failed. -/
def Object.outcome : EStateM.Result SceneError Object Unit → Except SceneError Object
  | .ok () object => .ok object
  | .error error _ => .error error

/-- The outcome of an atomic call is the result it was given. -/
@[simp] theorem Object.outcome_atomically (object : Object)
    (result : Except SceneError Object) : outcome (object.atomically result) = result := by
  cases result <;> rfl

theorem Object.outcome_ok_iff {result : EStateM.Result SceneError Object Unit} {next : Object} :
    outcome result = .ok next ↔ result = .ok () next := by
  cases result <;> simp [outcome]

/-- The part of an object that belongs to its superclass changes. -/
def Mutation.onBase (mutation : Mutation) : Mutation := fun object =>
  match object.ancestors with
  | [] => .ok () object
  | level :: levels =>
    match mutation ⟨level, levels⟩ with
    | .ok () base => .ok () { object with ancestors := base.levels }
    | .error error base => .error error { object with ancestors := base.levels }

/-- A change to the base leaves the object's own level as it is. -/
theorem Mutation.left_onBase (mutation : Mutation) (own first : Level) (rest : List Level) :
    Object.left (mutation.onBase ⟨own, first :: rest⟩) =
      ⟨own, (Object.left (mutation ⟨first, rest⟩)).levels⟩ := by
  simp only [onBase]
  cases mutation ⟨first, rest⟩ <;> rfl

/-- A class has a mutator for each attribute that it declares itself. -/
def ClassTable.set (table : ClassTable) (name : String) (slot : Slot) : Mutation := fun object =>
  match table.declaration? name with
  | none => .error (.unknownAttribute table.name name) object
  | some .immutable => .error (.readOnly table.name name) object
  | some (.mutable rule) =>
    match rule.accept table.name slot with
    | .ok stored => .ok () { object with own := object.own.put name stored }
    | .error error => .error error object

/-- Names that a class does not declare itself are handed on to its superclass. -/
def ClassTable.route (own : ClassTable) : List ClassTable → String → Slot → Mutation
  | [], name, slot => own.set name slot
  | base :: ancestors, name, slot =>
    if (own.declaration? name).isSome then own.set name slot
    else (base.route ancestors name slot).onBase

namespace Class

def base? (cls : Class) : Option Class :=
  match cls.ancestors with
  | [] => none
  | own :: ancestors => some ⟨own, ancestors⟩

def assigning (cls : Class) (name : String) (slot : Slot) : Mutation :=
  cls.own.route cls.ancestors name slot

def assigningEach (cls : Class) : List (String × Slot) → Mutation
  | [] => pure ()
  | (name, slot) :: rest => do
    cls.assigning name slot
    cls.assigningEach rest

/-- The options go to a copy, which replaces the object once all of them have passed. -/
def applying (cls : Class) (options : Options) : Mutation := fun object =>
  object.atomically (Object.outcome (cls.assigningEach options.entries object))

end Class

/-- The options go to a fresh level above an object of the superclass without options. -/
def ClassTable.construct (own : ClassTable) :
    List ClassTable → Options → Except SceneError Object
  | [], options => fill ⟨own.blank, []⟩ [] options
  | base :: ancestors, options =>
    match base.construct ancestors SortedMap.empty with
    | .ok object => fill ⟨own.blank, object.levels⟩ (base :: ancestors) options
    | .error error => .error error
where
  fill (object : Object) (ancestors : List ClassTable) (options : Options) :
      Except SceneError Object :=
    Object.outcome ((Class.mk own ancestors).assigningEach options.entries object)

def Class.construct (cls : Class) (options : Options) : Except SceneError Object :=
  cls.own.construct cls.ancestors options

/-- A call on an object, or on the part of it that belongs to its superclass. -/
inductive Call where
  | set (name : String) (slot : Slot)
  | assign (name : String) (slot : Slot)
  | apply (options : Options)
  | base (call : Call)

def Call.perform : Call → Class → Mutation
  | .set name slot, cls => cls.own.set name slot
  | .assign name slot, cls => cls.assigning name slot
  | .apply options, cls => cls.applying options
  | .base call, cls =>
    match cls.base? with
    | some superclass => (call.perform superclass).onBase
    | none => pure ()

namespace Class

/-- What the call leaves of the object. -/
def after (cls : Class) (object : Object) (call : Call) : Object :=
  Object.left (call.perform cls object)

/-- Calls that fail do not end a run. -/
def run (cls : Class) (object : Object) (calls : List Call) : Object :=
  calls.foldl cls.after object

/-- Classes without parameters of their own are made from options, the others from numbers. -/
inductive Makes (cls : Class) : Object → Prop where
  | options {object : Object} (options : Options) (standard : cls.own.takesOptions = true)
      (made : cls.new options = .ok object) : Makes cls object
  | numbers {object : Object} (numbers : List Float) (special : cls.own.takesOptions = false)
      (each : numbers.length = cls.own.required.length)
      (made : cls.newFromNumbers numbers = .ok object) : Makes cls object

/-- The objects that runs of calls on made objects end in. -/
def Reachable (cls : Class) (object : Object) : Prop :=
  ∃ start calls, cls.Makes start ∧ cls.run start calls = object

/-- The blank object of a class is reachable when its constructor takes options. -/
theorem reachable_blank (cls : Class) (standard : cls.own.takesOptions = true) :
    cls.Reachable cls.blank :=
  ⟨cls.blank, [], .options SortedMap.empty standard rfl, rfl⟩

end Class

/-! A class that does not declare a name treats it as its superclass does. -/

section Inherited

variable {own base : ClassTable} {ancestors : List ClassTable} {name : String}

/-- A name that the class itself declares is not looked up in its ancestors. -/
theorem Class.declaration_own {found : Declaration}
    (declared : own.declaration? name = some found) :
    (Class.mk own ancestors).declaration? name = some (own, found) := by
  rw [declaration_eq, tables, ClassTable.nearest_cons, declared]

/-- A name that the class does not declare is looked up from its base. -/
theorem Class.declaration_base (undeclared : own.declaration? name = none) :
    (Class.mk own (base :: ancestors)).declaration? name =
      (Class.mk base ancestors).declaration? name := by
  rw [declaration_eq, tables, ClassTable.nearest_cons, undeclared]
  rfl

/-- The base decides on a slot whose name the class does not declare. -/
theorem Class.accept_base (undeclared : own.declaration? name = none) (slot : Slot) :
    (Class.mk own (base :: ancestors)).accept name slot =
      (Class.mk base ancestors).accept name slot := by
  have sameRoot : (Class.mk own (base :: ancestors)).rootName =
      (Class.mk base ancestors).rootName := by
    simp [rootName, List.getLast?_cons]
  rw [accept, accept, declaration_base undeclared, sameRoot]

/-- A slot that the own level declares is stored there. -/
theorem Object.put_own {object : Object} (declares : object.own.declares name = true)
    (slot : Slot) : object.put name slot = { object with own := object.own.put name slot } := by
  rw [put, if_pos declares]

/-- A slot that the own level does not declare is stored in the base. -/
theorem Object.put_base {level first : Level} {rest : List Level}
    (undeclared : level.declares name = false) (slot : Slot) :
    (Object.mk level (first :: rest)).put name slot =
      { own := level, ancestors := ((Object.mk first rest).put name slot).levels } := by
  rw [put, if_neg (by simp [undeclared]), levels_put]
  rfl

end Inherited

/-- The mutator of an attribute does what an assignment does. -/
theorem ClassTable.set_eq {own : ClassTable} {ancestors : List ClassTable} {object : Object}
    (fits : Level.Fits own object.own) {name : String} {found : Declaration}
    (declared : own.declaration? name = some found) (slot : Slot) :
    own.set name slot object =
      object.atomically ((Class.mk own ancestors).assign object name slot) := by
  have declares : object.own.declares name = true := by
    rw [fits.declares_eq, declared, Option.isSome_some]
  rw [set, Class.assign, Class.accept, Class.declaration_own declared, declared]
  cases found with
  | immutable => rfl
  | mutable rule =>
      dsimp only
      cases rule.accept own.name slot with
      | error error => rfl
      | ok stored => simp only [Except.map, Object.atomically, Object.put_own declares]

/-- The search for the mutator ends where an assignment ends. -/
theorem ClassTable.route_eq {ancestors : List ClassTable} {own : ClassTable} {object : Object}
    (fits : (Class.mk own ancestors).Fits object) (name : String) (slot : Slot) :
    own.route ancestors name slot object =
      object.atomically ((Class.mk own ancestors).assign object name slot) := by
  induction ancestors generalizing own object with
  | nil =>
      cases declared : own.declaration? name with
      | some found => exact set_eq (List.forall₂_cons.1 fits).1 declared slot
      | none =>
          have unknown : (Class.mk own []).declaration? name = none := by
            rw [Class.declaration_eq, Class.tables, nearest_cons, declared]
            rfl
          rw [route, set, declared, Class.assign, Class.accept, unknown]
          rfl
  | cons base ancestors inductionHypothesis =>
      rw [route]
      cases declared : own.declaration? name with
      | some found => exact set_eq (List.forall₂_cons.1 fits).1 declared slot
      | none =>
          obtain ⟨level, levels⟩ := object
          obtain ⟨ownFits, baseFits⟩ := List.forall₂_cons.1 fits
          obtain ⟨first, rest, firstFits, restFits, rfl⟩ := List.forall₂_cons_left_iff.1 baseFits
          have silent : level.declares name = false := by
            rw [ownFits.declares_eq, declared, Option.isSome_none]
          have routed : base.route ancestors name slot ⟨first, rest⟩ = _ :=
            inductionHypothesis baseFits
          simp only [Option.isSome_none, Bool.false_eq_true, if_false, Mutation.onBase, routed,
            Class.assign, Class.accept_base declared]
          cases (Class.mk base ancestors).accept name slot with
          | error error => rfl
          | ok stored => simp only [Except.map, Object.atomically, Object.put_base silent]

namespace Class

variable {cls : Class} {object : Object}

/-- The generated assignment is the assignment of the class, made atomic. -/
theorem assigning_eq (fits : cls.Fits object) (name : String) (slot : Slot) :
    cls.assigning name slot object = object.atomically (cls.assign object name slot) :=
  ClassTable.route_eq fits name slot

/-- Assigning in place, one pair after the other, makes what assigning all pairs makes. -/
theorem outcome_assigningEach (fits : cls.Fits object) (pairs : List (String × Slot)) :
    Object.outcome (cls.assigningEach pairs object) = cls.assignAll object pairs := by
  induction pairs generalizing object with
  | nil => rfl
  | cons pair rest inductionHypothesis =>
      obtain ⟨name, slot⟩ := pair
      simp only [assigningEach, bind, EStateM.bind, assigning_eq fits, assignAll]
      cases assigned : cls.assign object name slot with
      | error error => rfl
      | ok next =>
          exact inductionHypothesis (Level.Fits.invariant.assign fits assigned)

/-- An object is changed by all options or stays as it is. -/
theorem applying_eq (fits : cls.Fits object) (options : Options) :
    cls.applying options object = object.atomically (cls.apply object options) := by
  rw [applying, outcome_assigningEach fits, apply]

/-- The generated constructor is the constructor of the class. -/
theorem construct_eq (cls : Class) (options : Options) :
    cls.construct options = cls.new options := by
  obtain ⟨own, ancestors⟩ := cls
  rw [construct]
  dsimp only
  have filled (own : ClassTable) (ancestors : List ClassTable) (options : Options) :
      ClassTable.construct.fill own (Class.mk own ancestors).blank ancestors options =
        (Class.mk own ancestors).new options := by
    rw [ClassTable.construct.fill, outcome_assigningEach (Level.Fits.invariant.blankObject _), new]
  induction ancestors generalizing own options with
  | nil => exact filled own [] options
  | cons base ancestors inductionHypothesis =>
      rw [ClassTable.construct, inductionHypothesis]
      exact filled own (base :: ancestors) options

end Class

end SceneCatalog
