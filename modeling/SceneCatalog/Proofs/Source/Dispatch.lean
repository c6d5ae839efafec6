import Mathlib.Data.List.Find
import SceneCatalog.Proofs.Object.Calls
import SceneCatalog.Proofs.Schema.Ancestry
import SceneCatalog.Proofs.Source.Accessors

/-
This file runs generated code on objects, and shows that it assigns and reads attributes as the
tables of the class say.
-/

namespace SceneCatalog

/-- The slot goes to the field that an identifier names. -/
def Level.store (level : Level) (field : String) (slot : Slot) : Level :=
  { level with
    fields := level.fields.map fun given =>
      if Source.fieldIdent given.name == field then { given with slot } else given }

namespace Source

/-- The change that a setter makes. There is none if the table has no rule at the place. -/
def Setter.mutation? (table : ClassTable) (slot : Slot) : Setter → Option Mutation
  | refuses name => some fun object => .error (.readOnly table.name name) object
  | checks index field => table.attributes[index]?.map fun rule object =>
    match rule.accept table.name slot with
    | .ok stored => .ok () { object with own := object.own.store field stored }
    | .error error => .error error object
  | takes field => some fun object => .ok () { object with own := object.own.store field slot }

/-- What an arm of a getter makes of a slot that it matches. -/
def armValue? (slot : Slot) (arm : String) : Option (Option Value) :=
  match arm, slot with
  | "Slot::Deferred(f) => Some(f()),", .deferred value => some (some value)
  | "Slot::Raw(expr) => Some(Value::Sdl(expr.clone())),", .raw code => some (some (.code code))
  | "Slot::Literal(val) => Some(val.clone()),", .literal value => some (some value)
  | "Slot::Unset => None,", .unset => some none
  | _, _ => none

/-- What a getter returns, if the level has the field. -/
def Getter.value? (level : Level) : Getter → Option (Option Value)
  | copies field =>
    (level.constants.find? fun constant => fieldIdent constant.name == field).map
      fun constant => constant.value.toValue?
  | looks field arms =>
    (level.fields.find? fun given => fieldIdent given.name == field).bind
      fun given => arms.findSome? (armValue? given.slot)

/-- The arms leave no slot out. -/
theorem slotArms_value (slot : Slot) : slotArms.findSome? (armValue? slot) = some slot.read := by
  cases slot <;> rfl

/-- A function of the trait that looks a name up. Its arms call a method between two texts, and its
last arm may make the same call on the superclass. -/
structure Lookup where
  function : String
  start : String
  finish : String
  call : String

def assigning : Lookup := ⟨"assign", "self.", "(val),", "assign(name, val)"⟩

def getting : Lookup := ⟨"get", "Ok(self.", "()),", "get(name)"⟩

/-- A name leads to a method of the class, to its superclass, or nowhere. -/
inductive Destination where
  | method (name : String)
  | base
  | unknown
  deriving Repr, DecidableEq

/-- What stands behind the arrow of the last arm. -/
def otherwise? : Line → Option String
  | .code 3 text => between? "_ => " "," text
  | _ => none

/-- The destination of a name as the lines of the trait give it. -/
def Lookup.destination? (lookup : Lookup) (lines : List Line) (name : String) :
    Option Destination :=
  match (armsOf lookup.function lines).lookup name with
  | some target => (between? lookup.start lookup.finish target).map .method
  | none => do
    let other ← (functionBody lookup.function lines).findSome? otherwise?
    if other = "self.base." ++ lookup.call then some .base
    else if other = "Err(Error::unknown_attribute(Self::NAME, name))" then some .unknown
    else none

/-- The call of `assign` in the code of a class; `base` is the same call on its superclass. -/
def runAssign (table : ClassTable) (base : Option Mutation) (name : String) (slot : Slot) :
    Option Mutation := do
  let methods ← (methodLines table).toOption
  match ← assigning.destination? (traitLines table) name with
  | .method method => (← setter? (statementsOf method methods)).mutation? table slot
  | .base => base.map Mutation.onBase
  | .unknown => some fun object => .error (.unknownAttribute table.name name) object

/-- The call of `get` in the code of a class; `base` is the same call on its superclass. -/
def runGet (table : ClassTable) (base : Object → Option (Except SceneError (Option Value)))
    (name : String) (object : Object) : Option (Except SceneError (Option Value)) := do
  let methods ← (methodLines table).toOption
  match ← getting.destination? (traitLines table) name with
  | .method method => ((← getter? (statementsOf method methods)).value? object.own).map .ok
  | .base =>
    match object.ancestors with
    | [] => none
    | level :: levels => base ⟨level, levels⟩
  | .unknown => some (.error (.unknownAttribute table.name name))

/-- The code of a class calls that of its superclass. -/
def assignCode (own : ClassTable) : List ClassTable → String → Slot → Option Mutation
  | [], name, slot => runAssign own none name slot
  | base :: ancestors, name, slot => runAssign own (assignCode base ancestors name slot) name slot

def getCode (own : ClassTable) :
    List ClassTable → String → Object → Option (Except SceneError (Option Value))
  | [], name => runGet own (fun _ => none) name
  | base :: ancestors, name => runGet own (getCode base ancestors name) name

/-- A text that begins with another character is not read. -/
theorem between_eq_none {start finish text : String} {c other : Char} {tail rest : List Char}
    (begins : start.toList = c :: tail) (begun : text.toList = other :: rest)
    (different : c ≠ other) : between? start finish text = none := by
  refine if_neg fun same => different ?_
  rw [begins, begun] at same
  exact (List.cons.inj same).1

/-- The last arm is the only one that begins with an underscore. -/
theorem otherwise_matchLines (names : List String) {arm : String → String}
    (quoted : ∀ name, ∃ rest, (arm name).toList = '"' :: rest) (other : String) :
    (matchLines names arm other).findSome? otherwise? = some other := by
  have arms : ∀ line ∈ names.map (fun name => Line.code 3 (arm name)), otherwise? line = none := by
    refine List.forall_mem_map.2 fun name _ => ?_
    obtain ⟨rest, begun⟩ := quoted name
    exact between_eq_none rfl begun (by decide)
  have last : otherwise? (.code 3 ("_ => " ++ other ++ ",")) = some other :=
    between_append "_ => " other ","
  rw [matchLines, List.cons_append, List.findSome?_cons, List.findSome?_append,
    List.findSome?_eq_none_iff.2 arms, List.findSome?_cons, last]
  rfl

/-- A name with an arm goes to the method that the arm calls. -/
theorem Lookup.destination_own {lookup : Lookup} {lines : List Line} {name method : String}
    (arm : (armsOf lookup.function lines).lookup name =
      some (lookup.start ++ method ++ lookup.finish)) :
    lookup.destination? lines name = some (.method method) := by
  rw [destination?, arm]
  dsimp only
  rw [between_append, Option.map_some]

/-- Names without an arm go where the last arm leads. -/
theorem Lookup.destination_other {lookup : Lookup} {table : ClassTable} {lines : List Line}
    {name : String} (absent : (armsOf lookup.function lines).lookup name = none)
    (last : (functionBody lookup.function lines).findSome? otherwise? =
      some (fallback table lookup.call))
    (apart : "Err(Error::unknown_attribute(Self::NAME, name))" ≠ "self.base." ++ lookup.call) :
    lookup.destination? lines name =
      some (if table.superclass.isSome then .base else .unknown) := by
  rw [destination?, absent]
  dsimp only
  rw [last, Option.bind_eq_bind, Option.bind_some, fallback]
  cases table.superclass.isSome with
  | true => rw [if_pos rfl, if_pos rfl, if_pos rfl]
  | false =>
      rw [if_neg Bool.false_ne_true, if_neg apart, if_pos rfl, if_neg Bool.false_ne_true]

section Table

variable {table : ClassTable} (wellFormed : table.WellFormed)
include wellFormed

/-- Names that the class does not declare leave it. -/
theorem destination_undeclared {name : String} (undeclared : name ∉ table.attributeNames) :
    assigning.destination? (traitLines table) name =
        some (if table.superclass.isSome then .base else .unknown) ∧
      getting.destination? (traitLines table) name =
        some (if table.superclass.isSome then .base else .unknown) := by
  have quotedAssign (name : String) : ∃ rest, (assignArm name).toList = '"' :: rest := by
    simp only [assignArm, String.toList_append]
    exact ⟨_, rfl⟩
  have quotedGet (name : String) : ∃ rest, (getArm name).toList = '"' :: rest := by
    simp only [getArm, String.toList_append]
    exact ⟨_, rfl⟩
  constructor
  · apply Lookup.destination_other
    · rw [assigning, arms_assign wellFormed, lookup_map_of_notMem undeclared]
    · rw [assigning, functionBody_assign, otherwise_matchLines _ quotedAssign]
    · decide
  · apply Lookup.destination_other
    · rw [getting, arms_get wellFormed, lookup_map_of_notMem undeclared]
    · rw [getting, functionBody_get, otherwise_matchLines _ quotedGet]
    · decide

/-- Names that it declares lead to their own methods. -/
theorem destination_declared {name : String} (declared : name ∈ table.attributeNames) :
    assigning.destination? (traitLines table) name = some (.method (setterIdent name)) ∧
      getting.destination? (traitLines table) name = some (.method (fieldIdent name)) := by
  constructor
  · apply Lookup.destination_own
    rw [assigning, arms_assign wellFormed, lookup_map_of_mem declared]
  · apply Lookup.destination_own
    rw [getting, arms_get wellFormed, lookup_map_of_mem declared]

/-- Fields of different attributes have different identifiers. -/
theorem fieldIdent_beq {first second : String} (firstMember : first ∈ table.attributeNames)
    (secondMember : second ∈ table.attributeNames) :
    (fieldIdent first == fieldIdent second) = (first == second) := by
  rw [Bool.eq_iff_iff, beq_iff_eq, beq_iff_eq]
  refine ⟨fun same => ?_, congrArg fieldIdent⟩
  have methods := congrArg unmarked same
  rw [unmarked_fieldIdent (wellFormed.attributeNames first firstMember),
    unmarked_fieldIdent (wellFormed.attributeNames second secondMember)] at methods
  exact List.inj_on_of_nodup_map (methodNames_nodup wellFormed) firstMember secondMember methods

section Level

variable {level : Level} (fits : Level.Fits table level)
include fits

/-- Identifiers find the fields of a level as the names of the attributes do. -/
theorem fieldIdent_field {name : String} (declared : name ∈ table.attributeNames) {given : Field}
    (member : given ∈ level.fields) :
    (fieldIdent given.name == fieldIdent name) = (given.name == name) := by
  have among : given.name ∈ table.attributes.map (·.name) :=
    fits.names ▸ List.mem_map_of_mem member
  exact fieldIdent_beq wellFormed (List.mem_append_right _ among) declared

/-- What is stored under the identifier of a field is put under the name of its attribute. -/
theorem store_eq {name : String} (declared : name ∈ table.attributeNames) (slot : Slot) :
    level.store (fieldIdent name) slot = level.put name slot := by
  rw [Level.store, Level.put]
  congr 1
  apply List.map_congr_left
  intro given member
  rw [fieldIdent_field wellFormed fits declared member]

/-- The getter of a constant answers as the level does. -/
theorem copies_value {immutable : Immutable} (member : immutable ∈ table.immutables) :
    (Getter.copies (fieldIdent immutable.name)).value? level = level.read? immutable.name := by
  have same := List.find?_congr fun constant inside =>
    fieldIdent_beq wellFormed (ClassTable.immutable_mem_names inside)
      (ClassTable.immutable_mem_names member)
  have found := ClassTable.immutable_of_mem wellFormed.distinct member
  rw [Getter.value?, fits.constants, same, fits.read_immutable found, ← ClassTable.immutable?,
    found, Option.map_some]

/-- The getter of an attribute answers as the level does. -/
theorem looks_value {rule : Attribute} (member : rule ∈ table.attributes) :
    (Getter.looks (fieldIdent rule.name) slotArms).value? level = level.read? rule.name := by
  have same := List.find?_congr fun given inside =>
    fieldIdent_field wellFormed fits (ClassTable.attribute_mem_names member) inside
  obtain ⟨free, _⟩ := ClassTable.attribute_of_declaration
    (ClassTable.declaration_of_mem wellFormed.distinct member)
  rw [Getter.value?, same, Level.read?, fits.constant_eq, free, Option.map_none, Level.slot?]
  cases level.fields.find? (·.name == rule.name) with
  | none => rfl
  | some given => exact slotArms_value given.slot

end Level

section Methods

variable {methods : List Line} (made : methodLines table = .ok methods)
include made

/-- The setter of an attribute does what the rule of the attribute says. -/
theorem setter_mutation {name : String} (declared : name ∈ table.attributeNames) (slot : Slot) :
    ∃ setter mutation, setter? (statementsOf (setterIdent name) methods) = some setter ∧
      setter.mutation? table slot = some mutation ∧
      ∀ object, Level.Fits table object.own → mutation object = table.set name slot object := by
  rcases List.mem_append.1 declared with fixed | ruled
  · obtain ⟨immutable, member, rfl⟩ := List.mem_map.1 fixed
    refine ⟨_, _, (statementsOf_immutable wellFormed made member).2, rfl, fun object _ => ?_⟩
    rw [ClassTable.set, ClassTable.declaration_immutable_iff.2 ⟨immutable, member, rfl⟩]
  · obtain ⟨rule, member, rfl⟩ := List.mem_map.1 ruled
    obtain ⟨index, here⟩ := List.mem_iff_getElem?.1 member
    have found := (statementsOf_attribute wellFormed made here).2
    have rules := ClassTable.declaration_of_mem wellFormed.distinct member
    rw [storing] at found
    split at found
    · refine ⟨_, _, found, by rw [Setter.mutation?, here]; rfl, fun object fits => ?_⟩
      rw [ClassTable.set, rules]
      dsimp only
      cases rule.accept table.name slot with
      | error error => rfl
      | ok stored =>
          dsimp only
          rw [store_eq wellFormed fits declared]
    · rename_i free
      have unchecked : rule.accept table.name slot = .ok slot := by
        rw [Attribute.accept.eq_def, Option.not_isSome_iff_eq_none.1 free]
        cases slot <;> rfl
      refine ⟨_, _, found, rfl, fun object fits => ?_⟩
      rw [ClassTable.set, rules]
      dsimp only
      rw [unchecked, store_eq wellFormed fits declared]

/-- The getter of an attribute returns what is read. -/
theorem getter_value {name : String} (declared : name ∈ table.attributeNames) {level : Level}
    (fits : Level.Fits table level) :
    ∃ getter, getter? (statementsOf (fieldIdent name) methods) = some getter ∧
      getter.value? level = level.read? name := by
  rcases List.mem_append.1 declared with fixed | ruled
  · obtain ⟨immutable, member, rfl⟩ := List.mem_map.1 fixed
    exact ⟨_, (statementsOf_immutable wellFormed made member).1,
      copies_value wellFormed fits member⟩
  · obtain ⟨rule, member, rfl⟩ := List.mem_map.1 ruled
    obtain ⟨index, here⟩ := List.mem_iff_getElem?.1 member
    exact ⟨_, (statementsOf_attribute wellFormed made here).1, looks_value wellFormed fits member⟩

end Methods

end Table

/-- Tables without faults, each that of the superclass of the one before. The last has no
superclass. -/
structure Descent (own : ClassTable) (ancestors : List ClassTable) : Prop where
  wellFormed : ∀ table ∈ own :: ancestors, table.WellFormed
  linked : (own :: ancestors).IsChain fun lower upper => lower.superclass = some upper.name
  top : ∀ root, (own :: ancestors).getLast? = some root → root.superclass = none

/-- The line of a class in tables without faults. -/
theorem descent_of_class {tables : Catalog} (silent : tables.review = .ok ()) {name : String}
    {cls : Class} (known : tables.class? name = some cls) : Descent cls.own cls.ancestors := by
  have inside := (Catalog.class_known known).2.2
  obtain ⟨last, _, ended, met, upward⟩ := Catalog.exists_walk tables name
  have line : tables.lineage name = cls.own :: cls.ancestors := by
    rw [Catalog.class?] at known
    split at known
    · contradiction
    · rename_i own ancestors line
      obtain rfl := Option.some.inj known
      exact line
  rw [line] at met
  constructor
  case wellFormed =>
    exact fun table member => Catalog.wellFormed_of_review silent (inside table member)
  case linked => exact met ▸ upward.linked
  case top =>
    exact fun root atEnd =>
      (Catalog.WellFormed.of_review silent).top upward ended (met.symm ▸ atEnd)

namespace Descent

variable {own base : ClassTable} {ancestors : List ClassTable}

theorem single (descent : Descent own []) : own.superclass.isSome = false := by
  rw [descent.top own rfl]
  rfl

theorem extends_base (descent : Descent own (base :: ancestors)) :
    own.superclass.isSome = true := by
  rw [(List.isChain_cons_cons.1 descent.linked).1]
  rfl

/-- The ancestors are a descent by themselves. -/
theorem tail (descent : Descent own (base :: ancestors)) : Descent base ancestors where
  wellFormed := (List.forall_mem_cons.1 descent.wellFormed).2
  linked := descent.linked.tail
  top := fun root atEnd => descent.top root (by rwa [List.getLast?_cons_cons])

/-- Every class of a descent is well formed and has methods. -/
theorem methods (descent : Descent own ancestors) :
    own.WellFormed ∧ ∃ methods, methodLines own = .ok methods := by
  have wellFormed := descent.wellFormed own (.head _)
  obtain ⟨methods, made, _⟩ := methodLines_regular (literal_of_wellFormed wellFormed)
  exact ⟨wellFormed, methods, made⟩

end Descent

section Run

variable {own : ClassTable} {ancestors : List ClassTable} (descent : Descent own ancestors)
include descent

/-- The arm of a declared name runs the setter of the rule. -/
theorem runAssign_declared {name : String} (declared : name ∈ own.attributeNames) (slot : Slot)
    (base : Option Mutation) :
    ∃ mutation, runAssign own base name slot = some mutation ∧
      ∀ object, Level.Fits own object.own → mutation object = own.set name slot object := by
  obtain ⟨wellFormed, methods, made⟩ := descent.methods
  obtain ⟨setter, mutation, read, runs, same⟩ := setter_mutation wellFormed made declared slot
  refine ⟨mutation, ?_, same⟩
  rw [runAssign, made, (destination_declared wellFormed declared).1]
  change (setter? (statementsOf (setterIdent name) methods)).bind _ = _
  rw [read]
  exact runs

/-- A name without an arm goes on to the base, or is unknown at the root. -/
theorem runAssign_undeclared {name : String} (undeclared : name ∉ own.attributeNames) (slot : Slot)
    (base : Option Mutation) :
    runAssign own base name slot =
      if own.superclass.isSome then base.map Mutation.onBase
      else some fun object => .error (.unknownAttribute own.name name) object := by
  obtain ⟨wellFormed, methods, made⟩ := descent.methods
  rw [runAssign, made, (destination_undeclared wellFormed undeclared).1]
  cases own.superclass.isSome <;> rfl

/-- The arm of a declared name answers as the level does. -/
theorem runGet_declared {name : String} (declared : name ∈ own.attributeNames)
    (base : Object → Option (Except SceneError (Option Value))) {object : Object}
    (fits : Level.Fits own object.own) :
    runGet own base name object = (object.own.read? name).map .ok := by
  obtain ⟨wellFormed, methods, made⟩ := descent.methods
  obtain ⟨getter, read, same⟩ := getter_value wellFormed made declared fits
  rw [runGet, made, (destination_declared wellFormed declared).2]
  change (getter? (statementsOf (fieldIdent name) methods)).bind _ = _
  rw [read, ← same]
  rfl

/-- A name without an arm is read from the base, or is unknown at the root. -/
theorem runGet_undeclared {name : String} (undeclared : name ∉ own.attributeNames)
    (base : Object → Option (Except SceneError (Option Value))) (object : Object) :
    runGet own base name object =
      if own.superclass.isSome then
        match object.ancestors with
        | [] => none
        | level :: levels => base ⟨level, levels⟩
      else some (.error (.unknownAttribute own.name name)) := by
  obtain ⟨wellFormed, methods, made⟩ := descent.methods
  rw [runGet, made, (destination_undeclared wellFormed undeclared).2]
  cases own.superclass.isSome <;> rfl

/-- Generated code assigns a slot as the search through the tables does. -/
theorem assignCode_eq (name : String) (slot : Slot) :
    ∃ mutation, assignCode own ancestors name slot = some mutation ∧
      ∀ object, (Class.mk own ancestors).Fits object →
        mutation object = own.route ancestors name slot object := by
  induction ancestors generalizing own with
  | nil =>
      rw [assignCode]
      by_cases declared : name ∈ own.attributeNames
      · obtain ⟨mutation, run, same⟩ := runAssign_declared descent declared slot none
        exact ⟨mutation, run, fun object fits => same object (List.forall₂_cons.1 fits).1⟩
      · rw [runAssign_undeclared descent declared, descent.single, if_neg Bool.false_ne_true]
        refine ⟨_, rfl, fun object _ => ?_⟩
        rw [ClassTable.route, ClassTable.set, ClassTable.declaration_none_iff.2 declared]
  | cons base ancestors inductionHypothesis =>
      rw [assignCode]
      by_cases declared : name ∈ own.attributeNames
      · obtain ⟨mutation, run, same⟩ := runAssign_declared descent declared slot
          (assignCode base ancestors name slot)
        refine ⟨mutation, run, fun object fits => ?_⟩
        rw [ClassTable.route, if_pos (ClassTable.isSome_declaration_iff.2 declared)]
        exact same object (List.forall₂_cons.1 fits).1
      · obtain ⟨mutation, run, same⟩ := inductionHypothesis descent.tail
        rw [runAssign_undeclared descent declared, descent.extends_base, if_pos rfl, run]
        refine ⟨mutation.onBase, rfl, fun object fits => ?_⟩
        obtain ⟨level, levels⟩ := object
        obtain ⟨_, baseFits⟩ := List.forall₂_cons.1 fits
        obtain ⟨first, rest, _, _, rfl⟩ := List.forall₂_cons_left_iff.1 baseFits
        rw [ClassTable.route, ClassTable.declaration_none_iff.2 declared, Option.isSome_none,
          if_neg Bool.false_ne_true]
        simp only [Mutation.onBase, same ⟨first, rest⟩ baseFits]

omit descent in
/-- An attribute of the class itself is read there. -/
theorem map_read_own {name : String} (declared : name ∈ own.attributeNames) {object : Object}
    (fits : Level.Fits own object.own) :
    (object.own.read? name).map Except.ok = some (object.get name) := by
  have found : object.own.declares name = true := by
    rw [fits.declares_eq, ClassTable.isSome_declaration_iff]
    exact declared
  obtain ⟨value, read⟩ := Option.isSome_iff_exists.1 found
  rw [Object.get, Object.levels, List.findSome?_cons, read]
  rfl

omit descent in
/-- Other attributes are read from the object of the superclass. -/
theorem get_ancestors {level first : Level} {name : String} (silent : level.read? name = none)
    (rest : List Level) :
    (Object.mk level (first :: rest)).get name = (Object.mk first rest).get name := by
  have root : (Object.mk level (first :: rest)).rootName = (Object.mk first rest).rootName := by
    simp [Object.rootName, List.getLast?_cons]
  rw [Object.get, Object.get, root, Object.levels, Object.levels, List.findSome?_cons, silent]

/-- Generated code reads what the object has. -/
theorem getCode_eq (name : String) {object : Object}
    (fits : (Class.mk own ancestors).Fits object) :
    getCode own ancestors name object = some (object.get name) := by
  induction ancestors generalizing own object with
  | nil =>
      rw [getCode]
      obtain ⟨level, levels⟩ := object
      obtain ⟨ownFits, noLevels⟩ := List.forall₂_cons.1 fits
      by_cases declared : name ∈ own.attributeNames
      · rw [runGet_declared descent declared _ ownFits, map_read_own declared ownFits]
      · obtain rfl := List.forall₂_nil_left_iff.1 noLevels
        have silent := ownFits.read_undeclared (ClassTable.declaration_none_iff.2 declared)
        rw [runGet_undeclared descent declared, descent.single, if_neg Bool.false_ne_true,
          ← ownFits.className, Object.get, Object.levels, List.findSome?_cons, silent]
        rfl
  | cons base ancestors inductionHypothesis =>
      rw [getCode]
      obtain ⟨level, levels⟩ := object
      obtain ⟨ownFits, baseFits⟩ := List.forall₂_cons.1 fits
      by_cases declared : name ∈ own.attributeNames
      · rw [runGet_declared descent declared _ ownFits, map_read_own declared ownFits]
      · obtain ⟨first, rest, _, _, rfl⟩ := List.forall₂_cons_left_iff.1 baseFits
        have silent := ownFits.read_undeclared (ClassTable.declaration_none_iff.2 declared)
        rw [runGet_undeclared descent declared, descent.extends_base, if_pos rfl,
          get_ancestors silent]
        exact inductionHypothesis descent.tail baseFits

end Run

section Class

variable {tables : Catalog} (silent : tables.review = .ok ()) {className : String} {cls : Class}
  (known : tables.class? className = some cls)
include silent known

/-- The code of a class without faults makes the assignments of the class. -/
theorem code_assigns (name : String) (slot : Slot) :
    ∃ mutation, assignCode cls.own cls.ancestors name slot = some mutation ∧
      ∀ object, cls.Fits object →
        mutation object = object.atomically (cls.assign object name slot) := by
  obtain ⟨mutation, run, same⟩ := assignCode_eq (descent_of_class silent known) name slot
  exact ⟨mutation, run, fun object fits =>
    (same object fits).trans (ClassTable.route_eq fits name slot)⟩

/-- It reads what the object has, and knows no other names than the object does. -/
theorem code_reads (name : String) {object : Object} (fits : cls.Fits object) :
    getCode cls.own cls.ancestors name object = some (object.get name) :=
  getCode_eq (descent_of_class silent known) name fits

end Class

end Source

end SceneCatalog
