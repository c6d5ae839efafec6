import Mathlib.Data.List.Nodup
import SceneCatalog.Proofs.Source.Identifiers

/-
This file reads the members of a generated class off its lines, and shows that no two of them share
a name.
-/

namespace SceneCatalog.Source

open Text

/-- The text in front of a mark. -/
def before (mark : Char) (text : List Char) : String := String.ofList (text.takeWhile (· != mark))

/-- A field is declared in front of a colon, one stop inside its structure. -/
def field? : Line → Option String
  | .code 1 text => some (before ':' text.toList)
  | _ => none

/-- A method is declared in front of its parameters, one stop inside its implementation. -/
def method? : Line → Option String
  | .code 1 text =>
    if "pub fn ".toList.isPrefixOf text.toList then some (before '(' (text.toList.drop 7))
    else none
  | _ => none

/-- An arm has a string for its pattern, and leads to what stands behind the arrow. -/
def arm? : Line → Option (String × String)
  | .code 3 text =>
    match text.toList with
    | '"' :: rest =>
      -- A quote and the arrow between two blanks follow the pattern.
      let pattern := before '"' rest
      some (pattern, String.ofList (rest.drop (pattern.length + 5)))
    | _ => none
  | _ => none

/-- The line begins a function of a trait. -/
def begins (function : String) : Line → Bool
  | .code 1 text => ("fn " ++ function ++ "(").toList.isPrefixOf text.toList
  | _ => false

/-- The line stands inside a function. -/
def isInner : Line → Bool
  | .code stops _ => stops != 1
  | _ => false

/-- The lines of a function of a trait, without the first and the last. -/
def functionBody (function : String) (lines : List Line) : List Line :=
  ((lines.dropWhile fun line => !begins function line).drop 1).takeWhile isInner

/-- The arms in the body of a function, in their order. -/
def armsOf (function : String) (lines : List Line) : List (String × String) :=
  (((lines.dropWhile fun line => !begins function line).drop 1).takeWhile isInner).filterMap arm?

/-- An identifier names the same as the word behind its mark. -/
def unmarked (name : String) : String :=
  match name.toList with
  | 'r' :: '#' :: word => String.ofList word
  | _ => name

/-- The methods that a class has from its trait. -/
def traitMethods : List String :=
  ["assign", "get", "apply", "descriptor", "missing_required", "require"]

/-- What the lines of a class declare. -/
structure Declares (table : ClassTable) (methodLines : List Line) : Prop where
  fields : (structLines table).filterMap field? =
    table.superclass.toList.map (fun _ => "base") ++ table.attributeNames.map fieldIdent
  methods : methodLines.filterMap method? =
    "new" :: table.attributeNames.flatMap fun name => [fieldIdent name, setterIdent name]
  assigned : armsOf "assign" (traitLines table) =
    table.attributeNames.map fun name => (name, "self." ++ setterIdent name ++ "(val),")
  read : armsOf "get" (traitLines table) =
    table.attributeNames.map fun name => (name, "Ok(self." ++ fieldIdent name ++ "()),")

/-- No two members of a class have one name, and no method has the name of one that the trait
brings. Each attribute is looked up under its own name. -/
structure Apart (table : ClassTable) (methodLines : List Line) : Prop where
  fields : (((structLines table).filterMap field?).map unmarked).Nodup
  methods : ((methodLines.filterMap method?).map unmarked).Nodup
  inherent : ∀ method ∈ methodLines.filterMap method?, unmarked method ∉ traitMethods
  assigned : ((armsOf "assign" (traitLines table)).map Prod.fst).Nodup
  read : ((armsOf "get" (traitLines table)).map Prod.fst).Nodup
  setter : ∀ name ∈ table.attributeNames, (armsOf "assign" (traitLines table)).lookup name =
    some ("self." ++ setterIdent name ++ "(val),")
  getter : ∀ name ∈ table.attributeNames, (armsOf "get" (traitLines table)).lookup name =
    some ("Ok(self." ++ fieldIdent name ++ "()),")

/-- What stands before the first mark is read back. -/
theorem before_append {mark : Char} {name : List Char} (absent : mark ∉ name) (tail : List Char) :
    before mark (name ++ mark :: tail) = String.ofList name := by
  have other : ∀ c ∈ name, (c != mark) = true := by
    intro c member
    rw [bne_iff_ne]
    rintro rfl
    exact absent member
  rw [before, List.takeWhile_append_of_pos other, List.takeWhile_cons_of_neg (by simp),
    List.append_nil]

/-- Each item has a line of its own. -/
theorem filterMap_lines {Item Member : Type} {line : Item → Line} {read : Line → Option Member}
    {member : Item → Member} (items : List Item)
    (each : ∀ item ∈ items, read (line item) = some (member item)) :
    (items.map line).filterMap read = items.map member := by
  rw [List.filterMap_map, List.filterMap_eq_map_iff_forall_eq_some]
  exact each

/-- The head of a method is read as its name. -/
theorem method_of_name {name text : String} {tail : List Char} (absent : '(' ∉ name.toList)
    (spelled : text.toList = "pub fn ".toList ++ (name.toList ++ '(' :: tail)) :
    method? (.code 1 text) = some name := by
  have behind : ("pub fn ".toList ++ (name.toList ++ '(' :: tail)).drop 7 =
      name.toList ++ '(' :: tail := rfl
  rw [method?, spelled, if_pos (List.isPrefixOf_iff_prefix.2 (List.prefix_append _ _)), behind,
    before_append absent, String.ofList_toList]

theorem unmarked_of_snake {name : String} (snake : SnakeCase name.toList) :
    unmarked name = name := by
  rw [unmarked]
  split
  · rename_i word spelled
    have second := snake.all '#' (by simp [spelled])
    exact absurd second (by decide)
  · rfl

section Names

variable {name : String} (proper : Naming.Proper Char.isLower name)
include proper

/-- Without its mark a field bears the method name. -/
theorem unmarked_fieldIdent : unmarked (fieldIdent name) = Naming.methodName name := by
  rw [fieldIdent_eq proper]
  split
  · have spelled : ("r#" ++ Naming.methodName name).toList =
        'r' :: '#' :: (Naming.methodName name).toList := String.toList_append
    rw [unmarked, spelled]
    exact String.ofList_toList
  · exact unmarked_of_snake (Naming.snakeCase_methodName proper)

/-- The line of a field is read as the field. -/
theorem field_fieldIdent {type : String} {tail : List Char} (colon : type.toList = ':' :: tail) :
    field? (.code 1 (fieldIdent name ++ type)) = some (fieldIdent name) := by
  have absent := not_mem_fieldIdent proper (by decide : isSnake ':' = false) (by decide)
  rw [field?, String.toList_append, colon, before_append absent, String.ofList_toList]

/-- The head of a getter is read as the field. -/
theorem method_getterLine : method? (.code 1 ("pub fn " ++ fieldIdent name ++
    "(&self) -> Option<Value>" ++ opening)) = some (fieldIdent name) := by
  apply method_of_name (not_mem_fieldIdent proper (by decide : isSnake '(' = false) (by decide))
  rw [String.toList_append, String.toList_append, String.toList_append, List.append_assoc,
    List.append_assoc]
  rfl

/-- The head of a getter declares the field's method. -/
theorem methods_getterHead : (getterHead name).filterMap method? = [fieldIdent name] := by
  have unused : method? (.code 1 "#[must_use]") = none := by decide
  rw [getterHead, List.filterMap_cons_none rfl, List.filterMap_cons_none rfl,
    List.filterMap_cons_none unused, List.filterMap_cons_some (method_getterLine proper),
    List.filterMap_nil]

/-- The head of a setter is read as the setter. -/
theorem method_setterHead (argument : String) :
    method? (setterHead name argument) = some (setterIdent name) := by
  have absent : '(' ∉ (setterIdent name).toList := fun member =>
    absurd ((snakeCase_setterIdent proper).all _ member) (by decide)
  apply method_of_name absent
  simp only [String.toList_append, List.append_assoc]
  rfl

theorem methods_immutableLines (value : Constant) :
    (immutableLines ⟨name, value⟩).filterMap method? = [fieldIdent name, setterIdent name] := by
  have closed : method? (.code 1 closing) = none := by decide
  rw [immutableLines, List.filterMap_append, methods_getterHead proper]
  simp only [List.filterMap_cons, closed, method_setterHead proper]
  rfl

theorem methods_attributeLines {declared : Attribute} (named : declared.name = name) (index : Nat) :
    (attributeLines (declared, index)).filterMap method? =
      [fieldIdent name, setterIdent name] := by
  have closed : method? (.code 1 closing) = none := by decide
  have stores : (storeLines index declared).filterMap method? = [] := by
    rw [storeLines]
    split <;> rfl
  rw [attributeLines, named, List.filterMap_append, List.filterMap_append, List.filterMap_append,
    methods_getterHead proper, stores]
  simp only [List.filterMap_cons, closed, method_setterHead proper]
  rfl

end Names

/-- A class has a field for each name it lists, below the one for its base. -/
theorem fields_structLines {table : ClassTable} (wellFormed : table.WellFormed) :
    (structLines table).filterMap field? =
      table.superclass.toList.map (fun _ => "base") ++ table.attributeNames.map fieldIdent := by
  have base (superclass : String) :
      field? (.code 1 ("base: " ++ superclass ++ ",")) = some "base" := by
    have spelled : "base: ".toList = "base".toList ++ [':', ' '] := rfl
    rw [field?, String.toList_append, String.toList_append, spelled, List.append_assoc,
      List.append_assoc, List.cons_append, before_append (by decide), String.ofList_toList]
  have proper := wellFormed.attributeNames
  rw [ClassTable.attributeNames, List.forall_mem_append, List.forall_mem_map,
    List.forall_mem_map] at proper
  have bases := filterMap_lines table.superclass.toList fun superclass _ => base superclass
  have immutables := filterMap_lines table.immutables fun immutable member =>
    field_fieldIdent (proper.1 immutable member) (rfl : ": Option<Value>,".toList = _)
  have attributes := filterMap_lines table.attributes fun rule member =>
    field_fieldIdent (proper.2 rule member) (rfl : ": Slot,".toList = _)
  have start : [Line.code 0 "#[derive(Clone, Debug)]",
      .code 0 ("pub struct " ++ table.name ++ opening)].filterMap field? = [] := rfl
  have finish : [Line.code 0 closing].filterMap field? = [] := rfl
  rw [structLines, List.filterMap_append, List.filterMap_append, List.filterMap_append,
    List.filterMap_append, start, bases, immutables, attributes, finish, List.nil_append,
    List.append_nil, List.append_assoc, ClassTable.attributeNames, List.map_append, List.map_map,
    List.map_map]
  rfl

/-- A reader that skips blank lines reads parts one by one. -/
theorem filterMap_spaced {Member : Type} {read : Line → Option Member} (empty : read .blank = none)
    (parts : List (List Line)) :
    (spaced parts).filterMap read = parts.flatMap (List.filterMap read) := by
  induction parts with
  | nil => rfl
  | cons part rest inductionHypothesis =>
      cases rest with
      | nil => simp [spaced]
      | cons next rest =>
          rw [spaced_cons_cons, List.filterMap_append, List.filterMap_cons_none empty,
            inductionHypothesis]
          rfl

section Readers

variable {Member : Type} {read : Line → Option Member} (blank : read .blank = none)
  (inner : ∀ stops text, read (.code (stops + 2) text) = none)
  (rows : ∀ stops cells, read (.rows stops cells) = none)

include inner rows in
theorem filterMap_fieldTable (heading : String) (cells : List (List String)) :
    (fieldTable heading cells).filterMap read = [] := by
  rw [fieldTable]
  split
  · rfl
  · rw [List.filterMap_cons_none (inner 1 _), List.filterMap_cons_none (rows 3 _),
      List.filterMap_nil]

include blank inner in
theorem filterMap_bodyLines (body : String) : (bodyLines body).filterMap read = [] := by
  rw [List.filterMap_eq_nil_iff]
  intro line member
  obtain ⟨text, _, rfl⟩ := List.mem_map.1 member
  dsimp only
  split
  · exact blank
  · exact inner 0 _

include blank inner rows

/-- Whoever reads no line further inside reads only the first and the last line of a constructor. -/
theorem filterMap_constructorLines {table : ClassTable} {lines : List Line}
    (made : constructorLines table = .ok lines) :
    lines.filterMap read =
      [Line.code 1 ("pub fn new(" ++ table.parameters.getD "options: Options" ++
        ") -> Result<Self, Error>" ++ opening), .code 1 closing].filterMap read := by
  obtain ⟨immutables, _, rest⟩ := ok_of_bind made
  obtain ⟨attributes, _, rest⟩ := ok_of_bind rest
  obtain rfl := Except.ok.inj rest
  have bases : (table.superclass.toList.map fun superclass =>
      Line.code 3 ("base: " ++ superclass ++ "::new(Options::new())?,")).filterMap read = [] :=
    List.filterMap_eq_nil_iff.2 (List.forall_mem_map.2 fun _ _ => inner 1 _)
  have options : optionsBody.filterMap read = [] := by
    simp only [optionsBody, List.filterMap_cons, inner 0, inner 1, List.filterMap_nil]
  simp only [List.filterMap_append, List.filterMap_cons, List.filterMap_nil, bases, blank, inner 0,
    filterMap_fieldTable inner rows, List.append_nil]
  cases table.body with
  | none =>
      dsimp only
      rw [options]
      cases read (.code 1 _) <;> rfl
  | some body =>
      dsimp only
      rw [filterMap_bodyLines blank inner]
      cases read (.code 1 _) <;> rfl

end Readers

/-- What is read off the methods of a class is read off its constructor and then off the methods of
each attribute. -/
theorem filterMap_methodLines {Member : Type} {read : Line → Option Member}
    (blank : read .blank = none) (outer : ∀ text, read (.code 0 text) = none) {table : ClassTable}
    (members : String → List Member)
    (immutables : ∀ immutable ∈ table.immutables,
      (immutableLines immutable).filterMap read = members immutable.name)
    (attributes : ∀ rule ∈ table.attributes, ∀ index,
      (attributeLines (rule, index)).filterMap read = members rule.name)
    {lines : List Line} (made : methodLines table = .ok lines) :
    ∃ constructor, constructorLines table = .ok constructor ∧
      lines.filterMap read =
        constructor.filterMap read ++ table.attributeNames.flatMap members := by
  obtain ⟨constructor, constructed, rest⟩ := ok_of_bind made
  obtain rfl := Except.ok.inj rest
  refine ⟨constructor, constructed, ?_⟩
  have line (text : String) : [Line.code 0 text].filterMap read = [] :=
    List.filterMap_cons_none (outer text)
  have each : (table.attributes.zipIdx.map attributeLines).flatMap (List.filterMap read) =
      table.attributes.flatMap fun rule => members rule.name := by
    conv_rhs => rw [← List.zipIdx_map_fst 0 table.attributes, List.flatMap_map]
    rw [List.flatMap_map]
    exact List.flatMap_congr fun entry member =>
      attributes entry.1 (List.fst_mem_of_mem_zipIdx member) entry.2
  rw [List.filterMap_append, List.filterMap_append, line, line, filterMap_spaced blank,
    List.nil_append, List.append_nil, List.cons_append, List.flatMap_cons, List.flatMap_append,
    each, List.flatMap_map, List.flatMap_congr immutables, ClassTable.attributeNames,
    List.flatMap_append, List.flatMap_map, List.flatMap_map]

/-- The constructor is the one method `new`. -/
theorem methods_constructorLines {table : ClassTable} {lines : List Line}
    (made : constructorLines table = .ok lines) : lines.filterMap method? = ["new"] := by
  have constructor : method? (.code 1 ("pub fn new(" ++ table.parameters.getD "options: Options" ++
      ") -> Result<Self, Error>" ++ opening)) = some "new" := by
    apply method_of_name (by decide)
    simp only [String.toList_append, List.append_assoc]
    rfl
  have closed : method? (.code 1 closing) = none := by decide
  rw [filterMap_constructorLines rfl (fun _ _ => rfl) (fun _ _ => rfl) made,
    List.filterMap_cons_some constructor, List.filterMap_cons_none closed, List.filterMap_nil]

/-- A class has the method `new` and two methods for each name it lists. -/
theorem methods_methodLines {table : ClassTable} (wellFormed : table.WellFormed)
    {lines : List Line} (made : methodLines table = .ok lines) :
    lines.filterMap method? =
      "new" :: table.attributeNames.flatMap fun name => [fieldIdent name, setterIdent name] := by
  have proper := wellFormed.attributeNames
  rw [ClassTable.attributeNames, List.forall_mem_append, List.forall_mem_map,
    List.forall_mem_map] at proper
  obtain ⟨constructor, constructed, found⟩ := filterMap_methodLines rfl (fun _ => rfl)
    (fun name => [fieldIdent name, setterIdent name])
    (fun immutable member => methods_immutableLines (proper.1 immutable member) immutable.value)
    (fun rule member index => methods_attributeLines (proper.2 rule member) rfl index) made
  rw [found, methods_constructorLines constructed]
  rfl

/-- A line inside a function begins no function. -/
theorem begins_of_isInner {function : String} {line : Line} (inside : isInner line = true) :
    begins function line = false := by
  unfold begins
  split
  · contradiction
  · rfl

theorem armsOf_eq (function : String) (lines : List Line) :
    armsOf function lines = (functionBody function lines).filterMap arm? := rfl

/-- The body of a function ends in front of the first line that is not further inside. -/
theorem functionBody_eq {function : String} {start body rest : List Line} {head next : Line}
    (before : ∀ line ∈ start, begins function line = false) (here : begins function head = true)
    (inside : ∀ line ∈ body, isInner line = true) (outside : isInner next = false) :
    functionBody function (start ++ head :: (body ++ next :: rest)) = body := by
  have passed : ∀ line ∈ start, (!begins function line) = true := fun line member => by
    rw [before line member]
    rfl
  rw [functionBody, List.dropWhile_append_of_pos passed,
    List.dropWhile_cons_of_neg (by simp [here]), List.drop_one, List.tail_cons,
    List.takeWhile_append_of_pos inside, List.takeWhile_cons_of_neg (by simp [outside]),
    List.append_nil]

/-- A line that names its target behind an arrow is read as an arm. -/
theorem arm_of_name {name target text : String} (noQuote : '"' ∉ name.toList)
    (spelled : text.toList = '"' :: (name.toList ++ '"' :: (" => ".toList ++ target.toList))) :
    arm? (.code 3 text) = some (name, target) := by
  have behind : (name.toList ++ '"' :: (" => ".toList ++ target.toList)).drop (name.length + 5) =
      target.toList := by
    rw [← String.length_toList, ← List.drop_drop, List.drop_left]
    rfl
  have parts : arm? (.code 3 text) = some
      (before '"' (name.toList ++ '"' :: (" => ".toList ++ target.toList)), String.ofList
        ((name.toList ++ '"' :: (" => ".toList ++ target.toList)).drop
          ((before '"' (name.toList ++ '"' :: (" => ".toList ++ target.toList))).length + 5))) := by
    rw [arm?, spelled]
    rfl
  rw [parts, before_append noQuote, String.ofList_toList, behind, String.ofList_toList]

/-- The body of a function that looks a name up. -/
def matchLines (names : List String) (arm : String → String) (otherwise : String) : List Line :=
  .code 2 ("match name" ++ opening) :: names.map (fun name => .code 3 (arm name)) ++
    [.code 3 ("_ => " ++ otherwise ++ ","), .code 2 closing]

/-- A match stands inside its function. -/
theorem isInner_matchLines (names : List String) (arm : String → String) (otherwise : String) :
    ∀ line ∈ matchLines names arm otherwise, isInner line = true := by
  have others : ∀ line ∈ [Line.code 3 ("_ => " ++ otherwise ++ ","), .code 2 closing],
      isInner line = true := by
    simp [isInner]
  exact List.forall_mem_append.2
    ⟨List.forall_mem_cons.2 ⟨rfl, List.forall_mem_map.2 fun _ _ => rfl⟩, others⟩

/-- A match has one arm for each name, and none for what is left over. -/
theorem arms_matchLines {names : List String} {arm target : String → String}
    (arms : ∀ name ∈ names, arm? (.code 3 (arm name)) = some (name, target name))
    (otherwise : String) :
    (matchLines names arm otherwise).filterMap arm? =
      names.map fun name => (name, target name) := by
  have fallback : arm? (.code 3 ("_ => " ++ otherwise ++ ",")) = none := by
    rw [arm?, String.toList_append, String.toList_append]
    rfl
  have others :
      [Line.code 3 ("_ => " ++ otherwise ++ ","), .code 2 closing].filterMap arm? = [] := by
    rw [List.filterMap_cons_none fallback]
    rfl
  rw [matchLines, List.cons_append, List.filterMap_cons_none rfl, List.filterMap_append, others,
    filterMap_lines names arms, List.append_nil]

def assignArm (name : String) : String :=
  "\"" ++ name ++ "\" => self." ++ setterIdent name ++ "(val),"

def getArm (name : String) : String :=
  "\"" ++ name ++ "\" => Ok(self." ++ fieldIdent name ++ "()),"

/-- The lines of the implementation of the trait in front of its look-ups. -/
def traitStart (table : ClassTable) : List Line :=
  [.code 0 ("impl Class for " ++ table.name ++ opening),
   .code 1 ("const NAME: &'static str = \"" ++ table.name ++ "\";"),
   .blank,
   .code 1 ("fn descriptor() -> &'static EntityDescriptor" ++ opening),
   .code 2 ("&" ++ table.location.path),
   .code 1 closing,
   .blank]

def assignHead : Line :=
  .code 1 ("fn assign(&mut self, name: &str, val: Slot) -> Result<(), Error>" ++ opening)

def getHead : Line :=
  .code 1 ("fn get(&self, name: &str) -> Result<Option<Value>, Error>" ++ opening)

/-- The trait is its start and the two functions. -/
theorem traitLines_eq (table : ClassTable) :
    traitLines table = traitStart table ++
      assignHead ::
        (matchLines table.attributeNames assignArm (fallback table "assign(name, val)") ++
      .code 1 closing :: .blank ::
      getHead :: (matchLines table.attributeNames getArm (fallback table "get(name)") ++
      [.code 1 closing, .code 0 closing])) := by
  simp only [traitLines, traitStart, matchLines, List.append_assoc, List.cons_append,
    List.nil_append]
  rfl

/-- No function is begun before the first of the two. -/
theorem begins_traitStart (table : ClassTable) :
    ∀ line ∈ traitStart table, begins "assign" line = false ∧ begins "get" line = false := by
  have name : begins "assign" (.code 1 ("const NAME: &'static str = \"" ++ table.name ++ "\";")) =
        false ∧
      begins "get" (.code 1 ("const NAME: &'static str = \"" ++ table.name ++ "\";")) = false := by
    simp only [begins, String.toList_append]
    exact ⟨rfl, rfl⟩
  simp only [traitStart, List.forall_mem_cons]
  exact ⟨⟨rfl, rfl⟩, name, ⟨rfl, rfl⟩, by decide +kernel, ⟨rfl, rfl⟩, by decide +kernel, ⟨rfl, rfl⟩,
    List.forall_mem_nil _⟩

section Names

variable {name : String} (proper : Naming.Proper Char.isLower name)
include proper

theorem arm_assignArm :
    arm? (.code 3 (assignArm name)) = some (name, "self." ++ setterIdent name ++ "(val),") := by
  apply arm_of_name (fun member => absurd (proper.alphanumeric _ member) (by decide))
  simp only [assignArm, String.toList_append, List.append_assoc]
  rfl

theorem arm_getArm :
    arm? (.code 3 (getArm name)) = some (name, "Ok(self." ++ fieldIdent name ++ "()),") := by
  apply arm_of_name (fun member => absurd (proper.alphanumeric _ member) (by decide))
  simp only [getArm, String.toList_append, List.append_assoc]
  rfl

end Names

/-- The body of `assign` is the match on the names of the class. -/
theorem functionBody_assign (table : ClassTable) : functionBody "assign" (traitLines table) =
    matchLines table.attributeNames assignArm (fallback table "assign(name, val)") := by
  rw [traitLines_eq, functionBody_eq]
  · exact fun line member => (begins_traitStart table line member).1
  · decide
  · exact isInner_matchLines _ _ _
  · rfl

theorem functionBody_get (table : ClassTable) : functionBody "get" (traitLines table) =
    matchLines table.attributeNames getArm (fallback table "get(name)") := by
  have split : traitLines table = (traitStart table ++ assignHead ::
        (matchLines table.attributeNames assignArm (fallback table "assign(name, val)") ++
          [.code 1 closing, .blank])) ++
      getHead :: (matchLines table.attributeNames getArm (fallback table "get(name)") ++
        [.code 1 closing, .code 0 closing]) := by
    rw [traitLines_eq]
    simp only [List.append_assoc, List.cons_append, List.nil_append]
  -- The function comes second, so the lines of the other one are passed first.
  rw [split, functionBody_eq]
  · rw [List.forall_mem_append, List.forall_mem_cons, List.forall_mem_append]
    exact ⟨fun line member => (begins_traitStart table line member).2, by decide +kernel,
      fun line member => begins_of_isInner (isInner_matchLines _ _ _ line member),
      by decide +kernel⟩
  · decide
  · exact isInner_matchLines _ _ _
  · rfl

/-- The arms of `assign` send each name of a well-formed class to its setter. -/
theorem arms_assign {table : ClassTable} (wellFormed : table.WellFormed) :
    armsOf "assign" (traitLines table) =
      table.attributeNames.map fun name => (name, "self." ++ setterIdent name ++ "(val),") := by
  rw [armsOf_eq, functionBody_assign, arms_matchLines]
  exact fun name member => arm_assignArm (wellFormed.attributeNames name member)

theorem arms_get {table : ClassTable} (wellFormed : table.WellFormed) :
    armsOf "get" (traitLines table) =
      table.attributeNames.map fun name => (name, "Ok(self." ++ fieldIdent name ++ "()),") := by
  rw [armsOf_eq, functionBody_get, arms_matchLines]
  exact fun name member => arm_getArm (wellFormed.attributeNames name member)

theorem lookup_map_of_mem {Target : Type} {names : List String} {name : String}
    (member : name ∈ names) (target : String → Target) :
    (names.map fun name => (name, target name)).lookup name = some (target name) := by
  induction names with
  | nil => cases member
  | cons other rest inductionHypothesis =>
      rw [List.map_cons, List.lookup_cons]
      by_cases same : name = other
      · rw [same, beq_self_eq_true]
      · rw [beq_eq_false_iff_ne.2 same]
        exact inductionHypothesis ((List.mem_cons.1 member).resolve_left same)

theorem lookup_map_of_notMem {Target : Type} {names : List String} {name : String}
    (absent : name ∉ names) (target : String → Target) :
    (names.map fun name => (name, target name)).lookup name = none := by
  rw [List.lookup_eq_none_iff]
  refine List.forall_mem_map.2 fun other member => ?_
  rw [bne_iff_ne]
  rintro rfl
  exact absent member

section Table

variable {table : ClassTable} (wellFormed : table.WellFormed)
include wellFormed

/-- A well-formed class declares its fields, its methods and its arms. -/
theorem declares {methods : List Line} (made : methodLines table = .ok methods) :
    Declares table methods where
  fields := fields_structLines wellFormed
  methods := methods_methodLines wellFormed made
  assigned := arms_assign wellFormed
  read := arms_get wellFormed

/-- The methods of an attribute, without the mark that the first may have. -/
theorem unmarked_methods {name : String} (member : name ∈ table.attributeNames) :
    [fieldIdent name, setterIdent name].map unmarked = (Naming.methods name).reverse := by
  have proper := wellFormed.attributeNames name member
  rw [List.map_cons, List.map_cons, unmarked_fieldIdent proper,
    unmarked_of_snake (snakeCase_setterIdent proper)]
  rfl

/-- The method names of a well-formed class are distinct. -/
theorem methodNames_nodup : (table.attributeNames.map Naming.methodName).Nodup := by
  refine List.Nodup.map_on (fun first firstMember second secondMember same => ?_)
    wellFormed.distinct
  by_contra different
  refine wellFormed.apart first firstMember second secondMember different
    (Naming.methodName first) (by simp [Naming.methods]) ?_
  rw [same]
  simp [Naming.methods]

/-- The methods of all attributes are different, also those of one attribute. -/
theorem methods_nodup :
    (table.attributeNames.flatMap fun name => (Naming.methods name).reverse).Nodup := by
  rw [List.nodup_flatMap]
  constructor
  · intro name _
    have longer : "set_" ++ Naming.methodName name ≠ Naming.methodName name := by
      intro same
      have lengths := congrArg String.length same
      rw [String.length_append] at lengths
      exact absurd lengths (by simp)
    rw [List.nodup_reverse]
    simp [Naming.methods, longer]
  · apply wellFormed.distinct.pairwise_of_forall_ne
    intro first firstMember second secondMember different method firstHas secondHas
    exact wellFormed.apart first firstMember second secondMember different method
      (List.mem_reverse.1 firstHas) (List.mem_reverse.1 secondHas)

/-- No method of an attribute is one that every class has. -/
theorem methods_unreserved {name method : String} (member : name ∈ table.attributeNames)
    (belongs : method ∈ Naming.methods name) : method ∉ Naming.reservedMethods := by
  have none : ∀ word ∈ Naming.reservedMethods, ¬"set_".toList <+: word.toList := by decide +kernel
  rcases List.mem_pair.1 belongs with rfl | rfl
  · refine fun reserved => none _ reserved ?_
    rw [String.toList_append]
    exact List.prefix_append _ _
  · exact wellFormed.unreserved name member

theorem unmarked_fields : ((structLines table).filterMap field?).map unmarked =
    table.superclass.toList.map (fun _ => "base") ++
      table.attributeNames.map Naming.methodName := by
  have base : unmarked "base" = "base" :=
    unmarked_of_snake ⟨⟨'b', _, rfl, rfl⟩, List.all_eq_true.1 rfl⟩
  have names : ∀ name ∈ table.attributeNames,
      (unmarked ∘ fieldIdent) name = Naming.methodName name := fun name member =>
    unmarked_fieldIdent (wellFormed.attributeNames name member)
  rw [fields_structLines wellFormed, List.map_append, List.map_map, List.map_map,
    List.map_congr_left names, Function.comp_def, base]

/-- Without marks the methods are `new` and the two for each name. -/
theorem unmarked_allMethods {methods : List Line} (made : methodLines table = .ok methods) :
    (methods.filterMap method?).map unmarked =
      "new" :: table.attributeNames.flatMap fun name => (Naming.methods name).reverse := by
  have new : unmarked "new" = "new" :=
    unmarked_of_snake ⟨⟨'n', _, rfl, rfl⟩, List.all_eq_true.1 rfl⟩
  rw [methods_methodLines wellFormed made, List.map_cons, List.map_flatMap, new,
    List.flatMap_congr fun name member => unmarked_methods wellFormed member]

/-- The members of a well-formed class are apart. -/
theorem apart {methods : List Line} (made : methodLines table = .ok methods) :
    Apart table methods := by
  have named (method : String)
      (member : method ∈ table.attributeNames.flatMap fun name => (Naming.methods name).reverse) :
      method ∉ Naming.reservedMethods := by
    obtain ⟨name, declared, belongs⟩ := List.mem_flatMap.1 member
    exact methods_unreserved wellFormed declared (List.mem_reverse.1 belongs)
  have patterns (target : String → String) :
      ((table.attributeNames.map fun name => (name, target name)).map Prod.fst).Nodup := by
    rw [List.map_map]
    exact (List.map_id' _).symm ▸ wellFormed.distinct
  constructor
  case fields =>
    rw [unmarked_fields wellFormed, List.nodup_append]
    refine ⟨?_, methodNames_nodup wellFormed, ?_⟩
    · cases table.superclass <;> simp
    · rintro _ base _ method rfl
      obtain ⟨_, _, rfl⟩ := List.mem_map.1 base
      obtain ⟨name, member, same⟩ := List.mem_map.1 method
      exact wellFormed.unreserved name member (by rw [same]; decide)
  case methods =>
    rw [unmarked_allMethods wellFormed made, List.nodup_cons]
    exact ⟨fun member => named "new" member (by decide), methods_nodup wellFormed⟩
  case inherent =>
    have each : ∀ method ∈ (methods.filterMap method?).map unmarked, method ∉ traitMethods := by
      have reserved : ∀ method ∈ traitMethods, method ∈ Naming.reservedMethods := by decide
      rw [unmarked_allMethods wellFormed made, List.forall_mem_cons]
      exact ⟨by decide, fun method member among => named method member (reserved method among)⟩
    exact fun method member => each _ (List.mem_map_of_mem member)
  case assigned =>
    rw [arms_assign wellFormed]
    exact patterns _
  case read =>
    rw [arms_get wellFormed]
    exact patterns _
  case setter =>
    intro name member
    rw [arms_assign wellFormed, lookup_map_of_mem member]
  case getter =>
    intro name member
    rw [arms_get wellFormed, lookup_map_of_mem member]

end Table

/-- In the source of tables without faults, the members of every class are told apart by their
names. -/
theorem members_apart {tables : Catalog} (silent : tables.review = .ok ()) {table : ClassTable}
    (member : table ∈ tables) :
    ∃ methods, methodLines table = .ok methods ∧ Declares table methods ∧ Apart table methods := by
  have wellFormed := Catalog.wellFormed_of_review silent member
  obtain ⟨methods, made, _⟩ := methodLines_regular (literal_of_review silent member)
  exact ⟨methods, made, declares wellFormed made, apart wellFormed made⟩

theorem members_apart_shape :
    Catalog.review [shape, ball] = .ok () ∧ shape ∈ [shape, ball] ∧
      ∃ methods, methodLines shape = .ok methods ∧
        methods.filterMap method? = ["new", "is_solid", "set_is_solid", "r#type", "set_type"] ∧
        Apart shape methods := by
  have member : shape ∈ [shape, ball] := .head _
  obtain ⟨methods, made, declared, distinct⟩ := members_apart shapes_review member
  exact ⟨shapes_review, member, methods, made, declared.methods.trans (by decide +kernel), distinct⟩

end SceneCatalog.Source
