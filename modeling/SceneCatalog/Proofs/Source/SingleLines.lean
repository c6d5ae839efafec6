import SceneCatalog.Proofs.Source.Identifiers
import SceneCatalog.Proofs.Text.OneLine
import SceneCatalog.Proofs.Text.Trimming

/-
This file shows that each line of the source of a class is a single line.
-/

namespace SceneCatalog.Source

open Text Line

namespace Line

/-- Neither code nor a cell has a line feed in it. -/
def Single : Line → Prop
  | code _ text => OneLine text
  | rows _ cells => ∀ row ∈ cells, ∀ cell ∈ row, OneLine cell
  | _ => True

@[simp]
theorem single_code (stops : Nat) (text : String) : (code stops text).Single ↔ OneLine text :=
  Iff.rfl

@[simp]
theorem single_blank : blank.Single := trivial

@[simp]
theorem single_rule (stops : Nat) (kind : Rule) : (rule stops kind).Single := trivial

@[simp]
theorem single_paragraph (text : String) : (paragraph text).Single := trivial

end Line

/-- What the source of a class takes over from its table as it stands has no line feed, and names
have none anyway. -/
structure Unbroken (table : ClassTable) : Prop where
  name : OneLine table.name
  superclass : ∀ superclass ∈ table.superclass, OneLine superclass
  attributes : ∀ name ∈ table.attributeNames, Naming.Proper Char.isLower name
  path : OneLine table.location.path
  parameters : ∀ parameters ∈ table.parameters, OneLine parameters

section Member

variable {name : String} (proper : Naming.Proper Char.isLower name)
include proper

theorem oneLine_fieldIdent : OneLine (fieldIdent name) :=
  not_mem_fieldIdent proper (by decide) (by decide)

theorem oneLine_setterIdent : OneLine (setterIdent name) :=
  .of_snakeCase (snakeCase_setterIdent proper)

end Member

/-- The expression of a constant is written in one line. -/
theorem constantExpression_oneLine {constant : Constant} {expression : String}
    (made : constantExpression constant = .ok (some expression)) : OneLine expression := by
  cases constant with
  | null => cases made
  | bool flag =>
      obtain rfl := Option.some.inj (Except.ok.inj made)
      cases flag <;> decide
  | int number =>
      obtain rfl := Option.some.inj (Except.ok.inj made)
      simp +decide only [OneLine.append_iff, OneLine.integer]
  | float number =>
      rw [constantExpression] at made
      split at made
      · obtain rfl := Option.some.inj (Except.ok.inj made)
        simp +decide [OneLine.floatLiteral]
      · contradiction
  | text content =>
      obtain rfl := Option.some.inj (Except.ok.inj made)
      simp +decide [OneLine.sourceLiteral]

/-- The row of a field has single cells when its value is single. -/
theorem fieldRow_single {name value : String} (proper : Naming.Proper Char.isLower name)
    (single : OneLine value) : ∀ cell ∈ fieldRow name value, OneLine cell := by
  simp +decide [fieldRow, oneLine_fieldIdent proper, single]

/-- The row of a field is one line if it is so around every expression. -/
theorem constantRow_single {name absent : String} {present : String → String}
    (proper : Naming.Proper Char.isLower name) (without : OneLine absent)
    (around : ∀ expression, OneLine expression → OneLine (present expression))
    {constant : Constant} {row : List String}
    (made : (do
      match ← constantExpression constant with
      | some expression => return fieldRow name (present expression)
      | none => return fieldRow name absent) = .ok row) : ∀ cell ∈ row, OneLine cell := by
  obtain ⟨expression, written, rest⟩ := ok_of_bind made
  cases expression with
  | none =>
      obtain rfl := Except.ok.inj rest
      exact fieldRow_single proper without
  | some expression =>
      obtain rfl := Except.ok.inj rest
      exact fieldRow_single proper (around expression (constantExpression_oneLine written))

/-- The row of a constant has single cells, as strings are escaped. -/
theorem immutableRow_single {immutable : Immutable} {row : List String}
    (proper : Naming.Proper Char.isLower immutable.name)
    (made : immutableRow immutable = .ok row) : ∀ cell ∈ row, OneLine cell := by
  refine constantRow_single proper (by decide) (fun expression single => ?_) made
  simp +decide [single]

theorem attributeRow_single {rule : Attribute} {row : List String}
    (proper : Naming.Proper Char.isLower rule.name) (made : attributeRow rule = .ok row) :
    ∀ cell ∈ row, OneLine cell := by
  refine constantRow_single proper (by decide) (fun expression single => ?_) made
  simp +decide [single]

/-- A table of fields has single lines when its cells and its heading are single. -/
theorem fieldTable_single {heading : String} (headed : OneLine heading)
    {rows : List (List String)} (each : ∀ row ∈ rows, ∀ cell ∈ row, OneLine cell) :
    ∀ line ∈ fieldTable heading rows, line.Single := by
  rw [fieldTable]
  split
  · exact List.forall_mem_nil _
  · exact List.forall_mem_cons.2
      ⟨by simp +decide [headed], List.forall_mem_singleton.2 each⟩

/-- A body is cut into single lines. -/
theorem bodyLines_single (body : String) : ∀ line ∈ bodyLines body, line.Single := by
  refine List.forall_mem_map.2 fun line member => ?_
  dsimp only
  split
  · trivial
  · rw [single_code, OneLine, String.toList_ofList]
    exact fun lineFeed => not_mem_of_mem_lines member (mem_of_mem_trimEnd lineFeed)

section Member

variable {name : String} (proper : Naming.Proper Char.isLower name)
include proper

theorem getterHead_single : ∀ line ∈ getterHead name, line.Single := by
  simp +decide [getterHead, opening, oneLine_fieldIdent proper]

theorem setterHead_single {argument : String} (single : OneLine argument) :
    (setterHead name argument).Single := by
  simp +decide [setterHead, opening, oneLine_setterIdent proper, single]

end Member

/-- The methods of a constant have single lines. -/
theorem immutableLines_single {immutable : Immutable}
    (proper : Naming.Proper Char.isLower immutable.name) :
    ∀ line ∈ immutableLines immutable, line.Single := by
  have spelled : OneLine immutable.name := .of_alphanumeric proper.alphanumeric
  rw [immutableLines, List.forall_mem_append]
  refine ⟨getterHead_single proper, ?_⟩
  simp +decide [closing, oneLine_fieldIdent proper, setterHead_single proper, spelled]

/-- The methods of an attribute have single lines. -/
theorem attributeLines_single {entry : Attribute × Nat}
    (proper : Naming.Proper Char.isLower entry.1.name) :
    ∀ line ∈ attributeLines entry, line.Single := by
  obtain ⟨rule, index⟩ := entry
  have spelled : OneLine rule.name := .of_alphanumeric proper.alphanumeric
  have field : OneLine (fieldIdent rule.name) := oneLine_fieldIdent proper
  have store : ∀ line ∈ storeLines index rule, line.Single := by
    rw [storeLines]
    split
    · have place : OneLine index.repr := .natural index
      simp +decide [field, place]
    · simp +decide [field, spelled]
  simp only [attributeLines, List.forall_mem_append]
  refine ⟨⟨⟨getterHead_single proper, ?_⟩, store⟩, ?_⟩
  · simp +decide [opening, closing, field, setterHead_single proper]
  · simp +decide [closing]

section Table

variable {table : ClassTable} (unbroken : Unbroken table)
include unbroken

theorem Unbroken.immutable {immutable : Immutable} (member : immutable ∈ table.immutables) :
    Naming.Proper Char.isLower immutable.name :=
  unbroken.attributes _ (ClassTable.immutable_mem_names member)

theorem Unbroken.attribute {rule : Attribute} (member : rule ∈ table.attributes) :
    Naming.Proper Char.isLower rule.name :=
  unbroken.attributes _ (ClassTable.attribute_mem_names member)

theorem structLines_single : ∀ line ∈ structLines table, line.Single := by
  have fields {name : String} (proper : Naming.Proper Char.isLower name) (type : String)
      (single : OneLine type) : (code 1 (fieldIdent name ++ type)).Single :=
    (OneLine.append_iff _ _).2 ⟨oneLine_fieldIdent proper, single⟩
  simp only [structLines, List.forall_mem_append, List.forall_mem_map]
  refine ⟨⟨⟨⟨?_, fun superclass member => ?_⟩, fun immutable member =>
    fields (unbroken.immutable member) _ (by decide)⟩, fun rule member =>
    fields (unbroken.attribute member) _ (by decide)⟩, ?_⟩
  · simp +decide [opening, unbroken.name]
  · have single := unbroken.superclass superclass (Option.mem_toList.1 member)
    simp +decide [single]
  · simp +decide

theorem constructorLines_single {lines : List Line} (made : constructorLines table = .ok lines) :
    ∀ line ∈ lines, line.Single := by
  obtain ⟨immutables, immutablesMade, rest⟩ := ok_of_bind made
  obtain ⟨attributes, attributesMade, rest⟩ := ok_of_bind rest
  obtain rfl := Except.ok.inj rest
  have immutableRows : ∀ row ∈ immutables, ∀ cell ∈ row, OneLine cell := by
    intro row member
    obtain ⟨immutable, inside, made⟩ := exists_of_mapM immutablesMade member
    exact immutableRow_single (unbroken.immutable inside) made
  have attributeRows : ∀ row ∈ attributes, ∀ cell ∈ row, OneLine cell := by
    intro row member
    obtain ⟨rule, inside, made⟩ := exists_of_mapM attributesMade member
    exact attributeRow_single (unbroken.attribute inside) made
  have body : ∀ line ∈ (match table.body with
      | some body => bodyLines body
      | none => optionsBody), line.Single := by
    cases table.body with
    | none => simp +decide [optionsBody]
    | some body => exact bodyLines_single body
  have parameters : OneLine (table.parameters.getD "options: Options") := by
    cases given : table.parameters with
    | none => decide
    | some parameters => exact unbroken.parameters parameters given
  simp only [List.forall_mem_append, List.forall_mem_map]
  refine ⟨⟨⟨⟨⟨⟨?_, fun superclass member => ?_⟩, fieldTable_single (by decide) immutableRows⟩,
    fieldTable_single (by decide) attributeRows⟩, ?_⟩, body⟩, ?_⟩
  · simp +decide [opening, parameters]
  · have single := unbroken.superclass superclass (Option.mem_toList.1 member)
    simp +decide [single]
  · simp +decide
  · simp +decide

theorem traitLines_single : ∀ line ∈ traitLines table, line.Single := by
  have fallbacks (call : String) (single : OneLine call) : OneLine (fallback table call) := by
    rw [fallback]
    split
    · simp +decide [single]
    · decide
  simp only [traitLines, List.forall_mem_append, List.forall_mem_map]
  refine ⟨⟨⟨⟨?_, fun name declared => ?_⟩, ?_⟩, fun name declared => ?_⟩, ?_⟩
  · simp +decide [opening, unbroken.name, unbroken.path]
  · have proper := unbroken.attributes name declared
    have spelled : OneLine name := .of_alphanumeric proper.alphanumeric
    simp +decide [spelled, oneLine_setterIdent proper]
  · simp +decide [opening, fallbacks]
  · have proper := unbroken.attributes name declared
    have spelled : OneLine name := .of_alphanumeric proper.alphanumeric
    simp +decide [spelled, oneLine_fieldIdent proper]
  · simp +decide [fallbacks]

theorem derefLines_single {superclass : String} (single : OneLine superclass) :
    ∀ part ∈ derefLines table.name superclass, ∀ line ∈ part, line.Single := by
  simp +decide [derefLines, unbroken.name, single]

/-- The methods of an unbroken table have single lines. -/
theorem methodLines_single {lines : List Line} (made : methodLines table = .ok lines) :
    ∀ line ∈ lines, line.Single := by
  obtain ⟨constructor, constructorMade, rest⟩ := ok_of_bind made
  obtain rfl := Except.ok.inj rest
  simp only [List.forall_mem_append]
  refine ⟨⟨?_, forall_mem_spaced trivial ?_⟩, ?_⟩
  · simp +decide [unbroken.name]
  · simp only [List.cons_append, List.forall_mem_cons, List.forall_mem_append, List.forall_mem_map]
    refine ⟨constructorLines_single unbroken constructorMade, fun immutable member => ?_,
      fun entry member => ?_⟩
    · exact immutableLines_single (unbroken.immutable member)
    · exact attributeLines_single (unbroken.attribute (List.fst_mem_of_mem_zipIdx member))
  · simp +decide

/-- The source of a class consists of single lines. -/
theorem classLines_single {lines : List Line} (made : classLines table = .ok lines) :
    ∀ line ∈ lines, line.Single := by
  obtain ⟨methods, methodsMade, rest⟩ := ok_of_bind made
  obtain rfl := Except.ok.inj rest
  refine forall_mem_spaced trivial ?_
  simp only [List.cons_append, List.nil_append, List.forall_mem_cons]
  refine ⟨?_, structLines_single unbroken, methodLines_single unbroken methodsMade,
    traitLines_single unbroken, ?_⟩
  · simp [headerLines]
  · intro part member
    obtain ⟨superclass, extended, inside⟩ := List.mem_flatMap.1 member
    have single := unbroken.superclass superclass (Option.mem_toList.1 extended)
    exact derefLines_single unbroken single part inside

end Table

end SceneCatalog.Source
