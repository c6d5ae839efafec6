import Mathlib.Data.List.Flatten
import SceneCatalog.Proofs.Source.Items
import SceneCatalog.Proofs.Source.Layout
import SceneCatalog.Proofs.Source.SingleLines

/-
This file shows which lines of generated source are not indented: a module and its export for each
class, in the order of the catalog.
-/

namespace SceneCatalog.Source

open Text

/-- The line begins with something else than a blank. -/
def isFlush (line : List Char) : Bool := line.head?.any fun c => !isBlank c

/-- The lines of a text that are not indented. -/
def flush (text : String) : List (List Char) := (text.toList.splitOn '\n').filter isFlush

/-- A line behind a margin is not flush. -/
theorem isFlush_margin {margin : List Char} (blanks : IsMargin margin) (filled : margin ≠ [])
    (text : List Char) : isFlush (margin ++ text) = false := by
  obtain ⟨c, rest, rfl⟩ := List.exists_cons_of_ne_nil filled
  rw [isFlush, List.cons_append, List.head?_cons, Option.any_some, blanks.isBlank c (.head _)]
  rfl

/-- Nothing that is indented moves to the front when blanks at the end are cut off. -/
theorem isFlush_trimEnd {line : List Char} (indented : isFlush line = false) :
    isFlush (trimEnd line) = false := by
  cases line with
  | nil => rfl
  | cons c rest =>
      rw [trimEnd_cons]
      split
      · rfl
      · exact indented

/-- A text of one line is flush if that line is. -/
theorem flush_oneLine {text : String} (single : OneLine text) :
    flush text = [text.toList].filter isFlush := by
  rw [flush, List.splitOn_eq_singleton single]

/-- Nothing is flush behind a margin. -/
theorem flush_margin {margin text : String} (blanks : IsMargin margin.toList) (filled : margin ≠ "")
    (single : OneLine text) : flush (margin ++ text) = [] := by
  have whole : OneLine (margin ++ text) := (OneLine.append_iff _ _).2 ⟨blanks.not_mem, single⟩
  have indented := isFlush_margin blanks (String.toList_eq_nil_iff.not.2 filled) text.toList
  rw [flush_oneLine whole, String.toList_append]
  simp [indented]

/-- The flush lines of joined texts are those of each. -/
theorem flush_intercalate (texts : List String) :
    flush ("\n".intercalate texts) = texts.flatMap flush := by
  cases texts with
  | nil => rfl
  | cons text rest =>
      rw [flush, splitOn_intercalate (List.cons_ne_nil _ _), List.filter_flatMap]
      rfl

/-- Texts that are each followed by a line feed. -/
theorem flush_join (texts : List String) :
    flush (String.join (texts.map (· ++ "\n"))) = texts.flatMap flush := by
  have last : [[]].filter isFlush = [] := rfl
  rw [flush, splitOn_join, List.filter_append, last, List.append_nil, List.filter_flatMap]
  rfl

/-- The indentation can be seen. -/
structure Style.Indents (style : Style) : Prop where
  blanks : IsMargin style.indent.toList
  filled : style.indent ≠ ""

section Style

variable {style : Style} (indents : style.Indents)
include indents

theorem isMargin_tab (stops : Nat) : IsMargin (style.tab stops).toList :=
  isMargin_indent indents.blanks _

theorem tab_ne_empty {stops : Nat} (deep : style.level stops ≠ 0) : style.tab stops ≠ "" := by
  intro empty
  have width := length_indent style.indent (style.level stops)
  rw [← Style.tab, empty] at width
  have positive : 0 < style.indent.length :=
    Nat.pos_of_ne_zero fun none => indents.filled (String.length_eq_zero_iff.1 none)
  have area := Nat.mul_pos (Nat.pos_of_ne_zero deep) positive
  exact absurd width.symm area.ne'

section Deep

variable (deep : style.depth ≠ 0)
include deep

theorem deep_tab_ne_empty (stops : Nat) : style.tab stops ≠ "" :=
  tab_ne_empty indents fun none => deep (Nat.add_eq_zero_iff.1 none).1

/-- Nothing is flush behind the indentation of a deep style. -/
theorem flush_tab {stops : Nat} {text : String} (single : OneLine text) :
    flush (style.tab stops ++ text) = [] :=
  flush_margin (isMargin_tab indents stops) (deep_tab_ne_empty indents deep stops) single

/-- A wrapped comment has no flush line in a deep style. -/
theorem flush_paragraph (text : String) :
    flush (wrap text (style.tab 0 ++ "// ") style.wrapWidth) = [] := by
  rw [wrap_eq, flush_intercalate, List.flatMap_eq_nil_iff]
  refine List.forall_mem_map.2 fun line member => ?_
  rw [String.append_assoc]
  exact flush_tab indents deep ((OneLine.append_iff _ _).2 ⟨by decide, oneLine_fill member⟩)

/-- Aligned rows have no flush line in a deep style. -/
theorem flush_rows {stops : Nat} {table : List (List String)}
    (regular : (Line.rows stops table).Regular) (single : (Line.rows stops table).Single)
    {text : String} (written : Line.alignRows (style.tab stops) table = .ok text) :
    flush text = [] := by
  obtain ⟨_, aligned, split⟩ := Line.alignRows_lines (style.tab stops) regular
  obtain rfl := Except.ok.inj (aligned.symm.trans written)
  have filled := deep_tab_ne_empty indents deep stops
  have margin := isMargin_tab indents stops
  rw [flush, split, List.filter_eq_nil_iff]
  refine List.forall_mem_map.2 fun line member => Bool.eq_false_iff.1 (isFlush_trimEnd ?_)
  obtain ⟨row, inside, piece⟩ := List.mem_flatMap.1 member
  have whole : OneLine (style.tab stops ++ alignRow (columnWidths 3 table) row) :=
    (OneLine.append_iff _ _).2 ⟨margin.not_mem, .alignRow (single row inside)⟩
  rw [List.splitOn_eq_singleton whole, String.toList_append] at piece
  obtain rfl := List.mem_singleton.1 piece
  exact isFlush_margin margin (String.toList_eq_nil_iff.not.2 filled) _

/-- Inside of a module all lines are indented or empty. -/
theorem flush_write {line : Line} (regular : line.Regular) (single : line.Single) {text : String}
    (written : line.write style = .ok text) : flush text = [] := by
  cases line with
  | rows stops table => exact flush_rows indents deep regular single written
  | code stops code =>
      obtain rfl := Except.ok.inj written
      exact flush_tab indents deep single
  | blank =>
      obtain rfl := Except.ok.inj written
      rfl
  | rule stops kind =>
      obtain rfl := Except.ok.inj written
      refine flush_tab indents deep ?_
      rw [OneLine, String.toList_ofList]
      exact fun member => kind.not_mem_template (List.mem_of_mem_take member)
  | paragraph content =>
      obtain rfl := Except.ok.inj written
      exact flush_paragraph indents deep content

/-- The text of a class has no flush line in a deep style. -/
theorem flush_classText {table : ClassTable} (literal : Literal table) (unbroken : Unbroken table)
    {text : String} (written : classText table style = .ok text) : flush text = [] := by
  obtain ⟨lines, made, regular⟩ := classLines_regular literal
  have single := classLines_single unbroken made
  rw [classText, made] at written
  obtain ⟨texts, each, rfl⟩ := writeLines_ok written
  rw [flush_intercalate, List.flatMap_eq_nil_iff]
  intro text member
  obtain ⟨line, inside, lineWritten⟩ := exists_of_mapM each member
  exact flush_write indents deep (regular line inside) (single line inside) lineWritten

end Deep

end Style

/-- What an item writes line by line, a body in one. -/
def Item.lines (style : Style) : Item → List String
  | imports path names => ["use " ++ path ++ "::\x7b" ++ ", ".intercalate names ++ "\x7d;"]
  | module name body => ["", style.tab 0 ++ ("mod " ++ name ++ opening),
      style.tab 1 ++ "use super::*;", "", body, style.tab 0 ++ closing]
  | reexport home name => ["", style.tab 0 ++ ("pub use " ++ home ++ "::" ++ name ++ ";"), ""]

theorem Item.write_eq_join (style : Style) (item : Item) :
    item.write style = String.join ((item.lines style).map (· ++ "\n")) := by
  rw [← String.toList_inj]
  cases item <;> simp [Item.write, Item.lines, opening, closing]

theorem writeItems_eq_join (style : Style) (items : List Item) :
    writeItems style items =
      String.join ((items.flatMap (Item.lines style)).map (· ++ "\n")) := by
  induction items with
  | nil => rfl
  | cons item rest inductionHypothesis =>
      rw [List.flatMap_cons, List.map_append, String.join_append, ← inductionHypothesis,
        ← Item.write_eq_join]
      exact String.join_cons

def remarkLines : List String :=
  ["// Generated by povgen-build from the povgen-schema catalog. Do not edit.", ""]

theorem remark_eq_join : remark = String.join (remarkLines.map (· ++ "\n")) := by
  decide +kernel

/-- The line that begins the module of a class. -/
def moduleLine (table : ClassTable) : List Char :=
  ("mod " ++ moduleIdent table.name ++ opening).toList

/-- The line that exports a class from its module. -/
def exportLine (table : ClassTable) : List Char :=
  ("pub use " ++ moduleIdent table.name ++ "::" ++ table.name ++ ";").toList

/-- What stands above the first module. -/
def topLines : List (List Char) := (remarkLines ++ imported.flatMap (Item.lines {})).flatMap flush

section Top

variable {style : Style} (top : style.depth = 0) (indents : style.Indents)
include top indents

/-- The items of a class have three lines that are not indented. -/
theorem flush_tableItems {body : ClassTable → String} {table : ClassTable}
    (module : OneLine (moduleIdent table.name)) (name : OneLine table.name)
    (inside : flush (body table) = []) :
    ((tableItems body table).flatMap (Item.lines style)).flatMap flush =
      [moduleLine table, closing.toList, exportLine table] := by
  have margin : style.tab 0 = "" := by
    rw [Style.tab, Style.level, top]
    rfl
  have deeper : style.tab 1 ≠ "" := tab_ne_empty indents (Nat.succ_ne_zero style.depth)
  have first : flush ("mod " ++ moduleIdent table.name ++ opening) = [moduleLine table] := by
    have single : OneLine ("mod " ++ moduleIdent table.name ++ opening) := by
      simp +decide [opening, module]
    rw [flush_oneLine single, moduleLine, String.toList_append, String.toList_append]
    rfl
  have last : flush ("pub use " ++ moduleIdent table.name ++ "::" ++ table.name ++ ";") =
      [exportLine table] := by
    have single : OneLine ("pub use " ++ moduleIdent table.name ++ "::" ++ table.name ++ ";") := by
      simp +decide [module, name]
    rw [flush_oneLine single, exportLine]
    simp only [String.toList_append]
    rfl
  have scope : flush (style.tab 1 ++ "use super::*;") = [] :=
    flush_margin (isMargin_tab indents 1) deeper (by decide)
  have none : flush "" = [] := rfl
  have closed : flush closing = [closing.toList] := rfl
  simp [tableItems, Item.lines, margin, first, last, scope, none, closed, inside]

/-- The lines that are not indented are those of the items. -/
theorem flush_items {tables : Catalog} {body : ClassTable → String}
    (modules : ∀ table ∈ tables, OneLine (moduleIdent table.name))
    (names : ∀ table ∈ tables, OneLine table.name)
    (inside : ∀ table ∈ tables, flush (body table) = []) :
    flush (remark ++ writeItems style (items body tables)) =
      topLines ++ tables.flatMap fun table =>
        [moduleLine table, closing.toList, exportLine table] := by
  have tableLines :
      ((tables.flatMap (tableItems body)).flatMap (Item.lines style)).flatMap flush =
        tables.flatMap fun table => [moduleLine table, closing.toList, exportLine table] := by
    rw [List.flatMap_assoc, List.flatMap_assoc]
    refine List.flatMap_congr fun table member => ?_
    rw [← flush_tableItems top indents (modules table member) (names table member)
      (inside table member), List.flatMap_assoc]
  have imports : imported.flatMap (Item.lines style) = imported.flatMap (Item.lines {}) := rfl
  rw [remark_eq_join, writeItems_eq_join, ← String.join_append, ← List.map_append, flush_join,
    items, topLines]
  simp only [List.flatMap_append, imports, tableLines, List.append_assoc]

end Top

/-- The line starts with the text. -/
def startsWith (start : String) (line : List Char) : Bool := start.toList.isPrefixOf line

/-- The line of a module is a declaration and no export. -/
theorem startsWith_moduleLine (table : ClassTable) :
    startsWith "mod " (moduleLine table) = true ∧
      startsWith "pub use " (moduleLine table) = false := by
  rw [moduleLine, String.toList_append, String.toList_append]
  exact ⟨rfl, rfl⟩

/-- The line of an export is no declaration of a module. -/
theorem startsWith_exportLine (table : ClassTable) :
    startsWith "mod " (exportLine table) = false ∧
      startsWith "pub use " (exportLine table) = true := by
  simp only [exportLine, String.toList_append]
  exact ⟨rfl, rfl⟩

/-- The line starts the module of a class or exports a class. -/
def isDeclaration (line : List Char) : Bool := startsWith "mod " line || startsWith "pub use " line

/-- Declarations are not indented. -/
theorem isFlush_of_startsWith {start : String} (solid : isFlush start.toList = true)
    {line : List Char} (begun : startsWith start line = true) : isFlush line = true := by
  obtain ⟨rest, rfl⟩ := List.isPrefixOf_iff_prefix.1 begun
  cases spelled : start.toList with
  | nil =>
      rw [spelled] at solid
      contradiction
  | cons c others => rwa [spelled] at solid

/-- Lines that must be flush are found among the flush lines. -/
theorem filter_flush {lines : List (List Char)} {chosen : List Char → Bool}
    (only : ∀ line, chosen line = true → isFlush line = true) :
    lines.filter chosen = (lines.filter isFlush).filter chosen := by
  rw [List.filter_filter]
  refine List.filter_congr fun line _ => ?_
  cases here : chosen line with
  | false => rfl
  | true => rw [only line here, Bool.and_self]

theorem startsWith_closing :
    startsWith "mod " closing.toList = false ∧ startsWith "pub use " closing.toList = false :=
  ⟨rfl, rfl⟩

/-- Of the lines that are not indented, two are declarations for each class. -/
theorem filter_declarations {tables : Catalog} {lines : List (List Char)}
    (outer : lines.filter isFlush = topLines ++ tables.flatMap fun table =>
      [moduleLine table, closing.toList, exportLine table]) :
    lines.filter (startsWith "mod ") = tables.map moduleLine ∧
      lines.filter (startsWith "pub use ") = tables.map exportLine ∧
      lines.filter isDeclaration =
        tables.flatMap fun table => [moduleLine table, exportLine table] := by
  have chosen {chosen : List Char → Bool}
      (only : ∀ line, chosen line = true → isFlush line = true)
      (none : topLines.filter chosen = []) : lines.filter chosen = tables.flatMap fun table =>
        [moduleLine table, closing.toList, exportLine table].filter chosen := by
    rw [filter_flush only, outer, List.filter_append, none, List.nil_append, List.filter_flatMap]
  have module : ∀ line, startsWith "mod " line = true → isFlush line = true := fun _ =>
    isFlush_of_startsWith rfl
  have reexport : ∀ line, startsWith "pub use " line = true → isFlush line = true := fun _ =>
    isFlush_of_startsWith rfl
  have either : ∀ line, isDeclaration line = true → isFlush line = true := fun line declared =>
    (Bool.or_eq_true_iff.1 declared).elim (module line) (reexport line)
  refine ⟨?_, ?_, ?_⟩
  · rw [chosen module (by decide +kernel), List.map_eq_flatMap]
    exact List.flatMap_congr fun table _ => by
      simp [startsWith_moduleLine, startsWith_exportLine, startsWith_closing]
  · rw [chosen reexport (by decide +kernel), List.map_eq_flatMap]
    exact List.flatMap_congr fun table _ => by
      simp [startsWith_moduleLine, startsWith_exportLine, startsWith_closing]
  · rw [chosen either (by decide +kernel)]
    exact List.flatMap_congr fun table _ => by
      simp [isDeclaration, startsWith_moduleLine, startsWith_exportLine, startsWith_closing]

/-- A superclass stands in front of the classes that extend it. -/
theorem superclass_before {tables : Catalog} (wellFormed : tables.WellFormed) {table : ClassTable}
    (member : table ∈ tables) {superclass : String}
    (extended : table.superclass = some superclass) :
    ∃ parent, parent.name = superclass ∧ [parent, table].Sublist tables := by
  obtain ⟨index, here⟩ := List.mem_iff_getElem?.1 member
  obtain ⟨place, parent, before, there, named, _⟩ :=
    wellFormed.superclasses index table superclass here extended
  refine ⟨parent, named, ?_⟩
  have earlier : parent ∈ tables.take index :=
    List.mem_of_getElem? ((List.getElem?_take_of_lt before).trans there)
  have later : table ∈ tables.drop index := by
    refine List.mem_of_getElem? (i := 0) ?_
    rw [List.getElem?_drop, Nat.add_zero, here]
  have both := (List.singleton_sublist.2 earlier).append (List.singleton_sublist.2 later)
  rwa [List.take_append_drop] at both

/-- A table of an accepted catalog is unbroken when its path and its parameters are single lines. -/
theorem unbroken_of_review {tables : Catalog} (silent : tables.review = .ok ()) {table : ClassTable}
    (member : table ∈ tables) (path : OneLine table.location.path)
    (parameters : ∀ parameters ∈ table.parameters, OneLine parameters) : Unbroken table where
  name := .of_alphanumeric (Catalog.wellFormed_of_review silent member).name.alphanumeric
  superclass := by
    intro superclass extended
    obtain ⟨parent, rfl, order⟩ :=
      superclass_before (Catalog.WellFormed.of_review silent) member extended
    have inside : parent ∈ tables := order.subset (.head _)
    exact .of_alphanumeric (Catalog.wellFormed_of_review silent inside).name.alphanumeric
  attributes := (Catalog.wellFormed_of_review silent member).attributeNames
  path := path
  parameters := parameters

/-- Where source stands in no module and what tables give to it as it stands has no line feed, the
lines that begin a module or export a class are two for each class, its module and then its export,
in the order of the catalog. A superclass is exported before the modules of the classes that extend
it. There is source if the margins of its lines can be written. -/
theorem declarations_in_order {tables : Catalog} (silent : tables.review = .ok ()) {style : Style}
    (top : style.depth = 0) (indents : style.Indents)
    (single : ∀ table ∈ tables, '\n' ∉ table.location.path.toList ∧
      ∀ parameters ∈ table.parameters, '\n' ∉ parameters.toList) :
    ((∃ source, generate tables style = .ok source) ↔ tables = [] ∨ style.holds 4 = true) ∧
    ∀ source, generate tables style = .ok source →
      (source.toList.splitOn '\n').filter (startsWith "mod ") = tables.map moduleLine ∧
      (source.toList.splitOn '\n').filter (startsWith "pub use ") = tables.map exportLine ∧
      (source.toList.splitOn '\n').filter isDeclaration =
        tables.flatMap (fun table => [moduleLine table, exportLine table]) ∧
      ∀ table ∈ tables, ∀ superclass, table.superclass = some superclass →
        ∃ parent ∈ tables, parent.name = superclass ∧
          [exportLine parent, moduleLine table].Sublist (source.toList.splitOn '\n') := by
  refine ⟨generate_ok_iff silent, fun source written => ?_⟩
  obtain ⟨body, rfl, made⟩ := items_of_generate silent written
  have wellFormed := Catalog.WellFormed.of_review silent
  have unbroken : ∀ table ∈ tables, Unbroken table := fun table member =>
    unbroken_of_review silent member (single table member).1 (single table member).2
  have inside : ∀ table ∈ tables, flush (body table) = [] := by
    intro table member
    obtain ⟨inner, deeper, bodyMade⟩ := made table member
    obtain rfl := Style.deeper_eq deeper
    have further : ({ style with depth := style.level 1 } : Style).Indents :=
      ⟨indents.blanks, indents.filled⟩
    exact flush_classText further (Nat.succ_ne_zero _) (literal_of_review silent member)
      (unbroken table member) bodyMade
  have modules : ∀ table ∈ tables, OneLine (moduleIdent table.name) := by
    intro table member
    have snake := Naming.snakeCase_snakeName (wellFormed.tables table member).name
    exact (OneLine.append_iff _ _).2 ⟨.of_snakeCase snake, by decide⟩
  have outer := flush_items top indents modules (fun table member => (unbroken table member).name)
    inside
  obtain ⟨modules, exports, declarations⟩ := filter_declarations outer
  refine ⟨modules, exports, declarations, fun table member superclass extended => ?_⟩
  obtain ⟨parent, named, order⟩ := superclass_before wellFormed member extended
  refine ⟨parent, order.subset (.head _), named, ?_⟩
  have both := order.flatMap fun table => [moduleLine table, exportLine table]
  have among := List.filter_sublist (p := isDeclaration)
    (l := (remark ++ writeItems style (items body tables)).toList.splitOn '\n')
  rw [declarations] at among
  refine .trans ?_ (both.trans among)
  simp

/-- The superclass is exported before the module of the class that extends it. -/
theorem declarations_in_order_shape :
    Catalog.review [shape, ball] = .ok () ∧ Style.standard.depth = 0 ∧ Style.standard.Indents ∧
      ∃ source, generate [shape, ball] .standard = .ok source ∧
        ((source.toList.splitOn '\n').filter isDeclaration).map String.ofList = [
          "mod shape_class \x7b", "pub use shape_class::Shape;",
          "mod ball_3_d_class \x7b", "pub use ball_3_d_class::Ball3D;"] ∧
        [exportLine shape, moduleLine ball].Sublist (source.toList.splitOn '\n') := by
  have indents : Style.standard.Indents := ⟨by simp [IsMargin, Style.standard], by decide⟩
  obtain ⟨possible, layout⟩ := declarations_in_order shapes_review rfl indents (by simp +decide)
  obtain ⟨source, made⟩ := possible.2 (.inr (by decide))
  obtain ⟨_, _, declarations, superclasses⟩ := layout source made
  refine ⟨shapes_review, rfl, indents, source, made, ?_, ?_⟩
  · rw [declarations]
    decide +kernel
  · obtain ⟨parent, member, named, order⟩ := superclasses ball (by simp) "Shape" rfl
    rcases List.mem_pair.1 member with rfl | rfl
    · exact order
    · exact absurd named (by decide)

end SceneCatalog.Source
