import SceneCatalog.Proofs.Scene.Outcome
import SceneCatalog.Proofs.Schema.Review
import SceneCatalog.Proofs.Text.Columns
import SceneCatalog.Source.Generation

/-
This file shows when source is generated: tables have no faults, and all margins can be written.
-/

namespace SceneCatalog

/-- A table that is reviewed without a word is well-formed. -/
theorem Catalog.wellFormed_of_review {tables : Catalog} (silent : tables.review = .ok ())
    {table : ClassTable} (member : table ∈ tables) : table.WellFormed :=
  (WellFormed.of_review silent).tables table member

namespace Source

/-- Finite constants have an expression or are none. -/
theorem constantExpression_finite {constant : Constant} (finite : constant.Finite) :
    ∃ expression, constantExpression constant = .ok expression := by
  cases constant with
  | float number =>
      rw [constantExpression, if_pos (finite number rfl)]
      exact ⟨_, rfl⟩
  | _ => exact ⟨_, rfl⟩

namespace Style

variable {style inner : Style}

/-- A style holds so many stops when the level and the blanks before a line can be counted. -/
theorem holds_iff {stops : Nat} : style.holds stops = true ↔
    style.level stops < Nat.pow 2 64 ∧
      style.level stops * style.indent.utf8ByteSize < Nat.pow 2 63 := by
  rw [holds, Bool.and_eq_true, decide_eq_true_iff, decide_eq_true_iff]

/-- What stands less far inside has a shorter margin. -/
theorem holds_of_le {few many : Nat} (le : few ≤ many) (holds : style.holds many = true) :
    style.holds few = true := by
  obtain ⟨counted, short⟩ := holds_iff.1 holds
  have lower : style.level few ≤ style.level many := Nat.add_le_add_left le style.depth
  have narrower := Nat.mul_le_mul_right style.indent.utf8ByteSize lower
  exact holds_iff.2 ⟨Nat.lt_of_le_of_lt lower counted, Nat.lt_of_le_of_lt narrower short⟩

/-- A deeper style differs in its depth only. -/
theorem deeper_eq (inside : style.deeper? = some inner) :
    inner = { style with depth := style.level 1 } := by
  rw [deeper?, Option.ite_none_right_eq_some] at inside
  exact (Option.some.inj inside.2).symm

/-- A stop inside a block is one more around it. -/
theorem holds_deeper (inside : style.deeper? = some inner) (stops : Nat) :
    inner.holds stops = style.holds (stops + 1) := by
  obtain rfl := deeper_eq inside
  have levels : style.depth + 1 + stops = style.depth + (stops + 1) := by omega
  rw [holds, holds, level, level, level, levels]

/-- There is a style inside if the margins of its outermost lines can be written. -/
theorem exists_deeper (holds : style.holds 1 = true) : ∃ inner, style.deeper? = some inner :=
  ⟨_, if_pos (holds_iff.1 holds).1⟩

end Style

namespace Line

/-- What is aligned for rows: the margin belongs to their first cells. -/
def cells (margin : String) (rows : List (List String)) : List (List String) :=
  rows.map fun cells =>
    match cells with
    | [] => []
    | first :: rest => (margin ++ first) :: rest

/-- Rows are aligned behind the margin and trimmed line by line. -/
theorem alignRows_eq (margin : String) (rows : List (List String)) :
    alignRows margin rows = (do
      let aligned ← Text.align (cells margin rows)
      return "\n".intercalate ((Text.lines aligned).map fun line =>
        String.ofList (Text.trimEnd line.toList))) := rfl

/-- Rules of one stop at most, and other lines of three at most that are no rows. -/
def isPlain : Line → Bool
  | code stops _ => stops ≤ 3
  | rule stops _ => stops ≤ 1
  | rows _ _ => false
  | _ => true

/-- Rules have one stop at most, and other lines three. Rows are those of fields: a name, a blank
and a value. -/
def Regular : Line → Prop
  | code stops _ => stops ≤ 3
  | rule stops _ => stops ≤ 1
  | rows stops cells =>
    stops ≤ 3 ∧ cells ≠ [] ∧ ∀ row ∈ cells, ∃ name value, row = fieldRow name value
  | _ => True

/-- No line of a class is more than three stops deep. -/
theorem Regular.stops_le {line : Line} (regular : line.Regular) : line.stops ≤ 3 := by
  cases line with
  | rule stops kind => exact Nat.le_trans regular (by decide)
  | rows stops cells => exact regular.1
  | code stops text => exact regular
  | _ => exact Nat.zero_le 3

theorem Regular.even {stops : Nat} {cells : List (List String)}
    (regular : (rows stops cells).Regular) : Text.Even 3 cells := by
  intro row member
  obtain ⟨name, value, rfl⟩ := regular.2.2 row member
  rfl

theorem even_cells {columns : Nat} {rows : List (List String)} (even : Text.Even columns rows)
    (margin : String) : Text.Even columns (cells margin rows) := by
  intro row member
  obtain ⟨before, there, rfl⟩ := List.mem_map.1 member
  rw [← even before there]
  cases before <;> rfl

/-- A regular line is written in every style. -/
theorem Regular.write {line : Line} (regular : line.Regular) (style : Style) :
    ∃ text, line.write style = .ok text := by
  cases line with
  | rows stops table =>
      have even := even_cells regular.even (style.tab stops)
      rw [Line.write, alignRows_eq, Text.align_ok even]
      exact ⟨_, rfl⟩
  | _ => exact ⟨_, rfl⟩

end Line

open Line

/-- Regular lines are written in every style that holds three stops. -/
theorem writeLines_regular {lines : List Line} (regular : ∀ line ∈ lines, line.Regular)
    {style : Style} (holds : style.holds 3 = true) :
    ∃ text, writeLines style lines = .ok text := by
  have margins : (lines.all fun line => style.holds line.stops) = true :=
    List.all_eq_true.2 fun line member => Style.holds_of_le (regular line member).stops_le holds
  obtain ⟨texts, written⟩ := mapM_isOk_iff.2 fun line member => (regular line member).write style
  rw [writeLines, if_pos margins, Line.writeAll, written]
  exact ⟨_, rfl⟩

/-- Nothing is written if one margin cannot be. -/
theorem writeLines_tooDeep {lines : List Line} {line : Line} (member : line ∈ lines) {style : Style}
    (exceeded : style.holds line.stops = false) : writeLines style lines = .error .tooDeep := by
  refine if_neg fun margins => ?_
  exact absurd (List.all_eq_true.1 margins line member) (by rw [exceeded]; exact Bool.false_ne_true)

/-- The lines that are written are joined by line feeds. -/
theorem writeLines_ok {style : Style} {lines : List Line} {text : String}
    (written : writeLines style lines = .ok text) :
    ∃ texts, lines.mapM (Line.write style) = .ok texts ∧ text = "\n".intercalate texts := by
  rw [writeLines] at written
  split at written
  · rw [Line.writeAll] at written
    cases each : lines.mapM (Line.write style) with
    | error error =>
        rw [each] at written
        contradiction
    | ok texts =>
        rw [each] at written
        exact ⟨texts, rfl, (Except.ok.inj written).symm⟩
  · contradiction

theorem regular_of_plain {lines : List Line} (plain : lines.all isPlain = true) :
    ∀ line ∈ lines, line.Regular := by
  intro line member
  have here := List.all_eq_true.1 plain line member
  cases line with
  | rows stops cells => exact absurd here Bool.false_ne_true
  | rule stops kind => exact of_decide_eq_true (p := stops ≤ 1) here
  | code stops text => exact of_decide_eq_true (p := stops ≤ 3) here
  | _ => trivial

theorem spaced_cons_cons (first second : List Line) (rest : List (List Line)) :
    spaced (first :: second :: rest) = first ++ blank :: spaced (second :: rest) := rfl

/-- Parts are put together with blank lines between them. -/
theorem forall_mem_spaced {holds : Line → Prop} (between : holds blank)
    {parts : List (List Line)} (each : ∀ part ∈ parts, ∀ line ∈ part, holds line) :
    ∀ line ∈ spaced parts, holds line := by
  induction parts with
  | nil => exact List.forall_mem_nil _
  | cons part rest inductionHypothesis =>
      obtain ⟨here, later⟩ := List.forall_mem_cons.1 each
      cases rest with
      | nil => simpa [spaced] using here
      | cons next rest =>
          rw [spaced_cons_cons, List.forall_mem_append, List.forall_mem_cons]
          exact ⟨here, between, inductionHypothesis later⟩

/-- The lines of a part stay together. -/
theorem infix_spaced {parts : List (List Line)} {part : List Line} (given : part ∈ parts) :
    part <:+: spaced parts := by
  induction parts with
  | nil => cases given
  | cons first rest inductionHypothesis =>
      cases rest with
      | nil =>
          obtain rfl := List.mem_singleton.1 given
          simp [spaced]
      | cons next rest =>
          rw [spaced_cons_cons]
          rcases List.mem_cons.1 given with rfl | later
          · exact (List.prefix_append _ _).isInfix
          · have behind := (List.suffix_cons blank (spaced (next :: rest))).trans
              (List.suffix_append first _)
            exact (inductionHypothesis later).trans behind.isInfix

/-- The lines of a class that stand in no table. -/
theorem plain_lines (table : ClassTable) :
    (headerLines table).all isPlain = true ∧ (structLines table).all isPlain = true ∧
      (traitLines table).all isPlain = true ∧
      (∀ immutable, (immutableLines immutable).all isPlain = true) ∧
      (∀ entry, (attributeLines entry).all isPlain = true) ∧
      ∀ superclass, ∀ part ∈ derefLines table.name superclass, part.all isPlain = true := by
  refine ⟨rfl, ?_, ?_, fun _ => rfl, ?_, ?_⟩
  · simp [structLines, isPlain]
  · simp [traitLines, isPlain]
  · rintro ⟨declared, index⟩
    rw [attributeLines, storeLines]
    split <;> rfl
  · simp [derefLines, isPlain]

theorem bodyLines_plain (body : String) : (bodyLines body).all isPlain = true := by
  rw [bodyLines, List.all_map, List.all_eq_true]
  intro line _
  rw [Function.comp_apply]
  dsimp only
  split <;> rfl

/-- A table of fields is regular, since all its rows have a name and a value. -/
theorem fieldTable_regular (heading : String) {cells : List (List String)}
    (fields : ∀ row ∈ cells, ∃ name value, row = fieldRow name value) :
    ∀ line ∈ fieldTable heading cells, line.Regular := by
  rw [fieldTable]
  split
  · exact List.forall_mem_nil _
  · rename_i given
    have filled : cells ≠ [] := fun empty => given (List.isEmpty_iff.2 empty)
    exact List.forall_mem_cons.2
      ⟨Nat.le_refl 3, List.forall_mem_singleton.2 ⟨Nat.le_refl 3, filled, fields⟩⟩

/-- A finite constant can be written as a row. -/
theorem immutableRow_finite {immutable : Immutable} (finite : immutable.value.Finite) :
    ∃ row, immutableRow immutable = .ok row ∧ ∃ name value, row = fieldRow name value := by
  obtain ⟨expression, written⟩ := constantExpression_finite finite
  rw [immutableRow, written]
  cases expression <;> exact ⟨_, rfl, _, _, rfl⟩

/-- An attribute with a finite initial value, or none, can be written as a row. -/
theorem attributeRow_finite {rule : Attribute}
    (finite : ∀ initial, rule.initial = some initial → initial.Finite) :
    ∃ row, attributeRow rule = .ok row ∧ ∃ name value, row = fieldRow name value := by
  have start : (rule.initial.getD .null).Finite := by
    cases given : rule.initial with
    | none => exact nofun
    | some initial => exact finite initial given
  obtain ⟨expression, written⟩ := constantExpression_finite start
  rw [attributeRow, written]
  cases expression <;> exact ⟨_, rfl, _, _, rfl⟩

/-- All numbers that the source of the class needs as literals are finite. -/
def Literal (table : ClassTable) : Prop :=
  (∀ immutable ∈ table.immutables, immutable.value.Finite) ∧
    ∀ rule ∈ table.attributes, ∀ initial, rule.initial = some initial → initial.Finite

theorem constructorLines_regular {table : ClassTable} (literal : Literal table) :
    ∃ lines, constructorLines table = .ok lines ∧ ∀ line ∈ lines, line.Regular := by
  obtain ⟨immutables, immutablesMade, immutablesFields⟩ :=
    mapM_gives fun immutable member => immutableRow_finite (literal.1 immutable member)
  obtain ⟨attributes, attributesMade, attributesFields⟩ :=
    mapM_gives fun rule member => attributeRow_finite (literal.2 rule member)
  rw [constructorLines, immutablesMade, attributesMade]
  refine ⟨_, rfl, ?_⟩
  simp only [List.forall_mem_append]
  refine ⟨⟨⟨⟨⟨⟨regular_of_plain rfl, ?_⟩, fieldTable_regular _ immutablesFields⟩,
    fieldTable_regular _ attributesFields⟩, regular_of_plain rfl⟩, ?_⟩, regular_of_plain rfl⟩
  · exact regular_of_plain (by simp [isPlain])
  · cases table.body with
    | none => exact regular_of_plain rfl
    | some body => exact regular_of_plain (bodyLines_plain body)

theorem methodLines_regular {table : ClassTable} (literal : Literal table) :
    ∃ lines, methodLines table = .ok lines ∧ ∀ line ∈ lines, line.Regular := by
  obtain ⟨_, _, _, immutables, attributes, _⟩ := plain_lines table
  obtain ⟨constructor, made, regular⟩ := constructorLines_regular literal
  rw [methodLines, made]
  refine ⟨_, rfl, ?_⟩
  simp only [List.forall_mem_append]
  refine ⟨⟨regular_of_plain rfl, forall_mem_spaced trivial ?_⟩, regular_of_plain rfl⟩
  simp only [List.cons_append, List.forall_mem_cons, List.forall_mem_append, List.forall_mem_map]
  exact ⟨regular, fun immutable _ => regular_of_plain (immutables immutable),
    fun entry _ => regular_of_plain (attributes entry)⟩

/-- A class with finite constants has regular lines. -/
theorem classLines_regular {table : ClassTable} (literal : Literal table) :
    ∃ lines, classLines table = .ok lines ∧ ∀ line ∈ lines, line.Regular := by
  obtain ⟨header, struct, trait, _, _, deref⟩ := plain_lines table
  obtain ⟨methods, made, regular⟩ := methodLines_regular literal
  rw [classLines, made]
  refine ⟨_, rfl, forall_mem_spaced trivial ?_⟩
  simp only [List.cons_append, List.nil_append, List.forall_mem_cons]
  refine ⟨regular_of_plain header, regular_of_plain struct, regular, regular_of_plain trait, ?_⟩
  intro part member
  obtain ⟨superclass, _, inside⟩ := List.mem_flatMap.1 member
  exact regular_of_plain (deref superclass part inside)

/-- The arms of a class stand three stops inside. -/
theorem exists_deep {table : ClassTable} {lines : List Line} (made : classLines table = .ok lines) :
    ∃ line ∈ lines, line.stops = 3 := by
  obtain ⟨methods, _, rest⟩ := ok_of_bind made
  obtain rfl := Except.ok.inj rest
  have last : code 3 ("_ => " ++ fallback table "get(name)" ++ ",") ∈ traitLines table := by
    simp [traitLines]
  exact ⟨_, (infix_spaced (by simp)).subset last, rfl⟩

section Literal

variable {table : ClassTable} (literal : Literal table) {style : Style}
include literal

/-- A class with finite constants has a text in every style that holds three stops. -/
theorem classText_literal (holds : style.holds 3 = true) :
    ∃ text, classText table style = .ok text := by
  obtain ⟨lines, made, regular⟩ := classLines_regular literal
  obtain ⟨text, written⟩ := writeLines_regular regular holds
  refine ⟨text, ?_⟩
  rw [classText, made]
  exact written

/-- No class has a text in a style that cannot hold its deepest line. -/
theorem classText_tooDeep (exceeded : style.holds 3 = false) :
    classText table style = .error .tooDeep := by
  obtain ⟨lines, made, _⟩ := classLines_regular literal
  obtain ⟨line, member, deep⟩ := exists_deep made
  rw [classText, made]
  exact writeLines_tooDeep member (deep ▸ exceeded)

/-- A class is written if the margins of its innermost lines can be. -/
theorem classText_ok_iff :
    (∃ text, classText table style = .ok text) ↔ style.holds 3 = true := by
  refine ⟨fun ⟨text, written⟩ => ?_, classText_literal literal⟩
  by_contra exceeded
  rw [classText_tooDeep literal (Bool.eq_false_iff.2 exceeded)] at written
  contradiction

end Literal

/-- The text in front of a class. -/
def moduleHead (table : ClassTable) (style : Style) : String :=
  style.tab 0 ++ ("mod " ++ moduleIdent table.name ++ opening) ++ "\n" ++
    (style.tab 1 ++ "use super::*;") ++ "\n" ++ ""

/-- The text behind a class. -/
def moduleTail (table : ClassTable) (style : Style) : String :=
  style.tab 0 ++ closing ++ "\n" ++ "" ++ "\n" ++
    (style.tab 0 ++ ("pub use " ++ moduleIdent table.name ++ "::" ++ table.name ++ ";"))

section Module

variable {table : ClassTable} {style : Style}

/-- A module is the class one stop deeper, between its head and its tail. -/
theorem moduleText_eq (holds : style.holds 1 = true) {inner : Style}
    (inside : style.deeper? = some inner) :
    moduleText table style = (classText table inner).map fun text =>
      moduleHead table style ++ "\n" ++ text ++ "\n" ++ moduleTail table style ++ "\n" := by
  have outer : style.holds 0 = true := Style.holds_of_le (Nat.zero_le 1) holds
  have head : writeLines style [code 0 ("mod " ++ moduleIdent table.name ++ opening),
      code 1 "use super::*;", blank] = .ok (moduleHead table style) := by
    rw [writeLines, if_pos (by simp [Line.stops, holds, outer])]
    rfl
  have tail : writeLines style [code 0 closing, blank,
      code 0 ("pub use " ++ moduleIdent table.name ++ "::" ++ table.name ++ ";")] =
        .ok (moduleTail table style) := by
    rw [writeLines, if_pos (by simp [Line.stops, outer])]
    rfl
  unfold moduleText
  dsimp only
  rw [inside, head, tail]
  change (classText table inner >>= fun text =>
    .ok (moduleHead table style ++ "\n" ++ text ++ "\n" ++ moduleTail table style ++ "\n")) = _
  cases classText table inner <;> rfl

variable (literal : Literal table)
include literal

/-- A class with finite constants has a module in every style that holds four stops. -/
theorem moduleText_literal (holds : style.holds 4 = true) :
    ∃ text, moduleText table style = .ok text := by
  have near : style.holds 1 = true := Style.holds_of_le (by decide) holds
  obtain ⟨inner, inside⟩ := Style.exists_deeper near
  obtain ⟨text, written⟩ :=
    classText_literal literal ((Style.holds_deeper inside 3).trans holds)
  rw [moduleText_eq near inside, written]
  exact ⟨_, rfl⟩

/-- No class has a module in a style that cannot hold its deepest line. -/
theorem moduleText_tooDeep (exceeded : style.holds 4 = false) :
    moduleText table style = .error .tooDeep := by
  cases inside : style.deeper? with
  | none =>
      rw [moduleText, inside]
      rfl
  | some inner =>
      by_cases near : style.holds 1 = true
      · have far := (Style.holds_deeper inside 3).trans exceeded
        rw [moduleText_eq near inside, classText_tooDeep literal far]
        rfl
      · have scope : code 1 "use super::*;" ∈ [code 0 ("mod " ++ moduleIdent table.name ++ opening),
            code 1 "use super::*;", blank] := by
          simp
        have headless := writeLines_tooDeep scope (Bool.eq_false_iff.2 near)
        unfold moduleText
        dsimp only
        rw [inside, headless]
        rfl

end Module

/-- A well-formed table has finite constants. -/
theorem literal_of_wellFormed {table : ClassTable} (wellFormed : table.WellFormed) :
    Literal table :=
  ⟨wellFormed.immutables, fun rule inside => (wellFormed.rules rule inside).finite⟩

/-- The review finds the numbers that have no literal. -/
theorem literal_of_review {tables : Catalog} (silent : tables.review = .ok ())
    {table : ClassTable} (member : table ∈ tables) : Literal table :=
  literal_of_wellFormed (Catalog.wellFormed_of_review silent member)

section Review

variable {style : Style}

/-- An accepted catalog has a source in every style that holds four stops. -/
theorem generate_ok {tables : Catalog} (silent : tables.review = .ok ())
    (holds : tables = [] ∨ style.holds 4 = true) :
    ∃ source, generate tables style = .ok source := by
  obtain ⟨modules, written, _⟩ : ∃ modules, tables.mapM (fun table =>
      (moduleText table style).mapError (GenerationError.layout table.name)) = .ok modules ∧
        ∀ text ∈ modules, True := by
    apply mapM_gives
    intro table member
    have margins := holds.resolve_left (List.ne_nil_of_mem member)
    obtain ⟨text, made⟩ := moduleText_literal (literal_of_review silent member) margins
    rw [made]
    exact ⟨text, rfl, trivial⟩
  rw [generate, silent]
  dsimp only
  rw [written]
  exact ⟨_, rfl⟩

/-- The first class of an accepted catalog stops a style that is too deep. -/
theorem generate_tooDeep {table : ClassTable} {rest : Catalog}
    (silent : Catalog.review (table :: rest) = .ok ()) (exceeded : style.holds 4 = false) :
    generate (table :: rest) style = .error (.layout table.name .tooDeep) := by
  have first := moduleText_tooDeep (literal_of_review silent (.head _)) exceeded
  rw [generate, silent]
  dsimp only
  rw [List.mapM_cons, first]
  rfl

/-- Tables without faults are written if the margins of all their lines can be. -/
theorem generate_ok_iff {tables : Catalog} (silent : tables.review = .ok ()) :
    (∃ source, generate tables style = .ok source) ↔ tables = [] ∨ style.holds 4 = true := by
  refine ⟨fun ⟨source, written⟩ => ?_, generate_ok silent⟩
  cases tables with
  | nil => exact .inl rfl
  | cons table rest =>
      by_contra exceeded
      rw [not_or, Bool.not_eq_true] at exceeded
      rw [generate_tooDeep silent exceeded.2] at written
      contradiction

end Review

/-- A class with nothing but a name. -/
def cone : ClassTable where
  location := ⟨"tables", "CONE"⟩
  name := "Cone"

end Source

end SceneCatalog
