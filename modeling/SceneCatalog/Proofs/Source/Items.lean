import Mathlib.Data.List.Nodup
import SceneCatalog.Proofs.Source.Identifiers

/-
This file reads generated source as a list of items, and says when their names are all different.
-/

namespace SceneCatalog.Source

open Line

/-- What stands at the top of generated source: imports, modules, and exports from modules. -/
inductive Item where
  | imports (path : String) (names : List String)
  | module (name body : String)
  | reexport (home name : String)

namespace Item

/-- The names that an item brings into its scope. -/
def names : Item → List String
  | imports _ names => names
  | module name _ => [name]
  | reexport _ name => [name]

/-- Blank lines stand around the items of a class. -/
def write (style : Style) : Item → String
  | imports path names => "use " ++ path ++ "::\x7b" ++ ", ".intercalate names ++ "\x7d;\n"
  | module name body =>
    "\n" ++ style.tab 0 ++ "mod " ++ name ++ " \x7b\n" ++ style.tab 1 ++ "use super::*;\n\n" ++
      body ++ "\n" ++ style.tab 0 ++ "\x7d\n"
  | reexport home name =>
    "\n" ++ style.tab 0 ++ "pub use " ++ home ++ "::" ++ name ++ ";\n\n"

end Item

/-- The remark that generated source starts with. -/
def remark : String :=
  "// Generated by povgen-build from the povgen-schema catalog. Do not edit.\n\n"

def imported : List Item := [
  .imports "::povgen_core" ["Error", "Options", "Slot", "Value"],
  .imports "::povgen_schema" ["Class", "EntityDescriptor"]]

def writeItems (style : Style) (items : List Item) : String :=
  String.join (items.map (Item.write style))

/-- A class stands in a module of its own and is exported from there. -/
def tableItems (body : ClassTable → String) (table : ClassTable) : List Item := [
  .module (moduleIdent table.name) (body table),
  .reexport (moduleIdent table.name) table.name]

def items (body : ClassTable → String) (tables : Catalog) : List Item :=
  imported ++ tables.flatMap (tableItems body)

theorem preamble_eq (style : Style) : preamble = remark ++ writeItems style imported := by
  rfl

theorem writeItems_append (style : Style) (first second : List Item) :
    writeItems style (first ++ second) = writeItems style first ++ writeItems style second := by
  rw [writeItems, List.map_append, String.join_append]
  rfl

section Inside

variable {style inner : Style} (holds : style.holds 1 = true) (deeper : style.deeper? = some inner)
  {body : ClassTable → String}
include holds deeper

/-- A module is the items of its table. -/
theorem moduleText_items {table : ClassTable} (inside : classText table inner = .ok (body table)) :
    ∃ text, moduleText table style = .ok text ∧
      "\n" ++ text ++ "\n" = writeItems style (tableItems body table) := by
  rw [moduleText_eq holds deeper, inside]
  refine ⟨_, rfl, ?_⟩
  rw [← String.toList_inj]
  simp [moduleHead, moduleTail, writeItems, tableItems, Item.write, opening, closing]

/-- The modules follow one another as their tables do. -/
theorem modules_items {tables : Catalog}
    (inside : ∀ table ∈ tables, classText table inner = .ok (body table)) :
    ∃ modules, tables.mapM (fun table =>
        (moduleText table style).mapError (GenerationError.layout table.name)) = .ok modules ∧
      String.join (modules.map fun text => "\n" ++ text ++ "\n") =
        writeItems style (tables.flatMap (tableItems body)) := by
  induction tables with
  | nil => exact ⟨[], rfl, rfl⟩
  | cons table rest inductionHypothesis =>
      obtain ⟨here, later⟩ := List.forall_mem_cons.1 inside
      obtain ⟨text, made, written⟩ := moduleText_items holds deeper here
      obtain ⟨others, othersMade, othersWritten⟩ := inductionHypothesis later
      refine ⟨text :: others, ?_, ?_⟩
      · rw [List.mapM_cons, made, othersMade]
        rfl
      · rw [List.map_cons, String.join_cons, written, othersWritten, List.flatMap_cons,
          writeItems_append]

/-- The source of an accepted catalog is the remark and the items of its tables. -/
theorem generate_items {tables : Catalog} (silent : tables.review = .ok ())
    (inside : ∀ table ∈ tables, classText table inner = .ok (body table)) :
    generate tables style = .ok (remark ++ writeItems style (items body tables)) := by
  obtain ⟨modules, made, written⟩ := modules_items holds deeper inside
  rw [generate, silent]
  dsimp only
  rw [made, items, writeItems_append, ← String.append_assoc, ← preamble_eq, ← written]
  rfl

end Inside

/-- Where all margins can be written, each class has a source in its module. -/
theorem exists_bodies {tables : Catalog} (silent : tables.review = .ok ()) (style : Style)
    (holds : style.holds 4 = true) :
    ∃ inner, style.deeper? = some inner ∧ ∃ body : ClassTable → String,
      (∀ table ∈ tables, classText table inner = .ok (body table)) ∧
      generate tables style = .ok (remark ++ writeItems style (items body tables)) := by
  have near : style.holds 1 = true := Style.holds_of_le (by decide) holds
  obtain ⟨inner, deeper⟩ := Style.exists_deeper near
  have written : ∀ table ∈ tables, ∃ text, classText table inner = .ok text := fun table member =>
    classText_literal (literal_of_review silent member) ((Style.holds_deeper deeper 3).trans holds)
  choose! body inside using written
  exact ⟨inner, deeper, body, inside, generate_items near deeper silent inside⟩

/-- Source consists of items, in which the classes stand one block further inside. -/
theorem items_of_generate {tables : Catalog} (silent : tables.review = .ok ()) {style : Style}
    {source : String} (written : generate tables style = .ok source) :
    ∃ body, source = remark ++ writeItems style (items body tables) ∧
      ∀ table ∈ tables, ∃ inner, style.deeper? = some inner ∧
        classText table inner = .ok (body table) := by
  rcases (generate_ok_iff silent).1 ⟨source, written⟩ with rfl | holds
  · rw [generate, silent] at written
    exact ⟨fun _ => "", (Except.ok.inj written).symm, List.forall_mem_nil _⟩
  · obtain ⟨inner, deeper, body, inside, made⟩ := exists_bodies silent style holds
    exact ⟨body, Except.ok.inj (written.symm.trans made),
      fun table member => ⟨inner, deeper, inside table member⟩⟩

/-- All names at the top of the source. -/
def topNames (tables : Catalog) : List String :=
  imported.flatMap Item.names ++ tables.flatMap fun table => [moduleIdent table.name, table.name]

/-- The names of the items are those of the imports, the modules and the classes. -/
theorem names_items (body : ClassTable → String) (tables : Catalog) :
    (items body tables).flatMap Item.names = topNames tables := by
  rw [items, List.flatMap_append, List.flatMap_assoc]
  rfl

/-- A module has a name in lower case, as no class and no import has. -/
theorem moduleIdent_ne {className other : String} (proper : Naming.Proper Char.isUpper className)
    (capital : other.toList.head?.any Char.isUpper = true) : moduleIdent className ≠ other := by
  rintro rfl
  obtain ⟨c, rest, begun, small⟩ := (Naming.snakeCase_snakeName proper).begins
  have large : c.isUpper = true := by
    rwa [moduleIdent, String.toList_append, begun, List.cons_append, List.head?_cons,
      Option.any_some] at capital
  have both := Text.of_ascii (fun c => !c.isUpper || !c.isLower) (by decide +kernel)
    (Text.ascii_of_isAlphanum (Text.isAlphanum_of_isAlpha (Text.isAlpha_of_isUpper large)))
  rw [large, small] at both
  contradiction

theorem className_capital {className : String} (proper : Naming.Proper Char.isUpper className) :
    className.toList.head?.any Char.isUpper = true := by
  obtain ⟨first, rest, spelled, capital⟩ := proper.begins
  rw [spelled, List.head?_cons, Option.any_some, capital]

/-- Modules of one name belong to classes of one snake name. -/
theorem moduleIdent_inj {first second : String}
    (same : moduleIdent first = moduleIdent second) :
    Naming.snakeName first = Naming.snakeName second := by
  rw [moduleIdent, moduleIdent, ← String.toList_inj, String.toList_append, String.toList_append,
    List.append_cancel_right_eq, String.toList_inj] at same
  exact same

/-- Modules are told apart by their names, classes by those of their modules. -/
theorem nodup_tableNames {tables : Catalog} (wellFormed : tables.WellFormed) :
    (tables.flatMap fun table => [moduleIdent table.name, table.name]).Nodup := by
  have proper : ∀ table ∈ tables, Naming.Proper Char.isUpper table.name := fun table member =>
    (wellFormed.tables table member).name
  have noModule : ∀ first ∈ tables, ∀ second ∈ tables, moduleIdent first.name ≠ second.name :=
    fun first firstMember second secondMember =>
      moduleIdent_ne (proper first firstMember) (className_capital (proper second secondMember))
  rw [List.nodup_flatMap]
  constructor
  · intro table member
    simpa using noModule table member table member
  · refine (List.pairwise_map.1 wellFormed.modules).imp_of_mem ?_
    intro first second firstMember secondMember apart
    have modules : moduleIdent first.name ≠ moduleIdent second.name := apart ∘ moduleIdent_inj
    have classes : first.name ≠ second.name := apart ∘ congrArg Naming.snakeName
    intro name belongs alsoBelongs
    rcases List.mem_pair.1 belongs with rfl | rfl <;>
      rcases List.mem_pair.1 alsoBelongs with same | same
    · exact modules same
    · exact noModule first firstMember second secondMember same
    · exact noModule second secondMember first firstMember same.symm
    · exact classes same

/-- The names at the top are all different, but for those of classes that have the name of an
import. -/
theorem nodup_topNames_iff {tables : Catalog} (wellFormed : tables.WellFormed) :
    (topNames tables).Nodup ↔
      ∀ table ∈ tables, table.name ∉ imported.flatMap Item.names := by
  have importsNodup : (imported.flatMap Item.names).Nodup := by decide +kernel
  have capital : ∀ name ∈ imported.flatMap Item.names,
      name.toList.head?.any Char.isUpper = true := by
    decide +kernel
  rw [topNames, List.nodup_append]
  constructor
  · rintro ⟨_, _, apart⟩ table member among
    exact apart _ among table.name (List.mem_flatMap.2 ⟨table, member, by simp⟩) rfl
  · refine fun free => ⟨importsNodup, nodup_tableNames wellFormed, ?_⟩
    rintro name among _ belongs rfl
    obtain ⟨table, member, either⟩ := List.mem_flatMap.1 belongs
    rcases List.mem_pair.1 either with rfl | rfl
    · exact moduleIdent_ne (wellFormed.tables table member).name (capital _ among) rfl
    · exact free table member among

/-- Source is the imports, then two items for each class, as long as all margins can be written.
The names of the items are all different, unless a class has the name of an import. -/
theorem items_distinct {tables : Catalog} (silent : tables.review = .ok ()) (style : Style) :
    ∃ body : ClassTable → String,
      (style.holds 4 = true → ∃ inner, style.deeper? = some inner ∧
        ∀ table ∈ tables, classText table inner = .ok (body table)) ∧
      (generate tables style = .ok (remark ++ writeItems style (items body tables)) ↔
        tables = [] ∨ style.holds 4 = true) ∧
      (((items body tables).flatMap Item.names).Nodup ↔
        ∀ table ∈ tables,
          table.name ∉ ["Error", "Options", "Slot", "Value", "Class", "EntityDescriptor"]) := by
  have distinct (body : ClassTable → String) :
      ((items body tables).flatMap Item.names).Nodup ↔
        ∀ table ∈ tables, table.name ∉ imported.flatMap Item.names := by
    rw [names_items]
    exact nodup_topNames_iff (Catalog.WellFormed.of_review silent)
  by_cases holds : style.holds 4 = true
  · obtain ⟨inner, deeper, body, inside, written⟩ := exists_bodies silent style holds
    exact ⟨body, fun _ => ⟨inner, deeper, inside⟩, iff_of_true written (.inr holds), distinct body⟩
  · refine ⟨fun _ => "", fun margins => absurd margins holds, ?_, distinct _⟩
    refine ⟨fun written => (generate_ok_iff silent).1 ⟨_, written⟩, fun either => ?_⟩
    obtain rfl := either.resolve_right holds
    rw [generate, silent]
    rfl

theorem items_distinct_shape :
    Catalog.review [shape, ball] = .ok () ∧ ∃ body,
      generate [shape, ball] {} = .ok (remark ++ writeItems {} (items body [shape, ball])) ∧
      ((items body [shape, ball]).flatMap Item.names).Nodup := by
  obtain ⟨body, _, written, distinct⟩ := items_distinct shapes_review {}
  exact ⟨shapes_review, body, written.2 (.inr (by decide)), distinct.2 (by decide)⟩

/-- A class that has the name of an import. -/
def valuable : ClassTable where
  location := ⟨"tables", "VALUE"⟩
  name := "Value"

/-- The review has nothing to say about a class that is named as the imported type of values is. -/
theorem valuable_clashes :
    Catalog.review [valuable] = .ok () ∧ ∃ body,
      generate [valuable] {} = .ok (remark ++ writeItems {} (items body [valuable])) ∧
      ¬((items body [valuable]).flatMap Item.names).Nodup := by
  have silent : Catalog.review [valuable] = .ok () := by
    rw [Catalog.review, Issues.result, if_pos (by decide +kernel)]
  obtain ⟨_, _, body, _, written⟩ := exists_bodies silent {} (by decide)
  refine ⟨silent, body, written, fun distinct => ?_⟩
  rw [names_items, topNames, List.nodup_append] at distinct
  exact distinct.2.2 "Value" (by decide) "Value" (by decide) rfl

end SceneCatalog.Source
