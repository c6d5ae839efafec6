import SceneCatalog.Proofs.Source.Identifiers
import SceneCatalog.Proofs.Text.Paragraphs

/-
This file shows that the style of generated source changes its blanks and comments only.
-/

namespace SceneCatalog.Source

open Text

/-- The line has two slashes behind the blanks that it begins with. -/
def isComment (line : List Char) : Bool := "//".toList.isPrefixOf (trimStart line)

/-- The lines that are no comments, without the blanks in front of them. -/
def contents (lines : List (List Char)) : List (List Char) :=
  (lines.filter fun line => !isComment line).map trimStart

/-- What is left of a text without its layout. -/
def essence (text : String) : List (List Char) := contents (text.toList.splitOn '\n')

/-- Indentations are blanks, and rules have room for two slashes behind them. -/
structure Style.Fits (style : Style) : Prop where
  blanks : IsMargin style.indent.toList
  room : (style.tab 1).length + 2 ≤ style.dividerWidth

/-- What is left of lines is what is left of each, without indentation and comments. -/
theorem contents_eq (lines : List (List Char)) :
    contents lines =
      (lines.map trimStart).filter fun line => !"//".toList.isPrefixOf line := by
  rw [contents, List.filter_map]
  rfl

/-- Blanks in front of lines do not matter. -/
theorem contents_congr {first second : List (List Char)}
    (same : first.map trimStart = second.map trimStart) : contents first = contents second := by
  rw [contents_eq, contents_eq, same]

/-- What is left of many lines is left of them part by part. -/
theorem contents_flatMap {Item : Type} (items : List Item) (lines : Item → List (List Char)) :
    contents (items.flatMap lines) = items.flatMap fun item => contents (lines item) := by
  rw [contents, List.filter_flatMap, List.map_flatMap]
  rfl

theorem contents_comments {lines : List (List Char)}
    (comments : ∀ line ∈ lines, isComment line = true) : contents lines = [] := by
  have none : lines.filter (fun line => !isComment line) = [] :=
    List.filter_eq_nil_iff.2 fun line member => by simp [comments line member]
  rw [contents, none, List.map_nil]

/-- A margin leaves nothing behind. -/
theorem essence_margin {margin : String} (blanks : IsMargin margin.toList) (text : String) :
    essence (margin ++ text) = essence text := by
  rw [essence, String.toList_append]
  exact contents_congr (map_splitOn_margin blanks (trimStart_margin blanks) text.toList)

/-- What is left of joined texts is what is left of each. -/
theorem essence_intercalate {texts : List String} (filled : texts ≠ []) :
    essence ("\n".intercalate texts) = texts.flatMap essence := by
  rw [essence, splitOn_intercalate filled, contents_flatMap]
  rfl

/-- Nothing is left of a comment in one line. -/
theorem essence_comment {margin text : String} (blanks : IsMargin margin.toList)
    (single : '\n' ∉ text.toList) (slashes : "//".toList <+: text.toList) :
    essence (margin ++ text) = [] := by
  obtain ⟨rest, spelled⟩ := slashes
  rw [essence_margin blanks, essence, List.splitOn_eq_singleton single]
  refine contents_comments (List.forall_mem_singleton.2 ?_)
  rw [← spelled]
  rfl

theorem isMargin_indent {unit : String} (blanks : IsMargin unit.toList) (stops : Nat) :
    IsMargin (Text.indent unit stops).toList := by
  intro c member
  rw [Text.indent, String.toList_join, List.mem_flatMap] at member
  obtain ⟨_, copy, inside⟩ := member
  rw [List.eq_of_mem_replicate copy] at inside
  exact blanks c inside

theorem length_indent (unit : String) (stops : Nat) :
    (Text.indent unit stops).length = stops * unit.length := by
  rw [← String.length_toList, Text.indent, String.toList_join, List.length_flatMap,
    List.map_replicate, List.sum_replicate_nat, String.length_toList]

theorem Rule.not_mem_template (kind : Rule) : '\n' ∉ kind.template := by
  cases kind <;> decide

/-- A rule is a comment if there is room for two slashes. -/
theorem Rule.slashes_iff (kind : Rule) (room : Nat) :
    "//".toList <+: kind.template.take room ↔ 2 ≤ room := by
  rw [List.prefix_take_iff]
  exact and_iff_right ⟨List.replicate 130 kind.mark, rfl⟩

namespace Line

/-- What is left of a line in any style. -/
def essence : Line → List (List Char)
  | code _ text => Source.essence text
  | blank => [[]]
  | rule _ _ => []
  | paragraph text => if (words text.toList).isEmpty then [[]] else []
  | rows _ cells => contents (cells.flatMap fun row =>
      ((alignRow (columnWidths 3 cells) row).toList.splitOn '\n').map trimEnd)

section Style

variable {style : Style} (fits : style.Fits)
include fits

/-- Nothing is left of a rule. -/
theorem essence_rule {stops : Nat} (near : stops ≤ 1) (kind : Rule) :
    Source.essence (kind.draw style.indent (style.level stops) style.dividerWidth) = [] := by
  have room : 2 ≤ style.dividerWidth -
      (Text.indent style.indent (style.level stops)).length := by
    have lower : style.level stops ≤ style.level 1 := Nat.add_le_add_left near style.depth
    have shorter := Nat.mul_le_mul_right style.indent.length lower
    have given := fits.room
    rw [Style.tab, length_indent] at given
    rw [length_indent]
    omega
  rw [Rule.draw]
  apply essence_comment (isMargin_indent fits.blanks _)
  · rw [String.toList_ofList]
    exact fun member => kind.not_mem_template (List.mem_of_mem_take member)
  · simp only [String.toList_ofList]
    exact (kind.slashes_iff _).2 room

/-- What is left of a wrapped text is left of it in any style. -/
theorem essence_paragraph (text : String) :
    Source.essence (wrap text (style.tab 0 ++ "// ") style.wrapWidth) =
      (paragraph text).essence := by
  have blanks : IsMargin (style.tab 0).toList := isMargin_indent fits.blanks _
  have same : (words text.toList).isEmpty = (stretches text).isEmpty := by
    rw [← words_eq_stretches, List.isEmpty_map]
  rw [essence, same]
  by_cases empty : stretches text = []
  · rw [(wrap_eq_empty_iff ..).2 empty, empty]
    rfl
  · have lines := (fill_eq_nil_iff style.wrapWidth _).not.2 empty
    rw [if_neg (by simpa using empty), wrap_eq,
      essence_intercalate (List.map_eq_nil_iff.not.2 lines), List.flatMap_map,
      List.flatMap_eq_nil_iff]
    intro line member
    rw [String.append_assoc]
    apply essence_comment blanks
    · exact (OneLine.append_iff _ _).2 ⟨by decide, oneLine_fill member⟩
    · rw [String.toList_append]
      exact List.prefix_append ['/', '/'] (' ' :: (" ".intercalate line).toList)

end Style

theorem cells_eq (margin : String) (table : List (List String)) :
    cells margin table = table.map fun cells => cells.modifyHead (margin ++ ·) :=
  List.map_congr_left fun cells _ => by cases cells <;> rfl

/-- Only blanks are left behind the comma that the row of a field ends in. -/
theorem unfinished_alignRow {widths : List Nat} {name value : String}
    (fits : FitsWidths widths (fieldRow name value)) :
    Unfinished (alignRow widths (fieldRow name value)).toList := by
  have ends (count : Nat) : Unfinished (',' :: List.replicate count ' ') := by
    cases count with
    | zero => exact ⟨',', rfl, by decide⟩
    | succ count =>
        refine ⟨' ', ?_, by decide⟩
        rw [List.replicate_succ', ← List.cons_append, List.getLast?_concat]
  have comma : ",".toList = [','] := rfl
  obtain ⟨first, second, third, rfl⟩ := List.length_eq_three.1 fits.length_eq.symm
  have last : alignRow [] [] = "" := rfl
  rw [fieldRow, alignRow_cons, alignRow_cons, alignRow_cons, last, String.append_empty,
    String.toList_append, String.toList_append]
  refine (Unfinished.append ?_ _).append _
  rw [toList_pad_right, String.toList_append, comma, List.append_assoc]
  exact (ends _).append _

/-- Behind a margin, the lines of aligned rows are those of the rows, without the blanks at their
ends. -/
theorem alignRows_lines (margin : String) {stops : Nat} {table : List (List String)}
    (regular : (rows stops table).Regular) :
    ∃ text, alignRows margin table = .ok text ∧
      text.toList.splitOn '\n' = (table.flatMap fun row =>
        (margin ++ alignRow (columnWidths 3 table) row).toList.splitOn '\n').map trimEnd := by
  have even := regular.even
  obtain ⟨-, filled, fields⟩ := regular
  let texts := table.map fun row => margin ++ alignRow (columnWidths 3 table) row
  have filledTexts : texts ≠ [] := List.map_eq_nil_iff.not.2 filled
  have aligned : align (cells margin table) = .ok ("\n".intercalate texts) := by
    rw [cells_eq, align_margin margin even filled (by decide)]
  have unfinished : Unfinished ("\n".intercalate texts).toList := by
    refine Unfinished.intercalate filledTexts (List.forall_mem_map.2 fun row member => ?_) _
    obtain ⟨name, value, rfl⟩ := fields row member
    rw [String.toList_append]
    exact (unfinished_alignRow (fits_columnWidths even member)).append _
  have pieces : ("\n".intercalate texts).toList.splitOn '\n' = table.flatMap fun row =>
      (margin ++ alignRow (columnWidths 3 table) row).toList.splitOn '\n' := by
    rw [splitOn_intercalate filledTexts, List.flatMap_map]
  rw [alignRows_eq, aligned]
  refine ⟨_, rfl, ?_⟩
  rw [map_trimEnd_lines unfinished, splitOn_intercalate_lines, pieces]
  · exact List.map_eq_nil_iff.not.2 (List.splitOn_ne_nil _ _)
  · exact List.forall_mem_map.2 fun line member lineEnd =>
      not_mem_of_mem_splitOn member (mem_of_mem_trimEnd lineEnd)

/-- Aligned rows leave their cells, whatever the margin is. -/
theorem essence_rows {margin : String} (blanks : IsMargin margin.toList) {stops : Nat}
    {table : List (List String)} (regular : (rows stops table).Regular) :
    ∃ text, alignRows margin table = .ok text ∧
      Source.essence text = (rows stops table).essence := by
  obtain ⟨text, aligned, split⟩ := alignRows_lines margin regular
  refine ⟨text, aligned, ?_⟩
  -- Trimming is done line by line, so the margin can be dropped row by row.
  rw [Source.essence, split, List.map_flatMap, contents_flatMap, essence, contents_flatMap]
  refine List.flatMap_congr fun row _ => contents_congr ?_
  rw [String.toList_append, List.map_map, List.map_map]
  exact map_splitOn_margin blanks (trimStart_trimEnd_margin blanks) _

/-- A regular line leaves its essence in every style that fits. -/
theorem Regular.write_essence {line : Line} (regular : line.Regular) {style : Style}
    (fits : style.Fits) :
    ∃ text, line.write style = .ok text ∧ Source.essence text = line.essence := by
  have blanks (stops : Nat) : IsMargin (style.tab stops).toList := isMargin_indent fits.blanks _
  cases line with
  | code stops text => exact ⟨_, rfl, essence_margin (blanks stops) text⟩
  | blank => exact ⟨_, rfl, rfl⟩
  | rule stops kind => exact ⟨_, rfl, essence_rule fits regular kind⟩
  | paragraph text => exact ⟨_, rfl, essence_paragraph fits text⟩
  | rows stops table => exact essence_rows (blanks stops) regular

end Line

/-- Regular lines leave their essences in every style that fits. -/
theorem mapM_essence {lines : List Line} (regular : ∀ line ∈ lines, line.Regular) {style : Style}
    (fits : style.Fits) :
    ∃ texts, lines.mapM (Line.write style) = .ok texts ∧
      texts.map essence = lines.map Line.essence := by
  induction lines with
  | nil => exact ⟨[], rfl, rfl⟩
  | cons line rest inductionHypothesis =>
      obtain ⟨here, later⟩ := List.forall_mem_cons.1 regular
      obtain ⟨text, written, left⟩ := here.write_essence fits
      obtain ⟨texts, othersWritten, othersLeft⟩ := inductionHypothesis later
      refine ⟨text :: texts, ?_, ?_⟩
      · rw [List.mapM_cons, written, othersWritten]
        rfl
      · rw [List.map_cons, List.map_cons, left, othersLeft]

/-- What is left of lines is the same in any style. -/
theorem writeLines_essence {lines : List Line} (filled : lines ≠ [])
    (regular : ∀ line ∈ lines, line.Regular) {style : Style} (fits : style.Fits) {text : String}
    (written : writeLines style lines = .ok text) : essence text = lines.flatMap Line.essence := by
  obtain ⟨texts, each, rfl⟩ := writeLines_ok written
  obtain ⟨others, made, left⟩ := mapM_essence regular fits
  obtain rfl := Except.ok.inj (each.symm.trans made)
  have filledTexts : texts ≠ [] := by
    rintro rfl
    exact filled (List.map_eq_nil_iff.1 left.symm)
  rw [essence_intercalate filledTexts, List.flatMap_def, left, List.flatMap_def]

/-- A class has some line. -/
theorem classLines_ne_nil {table : ClassTable} {lines : List Line}
    (made : classLines table = .ok lines) : lines ≠ [] := by
  obtain ⟨methods, _, rest⟩ := ok_of_bind made
  obtain rfl := Except.ok.inj rest
  exact List.cons_ne_nil _ _

/-- Without comments and indentation, the source of a class is the same in all styles whose
indentation is blank and whose rules have room for two slashes. There is a source if the margins of
its lines can be written. -/
theorem style_layout_only {table : ClassTable} (literal : Literal table) {first second : Style}
    (firstFits : first.Fits) (secondFits : second.Fits) :
    ((∃ one, classText table first = .ok one) ↔ first.holds 3 = true) ∧
      ((∃ other, classText table second = .ok other) ↔ second.holds 3 = true) ∧
      ∀ one other, classText table first = .ok one → classText table second = .ok other →
        essence one = essence other := by
  refine ⟨classText_ok_iff literal, classText_ok_iff literal,
    fun one other oneMade otherMade => ?_⟩
  obtain ⟨lines, made, regular⟩ := classLines_regular literal
  have filled := classLines_ne_nil made
  rw [classText, made] at oneMade otherMade
  rw [writeLines_essence filled regular firstFits oneMade,
    writeLines_essence filled regular secondFits otherMade]

/-- Tabs for a narrow page, two modules deep. -/
def narrow : Style where
  indent := "\t"
  dividerWidth := 40
  wrapWidth := 20
  depth := 2

theorem style_layout_only_ball :
    Literal ball ∧ Style.Fits .standard ∧ narrow.Fits ∧
      ∃ one other, classText ball .standard = .ok one ∧ classText ball narrow = .ok other ∧
        essence one = essence other := by
  have literal : Literal ball := literal_of_review shapes_review (.tail _ (.head _))
  have standardFits : Style.Fits .standard := ⟨by simp [IsMargin, Style.standard], by decide⟩
  have narrowFits : narrow.Fits := ⟨by simp [IsMargin, narrow], by decide⟩
  obtain ⟨oneWritten, otherWritten, same⟩ := style_layout_only literal standardFits narrowFits
  obtain ⟨one, oneMade⟩ := oneWritten.2 (by decide)
  obtain ⟨other, otherMade⟩ := otherWritten.2 (by decide)
  exact ⟨literal, standardFits, narrowFits, one, other, oneMade, otherMade,
    same one other oneMade otherMade⟩

end SceneCatalog.Source
