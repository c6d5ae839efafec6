import Mathlib.Algebra.GroupWithZero.Nat
import Mathlib.Order.Bounds.Defs
import Mathlib.Order.MinMax
import SceneCatalog.Proofs.Text.OneLine
import SceneCatalog.Proofs.Text.Trimming

/-
This file shows that the cells of aligned rows stand in columns, each as wide as its widest cell,
and that rows that cannot be aligned are told by the first one of another length.
-/

namespace SceneCatalog.Text

/-- The row has another number of cells than the top row, and all rows before it have as many. -/
def RaggedRow.IsFirst (rows : List (List String)) (ragged : RaggedRow) : Prop :=
  ∃ top front cells back, rows.head? = some top ∧ rows = front ++ cells :: back ∧
    Even top.length front ∧ cells.length ≠ top.length ∧
    ragged = ⟨front.length, top.length, cells.length⟩

/-- Each column is as wide as its widest cell. -/
def Measured (rows : List (List String)) (widths : List Nat) : Prop :=
  ∀ column width : Nat, widths[column]? = some width →
    IsGreatest {size | ∃ cells ∈ rows, ∃ cell : String, cells[column]? = some cell ∧
      cell.length = size} width

/-- Each cell begins where the columns before it end, and blanks fill up its column. -/
structure InColumns (widths : List Nat) (cells : List String) (line : List Char) : Prop where
  length : line.length = widths.sum
  cell : ∀ (column width : Nat) (cell : String),
    widths[column]? = some width → cells[column]? = some cell →
      cell.length ≤ width ∧ (line.drop (widths.take column).sum).take width =
        cell.toList ++ List.replicate (width - cell.length) ' '

/-- The search finds the first row that is not as long as expected. -/
theorem findRagged_some_iff (expected row : Nat) (rows : List (List String))
    (ragged : RaggedRow) :
    findRagged expected row rows = some ragged ↔
      ∃ front cells back, rows = front ++ cells :: back ∧ Even expected front ∧
        cells.length ≠ expected ∧ ragged = ⟨row + front.length, expected, cells.length⟩ := by
  induction rows generalizing row with
  | nil => simp [findRagged]
  | cons top rest inductionHypothesis =>
      rw [findRagged]
      split
      · rename_i same
        rw [inductionHypothesis]
        constructor
        · rintro ⟨front, cells, back, rfl, even, other, rfl⟩
          refine ⟨top :: front, cells, back, rfl,
            List.forall_mem_cons.2 ⟨eq_of_beq same, even⟩, other, ?_⟩
          rw [List.length_cons, Nat.add_right_comm, Nat.add_assoc]
        · rintro ⟨front, cells, back, split, even, other, rfl⟩
          cases front with
          | nil =>
              obtain ⟨rfl, _⟩ := List.cons.inj split
              exact absurd (eq_of_beq same) other
          | cons first front =>
              obtain ⟨_, rfl⟩ := List.cons.inj split
              refine ⟨front, cells, back, rfl, (List.forall_mem_cons.1 even).2, other, ?_⟩
              rw [List.length_cons, Nat.add_right_comm, Nat.add_assoc]
      · rename_i other
        have differs : top.length ≠ expected := mt beq_iff_eq.2 other
        constructor
        · rintro ⟨⟩
          exact ⟨[], top, rest, rfl, List.forall_mem_nil _, differs, rfl⟩
        · rintro ⟨front, cells, back, split, even, _, rfl⟩
          cases front with
          | nil =>
              obtain ⟨rfl, _⟩ := List.cons.inj split
              rfl
          | cons first front =>
              obtain ⟨rfl, _⟩ := List.cons.inj split
              exact absurd (even top (.head _)) differs

/-- A column that is wider than it began has a cell of its width. -/
theorem width_attained {rows : List (List String)} {widths : List Nat}
    {column width : Nat} (found : (rows.foldl widen widths)[column]? = some width) :
    widths[column]? = some width ∨
      ∃ cells ∈ rows, ∃ cell : String, cells[column]? = some cell ∧ cell.length = width := by
  induction rows generalizing widths with
  | nil => exact .inl found
  | cons cells rest inductionHypothesis =>
      rcases inductionHypothesis found with here | ⟨row, member, cell, there, length⟩
      · rw [widen, List.getElem?_zipWith] at here
        split at here
        · rename_i before cell begun there
          rcases max_choice before cell.length with same | same
          · exact .inl (begun.trans (same ▸ here))
          · exact .inr ⟨cells, .head _, cell, there, same.symm.trans (Option.some.inj here)⟩
        · contradiction
      · exact .inr ⟨row, .tail _ member, cell, there, length⟩

/-- An aligned row has each cell in its column. -/
theorem inColumns_alignRow {widths : List Nat} {cells : List String}
    (fits : FitsWidths widths cells) : InColumns widths cells (alignRow widths cells).toList := by
  induction fits with
  | nil => exact ⟨rfl, by simp⟩
  | @cons first width cells widths narrow others inductionHypothesis =>
      have filled : (first.toList ++ List.replicate (width - first.length) ' ').length = width := by
        rw [List.length_append, List.length_replicate, String.length_toList]
        omega
      constructor
      · rw [alignRow_cons, String.toList_append, toList_pad_right, List.length_append, filled,
          inductionHypothesis.length, List.sum_cons]
      · intro column size cell wide there
        rw [alignRow_cons, String.toList_append, toList_pad_right]
        cases column with
        | zero =>
            obtain rfl := Option.some.inj wide
            obtain rfl := Option.some.inj there
            exact ⟨narrow, List.take_left' filled⟩
        | succ column =>
            obtain ⟨fit, shown⟩ := inductionHypothesis.cell column size cell wide there
            refine ⟨fit, ?_⟩
            rw [List.take_succ_cons, List.sum_cons, ← List.drop_drop, List.drop_left' filled, shown]

/-- Each width is that of the longest cell of its column. -/
theorem measured_columnWidths {columns : Nat} {rows : List (List String)}
    (even : Even columns rows) (filled : rows ≠ []) :
    Measured rows (columnWidths columns rows) := by
  intro column width wide
  have bounded {cells : List String} (member : cells ∈ rows) {cell : String}
      (there : cells[column]? = some cell) : cell.length ≤ width :=
    ((inColumns_alignRow (fits_columnWidths even member)).cell column width cell wide there).1
  constructor
  · rcases width_attained wide with narrow | attained
    · -- Columns begin without a width, so all cells of this one are empty.
      obtain ⟨inside, rfl⟩ := List.getElem?_eq_some_iff.1 narrow
      rw [List.length_replicate] at inside
      obtain ⟨top, rest, rfl⟩ := List.exists_cons_of_ne_nil filled
      have there := List.getElem?_eq_getElem (inside.trans_eq (even top (.head _)).symm)
      have empty := bounded (.head _) there
      rw [List.getElem_replicate] at empty ⊢
      exact ⟨top, .head _, _, there, Nat.eq_zero_of_le_zero empty⟩
    · exact attained
  · rintro size ⟨cells, member, cell, there, rfl⟩
    exact bounded member there

/-- The alignment refuses exactly the first row that differs from the top one. -/
theorem align_error_iff (rows : List (List String)) (ragged : RaggedRow) :
    align rows = .error ragged ↔ ragged.IsFirst rows := by
  cases rows with
  | nil => simp [align, RaggedRow.IsFirst]
  | cons top rest =>
      have told : align (top :: rest) = .error ragged ↔
          findRagged top.length 0 (top :: rest) = some ragged := by
        rw [align]
        cases findRagged top.length 0 (top :: rest) <;> simp
      rw [told, findRagged_some_iff]
      constructor
      · rintro ⟨front, cells, back, split, even, other, rfl⟩
        exact ⟨top, front, cells, back, rfl, split, even, other, by rw [Nat.zero_add]⟩
      · rintro ⟨_, front, cells, back, head, split, even, other, rfl⟩
        obtain rfl := Option.some.inj head
        exact ⟨front, cells, back, split, even, other, by rw [Nat.zero_add]⟩

/-- Rows that are aligned are as long as the top one. -/
theorem even_of_align {top : List String} {rest : List (List String)} {text : String}
    (aligned : align (top :: rest) = .ok text) : Even top.length (top :: rest) := by
  rw [align] at aligned
  split at aligned
  · contradiction
  · rename_i none
    exact (findRagged_none_iff _ _ _).1 none

/-- Rows are refused exactly when one of them differs from the top one in length. -/
theorem align_refused_iff (rows : List (List String)) :
    (∃ ragged, align rows = .error ragged) ↔
      ∃ top ∈ rows.head?, ∃ cells ∈ rows, cells.length ≠ top.length := by
  constructor
  · rintro ⟨ragged, refused⟩
    obtain ⟨top, front, cells, back, head, rfl, _, other, _⟩ :=
      (align_error_iff rows ragged).1 refused
    exact ⟨top, head, cells, List.mem_append_right front (.head _), other⟩
  · rintro ⟨top, head, cells, member, other⟩
    obtain ⟨rest, rfl⟩ := List.head?_eq_some_iff.1 head
    cases outcome : align (top :: rest) with
    | error ragged => exact ⟨ragged, rfl⟩
    | ok text => exact absurd (even_of_align outcome cells member) other

/-- Rows are aligned unless one of them has another number of cells than the top row, and the first
such row is what is told. The columns of aligned rows are as wide as their widest cells. If no cell
has a line end within, the lines are the rows in order, each cell in its column. -/
theorem align_outcome (rows : List (List String)) :
    ((∃ ragged, align rows = .error ragged) ↔
      ∃ top ∈ rows.head?, ∃ cells ∈ rows, cells.length ≠ top.length) ∧
    (∀ ragged, align rows = .error ragged ↔ ragged.IsFirst rows) ∧
    align [] = .ok "" ∧
    ∀ text, align rows = .ok text → rows ≠ [] →
      ∃ widths : List Nat, Even widths.length rows ∧ Measured rows widths ∧
        ((∀ cells ∈ rows, ∀ cell ∈ cells, OneLine cell) →
          List.Forall₂ (InColumns widths) rows (text.toList.splitOn '\n')) := by
  refine ⟨align_refused_iff rows, align_error_iff rows, rfl, fun text aligned filled => ?_⟩
  obtain ⟨top, rest, rfl⟩ := List.exists_cons_of_ne_nil filled
  have even := even_of_align aligned
  obtain rfl := Except.ok.inj ((align_ok even).symm.trans aligned)
  refine ⟨_, fun cells member => (fits_columnWidths even member).length_eq,
    measured_columnWidths even filled, fun single => ?_⟩
  rw [splitOn_intercalate_single (List.map_eq_nil_iff.not.2 filled), List.map_map,
    List.forall₂_map_right_iff]
  · exact List.forall₂_same.2 fun cells member => inColumns_alignRow (fits_columnWidths even member)
  · exact List.forall_mem_map.2 fun cells member => OneLine.alignRow (single cells member)

/-- Characters are counted, not bytes, and an empty cell takes up its column. -/
theorem align_outcome_accented :
    align [["größe:", " ", "1,"], ["a:", "", "22,"]] = .ok "größe: 1, \na:     22," ∧
      [["größe:", " ", "1,"], ["a:", "", "22,"]] ≠ [] ∧
      (∀ cells ∈ [["größe:", " ", "1,"], ["a:", "", "22,"]], ∀ cell ∈ cells, OneLine cell) ∧
      ∃ widths, Measured [["größe:", " ", "1,"], ["a:", "", "22,"]] widths ∧
        List.Forall₂ (InColumns widths) [["größe:", " ", "1,"], ["a:", "", "22,"]]
          ("größe: 1, \na:     22,".toList.splitOn '\n') := by
  have aligned : align [["größe:", " ", "1,"], ["a:", "", "22,"]] =
      .ok "größe: 1, \na:     22," := by rfl
  have filled : [["größe:", " ", "1,"], ["a:", "", "22,"]] ≠ [] := List.cons_ne_nil _ _
  have single : ∀ cells ∈ [["größe:", " ", "1,"], ["a:", "", "22,"]], ∀ cell ∈ cells,
      OneLine cell := by decide
  obtain ⟨_, _, _, columns⟩ := align_outcome [["größe:", " ", "1,"], ["a:", "", "22,"]]
  obtain ⟨widths, _, measured, shown⟩ := columns _ aligned filled
  exact ⟨aligned, filled, single, widths, measured, shown single⟩

end SceneCatalog.Text
