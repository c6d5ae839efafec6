import Mathlib.Data.List.Forall2
import SceneCatalog.Text.Columns

/-
This file shows that rows of equal length are always aligned, that no cell is wider than its column,
and that a margin in front of the rows moves them and changes nothing else.
-/

namespace SceneCatalog.Text

/-- All rows have as many cells. -/
def Even (columns : Nat) (rows : List (List String)) : Prop :=
  ∀ cells ∈ rows, cells.length = columns

/-- Each cell of the row fits into its column. -/
abbrev FitsWidths (widths : List Nat) (cells : List String) : Prop :=
  List.Forall₂ (fun cell width => cell.length ≤ width) cells widths

/-- No row is found exactly when all are as long as expected. -/
theorem findRagged_none_iff (columns row : Nat) (rows : List (List String)) :
    findRagged columns row rows = none ↔ Even columns rows := by
  induction rows generalizing row with
  | nil => simp [findRagged, Even]
  | cons cells rest inductionHypothesis =>
      rw [findRagged, Even, List.forall_mem_cons]
      split
      · rename_i same
        rw [inductionHypothesis, and_iff_right (eq_of_beq same), Even]
      · rename_i other
        simp only [reduceCtorEq, false_iff, not_and]
        exact fun same => absurd (beq_iff_eq.2 same) other

/-- The widths of columns that have to hold the cells of one more row. -/
def widen (widths : List Nat) (cells : List String) : List Nat :=
  widths.zipWith (fun width cell => max width cell.length) cells

theorem columnWidths_eq (columns : Nat) (rows : List (List String)) :
    columnWidths columns rows = rows.foldl widen (List.replicate columns 0) := rfl

/-- A row widens the columns just as far as it needs. -/
theorem widened {widths : List Nat} {cells : List String} (even : cells.length = widths.length) :
    List.Forall₂ (· ≤ ·) widths (widen widths cells) ∧ FitsWidths (widen widths cells) cells := by
  induction widths generalizing cells with
  | nil =>
      obtain rfl := List.eq_nil_of_length_eq_zero even
      exact ⟨.nil, .nil⟩
  | cons width rest inductionHypothesis =>
      obtain ⟨cell, cells, rfl⟩ := List.exists_cons_of_length_eq_add_one even
      obtain ⟨wider, fits⟩ := inductionHypothesis (Nat.succ.inj even)
      exact ⟨.cons (Nat.le_max_left _ _) wider, .cons (Nat.le_max_right _ _) fits⟩

/-- What fits into widths fits into larger ones. -/
theorem forall₂_le_trans {Item : Type} {size : Item → Nat} {items : List Item}
    {widths wider : List Nat}
    (fits : List.Forall₂ (fun item width => size item ≤ width) items widths)
    (larger : List.Forall₂ (· ≤ ·) widths wider) :
    List.Forall₂ (fun item width => size item ≤ width) items wider := by
  induction fits generalizing wider with
  | nil =>
      cases larger
      exact .nil
  | cons here _ inductionHypothesis =>
      cases larger with
      | cons width others => exact .cons (Nat.le_trans here width) (inductionHypothesis others)

/-- Columns never get narrower from row to row. -/
theorem widths_grow {rows : List (List String)} {widths : List Nat}
    (even : Even widths.length rows) :
    List.Forall₂ (· ≤ ·) widths (rows.foldl widen widths) ∧
      ∀ cells ∈ rows, FitsWidths (rows.foldl widen widths) cells := by
  induction rows generalizing widths with
  | nil => exact ⟨List.forall₂_same.2 fun _ _ => Nat.le_refl _, List.forall_mem_nil _⟩
  | cons cells rest inductionHypothesis =>
      obtain ⟨here, others⟩ := List.forall_mem_cons.1 even
      obtain ⟨wider, fits⟩ := widened here
      rw [List.foldl_cons, List.forall_mem_cons]
      obtain ⟨grown, fitting⟩ := inductionHypothesis (wider.length_eq ▸ others)
      exact ⟨forall₂_le_trans wider grown, forall₂_le_trans fits grown, fitting⟩

/-- Every row fits the widths of its columns. -/
theorem fits_columnWidths {columns : Nat} {rows : List (List String)} (even : Even columns rows)
    {cells : List String} (member : cells ∈ rows) :
    FitsWidths (columnWidths columns rows) cells := by
  have start : Even (List.replicate columns 0).length rows := by
    rw [List.length_replicate]
    exact even
  exact (widths_grow start).2 cells member

/-- Rows of one length are aligned at the widths of their columns. -/
theorem align_ok {columns : Nat} {rows : List (List String)} (even : Even columns rows) :
    align rows = .ok ("\n".intercalate (rows.map (alignRow (columnWidths columns rows)))) := by
  cases rows with
  | nil => rfl
  | cons top rest =>
      have same : top.length = columns := even top (.head _)
      rw [align, same, (findRagged_none_iff _ _ _).2 even]

theorem toList_pushn (c : Char) (count : Nat) :
    ("".pushn c count).toList = List.replicate count c := by
  induction count with
  | zero => rfl
  | succ count inductionHypothesis =>
      have step : "".pushn c (count + 1) = ("".pushn c count).push c := rfl
      rw [step, String.toList_push, inductionHypothesis, List.replicate_succ']

/-- Padding on the right follows the text. -/
theorem toList_pad_right (text : String) (count : Nat) (filler : Char) :
    (pad text count filler .right).toList = text.toList ++ List.replicate count filler := by
  rw [pad, String.toList_append, toList_pushn]

theorem alignRow_cons (width : Nat) (widths : List Nat) (cell : String) (cells : List String) :
    alignRow (width :: widths) (cell :: cells) =
      pad cell (width - cell.length) ' ' .right ++ alignRow widths cells := by
  rw [alignRow, List.zipWith_cons_cons, String.join_cons, alignRow]

section Margin

variable (margin : String)

/-- A margin in the first cell widens the first column by its length. -/
theorem widen_margin (widths : List Nat) (cells : List String) :
    widen (widths.modifyHead (margin.length + ·)) (cells.modifyHead (margin ++ ·)) =
      (widen widths cells).modifyHead (margin.length + ·) := by
  cases widths with
  | nil => rfl
  | cons width widths =>
      cases cells with
      | nil => rfl
      | cons cell cells =>
          rw [List.modifyHead_cons, List.modifyHead_cons, widen, widen, List.zipWith_cons_cons,
            List.zipWith_cons_cons, List.modifyHead_cons, String.length_append,
            Nat.add_max_add_left]

/-- The first column has to hold the margin as well. -/
theorem columnWidths_margin {rows : List (List String)} (filled : rows ≠ []) (columns : Nat) :
    columnWidths columns (rows.map fun cells => cells.modifyHead (margin ++ ·)) =
      (columnWidths columns rows).modifyHead (margin.length + ·) := by
  have later (rows : List (List String)) (widths : List Nat) :
      (rows.map fun cells => cells.modifyHead (margin ++ ·)).foldl widen
          (widths.modifyHead (margin.length + ·)) =
        (rows.foldl widen widths).modifyHead (margin.length + ·) := by
    induction rows generalizing widths with
    | nil => rfl
    | cons cells rest inductionHypothesis =>
        rw [List.map_cons, List.foldl_cons, List.foldl_cons, widen_margin, inductionHypothesis]
  cases rows with
  | nil => contradiction
  | cons cells rest =>
      -- Columns start without a width, so the first row brings the margin in.
      have first : widen (List.replicate columns 0) (cells.modifyHead (margin ++ ·)) =
          (widen (List.replicate columns 0) cells).modifyHead (margin.length + ·) := by
        cases columns with
        | zero => rfl
        | succ columns =>
            cases cells with
            | nil => rfl
            | cons cell cells => simp [List.replicate_succ, widen]
      rw [columnWidths_eq, columnWidths_eq, List.map_cons, List.foldl_cons, List.foldl_cons, first,
        later]

/-- A margin in the first cell stands in front of the aligned row. -/
theorem alignRow_margin {widths : List Nat} {cells : List String} (fits : FitsWidths widths cells)
    (filled : cells ≠ []) :
    alignRow (widths.modifyHead (margin.length + ·)) (cells.modifyHead (margin ++ ·)) =
      margin ++ alignRow widths cells := by
  cases fits with
  | nil => contradiction
  | @cons cell width cells widths here others =>
      rw [List.modifyHead_cons, List.modifyHead_cons, alignRow_cons, alignRow_cons, pad, pad,
        String.length_append, Nat.add_sub_add_left, String.append_assoc, String.append_assoc,
        String.append_assoc]

/-- A margin in the first cells stands in front of every aligned row. -/
theorem align_margin {columns : Nat} {rows : List (List String)} (even : Even columns rows)
    (filled : rows ≠ []) (wide : columns ≠ 0) :
    align (rows.map fun cells => cells.modifyHead (margin ++ ·)) =
      .ok ("\n".intercalate (rows.map fun cells =>
        margin ++ alignRow (columnWidths columns rows) cells)) := by
  have movedEven : Even columns (rows.map fun cells => cells.modifyHead (margin ++ ·)) := by
    refine List.forall_mem_map.2 fun cells member => ?_
    rw [List.length_modifyHead, even cells member]
  have moved : ∀ cells ∈ rows,
      alignRow (columnWidths columns (rows.map fun cells => cells.modifyHead (margin ++ ·)))
          (cells.modifyHead (margin ++ ·)) =
        margin ++ alignRow (columnWidths columns rows) cells := by
    intro cells member
    rw [columnWidths_margin margin filled, alignRow_margin margin (fits_columnWidths even member)]
    rintro rfl
    exact wide (even _ member).symm
  rw [align_ok movedEven, List.map_map]
  exact congrArg (fun texts => Except.ok ("\n".intercalate texts)) (List.map_congr_left moved)

end Margin

end SceneCatalog.Text
