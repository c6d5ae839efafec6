import Mathlib.Algebra.Order.Floor.Div
import Mathlib.Data.List.Forall2
import SceneCatalog.Proofs.Scene.Outcome
import SceneCatalog.Scene.Writing

/-
This file shows that items are laid out in rows without a loss, and so are the points of a list.
-/

namespace SceneCatalog

section Rows

variable {Item Other : Type}

/-- The row begun is filled up first, and full rows follow it. -/
theorem rowsFrom_begun {size : Nat} (positive : 0 < size) {room : Nat} {row : List Item}
    (begun : row ≠ []) (items : List Item) :
    rowsFrom size room row items =
      (row.reverse ++ items.take room) :: rowsFrom size size [] (items.drop room) := by
  induction items generalizing room row with
  | nil => simp [rowsFrom, begun]
  | cons item rest inductionHypothesis =>
      cases room with
      | zero => simp [rowsFrom, positive.ne']
      | succ room => simp [rowsFrom, inductionHypothesis (List.cons_ne_nil item row)]

theorem rows_nil (size : Nat) : rows size ([] : List Item) = [] := rfl

/-- The first row is full, and the others are the rows of the rest. -/
theorem rows_of_ne_nil (size : Nat) {items : List Item} (filled : items ≠ []) :
    rows size items = items.take (max size 1) :: rows size (items.drop (max size 1)) := by
  obtain ⟨first, rest, rfl⟩ := List.exists_cons_of_ne_nil filled
  obtain ⟨room, positive⟩ := Nat.exists_eq_succ_of_ne_zero (show max size 1 ≠ 0 by omega)
  rw [rows, rows, positive, rowsFrom, if_neg (by simp)]
  rw [Nat.succ_sub_one, rowsFrom_begun (Nat.succ_pos room) (List.cons_ne_nil first [])]
  rfl

/-- What holds of no items, and of items if it holds of those behind the first row, holds of all
lists of items. -/
@[elab_as_elim]
theorem rows_induction (size : Nat) {motive : List Item → Prop} (nil : motive [])
    (row : ∀ items, items ≠ [] → motive (items.drop (max size 1)) → motive items)
    (items : List Item) : motive items := by
  by_cases filled : items = []
  · exact filled ▸ nil
  · exact row items filled (rows_induction size nil row (items.drop (max size 1)))
termination_by items.length
decreasing_by
  have some := List.length_pos_iff.2 filled
  rw [List.length_drop]
  omega

/-- Rows lose and reorder nothing. -/
theorem flatten_rows (size : Nat) (items : List Item) : (rows size items).flatten = items := by
  induction items using rows_induction size with
  | nil => rfl
  | row items filled inductionHypothesis =>
      rw [rows_of_ne_nil size filled, List.flatten_cons, inductionHypothesis,
        List.take_append_drop]

theorem ne_nil_of_mem_rows {size : Nat} {items row : List Item} (member : row ∈ rows size items) :
    row ≠ [] := by
  induction items using rows_induction size with
  | nil => contradiction
  | row items filled inductionHypothesis =>
      rw [rows_of_ne_nil size filled, List.mem_cons] at member
      rcases member with rfl | later
      · simp [List.take_eq_nil_iff, filled]
      · exact inductionHypothesis later

/-- Rows are made of the items that are laid out in them. -/
theorem rows_mem {size : Nat} {items row : List Item} (member : row ∈ rows size items) :
    ∀ item ∈ row, item ∈ items := by
  intro item inRow
  rw [← flatten_rows size items]
  exact List.mem_flatten.2 ⟨row, member, inRow⟩

/-- There are just as many rows as the items need. -/
theorem length_rows (size : Nat) (items : List Item) :
    (rows size items).length = items.length ⌈/⌉ max size 1 := by
  induction items using rows_induction size with
  | nil => simp [rows_nil]
  | row items filled inductionHypothesis =>
      have some := List.length_pos_iff.2 filled
      have positive : 0 < max size 1 := by omega
      rw [rows_of_ne_nil size filled, List.length_cons, inductionHypothesis, List.length_drop,
        Nat.ceilDiv_eq_add_pred_div, Nat.ceilDiv_eq_add_pred_div]
      generalize max size 1 = room at positive
      by_cases last : items.length ≤ room
      · have behind : (items.length - room + room - 1) / room = 0 :=
          Nat.div_eq_of_lt (by omega)
        have here : (items.length + room - 1) / room = 1 :=
          Nat.div_eq_of_lt_le (by omega) (by omega)
        rw [behind, here]
      · rw [← Nat.add_div_right _ positive]
        congr 1
        omega

/-- Each row has the items behind those of the rows in front of it. -/
theorem getElem_rows (size : Nat) {items : List Item} {place : Nat}
    (inside : place < (rows size items).length) :
    (rows size items)[place] = (items.drop (place * max size 1)).take (max size 1) := by
  induction items using rows_induction size generalizing place with
  | nil => contradiction
  | row items filled inductionHypothesis =>
      cases place with
      | zero => simp [rows_of_ne_nil size filled]
      | succ place =>
          have later : place < (rows size (items.drop (max size 1))).length := by
            simpa [rows_of_ne_nil size filled] using inside
          simp only [rows_of_ne_nil size filled, List.getElem_cons_succ]
          rw [inductionHypothesis later, List.drop_drop, Nat.succ_mul, Nat.add_comm]

/-- All rows but the last are full. -/
theorem length_getElem_rows (size : Nat) {items : List Item} {place : Nat}
    (followed : place + 1 < (rows size items).length) :
    ((rows size items)[place]).length = max size 1 := by
  have positive : 0 < max size 1 := by omega
  have reached : (place + 1) * max size 1 < items.length := by
    rw [length_rows, ← not_le, ceilDiv_le_iff_le_mul positive, not_le] at followed
    rwa [Nat.mul_comm]
  rw [Nat.succ_mul] at reached
  rw [getElem_rows, List.length_take, List.length_drop]
  omega

/-- The last row ends with the last item. -/
theorem exists_last_row (size : Nat) {items : List Item} (filled : items ≠ []) :
    ∃ row, (rows size items).getLast? = some row ∧ row.getLast? = items.getLast? := by
  have whole := flatten_rows size items
  rcases List.eq_nil_or_concat (rows size items) with none | ⟨front, row, split⟩
  · rw [none] at whole
    exact absurd whole.symm filled
  · rw [List.concat_eq_append] at split
    have rowFilled : row ≠ [] :=
      ne_nil_of_mem_rows (split ▸ List.mem_append_right front (.head _))
    refine ⟨row, by simp [split], ?_⟩
    rw [← whole, split, List.flatten_append, List.flatten_singleton, List.getLast?_append,
      List.getLast?_eq_some_getLast rowFilled, Option.some_or]

/-- Rows of one place hold one item each. -/
theorem rows_one (items : List Item) : rows 1 items = items.map fun item => [item] := by
  induction items with
  | nil => rfl
  | cons item rest inductionHypothesis =>
      rw [rows_of_ne_nil 1 (List.cons_ne_nil item rest), List.map_cons, ← inductionHypothesis]
      rfl

/-- Items that are related stand in the same places of their rows. -/
theorem rows_forall₂ {related : Item → Other → Prop} {items : List Item}
    {others : List Other} (each : List.Forall₂ related items others) (size : Nat) :
    List.Forall₂ (List.Forall₂ related) (rows size items) (rows size others) := by
  rw [List.forall₂_iff_get]
  constructor
  · rw [length_rows, length_rows, each.length_eq]
  · intro place inside alsoInside
    rw [List.get_eq_getElem, List.get_eq_getElem, getElem_rows, getElem_rows]
    exact List.forall₂_take _ (List.forall₂_drop _ each)

end Rows

section Lines

/-- Separators between rows and within them are the separators between all items. -/
theorem intercalate_flatten (separator : String) {rows : List (List String)}
    (filled : ∀ row ∈ rows, row ≠ []) :
    separator.intercalate (rows.map separator.intercalate) =
      separator.intercalate rows.flatten := by
  induction rows with
  | nil => rfl
  | cons row rest inductionHypothesis =>
      obtain ⟨here, later⟩ := List.forall_mem_cons.1 filled
      cases rest with
      | nil => simp
      | cons next rest =>
          have some : (next :: rest).flatten ≠ [] := by
            rw [List.flatten_cons]
            exact List.append_ne_nil_of_left_ne_nil (later next (.head _)) _
          rw [List.map_cons, List.flatten_cons, String.intercalate_append_of_ne_nil here some,
            ← inductionHypothesis later, String.intercalate_cons_of_ne_nil (by simp)]

/-- All texts but the last are followed by a comma. -/
theorem separated_cons {rest : List String} (several : rest ≠ []) (text : String) :
    separated (text :: rest) = (text ++ ",") :: separated rest :=
  separated.eq_3 text rest several

theorem length_separated (texts : List String) : (separated texts).length = texts.length := by
  fun_induction separated texts with
  | case1 => rfl
  | case2 => rfl
  | case3 text rest several inductionHypothesis =>
      rw [List.length_cons, List.length_cons, inductionHypothesis]

/-- A text is followed by a comma exactly when another one follows. -/
theorem getElem_separated {texts : List String} {place : Nat} (inside : place < texts.length)
    (alsoInside : place < (separated texts).length) :
    (separated texts)[place] =
      texts[place] ++ if place + 1 < texts.length then "," else "" := by
  induction texts generalizing place with
  | nil => contradiction
  | cons text rest inductionHypothesis =>
      by_cases several : rest = []
      · subst several
        obtain rfl : place = 0 := by simpa using inside
        simp [separated]
      · cases place with
        | zero => simp [separated_cons several, List.length_pos_iff, several]
        | succ place =>
            have later : place < rest.length := Nat.lt_of_succ_lt_succ inside
            have alsoLater : place < (separated rest).length := by rwa [length_separated]
            simp [separated_cons several, inductionHypothesis later alsoLater]

/-- The last text is left as it is. -/
theorem getLast?_separated (texts : List String) :
    (separated texts).getLast? = texts.getLast? := by
  fun_induction separated texts with
  | case1 => rfl
  | case2 => rfl
  | case3 text rest several inductionHypothesis =>
      have filled : separated rest ≠ [] := by
        rwa [ne_eq, ← List.length_eq_zero_iff, length_separated, List.length_eq_zero_iff]
      rw [List.getLast?_cons_of_ne_nil filled, List.getLast?_cons_of_ne_nil several,
        inductionHypothesis]

/-- The commas at the ends of lines and the blanks between them separate all texts. -/
theorem intercalate_separated (texts : List String) :
    " ".intercalate (separated texts) = ", ".intercalate texts := by
  fun_induction separated texts with
  | case1 => rfl
  | case2 => rfl
  | case3 text rest several inductionHypothesis =>
      have some : separated rest ≠ [] := by
        rwa [ne_eq, ← List.length_eq_zero_iff, length_separated, List.length_eq_zero_iff]
      rw [String.intercalate_cons_of_ne_nil some, String.intercalate_cons_of_ne_nil several,
        inductionHypothesis, String.append_assoc]
      simp only [String.append_assoc]
      rfl

/-- The lines of a list: the number of its items if they are counted, and the items in rows. -/
def listLines (perRow : Nat) (counted : Bool) (texts : List String) : List String :=
  (if counted then [toString texts.length ++ ","] else []) ++
    separated ((rows perRow texts).map ", ".intercalate)

variable {writer : NodeWriter} {items : List Value} {texts : List String}
  (written : List.Forall₂ (fun item text => item.verbatim writer = .ok text) items texts)
include written

/-- Items with texts are joined by commas. -/
theorem joined_ok : joined writer items = .ok (", ".intercalate texts) := by
  rw [joined, mapM_ok_iff.2 written]
  rfl

/-- Items with texts are written in rows, below their number if they are counted. -/
theorem pointLines_ok (perRow : Nat) (counted : Bool) :
    pointLines writer perRow counted (.list items) = .ok (listLines perRow counted texts) := by
  have inRows : (rows perRow items).mapM (joined writer) =
      .ok ((rows perRow texts).map ", ".intercalate) := by
    rw [mapM_ok_iff, List.forall₂_map_right_iff]
    exact (rows_forall₂ written perRow).imp fun _ _ inRow => joined_ok inRow
  simp only [pointLines, Value.asList?, inRows, listLines, written.length_eq]
  rfl

omit written

/-- Points that can be written stand in as many lines as they need, behind their number if they are
counted. All lines but the last are full and end with a comma, and the lines together have all
points in their order with one comma between neighbours. -/
theorem pointLines_rows (serial : ∀ item ∈ items, ∃ text, item.verbatim writer = .ok text)
    (perRow : Nat) (counted : Bool) :
    ∃ texts lines, List.Forall₂ (fun item text => item.verbatim writer = .ok text) items texts ∧
      pointLines writer perRow counted (.list items) =
        .ok ((if counted then [toString items.length ++ ","] else []) ++ lines) ∧
      lines.length = items.length ⌈/⌉ max perRow 1 ∧
      (∀ place (inside : place < lines.length), ∃ row,
        row = (texts.drop (place * max perRow 1)).take (max perRow 1) ∧ row ≠ [] ∧
        (place + 1 < lines.length → row.length = max perRow 1) ∧
        lines[place] = ", ".intercalate row ++ if place + 1 < lines.length then "," else "") ∧
      " ".intercalate lines = ", ".intercalate texts := by
  obtain ⟨texts, written⟩ := exists_forall₂ serial
  have made := pointLines_ok written perRow counted
  rw [listLines, ← written.length_eq] at made
  have length : (separated ((rows perRow texts).map ", ".intercalate)).length =
      (rows perRow texts).length := by
    rw [length_separated, List.length_map]
  refine ⟨texts, _, written, made, ?_, ?_, ?_⟩
  · rw [length, length_rows, written.length_eq]
  · intro place inside
    have inRows := length ▸ inside
    refine ⟨(rows perRow texts)[place], getElem_rows perRow inRows,
      ne_nil_of_mem_rows (List.getElem_mem inRows), ?_, ?_⟩
    · intro followed
      exact length_getElem_rows perRow (length ▸ followed)
    · have mapped : place < ((rows perRow texts).map ", ".intercalate).length := by
        rwa [length_separated] at inside
      rw [getElem_separated mapped inside, List.getElem_map]
      simp only [length, List.length_map]
  · rw [intercalate_separated, intercalate_flatten _ fun _ => ne_nil_of_mem_rows, flatten_rows]

omit writer items texts in
/-- Three rows of two have room for five points, one of which is a list itself. -/
theorem pointLines_rows_five :
    ∃ items : List Value, (∀ item ∈ items, ∃ text, item.verbatim Object.markup = .ok text) ∧
      ∃ lines, pointLines Object.markup 2 true (.list items) = .ok ("5," :: lines) ∧
        lines.length = 3 ∧ " ".intercalate lines = "a, b, 3, 4, 5, true" := by
  let items : List Value := [.code "a", .text "b", .int 3, .list [.int 4, .int 5], .bool true]
  have made : items.mapM (·.verbatim Object.markup) = .ok ["a", "b", "3", "4, 5", "true"] := by
    rfl
  have serial : ∀ item ∈ items, ∃ text, item.verbatim Object.markup = .ok text :=
    mapM_isOk_iff.1 ⟨_, made⟩
  obtain ⟨texts, lines, written, there, length, _, joined⟩ := pointLines_rows serial 2 true
  obtain rfl := Except.ok.inj (made.symm.trans (mapM_ok_iff.2 written))
  refine ⟨items, serial, lines, there.trans ?_, length.trans ?_, joined⟩
  · have count : toString items.length ++ "," = "5," := by decide
    rw [if_pos rfl, count]
    rfl
  · exact (by decide : 5 ⌈/⌉ max 2 1 = 3)

end Lines

end SceneCatalog
