import Mathlib.Data.List.Basic

/-
This file splits texts at their line ends.
-/

namespace SceneCatalog.Text

/-- The lines of a text that ends all of its lines. -/
def endedLines (text : List Char) : List (List Char) := (text.splitOn '\n').dropLast

/-- A text that ends in a line end has the lines of what stands before it. -/
theorem endedLines_lineEnd (text : List Char) :
    endedLines (text ++ ['\n']) = text.splitOn '\n' := by
  rw [endedLines, List.splitOn_append_cons_self, List.splitOn_nil, List.dropLast_concat]

/-- What stands in front of a text belongs to its first line. -/
theorem splitOn_append {start : List Char} (single : '\n' ∉ start) (text : List Char) :
    (start ++ text).splitOn '\n' = (text.splitOn '\n').modifyHead (start ++ ·) := by
  induction start with
  | nil => exact (congrFun List.modifyHead_id _).symm
  | cons c rest inductionHypothesis =>
      obtain ⟨other, restSingle⟩ : '\n' ≠ c ∧ '\n' ∉ rest := by simpa using single
      have here : (c == '\n') = false := by simpa using other.symm
      rw [List.cons_append, List.splitOn_cons_eq_if_modifyHead, here, if_neg Bool.false_ne_true,
        inductionHypothesis restSingle, List.modifyHead_modifyHead]
      rfl

/-- No piece has the separator. -/
theorem not_mem_of_mem_splitOn {text piece : List Char} (member : piece ∈ text.splitOn '\n') :
    '\n' ∉ piece := by
  induction text generalizing piece with
  | nil =>
      obtain rfl := List.mem_singleton.1 member
      exact List.not_mem_nil
  | cons c rest inductionHypothesis =>
      rw [List.splitOn_cons_eq_if_modifyHead] at member
      split at member
      · rcases List.mem_cons.1 member with rfl | later
        · exact List.not_mem_nil
        · exact inductionHypothesis later
      · rename_i other
        obtain ⟨first, others, split⟩ :=
          List.exists_cons_of_ne_nil (List.splitOn_ne_nil '\n' rest)
        rw [split, List.modifyHead_cons] at member
        rw [split] at inductionHypothesis
        rcases List.mem_cons.1 member with rfl | later
        · have here := inductionHypothesis (.head _)
          simp only [List.mem_cons, not_or]
          exact ⟨fun same => other (beq_iff_eq.2 same.symm), here⟩
        · exact inductionHypothesis (.tail _ later)

/-- Texts that each end their last line are split one by one. -/
theorem splitOn_join (lines : List String) :
    (String.join (lines.map (· ++ "\n"))).toList.splitOn '\n' =
      lines.flatMap (fun line => line.toList.splitOn '\n') ++ [[]] := by
  induction lines with
  | nil => rfl
  | cons line rest inductionHypothesis =>
      have lineEnd : "\n".toList = ['\n'] := rfl
      rw [String.toList_join] at inductionHypothesis ⊢
      rw [List.map_cons, List.flatMap_cons, List.flatMap_cons, String.toList_append, lineEnd,
        List.append_assoc, List.singleton_append, List.splitOn_append_cons_self,
        inductionHypothesis, List.append_assoc]

/-- The lines are found again if and only if none of them has a line end within. -/
theorem endedLines_join_eq_iff (lines : List String) :
    endedLines (String.join (lines.map (· ++ "\n"))).toList = lines.map String.toList ↔
      ∀ line ∈ lines, '\n' ∉ line.toList := by
  rw [endedLines, splitOn_join, List.dropLast_concat]
  constructor
  · intro same line member
    have piece : line.toList ∈ lines.flatMap fun line => line.toList.splitOn '\n' := by
      rw [same]
      exact List.mem_map_of_mem member
    obtain ⟨_, _, split⟩ := List.mem_flatMap.1 piece
    exact not_mem_of_mem_splitOn split
  · intro single
    induction lines with
    | nil => rfl
    | cons line rest inductionHypothesis =>
        obtain ⟨here, later⟩ := List.forall_mem_cons.1 single
        rw [List.flatMap_cons, List.map_cons, List.splitOn_eq_singleton here,
          inductionHypothesis later, List.singleton_append]

end SceneCatalog.Text
