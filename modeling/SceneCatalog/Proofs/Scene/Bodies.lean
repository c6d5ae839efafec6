import SceneCatalog.Proofs.Scene.Dependence
import SceneCatalog.Proofs.Scene.Sound

/-
This file takes the blocks of objects apart into what their clauses write.
-/

namespace SceneCatalog

namespace Clause

variable {writer : NodeWriter} {object : Object}

/-- What stands first in the block decides the error. -/
theorem writeAll_append (first second : List Clause) :
    writeAll writer object (first ++ second) = (do
      let above ← writeAll writer object first
      return above ++ (← writeAll writer object second)) := by
  rw [writeAll_eq, writeAll_eq, writeAll_eq, List.mapM_append]
  cases first.mapM (write writer object) with
  | error error => rfl
  | ok above =>
      cases second.mapM (write writer object) with
      | error error => rfl
      | ok below => exact congrArg Except.ok List.flatten_append

/-- Each clause stands above what the clauses behind it write. -/
theorem writeAll_cons_ok {clause : Clause} {rest : List Clause} {body : List Markup}
    (there : writeAll writer object (clause :: rest) = .ok body) :
    ∃ above below, clause.write writer object = .ok above ∧
      writeAll writer object rest = .ok below ∧ body = above ++ below := by
  rw [writeAll] at there
  obtain ⟨above, first, there⟩ := ok_of_bind there
  obtain ⟨below, later, there⟩ := ok_of_bind there
  exact ⟨above, below, first, later, (Except.ok.inj there).symm⟩

/-- Clauses that are written in a row are written one part after the other. -/
theorem writeAll_append_ok {first second : List Clause} {body : List Markup}
    (there : writeAll writer object (first ++ second) = .ok body) :
    ∃ above below, writeAll writer object first = .ok above ∧
      writeAll writer object second = .ok below ∧ body = above ++ below := by
  rw [writeAll_append] at there
  obtain ⟨above, upper, there⟩ := ok_of_bind there
  obtain ⟨below, lower, there⟩ := ok_of_bind there
  exact ⟨above, below, upper, lower, (Except.ok.inj there).symm⟩

/-- A line of pieces that is written is one line. -/
theorem line_ok {pieces : List Piece} {entries : List Markup}
    (there : (line pieces).write writer object = .ok entries) :
    ∃ text, entries = [.line text] := by
  obtain ⟨text, _, rfl⟩ := ok_of_map there
  exact ⟨text, rfl⟩

end Clause

namespace Markup

theorem writeAll_eq_map (stops : Nat) (markups : List Markup) :
    writeAll stops markups = markups.map (write stops) := by
  induction markups with
  | nil => rfl
  | cons first rest inductionHypothesis =>
      rw [writeAll, inductionHypothesis, List.map_cons]

/-- The text of a block with texts on lines of their own between its braces. -/
def inBraces (stops : Nat) (comment : Option String) (keyword : String) (texts : List String) :
    String :=
  commentLine (tab stops) comment ++ tab stops ++ keyword ++ " \x7b\n" ++
    "\n".intercalate texts ++ "\n" ++ tab stops ++ "\x7d"

/-- A filled block is its body in braces, one stop further to the right. -/
theorem write_block_of_ne_nil {body : List Markup} (filled : body ≠ []) (stops : Nat)
    (comment : Option String) (keyword : String) :
    write stops (.block comment keyword body) =
      inBraces stops comment keyword (writeAll (stops + 1) body) := by
  obtain ⟨first, rest, rfl⟩ := List.exists_cons_of_ne_nil filled
  rw [write, writeAll, inBraces]
  simp only [String.append_assoc]

end Markup

namespace Object

variable {object : Object} {keyword : String} {clauses : List Clause}
  (found : Layout.ofClass? object.className = some (Layout.material keyword clauses))
include found

/-- The clauses of an object and its modifiers stand in one block, below the identifier. -/
theorem markup_material :
    object.markup = (do
      object.requireOwn
      let body ← Clause.writeAll markup object (clauses ++ Layout.modifiers)
      return .block (← textIfSet markup object "id") keyword body) := by
  have sections : Section.writeAll markup object (Layout.material keyword clauses).sections =
      Clause.writeAll markup object (clauses ++ Layout.modifiers) := by
    rw [Clause.writeAll_append, Layout.material, Section.writeAll, Section.writeAll,
      Section.writeAll, Section.write, Section.write]
    cases Clause.writeAll markup object clauses with
    | error error => rfl
    | ok above =>
        cases Clause.writeAll markup object Layout.modifiers with
        | error error => rfl
        | ok below =>
            refine congrArg Except.ok ?_
            show above ++ (below ++ []) = _
            rw [List.append_nil]
  rw [markup_eq found, writeAs, Layout.write, sections]
  rfl

/-- What the clauses of an object that has a text write stands in its block. -/
theorem sceneText_ok {stops : Nat} {written : String}
    (there : object.sceneText stops = .ok written) :
    ∃ comment body, Clause.writeAll markup object (clauses ++ Layout.modifiers) = .ok body ∧
      object.markup = .ok (.block comment keyword body) ∧
      written = (Markup.block comment keyword body).write stops := by
  obtain ⟨block, made, rfl⟩ := ok_of_map there
  have parts := markup_material found
  rw [made] at parts
  obtain ⟨_, _, parts⟩ := ok_of_bind parts.symm
  obtain ⟨body, entries, parts⟩ := ok_of_bind parts
  obtain ⟨comment, _, parts⟩ := ok_of_bind parts
  obtain rfl := Except.ok.inj parts
  exact ⟨comment, body, entries, made, rfl⟩

end Object

end SceneCatalog
