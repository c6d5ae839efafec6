import Mathlib.Algebra.GroupWithZero.Nat
import Mathlib.Algebra.Order.BigOperators.Group.List
import Mathlib.Algebra.Order.Group.Nat
import Mathlib.Data.List.Chain
import SceneCatalog.Proofs.Text.OneLine
import SceneCatalog.Proofs.Text.Trimming
import SceneCatalog.Text.Paragraph

/-
This file shows that the lines of a paragraph have its words in order, that each line is filled
before the next one is begun, and that no other lines of the same width are fewer.
-/

namespace SceneCatalog.Text

/-- The stretches between the blanks of a text that are not empty. -/
def stretches (text : String) : List String :=
  ((text.toList.splitOnP isBlank).filter (!·.isEmpty)).map String.ofList

/-- The words of a line, with blanks between them, are no wider than allowed. A word that is wider
stands alone. -/
def FitsLine (width : Nat) (line : List String) : Prop :=
  line.length ≤ 1 ∨ (" ".intercalate line).length ≤ width

/-- No line is empty, all of them fit, and each line but the last has no room for the first word of
the next one. -/
structure Filled (width : Nat) (lines : List (List String)) : Prop where
  begun : ∀ line ∈ lines, line ≠ []
  fits : ∀ line ∈ lines, FitsLine width line
  full : lines.IsChain fun line next =>
    ∀ word ∈ next.head?, width < (" ".intercalate (line ++ [word])).length

/-- The word begun is the start of the first stretch. -/
theorem wordsFrom_eq (word text : List Char) :
    wordsFrom word text =
      ((text.splitOnP isBlank).modifyHead (word.reverse ++ ·)).filter (!·.isEmpty) := by
  induction text generalizing word with
  | nil => cases word <;> simp [wordsFrom]
  | cons c rest inductionHypothesis =>
      obtain ⟨first, others, split⟩ :=
        List.exists_cons_of_ne_nil (List.splitOnP_ne_nil isBlank rest)
      rw [wordsFrom, List.splitOnP_cons_eq_if_modifyHead]
      simp only [inductionHypothesis, split]
      cases blank : isBlank c <;> cases word <;> simp

/-- Words have no blanks, by induction on the text with the word begun so far. -/
theorem isBlank_wordsFrom {word text : List Char} (solid : ∀ c ∈ word, isBlank c = false) :
    ∀ found ∈ wordsFrom word text, ∀ c ∈ found, isBlank c = false := by
  have turned : ∀ c ∈ word.reverse, isBlank c = false := fun c member =>
    solid c (List.mem_reverse.1 member)
  induction text generalizing word with
  | nil =>
      rw [wordsFrom]
      split
      · exact List.forall_mem_nil _
      · exact List.forall_mem_singleton.2 turned
  | cons c rest inductionHypothesis =>
      rw [wordsFrom]
      split
      · split
        · exact inductionHypothesis (List.forall_mem_nil _) (List.forall_mem_nil _)
        · exact List.forall_mem_cons.2
            ⟨turned, inductionHypothesis (List.forall_mem_nil _) (List.forall_mem_nil _)⟩
      · rename_i here
        have longer : ∀ other ∈ c :: word, isBlank other = false :=
          List.forall_mem_cons.2 ⟨Bool.eq_false_iff.2 here, solid⟩
        exact inductionHypothesis longer fun other member =>
          longer other (List.mem_reverse.1 member)

/-- The words of a text are its stretches without blanks. -/
theorem words_eq_stretches (text : String) :
    (words text.toList).map String.ofList = stretches text := by
  have whole : (text.toList.splitOnP isBlank).modifyHead ([].reverse ++ ·) =
      text.toList.splitOnP isBlank := congrFun List.modifyHead_id _
  rw [words, wordsFrom_eq, whole, stretches]

/-- No stretch is empty. -/
theorem ne_empty_of_mem_stretches {text word : String} (member : word ∈ stretches text) :
    word ≠ "" := by
  obtain ⟨letters, found, rfl⟩ := List.mem_map.1 member
  have some : letters ≠ [] := by simpa using (List.mem_filter.1 found).2
  simpa using some

/-- Words have no blanks in them. -/
theorem not_mem_stretches {text word : String} (member : word ∈ stretches text) {c : Char}
    (blank : isBlank c = true) : c ∉ word.toList := by
  rw [← words_eq_stretches] at member
  obtain ⟨letters, found, rfl⟩ := List.mem_map.1 member
  rw [String.toList_ofList]
  intro inside
  have solid := isBlank_wordsFrom (List.forall_mem_nil _) letters found c inside
  exact absurd (blank.symm.trans solid) (by decide)

/-- The blanks of a line stand between its words. -/
theorem length_intercalate (line : List String) :
    (" ".intercalate line).length = (line.map String.length).sum + (line.length - 1) := by
  induction line with
  | nil => rfl
  | cons word rest inductionHypothesis =>
      by_cases last : rest = []
      · subst last
        simp
      · have more := List.length_pos_iff.2 last
        have blank : " ".length = 1 := rfl
        rw [String.intercalate_cons_of_ne_nil last, String.length_append, String.length_append,
          inductionHypothesis, List.map_cons, List.sum_cons, List.length_cons]
        omega

/-- A line grows by a blank and the word. -/
theorem length_intercalate_concat {line : List String} (begun : line ≠ []) (word : String) :
    (" ".intercalate (line ++ [word])).length =
      (" ".intercalate line).length + 1 + word.length := by
  have some := List.length_pos_iff.2 begun
  rw [length_intercalate, length_intercalate, List.map_append, List.sum_append,
    List.length_append]
  simp only [List.map_cons, List.map_nil, List.sum_cons, List.sum_nil, List.length_cons,
    List.length_nil]
  omega

/-- A part of a line is no wider than the line. -/
theorem length_intercalate_mono {part line : List String} (within : part.Sublist line) :
    (" ".intercalate part).length ≤ (" ".intercalate line).length := by
  have shorter := within.length_le
  have lighter := (within.map String.length).sum_le_sum fun _ _ => Nat.zero_le _
  rw [length_intercalate, length_intercalate]
  omega

/-- A line that fits has room for any words that stand beside one another in it. -/
theorem FitsLine.room {width : Nat} {skipped line after : List String} {word : String}
    (fits : FitsLine width (skipped ++ (line ++ word :: after))) (begun : line ≠ []) :
    (" ".intercalate (line ++ [word])).length ≤ width := by
  have within : (line ++ [word]).Sublist (skipped ++ (line ++ word :: after)) := by
    refine List.Sublist.trans ?_ (List.sublist_append_right _ _)
    exact (List.singleton_sublist.2 (.head _)).append_left line
  have several : 1 < (skipped ++ (line ++ word :: after)).length := by
    have some := List.length_pos_iff.2 begun
    simp only [List.length_append, List.length_cons]
    omega
  exact (length_intercalate_mono within).trans (fits.resolve_left (Nat.not_le_of_lt several))

/-- No word is lost, repeated or moved. -/
theorem flatten_fillFrom (width length : Nat) (line words : List String) :
    (fillFrom width line length words).flatten = line.reverse ++ words := by
  induction words generalizing line length with
  | nil => cases line <;> simp [fillFrom]
  | cons word rest inductionHypothesis =>
      rw [fillFrom]
      split
      · rename_i empty
        simp [inductionHypothesis, List.isEmpty_iff.1 empty]
      · split <;> simp [inductionHypothesis]

/-- Filling loses and reorders no words. -/
theorem flatten_fill (width : Nat) (words : List String) : (fill width words).flatten = words :=
  flatten_fillFrom width 0 [] words

/-- The first line goes on where it has been begun. -/
theorem fillFrom_begun {line : List String} (begun : line ≠ []) (width length : Nat)
    (words : List String) :
    ∃ taken others, fillFrom width line length words = (line.reverse ++ taken) :: others := by
  induction words generalizing line length with
  | nil => exact ⟨[], [], by simp [fillFrom, begun]⟩
  | cons word rest inductionHypothesis =>
      rw [fillFrom, if_neg (by simpa using begun)]
      split
      · exact ⟨[], _, by rw [List.append_nil]⟩
      · obtain ⟨taken, others, same⟩ :=
          inductionHypothesis (List.cons_ne_nil word line) (length + 1 + word.length)
        exact ⟨word :: taken, others, by simp [same]⟩

namespace Filled

variable {width : Nat}

theorem nil : Filled width [] where
  begun := List.forall_mem_nil _
  fits := List.forall_mem_nil _
  full := .nil

/-- A line is filled when it fits and the first word of the next one would not fit into it. -/
theorem cons {line : List String} {lines : List (List String)} (filled : Filled width lines)
    (begun : line ≠ []) (fits : FitsLine width line)
    (full : ∀ next ∈ lines.head?, ∀ word ∈ next.head?,
      width < (" ".intercalate (line ++ [word])).length) : Filled width (line :: lines) where
  begun := List.forall_mem_cons.2 ⟨begun, filled.begun⟩
  fits := List.forall_mem_cons.2 ⟨fits, filled.fits⟩
  full := filled.full.cons full

/-- A word goes to the line begun if and only if that line has room for it. -/
theorem fillFrom {line words : List String} (begun : line ≠ [])
    (fits : FitsLine width line.reverse) :
    Filled width (fillFrom width line (" ".intercalate line.reverse).length words) := by
  induction words generalizing line with
  | nil =>
      rw [Text.fillFrom, if_neg (by simpa using begun)]
      exact nil.cons (by simpa using begun) fits (by simp)
  | cons word rest inductionHypothesis =>
      have turned : line.reverse ≠ [] := by simpa using begun
      have longer := length_intercalate_concat turned word
      rw [Text.fillFrom, if_neg (by simpa using begun), ← longer]
      split
      · rename_i wide
        have alone : (" ".intercalate [word].reverse).length = word.length := by simp
        rw [← alone]
        refine (inductionHypothesis (List.cons_ne_nil word []) (.inl (Nat.le_refl 1))).cons
          turned fits ?_
        obtain ⟨taken, others, same⟩ := fillFrom_begun (List.cons_ne_nil word []) width
          (" ".intercalate [word].reverse).length rest
        rw [same]
        simpa using wide
      · rename_i narrow
        have extended : (word :: line).reverse = line.reverse ++ [word] := List.reverse_cons
        rw [← extended]
        refine inductionHypothesis (List.cons_ne_nil word line) (.inr ?_)
        rw [extended]
        exact Nat.le_of_not_lt narrow

/-- Greedy lines are filled. -/
theorem fill (width : Nat) (words : List String) : Filled width (fill width words) := by
  cases words with
  | nil => exact nil
  | cons word rest =>
      have alone : (" ".intercalate [word].reverse).length = word.length := by simp
      rw [Text.fill, Text.fillFrom, if_pos List.isEmpty_nil, ← alone]
      exact fillFrom (List.cons_ne_nil word []) (.inl (Nat.le_refl 1))

/-- The greedy lines stay ahead: if they only have words that other lines have at their end, they
are no more than those. -/
theorem length_le {lines others : List (List String)} (filled : Filled width lines)
    (fits : ∀ line ∈ others, FitsLine width line) (ahead : lines.flatten <:+ others.flatten) :
    lines.length ≤ others.length := by
  induction others generalizing lines with
  | nil =>
      have none : lines.flatten = [] := List.suffix_nil.1 ahead
      cases lines with
      | nil => exact Nat.le_refl 0
      | cons line rest =>
          exact absurd (List.append_eq_nil_iff.1 none).1 (filled.begun line (.head _))
  | cons other others inductionHypothesis =>
      obtain ⟨otherFits, othersFit⟩ := List.forall_mem_cons.1 fits
      cases lines with
      | nil => exact Nat.zero_le _
      | cons line rest =>
          obtain ⟨lineBegun, restBegun⟩ := List.forall_mem_cons.1 filled.begun
          obtain ⟨noRoom, restFull⟩ := List.isChain_cons.1 filled.full
          have restFilled : Filled width rest :=
            ⟨restBegun, (List.forall_mem_cons.1 filled.fits).2, restFull⟩
          refine Nat.succ_le_succ (inductionHypothesis restFilled othersFit ?_)
          rw [List.flatten_cons, List.flatten_cons] at ahead
          rcases List.suffix_or_suffix_of_suffix ((List.suffix_append _ _).trans ahead)
            (List.suffix_append other others.flatten) with still | ⟨more, taken⟩
          · exact still
          -- Otherwise the other first line has all words of the greedy one and more, for which
          -- there is no room.
          cases more with
          | nil => exact ⟨[], taken.symm⟩
          | cons word after =>
              obtain ⟨skipped, whole⟩ := ahead
              rw [← taken, ← List.append_assoc, ← List.append_assoc] at whole
              have held : skipped ++ (line ++ word :: after) = other := by
                rw [← List.append_assoc]
                exact List.append_cancel_right whole
              have wide : width < (" ".intercalate (line ++ [word])).length := by
                cases rest with
                | nil => contradiction
                | cons next rest =>
                    refine noRoom next rfl word ?_
                    obtain ⟨first, words, rfl⟩ :=
                      List.exists_cons_of_ne_nil (restBegun next (.head _))
                    rw [List.flatten_cons, List.cons_append, List.cons_append] at taken
                    rw [List.head?_cons, (List.cons.inj taken).1]
                    rfl
              exact absurd ((held ▸ otherFits).room lineBegun) (Nat.not_le_of_lt wide)

end Filled

/-- A wrapped text is its filled lines, each behind the lead. -/
theorem wrap_eq (text lead : String) (width : Nat) :
    wrap text lead width =
      "\n".intercalate ((fill width (stretches text)).map (lead ++ " ".intercalate ·)) := by
  rw [wrap, words_eq_stretches]

theorem mem_stretches_of_fill {width : Nat} {text word : String} {line : List String}
    (filled : line ∈ fill width (stretches text)) (member : word ∈ line) :
    word ∈ stretches text := by
  rw [← flatten_fill width (stretches text)]
  exact List.mem_flatten.2 ⟨line, filled, member⟩

/-- A line of a paragraph is one line. -/
theorem oneLine_fill {width : Nat} {text : String} {line : List String}
    (filled : line ∈ fill width (stretches text)) : OneLine (" ".intercalate line) := by
  intro member
  rw [String.toList_intercalate] at member
  rcases mem_intercalate member with between | ⟨_, among, inside⟩
  · exact absurd between (by decide)
  · obtain ⟨word, there, rfl⟩ := List.mem_map.1 among
    exact not_mem_stretches (mem_stretches_of_fill filled there) (by decide) inside

/-- There are no lines exactly when there are no words. -/
theorem fill_eq_nil_iff (width : Nat) (words : List String) :
    fill width words = [] ↔ words = [] := by
  constructor
  · intro none
    rw [← flatten_fill width words, none, List.flatten_nil]
  · rintro rfl
    rfl

/-- There is something in each line of a paragraph. -/
theorem intercalate_ne_empty {width : Nat} {text : String} {line : List String}
    (filled : line ∈ fill width (stretches text)) : " ".intercalate line ≠ "" := by
  obtain ⟨word, rest, rfl⟩ :=
    List.exists_cons_of_ne_nil ((Filled.fill width (stretches text)).begun line filled)
  have some := ne_empty_of_mem_stretches (mem_stretches_of_fill filled (.head rest))
  intro none
  have length := congrArg String.length none
  rw [length_intercalate, List.map_cons, List.sum_cons, String.length_empty] at length
  exact some (String.length_eq_zero_iff.1 (by omega))

/-- A wrapped text is empty exactly when it has no words. -/
theorem wrap_eq_empty_iff (text lead : String) (width : Nat) :
    wrap text lead width = "" ↔ stretches text = [] := by
  rw [wrap_eq]
  constructor
  · intro none
    by_contra some
    obtain ⟨line, rest, lines⟩ :=
      List.exists_cons_of_ne_nil ((fill_eq_nil_iff width (stretches text)).not.2 some)
    have something := intercalate_ne_empty (lines ▸ .head rest : line ∈ fill width (stretches text))
    have spelled := congrArg String.toList none
    rw [lines, List.map_cons, String.toList_intercalate, List.map_cons] at spelled
    obtain ⟨after, begun⟩ := exists_intercalate_cons "\n".toList
      ((rest.map (lead ++ " ".intercalate ·)).map String.toList)
    rw [begun] at spelled
    have both := String.toList_eq_nil_iff.1 (List.append_eq_nil_iff.1 spelled).1
    exact something (String.append_eq_empty_iff.1 both).2
  · intro none
    rw [none]
    rfl

/-- The lines of a paragraph are filled one after the other with its words, and no other lines of
the same width are fewer. Each line stands behind the margin, and nothing stands before it. Only a
text without words has no lines. -/
theorem wrap_filled {lead : String} (single : OneLine lead) (text : String) (width : Nat) :
    ∃ lines : List (List String), lines.flatten = stretches text ∧ Filled width lines ∧
      (∀ others : List (List String), others.flatten = stretches text →
        (∀ line ∈ others, FitsLine width line) → lines.length ≤ others.length) ∧
      (wrap text lead width = "" ↔ stretches text = []) ∧
      (wrap text lead width ≠ "" → (wrap text lead width).toList.splitOn '\n' =
        lines.map fun line => (lead ++ " ".intercalate line).toList) ∧
      ∀ line ∈ (wrap text lead width).toList.splitOn '\n', line ≠ [] → lead.toList <+: line := by
  have words := flatten_fill width (stretches text)
  have filled := Filled.fill width (stretches text)
  have split (some : wrap text lead width ≠ "") : (wrap text lead width).toList.splitOn '\n' =
      (fill width (stretches text)).map fun line => (lead ++ " ".intercalate line).toList := by
    rw [ne_eq, wrap_eq_empty_iff, ← fill_eq_nil_iff width] at some
    rw [wrap_eq, splitOn_intercalate_single (List.map_eq_nil_iff.not.2 some), List.map_map]
    · rfl
    · refine List.forall_mem_map.2 fun line member => ?_
      exact (OneLine.append_iff _ _).2 ⟨single, oneLine_fill member⟩
  refine ⟨fill width (stretches text), words, filled, fun others same fits => ?_,
    wrap_eq_empty_iff text lead width, split, fun line member inside => ?_⟩
  · exact filled.length_le fits ((words.trans same.symm) ▸ List.suffix_refl _)
  · by_cases none : wrap text lead width = ""
    · rw [none] at member
      exact absurd (List.mem_singleton.1 member) inside
    · rw [split none] at member
      obtain ⟨content, _, rfl⟩ := List.mem_map.1 member
      rw [String.toList_append]
      exact List.prefix_append _ _

/-- A word that is too wide for the page has a line of its own, and so have its neighbours. -/
theorem wrap_filled_narrow :
    OneLine "// " ∧
      wrap "tiny\tenormousword  tiny" "// " 5 = "// tiny\n// enormousword\n// tiny" ∧
      ∀ others : List (List String), others.flatten = ["tiny", "enormousword", "tiny"] →
        (∀ line ∈ others, FitsLine 5 line) → 3 ≤ others.length := by
  have single : OneLine "// " := by decide
  have written : wrap "tiny\tenormousword  tiny" "// " 5 =
      "// tiny\n// enormousword\n// tiny" := by decide +kernel
  have words : stretches "tiny\tenormousword  tiny" = ["tiny", "enormousword", "tiny"] := by
    decide +kernel
  obtain ⟨lines, _, _, fewest, _, split, _⟩ := wrap_filled single "tiny\tenormousword  tiny" 5
  rw [written] at split
  have count := congrArg List.length (split (by decide))
  rw [List.length_map] at count
  rw [words] at fewest
  refine ⟨single, written, fun others same fits => ?_⟩
  rw [(by decide +kernel : 3 = ("// tiny\n// enormousword\n// tiny".toList.splitOn '\n').length),
    count]
  exact fewest others same fits

end SceneCatalog.Text
