import Mathlib.Data.List.Basic
import SceneCatalog.Proofs.Text.Margins
import SceneCatalog.Text.Identifier
import SceneCatalog.Text.Words

/-
This file describes the snake case of names in letters and digits: a small letter, then small
letters, digits and underscores.
-/

namespace SceneCatalog.Text

/-- What holds of all characters of ASCII can be found out one by one. -/
theorem of_ascii (holds : Char → Bool)
    (checked : ((List.range 128).all fun code => holds (Char.ofNat code)) = true) {c : Char}
    (ascii : c.toNat < 128) : holds c = true := by
  rw [← Char.ofNat_toNat c]
  exact List.all_eq_true.1 checked _ (List.mem_range.2 ascii)

theorem isAlpha_of_isUpper {c : Char} (upper : c.isUpper = true) : c.isAlpha = true :=
  Bool.or_eq_true_iff.2 (.inl upper)

theorem isAlpha_of_isLower {c : Char} (lower : c.isLower = true) : c.isAlpha = true :=
  Bool.or_eq_true_iff.2 (.inr lower)

theorem isAlphanum_of_isAlpha {c : Char} (letter : c.isAlpha = true) : c.isAlphanum = true :=
  Bool.or_eq_true_iff.2 (.inl letter)

/-- Letters and digits are ASCII characters. -/
theorem ascii_of_isAlphanum {c : Char} (alphanumeric : c.isAlphanum = true) : c.toNat < 128 := by
  have bounded (last : Char) (low : last.toNat < 128) (below : c.val ≤ last.val) :
      c.toNat < 128 :=
    Nat.lt_of_le_of_lt (UInt32.le_iff_toNat_le.1 below) low
  rcases Bool.or_eq_true_iff.1 alphanumeric with letter | digit
  · rcases Bool.or_eq_true_iff.1 letter with upper | lower
    · exact bounded 'Z' (by decide) (of_decide_eq_true upper).2
    · exact bounded 'z' (by decide) (of_decide_eq_true (Bool.and_eq_true_iff.1 lower).2)
  · exact bounded '9' (by decide) (of_decide_eq_true (Bool.and_eq_true_iff.1 digit).2)

/-- A letter, then letters and digits, have the form of an identifier. -/
theorem isIdentifier_of_alphanumeric {text rest : List Char} {first : Char}
    (spelled : text = first :: rest) (letter : first.isAlpha = true)
    (alphanumeric : ∀ c ∈ text, c.isAlphanum = true) : isIdentifier text = true := by
  subst spelled
  rw [isIdentifier, Bool.and_eq_true, List.all_eq_true]
  constructor
  · rw [startsIdentifier, if_pos (ascii_of_isAlphanum (alphanumeric first (.head _))), letter,
      Bool.true_or]
  · intro c member
    have here := alphanumeric c (.tail _ member)
    rw [continuesIdentifier, if_pos (ascii_of_isAlphanum here), here, Bool.true_or]

/-- A small letter, a digit or an underscore. -/
def isSnake (c : Char) : Bool := c.isLower || c.isDigit || c == '_'

/-- A text in snake case begins with a small letter. -/
structure SnakeCase (text : List Char) : Prop where
  begins : ∃ first rest, text = first :: rest ∧ first.isLower = true
  all : ∀ c ∈ text, isSnake c = true

theorem SnakeCase.append {first second : List Char} (snake : SnakeCase first)
    (others : ∀ c ∈ second, isSnake c = true) : SnakeCase (first ++ second) where
  begins := by
    obtain ⟨c, rest, rfl, small⟩ := snake.begins
    exact ⟨c, rest ++ second, rfl, small⟩
  all := List.forall_mem_append.2 ⟨snake.all, others⟩

theorem ascii_of_isSnake {c : Char} (snake : isSnake c = true) : c.toNat < 128 := by
  simp only [isSnake, Bool.or_eq_true, beq_iff_eq] at snake
  rcases snake with (lower | digit) | rfl
  · exact ascii_of_isAlphanum (isAlphanum_of_isAlpha (isAlpha_of_isLower lower))
  · exact ascii_of_isAlphanum (Bool.or_eq_true_iff.2 (.inr digit))
  · decide

/-- The characters of snake case can stand in an identifier. -/
theorem SnakeCase.continues {text : List Char} (snake : SnakeCase text) :
    ∀ c ∈ text, continuesIdentifier c = true := by
  intro c member
  have checked := of_ascii (fun c => !isSnake c || continuesIdentifier c) (by decide +kernel)
    (ascii_of_isSnake (snake.all c member))
  simpa [snake.all c member] using checked

/-- Text in snake case has the form of an identifier. -/
theorem SnakeCase.isIdentifier {text : List Char} (snake : SnakeCase text) :
    Text.isIdentifier text = true := by
  have continues := snake.continues
  obtain ⟨first, rest, rfl, small⟩ := snake.begins
  have starts := of_ascii (fun c => !c.isLower || startsIdentifier c) (by decide +kernel)
    (ascii_of_isSnake (snake.all first (.head _)))
  rw [Text.isIdentifier, Bool.and_eq_true, List.all_eq_true]
  exact ⟨by simpa [small] using starts, (List.forall_mem_cons.1 continues).2⟩

section Words

variable {name : List Char} (alphanumeric : ∀ c ∈ name, c.isAlphanum = true)
include alphanumeric

/-- No character of ASCII attaches to the one in front of it. -/
theorem clusters_eq_map : clusters name = name.map ([·]) := by
  induction name with
  | nil => rfl
  | cons c rest inductionHypothesis =>
      have others := inductionHypothesis (List.forall_mem_cons.1 alphanumeric).2
      rw [clusters, others]
      cases rest with
      | nil => rfl
      | cons mark rest =>
          have ascii := ascii_of_isAlphanum (alphanumeric mark (.tail _ (.head _)))
          have alone : (isExtending mark || mark.toNat == 0x200d) = false := by
            rw [isExtending, decide_eq_false (Nat.not_le_of_lt ascii), Bool.false_and,
              Bool.false_or, beq_eq_false_iff_ne]
            omega
          rw [List.map_cons]
          dsimp only
          rw [alone]
          rfl

/-- Lower case is taken character by character. -/
theorem lowerCaseFrom_eq_map (before : List Char) :
    lowerCaseFrom before name = name.map Char.toLower := by
  induction name generalizing before with
  | nil => rfl
  | cons c rest inductionHypothesis =>
      obtain ⟨here, others⟩ := List.forall_mem_cons.1 alphanumeric
      have ascii := ascii_of_isAlphanum here
      have single : (c == 'Σ') = false := by
        rw [beq_eq_false_iff_ne]
        rintro rfl
        exact absurd ascii (by decide)
      rw [lowerCaseFrom, inductionHypothesis others, single, if_neg Bool.false_ne_true, lowered,
        if_pos ascii]
      rfl

end Words

/-- Characters that do not separate words are found again in them, in the same order. -/
theorem WordRule.flatten_split {rule : WordRule} {clusters : List Cluster}
    (joined : ∀ cluster ∈ clusters, ∀ separator ∈ rule.separators, cluster ≠ [separator])
    (word : List Cluster) : (rule.split word clusters).flatten = word.reverse ++ clusters := by
  induction clusters generalizing word with
  | nil => simp [split]
  | cons cluster rest inductionHypothesis =>
      obtain ⟨here, others⟩ := List.forall_mem_cons.1 joined
      have inside : rule.separators.any (fun separator => cluster == [separator]) = false := by
        simpa using here
      rw [split, inside, if_neg Bool.false_ne_true]
      split
      · rw [List.flatten_cons, inductionHypothesis others]
        simp
      · rw [inductionHypothesis others]
        simp

/-- The first word takes up the word that has been begun. -/
theorem WordRule.split_cons (rule : WordRule) (cluster : Cluster) (word clusters : List Cluster) :
    ∃ tail others, rule.split (cluster :: word) clusters =
      ((cluster :: word).reverse ++ tail) :: others := by
  induction clusters generalizing cluster word with
  | nil => exact ⟨[], [], by simp [split]⟩
  | cons next rest inductionHypothesis =>
      rw [split]
      split
      · exact ⟨[], _, by simp; rfl⟩
      · split
        · exact ⟨[next], _, by simp; rfl⟩
        · obtain ⟨tail, others, same⟩ := inductionHypothesis next (cluster :: word)
          exact ⟨next :: tail, others, by simp [same]⟩

/-- The words of a name have its characters, and the first word begins with its first. -/
theorem WordRule.words_alphanumeric {rule : WordRule}
    (joined : ∀ separator ∈ rule.separators, separator.isAlphanum = false) {name : String}
    {first : Char} {rest : List Char} (spelled : name.toList = first :: rest)
    (alphanumeric : ∀ c ∈ name.toList, c.isAlphanum = true) :
    (∃ tail others, rule.words name = (first :: tail) :: others) ∧
      ∀ word ∈ rule.words name, ∀ c ∈ word, c.isAlphanum = true := by
  have apart : ∀ cluster ∈ name.toList.map ([·]), ∀ separator ∈ rule.separators,
      cluster ≠ [separator] := by
    intro cluster member separator separates same
    obtain ⟨c, inside, rfl⟩ := List.mem_map.1 member
    obtain rfl := List.singleton_inj.1 same
    exact absurd ((alphanumeric c inside).symm.trans (joined c separates)) (by decide)
  have filled : name.isEmpty = false := by
    rw [String.isEmpty_eq_false_iff]
    rintro rfl
    cases spelled
  have whole : rule.words name = (rule.split [] (name.toList.map ([·]))).map List.flatten := by
    rw [words, filled, if_neg Bool.false_ne_true, clusters_eq_map alphanumeric]
  constructor
  · have begun : ∃ tail others,
        rule.split [] (name.toList.map ([·])) = ([first] :: tail) :: others := by
      have inside : rule.separators.any (fun separator => [first] == [separator]) = false := by
        simpa using apart [first] (by simp [spelled])
      rw [spelled, List.map_cons, split, inside, if_neg Bool.false_ne_true]
      split
      · exact ⟨[], _, rfl⟩
      · exact rule.split_cons [first] [] _
    obtain ⟨tail, others, same⟩ := begun
    exact ⟨tail.flatten, others.map List.flatten, by rw [whole, same]; rfl⟩
  · intro word member c inside
    have among : c ∈ (rule.words name).flatten := List.mem_flatten.2 ⟨word, member, inside⟩
    rw [whole, ← List.flatten_flatten, flatten_split apart] at among
    exact alphanumeric c (by simpa using among)

/-- Names in letters and digits that begin with a letter have a snake case. -/
theorem WordRule.snakeCase_snake {rule : WordRule}
    (joined : ∀ separator ∈ rule.separators, separator.isAlphanum = false) {name : String}
    {first : Char} {rest : List Char} (spelled : name.toList = first :: rest)
    (letter : first.isAlpha = true) (alphanumeric : ∀ c ∈ name.toList, c.isAlphanum = true) :
    SnakeCase (rule.snake name).toList := by
  obtain ⟨⟨tail, others, begun⟩, characters⟩ := words_alphanumeric joined spelled alphanumeric
  have lowered (word : List Char) (member : word ∈ rule.words name) :
      lowerCase word = word.map Char.toLower :=
    lowerCaseFrom_eq_map (characters word member) []
  have joined : (rule.snake name).toList = ['_'].intercalate
      ((rule.words name).map (List.map Char.toLower)) := by
    rw [snake, String.toList_intercalate, List.map_map]
    congr 1
    apply List.map_congr_left
    intro word member
    rw [Function.comp_apply, String.toList_ofList, lowered word member]
  rw [joined]
  constructor
  · obtain ⟨after, continues⟩ := exists_intercalate_cons ['_'] (others.map (List.map Char.toLower))
    have small := of_ascii (fun c => !c.isAlpha || c.toLower.isLower) (by decide +kernel)
      (ascii_of_isAlphanum (alphanumeric first (by simp [spelled])))
    rw [letter, Bool.not_true, Bool.false_or] at small
    rw [begun, List.map_cons, continues]
    exact ⟨first.toLower, _, rfl, small⟩
  · intro c member
    rcases mem_intercalate member with between | ⟨piece, among, inside⟩
    · rw [List.mem_singleton.1 between]
      rfl
    · obtain ⟨word, here, rfl⟩ := List.mem_map.1 among
      obtain ⟨letter, within, rfl⟩ := List.mem_map.1 inside
      have alphanumeric := characters word here letter within
      have small := of_ascii (fun c => !c.isAlphanum || isSnake c.toLower) (by decide +kernel)
        (ascii_of_isAlphanum alphanumeric)
      simpa [alphanumeric] using small

end SceneCatalog.Text
