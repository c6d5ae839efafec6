import Mathlib.Data.List.TakeWhile
import SceneCatalog.Proofs.Source.Generation
import SceneCatalog.Proofs.Text.Words
import SceneCatalog.Source.Names

/-
This file shows which names in generated code are identifiers.
-/

namespace SceneCatalog

open Text

namespace Naming

/-- The method name of an attribute is in snake case. -/
theorem snakeCase_methodName {name : String} (proper : Proper Char.isLower name) :
    SnakeCase (methodName name).toList := by
  obtain ⟨first, rest, spelled, small⟩ := proper.begins
  exact WordRule.snakeCase_snake (List.forall_mem_nil _) spelled (isAlpha_of_isLower small)
    proper.alphanumeric

theorem snakeCase_snakeName {className : String} (proper : Proper Char.isUpper className) :
    SnakeCase (snakeName className).toList := by
  obtain ⟨first, rest, spelled, capital⟩ := proper.begins
  exact WordRule.snakeCase_snake (by simp [classWords]) spelled (isAlpha_of_isUpper capital)
    proper.alphanumeric

end Naming

namespace Source

namespace Token

/-- A text in snake case is one word. -/
theorem next_word {c : Char} {rest : List Char} (snake : SnakeCase (c :: rest)) (fuel : Nat) :
    next? fuel (c :: rest) = some (.word (String.ofList (c :: rest)), []) := by
  obtain ⟨first, others, same, small⟩ := snake.begins
  obtain ⟨rfl, rfl⟩ := List.cons.inj same
  have whole : (c :: rest).takeWhile continuesIdentifier = c :: rest :=
    List.takeWhile_eq_self_iff.2 snake.continues
  have facts := of_ascii (fun c => !c.isLower || (!c.isDigit && startsIdentifier c))
    (by decide) (ascii_of_isSnake (snake.all c (.head _)))
  simp only [small, Bool.not_true, Bool.false_or, Bool.and_eq_true, Bool.not_eq_true'] at facts
  have noSign (sign : Char) (large : sign.isLower = false) : c ≠ sign := by
    rintro rfl
    exact absurd (small.symm.trans large) (by decide)
  -- Only one branch can be taken: each of the others begins with a sign.
  unfold next?
  split
  case h_10 marks =>
    obtain ⟨rfl, rfl⟩ := List.cons.inj marks
    rw [facts.1, if_neg Bool.false_ne_true, if_pos facts.2, whole]
    dsimp only
    rw [List.drop_length]
    split
    case h_10 => rfl
    all_goals contradiction
  case h_1 => contradiction
  all_goals
    rename_i sign
    exact absurd (List.cons.inj sign).1 (noSign _ (by decide))

/-- What is no comment begins a token. -/
theorem scanFrom_cons {c : Char} (noComment : c ≠ '/') (solid : isSpace c = false) (steps : Nat)
    (read : List Token) (rest : List Char) :
    scanFrom (steps + 1) read (c :: rest) =
      (next? (steps + 1) (c :: rest)).bind fun found =>
        scanFrom steps (found.1 :: read) found.2 := by
  rw [scanFrom.eq_def]
  split
  case h_5 same begun =>
    obtain ⟨rfl, rfl⟩ := List.cons.inj begun
    obtain rfl := Nat.succ.inj same
    rw [solid, if_neg Bool.false_ne_true]
    cases next? (steps + 1) (c :: rest) <;> rfl
  case h_3 begun => exact absurd (List.cons.inj begun).1 noComment
  case h_4 begun => exact absurd (List.cons.inj begun).1 noComment
  all_goals contradiction

/-- A word in snake case is read as one token. -/
theorem scan_word {text : String} (snake : SnakeCase text.toList) :
    scan text = some [.word text] := by
  obtain ⟨c, rest, spelled, small⟩ := snake.begins
  have fuel : text.length = rest.length + 1 := by rw [← String.length_toList, spelled]; rfl
  have facts := of_ascii (fun c => !c.isLower || (!isSpace c && c != '/')) (by decide)
    (ascii_of_isSnake (snake.all c (by simp [spelled])))
  simp only [small, Bool.not_true, Bool.false_or, Bool.and_eq_true, Bool.not_eq_true',
    bne_iff_ne] at facts
  have word := next_word (spelled ▸ snake) (rest.length + 1)
  have whole : String.ofList (c :: rest) = text := by rw [← spelled, String.ofList_toList]
  rw [scan, fuel, spelled, scanFrom_cons facts.2 facts.1, word, Option.bind_some, whole,
    scanFrom.eq_def]
  rfl

end Token

/-- A text in snake case is a name unless it is one of the refused words. -/
theorem isName_iff {text : String} (snake : SnakeCase text.toList) :
    isName text = true ↔ text ∉ refusedWords := by
  rw [isName, Token.scan_word snake]
  simp

/-- An identifier as it stands. -/
def IsPlain (name : String) : Prop := isIdentifier name.toList = true ∧ name ∉ keywords

/-- Keywords that no mark turns into identifiers. -/
def neverMarked : List String := ["crate", "self", "super", "Self", "_"]

/-- A keyword with the mark that makes it an identifier. -/
def IsMarked (name : String) : Prop :=
  ∃ word ∈ keywords, word ∉ neverMarked ∧ name = "r#" ++ word

/-- The field of an attribute is its method name, marked if that is refused. -/
theorem fieldIdent_eq {name : String} (proper : Naming.Proper Char.isLower name) :
    fieldIdent name = if Naming.methodName name ∈ refusedWords then
      "r#" ++ Naming.methodName name else Naming.methodName name := by
  have named := isName_iff (Naming.snakeCase_methodName proper)
  rw [fieldIdent]
  split <;> simp_all

/-- A field has letters of snake case only, apart from its mark. -/
theorem not_mem_fieldIdent {name : String} (proper : Naming.Proper Char.isLower name) {mark : Char}
    (noLetter : isSnake mark = false) (other : mark ≠ '#') :
    mark ∉ (fieldIdent name).toList := by
  have absent : mark ∉ (Naming.methodName name).toList := fun member =>
    absurd ((Naming.snakeCase_methodName proper).all mark member) (by simp [noLetter])
  rw [fieldIdent_eq proper]
  split
  · have spelled : ("r#" ++ Naming.methodName name).toList =
        'r' :: '#' :: (Naming.methodName name).toList := String.toList_append
    rw [spelled, List.mem_cons, List.mem_cons, not_or, not_or]
    refine ⟨?_, other, absent⟩
    rintro rfl
    exact absurd noLetter (by decide)
  · exact absent

/-- Of the names that a class can have, one is a keyword. -/
theorem isPlain_className_iff {className : String}
    (proper : Naming.Proper Char.isUpper className) : IsPlain className ↔ className ≠ "Self" := by
  obtain ⟨first, rest, spelled, capital⟩ := proper.begins
  have only : ∀ word ∈ keywords, word.toList.head?.any Char.isUpper = true → word = "Self" := by
    decide
  constructor
  · rintro ⟨_, named⟩ rfl
    exact named (by decide)
  · refine fun other => ⟨?_, fun keyword => other (only _ keyword ?_)⟩
    · exact isIdentifier_of_alphanumeric spelled (isAlpha_of_isUpper capital) proper.alphanumeric
    · rw [spelled, List.head?_cons, Option.any_some, capital]

/-- The setter of an attribute is in snake case. -/
theorem snakeCase_setterIdent {name : String} (proper : Naming.Proper Char.isLower name) :
    SnakeCase (setterIdent name).toList := by
  have beginning : SnakeCase "set_".toList := ⟨⟨'s', _, rfl, rfl⟩, List.all_eq_true.1 rfl⟩
  rw [setterIdent, String.toList_append]
  exact beginning.append (Naming.snakeCase_methodName proper).all

/-- The setter of an attribute is a legal name, as no keyword begins like it. -/
theorem isPlain_setterIdent {name : String} (proper : Naming.Proper Char.isLower name) :
    IsPlain (setterIdent name) := by
  refine ⟨(snakeCase_setterIdent proper).isIdentifier, fun keyword => ?_⟩
  have none : ∀ word ∈ keywords, ¬"set_".toList <+: word.toList := by decide
  refine none _ keyword ?_
  rw [setterIdent, String.toList_append]
  exact List.prefix_append _ _

/-- The module of a class is a legal name, as no keyword ends like it. -/
theorem isPlain_moduleIdent {className : String} (proper : Naming.Proper Char.isUpper className) :
    IsPlain (moduleIdent className) := by
  have ending : ∀ c ∈ "_class".toList, isSnake c = true := List.all_eq_true.1 rfl
  have snake := (Naming.snakeCase_snakeName proper).append ending
  rw [← String.toList_append] at snake
  refine ⟨snake.isIdentifier, fun keyword => ?_⟩
  have none : ∀ word ∈ keywords, ¬"_class".toList <:+ word.toList := by decide
  refine none _ keyword ?_
  rw [moduleIdent, String.toList_append]
  exact List.suffix_append _ _

/-- The field of an attribute is marked if the parser refuses its name. It can be, as no name is one
that cannot be marked, and the parser refuses all keywords but one. -/
theorem fieldIdent_legal_iff {name : String} (proper : Naming.Proper Char.isLower name)
    (usable : Naming.methodName name ∉ Naming.neverNames) :
    IsPlain (fieldIdent name) ∨ IsMarked (fieldIdent name) ↔ Naming.methodName name ≠ "gen" := by
  have snake := Naming.snakeCase_methodName proper
  have taken : "gen" ∉ refusedWords := by decide
  rw [fieldIdent_eq proper]
  split
  · rename_i refused
    refine iff_of_true (.inr ⟨_, List.mem_append_left _ refused, fun never => ?_, rfl⟩) ?_
    · obtain ⟨first, rest, spelled, small⟩ := snake.begins
      have capital : ∀ word ∈ neverMarked, word ∉ Naming.neverNames →
          word.toList.head?.any Char.isLower = false := by
        decide
      have other := capital _ never usable
      rw [spelled, List.head?_cons, Option.any_some, small] at other
      contradiction
    · exact fun same => taken (same ▸ refused)
  · rename_i accepted
    constructor
    · rintro (⟨_, plain⟩ | ⟨word, _, _, marked⟩) same
      · exact plain (same ▸ by decide)
      · have second := snake.all '#' (by simp [marked, String.toList_append])
        exact absurd second (by decide)
    · refine fun other => .inl ⟨snake.isIdentifier, fun keyword => ?_⟩
      rcases List.mem_append.1 keyword with refused | last
      · exact accepted refused
      · exact other (List.mem_singleton.1 last)

/-- All identifiers in code that is generated from tables without faults are legal, but for the name
of one class and the field of one attribute. -/
theorem identifiers_legal {tables : Catalog} (silent : tables.review = .ok ())
    {table : ClassTable} (member : table ∈ tables) :
    (IsPlain table.name ↔ table.name ≠ "Self") ∧ IsPlain (moduleIdent table.name) ∧
      ∀ name ∈ table.attributeNames, IsPlain (setterIdent name) ∧
        (IsPlain (fieldIdent name) ∨ IsMarked (fieldIdent name) ↔
          Naming.methodName name ≠ "gen") := by
  have wellFormed := Catalog.wellFormed_of_review silent member
  refine ⟨isPlain_className_iff wellFormed.name, isPlain_moduleIdent wellFormed.name, ?_⟩
  intro name declared
  have proper := wellFormed.attributeNames name declared
  exact ⟨isPlain_setterIdent proper, fieldIdent_legal_iff proper (wellFormed.usable name declared)⟩

/-- A class with an attribute that is named by a keyword. -/
def shape : ClassTable where
  location := ⟨"tables", "SHAPE"⟩
  name := "Shape"
  immutables := [⟨"isSolid", .bool true⟩]
  attributes := [{ name := "type", typeName := "string" }]

/-- A class that extends it and has an attribute with an initial value. -/
def ball : ClassTable where
  location := ⟨"tables", "BALL"⟩
  name := "Ball3D"
  superclass := some "Shape"
  attributes := [{ name := "innerRadius", typeName := "float", initial := some (.int 1) }]

theorem shapes_review : Catalog.review [shape, ball] = .ok () := by
  rw [Catalog.review, Issues.result, if_pos (by decide)]

theorem identifiers_legal_shape :
    Catalog.review [shape, ball] = .ok () ∧ shape ∈ [shape, ball] ∧ IsPlain shape.name ∧
      IsPlain (moduleIdent shape.name) ∧ IsPlain (setterIdent "type") ∧
      (IsPlain (fieldIdent "type") ∨ IsMarked (fieldIdent "type")) := by
  have member : shape ∈ [shape, ball] := .head _
  obtain ⟨named, module, attributes⟩ := identifiers_legal shapes_review member
  obtain ⟨setter, field⟩ := attributes "type" (by decide)
  exact ⟨shapes_review, member, named.2 (by decide), module, setter, field.2 (by decide +kernel)⟩

/-- A class that has the name of the class around it. -/
def selfish : ClassTable where
  location := ⟨"tables", "SELF"⟩
  name := "Self"

/-- A class with an attribute that is named by a word kept for later. -/
def generous : ClassTable where
  location := ⟨"tables", "GENEROUS"⟩
  name := "Generous"
  attributes := [{ name := "gen", typeName := "string" }]

/-- The review has nothing to say about a class that no structure can be named after, nor about an
attribute that no field can be named after. -/
theorem selfish_unnamed :
    (Catalog.review [selfish] = .ok () ∧ Line.code 0 "pub struct Self \x7b" ∈ structLines selfish ∧
      isName selfish.name = false ∧ ¬IsPlain selfish.name) ∧
    Catalog.review [generous] = .ok () ∧ Line.code 1 "gen: Slot," ∈ structLines generous ∧
      ¬(IsPlain (fieldIdent "gen") ∨ IsMarked (fieldIdent "gen")) := by
  have reviewed : Catalog.review [generous] = .ok () := by
    rw [Catalog.review, Issues.result, if_pos (by decide +kernel)]
  have wellFormed := Catalog.wellFormed_of_review reviewed (.head _)
  have declared : "gen" ∈ generous.attributeNames := by decide
  have proper := wellFormed.attributeNames "gen" declared
  have same : Naming.methodName "gen" = "gen" := by decide +kernel
  have field : fieldIdent "gen" = "gen" := by
    rw [fieldIdent_eq proper, same, if_neg (by decide)]
  refine ⟨⟨?_, by simp [structLines, selfish, opening], by decide +kernel, ?_⟩, reviewed,
    by simp [structLines, generous, field], ?_⟩
  · rw [Catalog.review, Issues.result, if_pos (by decide +kernel)]
  · rintro ⟨_, named⟩
    exact named (by decide)
  · exact fun legal =>
      (fieldIdent_legal_iff proper (wellFormed.usable "gen" declared)).1 legal same

end Source

end SceneCatalog
