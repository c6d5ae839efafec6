import SceneCatalog.Proofs.Source.Members

/-
This file reads the bodies of generated methods back: which field a method is about, and what it
does with it.
-/

namespace SceneCatalog.Source

open Text

/-- The part of a text between a beginning and an ending. -/
def between? (start finish text : String) : Option String :=
  let rest := text.toList.drop start.length
  let middle := rest.take (rest.length - finish.length)
  if start.toList ++ middle ++ finish.toList = text.toList then some (String.ofList middle)
  else none

/-- What was written between the two texts is read back. -/
@[simp]
theorem between_append (start middle finish : String) :
    between? start finish (start ++ middle ++ finish) = some middle := by
  have behind : (start ++ middle ++ finish).toList.drop start.length =
      middle.toList ++ finish.toList := by
    rw [String.toList_append, String.toList_append, List.append_assoc, ← String.length_toList,
      List.drop_left]
  have cut : (middle.toList ++ finish.toList).take
      ((middle.toList ++ finish.toList).length - finish.length) = middle.toList := by
    rw [List.length_append, ← String.length_toList (s := finish), Nat.add_sub_cancel,
      List.take_left]
  rw [between?, behind, cut, String.toList_append, String.toList_append, if_pos rfl,
    String.ofList_toList]

/-- The number that is written in digits. -/
def number? (text : String) : Option Nat :=
  if !text.toList.isEmpty && text.toList.all Char.isDigit then
    some (Nat.ofDigitChars 10 text.toList 0)
  else none

/-- A number is read back from its digits. -/
theorem number_toString (number : Nat) : number? (toString number) = some number := by
  have digits : (Nat.toDigits 10 number).all Char.isDigit = true :=
    List.all_eq_true.2 fun c member =>
      Nat.isDigit_of_mem_toDigits (b := 10) (by decide) (by decide) member
  have filled : (Nat.toDigits 10 number).isEmpty = false :=
    List.isEmpty_eq_false_iff.2 Nat.toDigits_ne_nil
  change number? number.repr = some number
  rw [number?, Nat.toList_repr, digits, filled, Bool.not_false, Bool.and_true, if_pos rfl,
    Nat.ofDigitChars_toDigits (by decide) (by decide)]

/-- A line of code that is no comment. -/
def statement? : Line → Option String
  | .code _ text => if "//".toList.isPrefixOf text.toList then none else some text
  | _ => none

/-- Code that does not begin with a slash is no comment, whatever follows its beginning. -/
theorem statement_append (stops : Nat) (start : String) {c : Char} {tail : List Char}
    (begins : start.toList = c :: tail) (other : c ≠ '/') (middle finish : String) :
    statement? (.code stops (start ++ middle ++ finish)) = some (start ++ middle ++ finish) := by
  have spelled : "//".toList = ['/', '/'] := rfl
  have slash : ('/' == c) = false := beq_eq_false_iff_ne.2 other.symm
  rw [statement?, String.toList_append, String.toList_append, begins, spelled, List.cons_append,
    List.cons_append, List.isPrefixOf_cons_cons, slash, Bool.false_and, if_neg Bool.false_ne_true]

/-- What the body of a setter does: it refuses to write, it stores what a rule of the table makes of
the slot, or it stores the slot as it is. -/
inductive Setter where
  | refuses (name : String)
  | checks (index : Nat) (field : String)
  | takes (field : String)
  deriving Repr, DecidableEq

/-- What the body of a getter does: it copies a field, or looks at the slot in a field by arms. -/
inductive Getter where
  | copies (field : String)
  | looks (field : String) (arms : List String)
  deriving Repr, DecidableEq

def setter? : List String → Option Setter
  | [refusal] => (between? "Err(Error::read_only(Self::NAME, \"" "\"))" refusal).map .refuses
  | [store, done] =>
    if done = "Ok(())" then (between? "self." " = val.into();" store).map .takes else none
  | [rule, store, done] => do
    let place ← between? "let rule = &Self::descriptor().mutable[" "];" rule
    let index ← number? place
    let field ← between? "self." " = rule.accept(Self::NAME, val.into())?;" store
    if done = "Ok(())" then some (.checks index field) else none
  | _ => none

def getter? : List String → Option Getter
  | [] => none
  | [copy] => (between? "self." ".clone()" copy).map .copies
  | head :: arms =>
    if arms.getLast? = some closing then
      (between? "match &self." opening head).map fun field => .looks field arms.dropLast
    else none

/-- A match on a field is read back with its arms. -/
theorem getter_looks (field : String) {arms : List String} (filled : arms ≠ []) :
    getter? (("match &self." ++ field ++ opening) :: (arms ++ [closing])) =
      some (.looks field arms) := by
  obtain ⟨arm, rest, rfl⟩ := List.exists_cons_of_ne_nil filled
  rw [List.cons_append, getter?, ← List.cons_append, if_pos List.getLast?_concat, between_append,
    Option.map_some, List.dropLast_concat]
  exact List.cons_ne_nil _ _

/-- A method ends in front of the first line one stop inside its implementation. -/
def isBody : Line → Bool
  | .code stops _ => stops != 1
  | _ => true

/-- The statements of a method among the lines of a class. -/
def statementsOf (method : String) (lines : List Line) : List String :=
  (((lines.dropWhile fun line => method? line != some method).drop 1).takeWhile isBody).filterMap
    statement?

/-- The statements of a method are those of the body behind its head. -/
theorem statementsOf_eq {method : String} {front back body : List Line} {head next : Line}
    (fresh : method ∉ front.filterMap method?) (named : method? head = some method)
    (inside : ∀ line ∈ body, isBody line = true) (outside : isBody next = false) :
    statementsOf method (front ++ head :: (body ++ next :: back)) = body.filterMap statement? := by
  have passed : ∀ line ∈ front, (method? line != some method) = true := by
    intro line member
    rw [bne_iff_ne]
    exact fun same => fresh (List.mem_filterMap.2 ⟨line, member, same⟩)
  rw [statementsOf, List.dropWhile_append_of_pos passed,
    List.dropWhile_cons_of_neg (by simp [named]), List.drop_one, List.tail_cons,
    List.takeWhile_append_of_pos inside, List.takeWhile_cons_of_neg (by simp [outside]),
    List.append_nil]

/-- Methods whose names are all different are found wherever they stand. -/
theorem statementsOf_within {method : String} {lines body : List Line} {head next : Line}
    (distinct : (lines.filterMap method?).Nodup) (part : head :: (body ++ [next]) <:+: lines)
    (named : method? head = some method) (inside : ∀ line ∈ body, isBody line = true)
    (outside : isBody next = false) : statementsOf method lines = body.filterMap statement? := by
  obtain ⟨front, back, rfl⟩ := part
  have shape : front ++ head :: (body ++ [next]) ++ back =
      front ++ head :: (body ++ next :: back) := by
    simp only [List.append_assoc, List.cons_append, List.nil_append]
  rw [shape] at distinct ⊢
  refine statementsOf_eq (fun earlier => ?_) named inside outside
  rw [List.filterMap_append, List.filterMap_cons_some named, List.nodup_append] at distinct
  exact distinct.2.2 method earlier method (.head _) rfl

/-- The arms by which a getter looks at a slot. -/
def slotArms : List String := [
  "Slot::Deferred(f) => Some(f()),",
  "Slot::Raw(expr) => Some(Value::Sdl(expr.clone())),",
  "Slot::Literal(val) => Some(val.clone()),",
  "Slot::Unset => None,"]

/-- What the setter of an attribute does, whose rule stands at a place in its table. -/
def storing (index : Nat) (rule : Attribute) : Setter :=
  if rule.validator.isSome then .checks index (fieldIdent rule.name)
  else .takes (fieldIdent rule.name)

/-- The lines that store a value are read back as the rule and the place they were made for. -/
theorem setter_storeLines (index : Nat) (rule : Attribute) :
    setter? ((storeLines index rule ++ [Line.blank, .code 2 "Ok(())"]).filterMap statement?) =
      some (storing index rule) := by
  have done : statement? (.code 2 "Ok(())") = some "Ok(())" := by decide
  have target := statement_append 2 "self." rfl (by decide) (fieldIdent rule.name)
  rw [storeLines, storing]
  split
  · have place := statement_append 2 "let rule = &Self::descriptor().mutable[" rfl
      (by decide) (toString index) "];"
    rw [List.cons_append, List.cons_append, List.nil_append, List.filterMap_cons_some place,
      List.filterMap_cons_some (target _), List.filterMap_cons_none rfl,
      List.filterMap_cons_some done, List.filterMap_nil, setter?, between_append]
    simp only [Option.bind_eq_bind, Option.bind_some, number_toString, between_append, if_true]
  · have remark (text : String) : statement? (.code 2 ("// FIXME: " ++ text ++
        " has no validator; every value is accepted.")) = none := by
      rw [statement?, String.toList_append, String.toList_append]
      rfl
    rw [List.cons_append, List.cons_append, List.nil_append, List.filterMap_cons_none (remark _),
      List.filterMap_cons_some (target _), List.filterMap_cons_none rfl,
      List.filterMap_cons_some done, List.filterMap_nil, setter?, if_pos rfl, between_append,
      Option.map_some]

/-- A getter and a setter as they stand among the methods of a class. -/
def accessors (name argument : String) (reading writing : List Line) : List Line :=
  [.rule 1 .single, .blank, .code 1 "#[must_use]"] ++
    .code 1 ("pub fn " ++ fieldIdent name ++ "(&self) -> Option<Value>" ++ opening) ::
      (reading ++ .code 1 closing :: .blank :: setterHead name argument ::
        (writing ++ [.code 1 closing]))

/-- The methods of a constant copy it and refuse to change it. -/
theorem immutableLines_eq (immutable : Immutable) :
    immutableLines immutable = accessors immutable.name "_val"
      [.code 2 ("self." ++ fieldIdent immutable.name ++ ".clone()")]
      [.code 2 ("Err(Error::read_only(Self::NAME, \"" ++ immutable.name ++ "\"))")] := rfl

/-- How a getter looks at the slot in a field. -/
def looking (name : String) : List Line :=
  .code 2 ("match &self." ++ fieldIdent name ++ opening) ::
    (slotArms.map (Line.code 3) ++ [.code 2 closing])

/-- The methods of an attribute look into its field and store there. -/
theorem attributeLines_eq (rule : Attribute) (index : Nat) :
    attributeLines (rule, index) = accessors rule.name "val" (looking rule.name)
      (storeLines index rule ++ [.blank, .code 2 "Ok(())"]) := by
  rw [attributeLines, accessors, List.append_assoc (storeLines index rule)]
  simp only [List.append_assoc]
  rfl

section Methods

variable {table : ClassTable} {methods : List Line}

/-- The accessors of each attribute stand together among all methods. -/
theorem infix_methodLines (made : methodLines table = .ok methods) {part : List Line}
    (given : (∃ immutable ∈ table.immutables, part = immutableLines immutable) ∨
      ∃ index rule, table.attributes[index]? = some rule ∧ part = attributeLines (rule, index)) :
    part <:+: methods := by
  obtain ⟨constructor, _, rest⟩ := ok_of_bind made
  obtain rfl := Except.ok.inj rest
  have among : part ∈ constructor :: table.immutables.map immutableLines ++
      table.attributes.zipIdx.map attributeLines := by
    rw [List.cons_append, List.mem_cons, List.mem_append, List.mem_map, List.mem_map]
    rcases given with ⟨immutable, member, rfl⟩ | ⟨index, rule, here, rfl⟩
    · exact .inr (.inl ⟨immutable, member, rfl⟩)
    · exact .inr (.inr ⟨(rule, index), List.mk_mem_zipIdx_iff_getElem?.2 here, rfl⟩)
  exact (infix_spaced among).trans (List.infix_append _ _ _)

variable (wellFormed : table.WellFormed) (made : methodLines table = .ok methods)
include wellFormed made

/-- The methods of an attribute are found by their names. -/
theorem statementsOf_accessors {name argument : String}
    (proper : Naming.Proper Char.isLower name) {reading writing : List Line}
    (part : accessors name argument reading writing <:+: methods)
    (readingInside : ∀ line ∈ reading, isBody line = true)
    (writingInside : ∀ line ∈ writing, isBody line = true) :
    statementsOf (fieldIdent name) methods = reading.filterMap statement? ∧
      statementsOf (setterIdent name) methods = writing.filterMap statement? := by
  have distinct : (methods.filterMap method?).Nodup := (apart wellFormed made).methods.of_map _
  have getter : .code 1 ("pub fn " ++ fieldIdent name ++ "(&self) -> Option<Value>" ++ opening) ::
      (reading ++ [.code 1 closing]) <:+: accessors name argument reading writing := by
    refine ⟨[.rule 1 .single, .blank, .code 1 "#[must_use]"],
      .blank :: setterHead name argument :: (writing ++ [.code 1 closing]), ?_⟩
    simp only [accessors, List.append_assoc, List.cons_append, List.nil_append]
  have setter : setterHead name argument :: (writing ++ [.code 1 closing]) <:+:
      accessors name argument reading writing := by
    refine ⟨[.rule 1 .single, .blank, .code 1 "#[must_use]",
      .code 1 ("pub fn " ++ fieldIdent name ++ "(&self) -> Option<Value>" ++ opening)] ++
        (reading ++ [.code 1 closing, .blank]), [], ?_⟩
    simp only [accessors, List.append_assoc, List.cons_append, List.nil_append, List.append_nil]
  exact ⟨statementsOf_within distinct (getter.trans part) (method_getterLine proper)
      readingInside rfl,
    statementsOf_within distinct (setter.trans part) (method_setterHead proper argument)
      writingInside rfl⟩

/-- The methods of a constant are read back from all methods of the class. -/
theorem statementsOf_immutable {immutable : Immutable} (member : immutable ∈ table.immutables) :
    getter? (statementsOf (fieldIdent immutable.name) methods) =
        some (.copies (fieldIdent immutable.name)) ∧
      setter? (statementsOf (setterIdent immutable.name) methods) =
        some (.refuses immutable.name) := by
  have proper := wellFormed.attributeNames _ (ClassTable.immutable_mem_names member)
  have copy := statement_append 2 "self." rfl (by decide) (fieldIdent immutable.name)
    ".clone()"
  have refusal := statement_append 2 "Err(Error::read_only(Self::NAME, \"" rfl
    (by decide) immutable.name "\"))"
  have part := infix_methodLines made (.inl ⟨immutable, member, rfl⟩)
  rw [immutableLines_eq] at part
  obtain ⟨reading, writing⟩ := statementsOf_accessors wellFormed made proper part
    (List.forall_mem_singleton.2 rfl) (List.forall_mem_singleton.2 rfl)
  rw [reading, writing, List.filterMap_cons_some copy, List.filterMap_cons_some refusal,
    List.filterMap_nil, getter?, setter?, between_append, between_append]
  exact ⟨rfl, rfl⟩

/-- The methods of an attribute are read back with its rule and the index of its descriptor. -/
theorem statementsOf_attribute {index : Nat} {rule : Attribute}
    (here : table.attributes[index]? = some rule) :
    getter? (statementsOf (fieldIdent rule.name) methods) =
        some (.looks (fieldIdent rule.name) slotArms) ∧
      setter? (statementsOf (setterIdent rule.name) methods) = some (storing index rule) := by
  have member := List.mem_of_getElem? here
  have proper := wellFormed.attributeNames _ (ClassTable.attribute_mem_names member)
  have head := statement_append 2 "match &self." rfl (by decide) (fieldIdent rule.name)
    opening
  have arms : (slotArms.map (Line.code 3) ++ [Line.code 2 closing]).filterMap statement? =
      slotArms ++ [closing] := by
    decide
  have stores : ∀ line ∈ storeLines index rule ++ [Line.blank, .code 2 "Ok(())"],
      isBody line = true := by
    rw [storeLines]
    split <;> simp [isBody]
  have part := infix_methodLines made (.inr ⟨index, rule, here, rfl⟩)
  rw [attributeLines_eq] at part
  obtain ⟨reading, writing⟩ := statementsOf_accessors wellFormed made proper part
    (by simp [looking, slotArms, isBody]) stores
  rw [reading, writing, setter_storeLines, looking, List.filterMap_cons_some head, arms,
    getter_looks _ (by decide)]
  exact ⟨rfl, rfl⟩

end Methods

end SceneCatalog.Source
