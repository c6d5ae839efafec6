import SceneCatalog.Proofs.Source.Members
import SceneCatalog.Proofs.Source.Outline

/-
This file says which rules are comments, and in which styles all rules of a class are.
-/

namespace SceneCatalog.Source

open Text

/-- There is nothing, or a comment begins. -/
def IsRemark (text : String) : Prop := text = "" ∨ "//".toList <+: text.toList

/-- A line that is a rule is a comment behind its margin, or the margin alone. -/
def Line.Remarked (style : Style) (line : Line) : Prop :=
  ∀ stops kind, line = .rule stops kind →
    ∃ drawn, line.write style = .ok (style.tab stops ++ drawn) ∧ IsRemark drawn

/-- The stops and the kind of a line that is a rule. -/
def divider? : Line → Option (Nat × Rule)
  | .rule stops kind => some (stops, kind)
  | _ => none

/-- A rule is cut to the room that its margin leaves, and one slash is no comment. -/
theorem Rule.draw_cut (unit : String) (stops : Nat) (kind : Rule) (width : Nat) :
    ∃ drawn, kind.draw unit stops width = indent unit stops ++ drawn ∧
      drawn.length = min (width - (indent unit stops).length) 132 ∧
      (IsRemark drawn ↔ width ≠ (indent unit stops).length + 1) := by
  let room := width - (indent unit stops).length
  have spelled : (String.ofList (kind.template.take room)).toList = kind.template.take room :=
    String.toList_ofList
  have long : kind.template.length = 132 := by cases kind <;> rfl
  have length : (String.ofList (kind.template.take room)).length = min room 132 := by
    rw [← String.length_toList, spelled, List.length_take, long]
  have empty : String.ofList (kind.template.take room) = "" ↔ room = 0 := by
    rw [← String.toList_eq_nil_iff, spelled, List.take_eq_nil_iff]
    exact or_iff_left (List.cons_ne_nil _ _)
  refine ⟨String.ofList (kind.template.take room), rfl, length, ?_⟩
  rw [IsRemark, empty, spelled, kind.slashes_iff]
  omega

/-- All rules among lines are comments unless the width of one leaves room for one slash. -/
theorem forall_remarked_iff {style : Style} {lines : List Line} :
    (∀ line ∈ lines, line.Remarked style) ↔
      ∀ divider ∈ lines.filterMap divider?,
        style.dividerWidth ≠ (style.tab divider.1).length + 1 := by
  rw [List.forall_mem_filterMap]
  refine forall₂_congr fun line _ => ?_
  cases line with
  | rule stops kind =>
      obtain ⟨drawn, cut, remark⟩ : ∃ drawn,
          (Line.rule stops kind).write style = .ok (style.tab stops ++ drawn) ∧
          (IsRemark drawn ↔ style.dividerWidth ≠ (style.tab stops).length + 1) := by
        obtain ⟨drawn, cut, -, remark⟩ :=
          kind.draw_cut style.indent (style.level stops) style.dividerWidth
        exact ⟨drawn, congrArg Except.ok cut, remark⟩
      constructor
      · rintro remarked _ ⟨⟩
        obtain ⟨other, written, isRemark⟩ := remarked stops kind rfl
        rw [cut, Except.ok.injEq, String.append_right_inj] at written
        exact remark.1 (written ▸ isRemark)
      · rintro wide _ _ ⟨⟩
        have room := wide (stops, kind) rfl
        exact ⟨drawn, cut, remark.2 room⟩
  | _ =>
      constructor
      · rintro _ _ ⟨⟩
      · rintro _ _ _ ⟨⟩

theorem dividers_structLines (table : ClassTable) :
    (structLines table).filterMap divider? = [] := by
  rw [List.filterMap_eq_nil_iff]
  simp only [structLines, List.forall_mem_append, List.forall_mem_cons, List.forall_mem_map]
  simp [divider?]

theorem dividers_traitLines (table : ClassTable) : (traitLines table).filterMap divider? = [] := by
  rw [List.filterMap_eq_nil_iff]
  simp only [traitLines, List.forall_mem_append, List.forall_mem_cons, List.forall_mem_map]
  simp [divider?]

theorem dividers_derefLines (name superclass : String) :
    (derefLines name superclass).flatMap (List.filterMap divider?) = [] := rfl

/-- The methods of an attribute stand below one single rule. -/
theorem dividers_attributeLines (entry : Attribute × Nat) :
    (attributeLines entry).filterMap divider? = [(1, .single)] := by
  obtain ⟨declared, index⟩ := entry
  rw [attributeLines, storeLines]
  split <;> rfl

/-- There is one single rule for each name that the class lists. -/
theorem dividers_methodLines {table : ClassTable} {lines : List Line}
    (made : methodLines table = .ok lines) :
    lines.filterMap divider? = table.attributeNames.map fun _ => (1, .single) := by
  obtain ⟨constructor, constructed, found⟩ := filterMap_methodLines rfl (fun _ => rfl)
    (fun _ => [(1, Rule.single)]) (fun _ _ => rfl)
    (fun rule _ index => dividers_attributeLines (rule, index)) made
  rw [found, filterMap_constructorLines rfl (fun _ _ => rfl) (fun _ _ => rfl) constructed,
    List.filterMap_cons_none rfl, List.filterMap_cons_none rfl, List.filterMap_nil,
    List.nil_append, ← List.flatMap_pure_eq_map]
  rfl

/-- The name of a class stands between two rules, and a rule stands above the methods of each
attribute. -/
theorem dividers_classLines {table : ClassTable} {lines : List Line}
    (made : classLines table = .ok lines) :
    lines.filterMap divider? = [(0, .double), (0, .double)] ++
      table.attributeNames.map fun _ => (1, .single) := by
  obtain ⟨methods, methodsMade, rest⟩ := ok_of_bind made
  obtain rfl := Except.ok.inj rest
  have header : (headerLines table).filterMap divider? = [(0, .double), (0, .double)] := rfl
  have deref : (table.superclass.toList.flatMap (derefLines table.name)).flatMap
      (List.filterMap divider?) = [] := by
    rw [List.flatMap_assoc, List.flatMap_eq_nil_iff]
    exact fun superclass _ => dividers_derefLines table.name superclass
  rw [filterMap_spaced rfl, List.flatMap_append, deref, List.flatMap_cons, List.flatMap_cons,
    List.flatMap_cons, List.flatMap_singleton, header, dividers_structLines,
    dividers_methodLines methodsMade, dividers_traitLines, List.nil_append, List.append_nil,
    List.append_nil]

/-- A rule ends in the column of the width if its template is long enough, and is a comment or
nothing unless just one slash fits behind its margin. The rules of a class stand behind the margin
of the class and, if it has attributes, behind that of its members. They are written with the rest
of the class if all its margins can be. -/
theorem dividers_remark_iff {table : ClassTable} (literal : Literal table) :
    (∀ unit stops kind width, ∃ drawn,
      Rule.draw unit stops kind width = indent unit stops ++ drawn ∧
      drawn.length = min (width - (indent unit stops).length) 132 ∧
      (IsRemark drawn ↔ width ≠ (indent unit stops).length + 1)) ∧
    ∃ lines, classLines table = .ok lines ∧ ∀ style,
      (∃ texts, lines.mapM (Line.write style) = .ok texts ∧
        (classText table style = .ok ("\n".intercalate texts) ↔ style.holds 3 = true)) ∧
      ((∀ line ∈ lines, line.Remarked style) ↔
        style.dividerWidth ≠ (style.tab 0).length + 1 ∧
        (table.attributeNames ≠ [] → style.dividerWidth ≠ (style.tab 1).length + 1)) := by
  obtain ⟨lines, made, regular⟩ := classLines_regular literal
  refine ⟨fun unit stops kind width => kind.draw_cut unit stops width, lines, made,
    fun style => ⟨?_, ?_⟩⟩
  · obtain ⟨texts, each⟩ := mapM_isOk_iff.2 fun line member => (regular line member).write style
    refine ⟨texts, each, fun written => (classText_ok_iff literal).1 ⟨_, written⟩, fun holds => ?_⟩
    obtain ⟨text, written⟩ := writeLines_regular regular holds
    obtain ⟨others, alsoEach, rfl⟩ := writeLines_ok written
    obtain rfl := Except.ok.inj (each.symm.trans alsoEach)
    rw [classText, made]
    exact written
  · rw [forall_remarked_iff, dividers_classLines made]
    simp only [List.forall_mem_append, List.forall_mem_cons, List.forall_mem_map]
    constructor
    · rintro ⟨⟨outer, -⟩, inner⟩
      refine ⟨outer, fun named => ?_⟩
      obtain ⟨name, member⟩ := List.exists_mem_of_ne_nil _ named
      exact inner name member
    · rintro ⟨outer, inner⟩
      exact ⟨⟨outer, outer, List.forall_mem_nil _⟩,
        fun name member => inner (List.ne_nil_of_mem member)⟩

theorem dividers_remark_iff_ball :
    Literal ball ∧ ∃ lines, classLines ball = .ok lines ∧
      (∀ line ∈ lines, line.Remarked .standard) ∧
      ¬∀ line ∈ lines, line.Remarked { Style.standard with dividerWidth := 5 } := by
  have literal : Literal ball := literal_of_review shapes_review (.tail _ (.head _))
  obtain ⟨-, lines, made, rules⟩ := dividers_remark_iff literal
  refine ⟨literal, lines, made, (rules _).2.2 (by decide), fun remarked => ?_⟩
  exact ((rules _).2.1 remarked).2 (by decide) (by decide)

/-- Behind blanks there may be room for one slash. -/
theorem narrow_rule_bare :
    ¬∀ unit stops kind width, IsMargin unit.toList → ∃ drawn,
      Rule.draw unit stops kind width = indent unit stops ++ drawn ∧ IsRemark drawn := by
  intro remarks
  obtain ⟨drawn, cut, remark⟩ := remarks "    " 1 .double 5 (by simp [IsMargin])
  obtain ⟨slash, same, -, isRemark⟩ := Rule.draw_cut "    " 1 .double 5
  rw [cut, String.append_right_inj] at same
  exact isRemark.1 (same ▸ remark) (by decide)

end SceneCatalog.Source
