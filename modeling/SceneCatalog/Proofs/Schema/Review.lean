import SceneCatalog.Proofs.Schema.TableReview

/-
This file shows that the review of a catalog finds no fault exactly if the catalog is well-formed.
-/

namespace SceneCatalog

namespace Catalog

/-- The review of the modules is silent exactly when their names are distinct and new. -/
theorem isEmpty_reviewModules_iff {issues : Issues} {seen : List (String × String)}
    {tables : Catalog} :
    (reviewModules issues seen tables).isEmpty = true ↔
      issues.isEmpty = true ∧ (tables.map fun table => Naming.snakeName table.name).Nodup ∧
        ∀ table ∈ tables, seen.lookup (Naming.snakeName table.name) = none := by
  induction tables generalizing issues seen with
  | nil => simp [reviewModules]
  | cons table rest inductionHypothesis =>
      rw [reviewModules, inductionHypothesis, List.map_cons, List.nodup_cons, List.forall_mem_cons]
      have apart : (∀ other ∈ rest, List.lookup (Naming.snakeName other.name)
            ((Naming.snakeName table.name, table.name) :: seen) = none) ↔
          Naming.snakeName table.name ∉ rest.map (fun other => Naming.snakeName other.name) ∧
            ∀ other ∈ rest, seen.lookup (Naming.snakeName other.name) = none := by
        simp only [List.mem_map, not_exists, not_and, ← forall_and]
        apply forall₂_congr
        intro other _
        by_cases same : Naming.snakeName other.name = Naming.snakeName table.name
        · simp [same]
        · rw [List.lookup_cons, beq_eq_false_iff_ne.2 same]
          simp [same, eq_comm]
      rw [apart]
      cases seen.lookup (Naming.snakeName table.name) with
      | none =>
          simp only [true_and]
          tauto
      | some previous =>
          dsimp only
          split <;> simp [Issues.isEmpty_add]

/-- A place that the search finds holds a class of the name. -/
theorem named_of_lastIndex {tables : Catalog} {name : String} {place : Nat}
    (found : tables.lastIndex? name = some place) :
    ∃ table : ClassTable, tables[place]? = some table ∧ table.name = name := by
  obtain ⟨⟨table, index⟩, here, rfl⟩ := Option.map_eq_some_iff.1 found
  have member := List.mem_of_find?_eq_some here
  rw [List.mem_reverse, List.mem_zipIdx_iff_getElem?] at member
  exact ⟨table, member, by simpa using List.find?_some here⟩

/-- The last class of a name is the only one if no other has the name. -/
theorem lastIndex_eq_some_iff {tables : Catalog} (distinct : (tables.map (·.name)).Nodup)
    {name : String} {place : Nat} :
    tables.lastIndex? name = some place ↔
      ∃ table : ClassTable, tables[place]? = some table ∧ table.name = name := by
  refine ⟨named_of_lastIndex, ?_⟩
  rintro ⟨table, here, rfl⟩
  have entry : (table, place) ∈ tables.zipIdx.reverse := by
    rw [List.mem_reverse, List.mem_zipIdx_iff_getElem?]
    exact here
  cases found : tables.lastIndex? table.name with
  | none =>
      rw [lastIndex?, Option.map_eq_none_iff, List.find?_eq_none] at found
      exact absurd (beq_self_eq_true table.name) (found _ entry)
  | some other =>
      obtain ⟨same, there, named⟩ := named_of_lastIndex found
      have placeName : (tables.map (·.name))[place]? = some table.name := by simp [here]
      have otherName : (tables.map (·.name))[other]? = some table.name := by simp [there, named]
      have inside := (List.getElem?_eq_some_iff.1 otherName).1
      rw [(List.getElem?_inj inside distinct).1 (otherName.trans placeName.symm)]

/-- Classes with modules of their own have names of their own. -/
theorem WellFormed.distinct {tables : Catalog} (wellFormed : tables.WellFormed) :
    (tables.map (·.name)).Nodup := by
  have modules := wellFormed.modules
  rw [← Function.comp_def Naming.snakeName, ← List.map_map] at modules
  exact modules.of_map

/-- The class that the search finds for a superclass stands in front of the entry and takes
options. -/
def Extends (tables : Catalog) (entry : ClassTable × Nat) : Prop :=
  ∀ superclass, entry.1.superclass = some superclass →
    ∃ (place : Nat) (parent : ClassTable), place < entry.2 ∧
      tables.lastIndex? superclass = some place ∧ tables[place]? = some parent ∧
      parent.takesOptions = true

/-- The review of a superclass is silent exactly when the table extends what is there. -/
theorem isEmpty_reviewSuperclass_iff (tables : Catalog) (issues : Issues)
    (entry : ClassTable × Nat) :
    (tables.reviewSuperclass issues entry).isEmpty = true ↔
      issues.isEmpty = true ∧ tables.Extends entry := by
  obtain ⟨table, index⟩ := entry
  unfold reviewSuperclass Extends
  dsimp only
  cases table.superclass with
  | none => simp
  | some superclass =>
      simp only [Issues.add_eq]
      cases found : tables.lastIndex? superclass with
      | none => simp [found, Issues.isEmpty_addAt]
      | some place =>
          obtain ⟨parent, here, _⟩ := named_of_lastIndex found
          by_cases before : place < index
          · simp [found, here, before, Nat.not_le_of_lt before]
          · simp [found, before, Issues.isEmpty_addAt, Nat.le_of_not_lt before]

end Catalog

/-- No issue comes up exactly in well-formed catalogs. -/
theorem Catalog.isEmpty_reviewAll_iff (tables : Catalog) :
    tables.reviewAll.isEmpty = true ↔ tables.WellFormed := by
  have each (issues : Issues) (table : ClassTable) :
      (issues.merge table.name table.review).isEmpty = true ↔
        issues.isEmpty = true ∧ table.WellFormed := by
    rw [Issues.isEmpty_merge_iff, ClassTable.isEmpty_review_iff]
  rw [reviewAll, Issues.isEmpty_foldl_iff tables.isEmpty_reviewSuperclass_iff,
    isEmpty_reviewModules_iff, Issues.isEmpty_foldl_iff each]
  constructor
  · rintro ⟨⟨⟨_, tables⟩, modules, _⟩, superclasses⟩
    refine ⟨tables, modules, ?_⟩
    intro index table superclass here extended
    obtain ⟨place, parent, before, found, there, takesOptions⟩ :=
      superclasses (table, index) (List.mem_zipIdx_iff_getElem?.2 here) superclass extended
    obtain ⟨same, again, named⟩ := named_of_lastIndex found
    obtain rfl := Option.some.inj (there.symm.trans again)
    exact ⟨place, parent, before, there, named, takesOptions⟩
  · intro wellFormed
    have distinct := wellFormed.distinct
    refine ⟨⟨⟨rfl, wellFormed.tables⟩, wellFormed.modules, by simp⟩, ?_⟩
    rintro ⟨table, index⟩ member superclass extended
    obtain ⟨place, parent, before, there, named, takesOptions⟩ := wellFormed.superclasses index
      table superclass (List.mem_zipIdx_iff_getElem?.1 member) extended
    have found : tables.lastIndex? superclass = some place :=
      (lastIndex_eq_some_iff distinct).2 ⟨parent, there, named⟩
    exact ⟨place, parent, before, found, there, takesOptions⟩

/-- An accepted catalog is well formed. -/
theorem Catalog.WellFormed.of_review {tables : Catalog} (silent : tables.review = .ok ()) :
    tables.WellFormed :=
  tables.isEmpty_reviewAll_iff.1 (Issues.result_ok_iff.1 silent)

/-- The review finds nothing wrong exactly in well-formed catalogs. -/
theorem Catalog.review_ok_iff (tables : Catalog) : tables.review = .ok () ↔ tables.WellFormed := by
  rw [review, Issues.result_ok_iff, isEmpty_reviewAll_iff]

end SceneCatalog
