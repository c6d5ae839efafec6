import SceneCatalog.Proofs.Object.Assignment
import SceneCatalog.Proofs.Source.Generation

/-
This file states for which classes the search for missing attributes covers the whole line of
ancestors. It looks at the attributes that the class requires itself, and at no others.
-/

namespace SceneCatalog

namespace Class

/-- An object without an attribute that its class or an ancestor requires is found to be
incomplete. -/
def Covers (cls : Class) (object : Object) : Prop :=
  ∀ table ∈ cls.tables, ∀ rule ∈ table.required, object.value? rule.name = none →
    ∃ name, cls.own.missingRequired? object = some name ∧
      cls.own.require object = .error (.missingRequired cls.name name)

/-- The attribute is a constant other than null. -/
def Fixes (cls : Class) (name : String) : Prop :=
  ∃ table constant, cls.declaration? name = some (table, .immutable) ∧
    table.immutable? name = some constant ∧ constant.value.toValue?.isSome = true

/-- The class requires itself what its ancestors require, or has a constant for it. -/
def Repeats (cls : Class) : Prop :=
  ∀ base ∈ cls.ancestors, ∀ rule ∈ base.required,
    (∃ own ∈ cls.own.required, own.name = rule.name) ∨ cls.Fixes rule.name

variable {cls : Class} {object : Object}

/-- Nothing is found missing exactly when every attribute the table itself requires has a value. -/
theorem missingRequired_eq_none_iff :
    cls.own.missingRequired? object = none ↔
      ∀ rule ∈ cls.own.required, (object.value? rule.name).isSome = true := by
  simp [ClassTable.missingRequired?, Option.isSome_iff_ne_none]

/-- The search finds what the class requires itself. -/
theorem require_of_missing {rule : Attribute} (member : rule ∈ cls.own.required)
    (missing : object.value? rule.name = none) :
    ∃ name, cls.own.missingRequired? object = some name ∧
      cls.own.require object = .error (.missingRequired cls.name name) := by
  cases found : cls.own.missingRequired? object with
  | none =>
      have set := missingRequired_eq_none_iff.1 found rule member
      rw [missing] at set
      contradiction
  | some name => exact ⟨name, rfl, by rw [ClassTable.require, found, Class.name]⟩

/-- A name that a constant of the line fixes always has a value. -/
theorem value_of_fixes (fits : cls.Fits object) {name : String} (fixed : cls.Fixes name) :
    (object.value? name).isSome = true := by
  obtain ⟨table, constant, declared, found, valued⟩ := fixed
  rw [Object.value?, Object.get, read_constant fits declared found]
  exact valued

/-- A class that requires again what its ancestors require misses nothing. -/
theorem covers_of_repeats (repeats : cls.Repeats) (fits : cls.Fits object) :
    cls.Covers object := by
  intro table inLine rule member missing
  rcases List.mem_cons.1 inLine with rfl | ancestor
  · exact require_of_missing member missing
  · rcases repeats table ancestor rule member with ⟨own, ownMember, same⟩ | fixed
    · exact require_of_missing ownMember (same ▸ missing)
    · have valued := value_of_fixes fits fixed
      rw [missing] at valued
      contradiction

/-- An attribute that is no constant other than null can be left without a value. -/
theorem value_after_unset (fits : cls.Fits object) {name : String}
    (declared : (cls.declaration? name).isSome = true) (loose : ¬cls.Fixes name) :
    (cls.after object (.assign name .unset)).value? name = none := by
  obtain ⟨⟨table, found⟩, declared⟩ := Option.isSome_iff_exists.1 declared
  rw [after, Call.perform, assigning_eq fits, assign, accept, declared]
  cases found with
  | immutable =>
      obtain ⟨constant, member, named⟩ :=
        ClassTable.declaration_immutable_iff.1 (ClassTable.nearest_mem declared).2
      obtain ⟨constant, found⟩ := Option.isSome_iff_exists.1
        ((table.isSome_immutable_iff name).2 ⟨constant, member, named⟩)
      have null : constant.value.toValue? = none := by
        by_contra valued
        exact loose ⟨table, constant, declared, found, Option.isSome_iff_ne_none.2 valued⟩
      show object.value? name = none
      rw [Object.value?, Object.get, read_constant fits declared found, null]
  | mutable rule =>
      show (object.put name .unset).value? name = none
      rw [Object.value?, Object.get, Object.levels_put, read_putInFirst fits declared]
      rfl

/-- Every mutable attribute takes code. -/
theorem value_after_code (fits : cls.Fits object) {name : String} {table : ClassTable}
    {rule : Attribute} (declared : cls.declaration? name = some (table, .mutable rule)) :
    (cls.after object (.assign name (.raw ""))).value? name = some (.code "") := by
  rw [after, Call.perform, assigning_eq fits, assign, accept, declared]
  show (object.put name (.raw "")).value? name = _
  rw [Object.value?, Object.get, Object.levels_put, read_putInFirst fits declared]
  rfl

/-- Code is given to the attributes one by one. -/
def filled (cls : Class) (object : Object) (names : List String) : Object :=
  cls.run object (names.map fun name => .assign name (.raw ""))

/-- The attributes of the names have values, and no other attribute has lost its value. -/
theorem isSome_filled (fits : cls.Fits object) {names : List String}
    (free : ∀ name ∈ names, ∃ table rule, cls.declaration? name = some (table, .mutable rule))
    {name : String} (set : name ∈ names ∨ (object.value? name).isSome = true) :
    ((cls.filled object names).value? name).isSome = true := by
  induction names generalizing object with
  | nil => exact set.resolve_left List.not_mem_nil
  | cons first rest inductionHypothesis =>
      obtain ⟨⟨table, rule, declared⟩, later⟩ := List.forall_mem_cons.1 free
      apply inductionHypothesis (Level.Fits.invariant.perform (.assign first (.raw "")) fits) later
      by_cases here : name = first
      · rw [here, value_after_code fits declared]
        exact .inr rfl
      · rw [Object.value_of_get (get_after_assign fits first (.raw "") here)]
        exact set.imp_left fun member => (List.mem_cons.1 member).resolve_left here

/-- Calls that leave an object with all that its class requires itself, but without an attribute
that an ancestor requires. -/
theorem exists_uncovered (fits : cls.Fits object) (distinct : cls.own.attributeNames.Nodup)
    (loose : ¬cls.Repeats) : ∃ calls, ¬cls.Covers (cls.run object calls) := by
  simp only [Repeats, not_forall, not_or, not_exists, not_and] at loose
  obtain ⟨base, ancestor, rule, member, alone, free⟩ := loose
  have ownFree : ∀ name ∈ cls.own.required.map (·.name),
      ∃ table rule, cls.declaration? name = some (table, .mutable rule) := by
    intro name listed
    obtain ⟨own, ownMember, rfl⟩ := List.mem_map.1 listed
    exact ⟨_, own, declaration_own
      (ClassTable.declaration_of_mem distinct (List.mem_filter.1 ownMember).1)⟩
  have inherited : (cls.declaration? rule.name).isSome = true := by
    by_contra undeclared
    rw [Option.not_isSome_iff_eq_none, declaration_eq, ClassTable.nearest_none_iff] at undeclared
    exact undeclared base (.tail _ ancestor) (List.mem_append_right _
      (List.mem_map_of_mem (List.mem_filter.1 member).1))
  have filledFits : cls.Fits (cls.filled object (cls.own.required.map (·.name))) :=
    Level.Fits.invariant.run _ fits
  have complete : cls.own.missingRequired? (cls.after (cls.filled object
      (cls.own.required.map (·.name))) (.assign rule.name .unset)) = none := by
    rw [missingRequired_eq_none_iff]
    intro own ownMember
    rw [Object.value_of_get
      (get_after_assign filledFits rule.name .unset (alone own ownMember))]
    exact isSome_filled fits ownFree (.inl (List.mem_map_of_mem ownMember))
  refine ⟨(cls.own.required.map (·.name)).map (fun name => .assign name (.raw "")) ++
    [.assign rule.name .unset], fun covers => ?_⟩
  rw [run_append] at covers
  obtain ⟨name, found, _⟩ := covers base (.tail _ ancestor) rule member
    (value_after_unset filledFits inherited free)
  exact Option.some_ne_none name (found.symm.trans complete)

/-- The search covers the whole line exactly where the class repeats what its ancestors require. -/
theorem covers_iff_repeats {tables : Catalog} (silent : tables.review = .ok ()) {className : String}
    (known : tables.class? className = some cls) (reached : cls.Reachable object) :
    (∀ object, cls.Reachable object → cls.Covers object) ↔ cls.Repeats := by
  constructor
  · intro covers
    by_contra loose
    have wellFormed := Catalog.wellFormed_of_review silent
      ((Catalog.class_known known).2.2 cls.own (.head _))
    obtain ⟨calls, uncovered⟩ := exists_uncovered reached.fits wellFormed.distinct loose
    exact uncovered (covers _ (reached.run calls))
  · intro repeats object reached
    exact covers_of_repeats repeats reached.fits

end Class

/-- The search covers the lines of the catalog, where only classes without descendants require
anything. -/
theorem catalog_covers {name : String} {cls : Class} (known : catalog.class? name = some cls)
    {object : Object} (fits : cls.Fits object) : cls.Covers object := by
  have checked : (catalog.all fun table => (catalog.class? table.name).all fun cls =>
      cls.ancestors.all fun base => base.required.isEmpty) = true := by
    decide
  apply Class.covers_of_repeats ?_ fits
  intro base ancestor rule member
  have nothing := List.all_eq_true.1 (Catalog.class_all checked known) base ancestor
  rw [List.isEmpty_iff.1 nothing] at member
  exact absurd member List.not_mem_nil

/-- A class that requires an attribute. -/
def figure : ClassTable where
  location := ⟨"tables", "FIGURE"⟩
  name := "Figure"
  attributes := [{ name := "size", typeName := "float", required := true }]

/-- A class that extends it and requires nothing itself. -/
def disk : ClassTable where
  location := ⟨"tables", "DISK"⟩
  name := "Disk"
  superclass := some "Figure"

/-- A class that extends it and requires the attribute again. -/
def ring : ClassTable where
  location := ⟨"tables", "RING"⟩
  name := "Ring"
  superclass := some "Figure"
  attributes := [{ name := "size", typeName := "float", required := true }]

theorem figures_review : Catalog.review [figure, disk, ring] = .ok () := by
  rw [Catalog.review, Issues.result, if_pos (by decide)]

/-- The search covers the line of a class that repeats what it inherits. -/
theorem ring_covers :
    Catalog.review [figure, disk, ring] = .ok () ∧
      Catalog.class? [figure, disk, ring] "Ring" = some ⟨ring, [figure]⟩ ∧
      (∀ object, (Class.mk ring [figure]).Reachable object →
        (Class.mk ring [figure]).Covers object) := by
  have known : Catalog.class? [figure, disk, ring] "Ring" = some ⟨ring, [figure]⟩ :=
    Catalog.class_of_parent (by rfl) (by rfl) rfl rfl (by decide) (by decide)
  refine ⟨figures_review, known, (Class.covers_iff_repeats figures_review known
    (Class.reachable_blank _ rfl)).2 ?_⟩
  intro base inLine rule member
  obtain rfl := List.mem_singleton.1 inLine
  exact .inl ⟨rule, member, rfl⟩

/-- A new disk has no size, which figures require, and the search finds nothing missing. -/
theorem disk_uncovered :
    Catalog.review [figure, disk, ring] = .ok () ∧
      Catalog.class? [figure, disk, ring] "Disk" = some ⟨disk, [figure]⟩ ∧
      (Class.mk disk [figure]).Reachable (Class.mk disk [figure]).blank ∧
      (∃ rule ∈ figure.required, (Class.mk disk [figure]).blank.value? rule.name = none) ∧
      disk.missingRequired? (Class.mk disk [figure]).blank = none ∧
      disk.require (Class.mk disk [figure]).blank = .ok () :=
  ⟨figures_review, Catalog.class_of_parent (by rfl) (by rfl) rfl rfl (by decide) (by decide),
    Class.reachable_blank _ rfl, ⟨_, .head _, rfl⟩, rfl, rfl⟩

end SceneCatalog
