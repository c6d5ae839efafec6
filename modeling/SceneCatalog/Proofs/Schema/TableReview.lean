import Mathlib.Data.List.Nodup
import SceneCatalog.Proofs.Schema.WellFormed

/-
This file shows that the review of one class table is silent exactly if the table is well-formed.
-/

namespace SceneCatalog

namespace Issues

/-- What has been said is not taken back. -/
@[simp] theorem isEmpty_extend (issues : Issues) (route : String) (messages : List String) :
    (issues.extend route messages).isEmpty = false := by
  obtain ⟨⟨entries, sorted⟩⟩ := issues
  cases entries with
  | nil => rfl
  | cons head rest =>
      simp only [extend, isEmpty, SortedMap.upsert, SortedMap.place]
      split
      · rfl
      · split <;> rfl

theorem isEmpty_addAt (issues : Issues) (route message : String) :
    (issues.addAt route message).isEmpty = false :=
  isEmpty_extend issues route [message]

theorem isEmpty_add (issues : Issues) (message : String) : (issues.add message).isEmpty = false :=
  isEmpty_addAt issues "" message

theorem add_eq (issues : Issues) (message : String) :
    issues.add message = issues.addAt "" message := rfl

theorem result_ok_iff {issues : Issues} : issues.result = .ok () ↔ issues.isEmpty = true := by
  rw [result]
  split <;> simp [*]

/-- A condition that is asked for. -/
@[simp] theorem isEmpty_asked {condition : Prop} [Decidable condition] {issues : Issues}
    {route message : String} :
    (if condition then issues else issues.addAt route message).isEmpty = true ↔
      issues.isEmpty = true ∧ condition := by
  split <;> simp [isEmpty_addAt, *]

/-- A condition that is a fault. -/
@[simp] theorem isEmpty_fault {condition : Prop} [Decidable condition] {issues : Issues}
    {route message : String} :
    (if condition then issues.addAt route message else issues).isEmpty = true ↔
      issues.isEmpty = true ∧ ¬condition := by
  split <;> simp [isEmpty_addAt, *]

/-- Nothing is said as long as nothing that is looked at is wrong. -/
theorem isEmpty_foldl_iff {Item : Type} {review : Issues → Item → Issues} {fine : Item → Prop}
    (each : ∀ issues item, (review issues item).isEmpty = true ↔ issues.isEmpty = true ∧ fine item)
    (items : List Item) (issues : Issues) :
    (items.foldl review issues).isEmpty = true ↔
      issues.isEmpty = true ∧ ∀ item ∈ items, fine item := by
  induction items generalizing issues with
  | nil => simp
  | cons item rest inductionHypothesis =>
      rw [List.foldl_cons, inductionHypothesis, each, List.forall_mem_cons, and_assoc]

/-- A merge is silent exactly when both sides are. -/
theorem isEmpty_merge_iff (issues other : Issues) (route : String) :
    (issues.merge route other).isEmpty = true ↔ issues.isEmpty = true ∧ other.isEmpty = true := by
  have never (merged : Issues) (entry : String × List String) :
      (merged.extend (joinRoutes route entry.1) entry.2).isEmpty = true ↔
        merged.isEmpty = true ∧ False := by
    simp
  have silent : other.isEmpty = true ↔ ∀ entry ∈ other.messages.entries, False := by
    rw [isEmpty, List.isEmpty_iff]
    exact List.eq_nil_iff_forall_not_mem
  rw [merge, isEmpty_foldl_iff never, silent]

end Issues

namespace Naming

/-- The two conditions on a name that the review checks one after the other. -/
theorem proper_iff {isFirst : Char → Bool} {name : String} :
    Proper isFirst name ↔
      (name.toList.head?.any isFirst && name.toList.all Char.isAlphanum) = true ∧
        name.utf8ByteSize ≤ longestName := by
  constructor
  · rintro ⟨⟨first, rest, letters, begins⟩, alphanumeric, short⟩
    refine ⟨?_, short⟩
    rw [Bool.and_eq_true, List.all_eq_true]
    exact ⟨by simp [letters, begins], alphanumeric⟩
  · rintro ⟨spelled, short⟩
    rw [Bool.and_eq_true, List.all_eq_true] at spelled
    obtain ⟨begins, alphanumeric⟩ := spelled
    refine ⟨?_, alphanumeric, short⟩
    cases letters : name.toList with
    | nil => simp [letters] at begins
    | cons first rest => exact ⟨first, rest, rfl, by simpa [letters] using begins⟩

/-- A proper class name is in Pascal case and not too long. -/
theorem proper_class_iff {name : String} :
    Proper Char.isUpper name ↔ isPascalCase name = true ∧ name.utf8ByteSize ≤ longestName :=
  proper_iff

/-- A proper attribute name is in camel case and not too long. -/
theorem proper_attribute_iff {name : String} :
    Proper Char.isLower name ↔ isCamelCase name = true ∧ name.utf8ByteSize ≤ longestName :=
  proper_iff

end Naming

/-- The Boolean test of a constant decides whether it is finite. -/
theorem Constant.isFinite_iff {constant : Constant} :
    constant.isFinite = true ↔ constant.Finite := by
  cases constant <;> simp [isFinite, Finite]

namespace ClassTable

variable {issues : Issues}

/-- The review of a name is silent exactly when it is proper and its module has an identifier. -/
theorem isEmpty_reviewName_iff (table : ClassTable) :
    (table.reviewName issues).isEmpty = true ↔
      issues.isEmpty = true ∧ Naming.Proper Char.isUpper table.name ∧
        table.location.ident ≠ "" := by
  simp [reviewName, Issues.add_eq, Naming.proper_class_iff, and_assoc]

/-- The review of attribute names is silent exactly when they are proper, distinct and new. -/
theorem isEmpty_reviewAttributeNames_iff (seen names : List String) :
    (reviewAttributeNames issues seen names).isEmpty = true ↔
      issues.isEmpty = true ∧ (∀ name ∈ names, Naming.Proper Char.isLower name) ∧
        names.Nodup ∧ ∀ name ∈ names, name ∉ seen := by
  induction names generalizing issues seen with
  | nil => simp [reviewAttributeNames]
  | cons name rest inductionHypothesis =>
      rw [reviewAttributeNames, inductionHypothesis, List.nodup_cons, List.forall_mem_cons,
        List.forall_mem_cons]
      simp only [Issues.isEmpty_asked, Issues.isEmpty_fault, List.contains_iff_mem, List.mem_cons,
        not_or, Naming.proper_attribute_iff, gt_iff_lt, Nat.not_lt]
      constructor
      · rintro ⟨⟨⟨⟨silent, spelled⟩, short⟩, new⟩, proper, distinct, apart⟩
        refine ⟨silent, ⟨⟨spelled, short⟩, proper⟩, ⟨?_, distinct⟩, new, ?_⟩
        · exact fun later => (apart name later).1 rfl
        · exact fun other later => (apart other later).2
      · rintro ⟨silent, ⟨⟨spelled, short⟩, proper⟩, ⟨absent, distinct⟩, new, apart⟩
        refine ⟨⟨⟨⟨silent, spelled⟩, short⟩, new⟩, proper, distinct, ?_⟩
        intro other later
        exact ⟨fun same => absent (same ▸ later), apart other later⟩

/-- Different attributes share no method. -/
def MethodsApart (names : List String) : Prop :=
  ∀ first ∈ names, ∀ second ∈ names, first ≠ second →
    ∀ method ∈ Naming.methods first, method ∉ Naming.methods second

/-- The owners are the attributes seen so far, and each method has one of them. -/
def Owned (owners : Owners) (seen : List String) : Prop :=
  ∀ method name, owners.lookup method = some name ↔ name ∈ seen ∧ method ∈ Naming.methods name

/-- No other attribute has the method. -/
def Unclaimed (owners : Owners) (name method : String) : Prop :=
  ∀ previous, owners.lookup method = some previous → previous = name

/-- The name of a getter may not be taken otherwise. -/
def Usable (name : String) : Prop :=
  Naming.methodName name ∉ Naming.reservedMethods ∧ Naming.methodName name ∉ Naming.neverNames

/-- Claiming a method enters its owner, and is silent exactly when nobody else has claimed it. -/
theorem claimMethod_spec (issues : Issues) (name method : String) (owners : Owners) :
    ∃ next, claimMethod name method (issues, owners) = (next, (method, name) :: owners) ∧
      (next.isEmpty = true ↔ issues.isEmpty = true ∧ Unclaimed owners name method) := by
  refine ⟨_, rfl, ?_⟩
  unfold Unclaimed
  cases owners.lookup method with
  | none => simp
  | some previous => simp

/-- The attribute has no method in common with others but those that it has itself. -/
theorem unclaimed_cons_iff {owners : Owners} {name claimed method : String} :
    Unclaimed ((claimed, name) :: owners) name method ↔
      method = claimed ∨ Unclaimed owners name method := by
  unfold Unclaimed
  by_cases same : method = claimed
  · simp [same]
  · simp [same, List.lookup_cons, beq_eq_false_iff_ne.2 same]

/-- An attribute that takes a name and methods that are free is no fault, and owns them from here
on. -/
theorem reviewMethodNames_step (issues : Issues) (name : String) (rest : List String)
    (owners : Owners) :
    ∃ next, reviewMethodNames (issues, owners) (name :: rest) =
        reviewMethodNames (next, (Naming.methodName name, name) ::
          ("set_" ++ Naming.methodName name, name) :: owners) rest ∧
      (next.isEmpty = true ↔ issues.isEmpty = true ∧ Usable name ∧
        ∀ method ∈ Naming.methods name, Unclaimed owners name method) := by
  rw [reviewMethodNames]
  generalize said :
    (if Naming.neverNames.contains (Naming.methodName name) = true then _ else _) = reviewed
  have usable : reviewed.isEmpty = true ↔ issues.isEmpty = true ∧ Usable name := by
    rw [← said]
    simp [Usable, and_assoc]
  obtain ⟨set, setter, setterFree⟩ :=
    claimMethod_spec reviewed name ("set_" ++ Naming.methodName name) owners
  obtain ⟨next, getter, getterFree⟩ := claimMethod_spec set name
    (Naming.methodName name) (("set_" ++ Naming.methodName name, name) :: owners)
  refine ⟨next, by rw [setter, getter], ?_⟩
  have both : (∀ method ∈ Naming.methods name, Unclaimed owners name method) ↔
      Unclaimed owners name ("set_" ++ Naming.methodName name) ∧
        Unclaimed owners name (Naming.methodName name) := by
    simp [Naming.methods]
  rw [getterFree, setterFree, usable, unclaimed_cons_iff, both]
  constructor
  · rintro ⟨⟨⟨silent, named⟩, setFree⟩, same | getFree⟩
    · exact ⟨silent, named, setFree, by rwa [same]⟩
    · exact ⟨silent, named, setFree, getFree⟩
  · rintro ⟨silent, named, setFree, getFree⟩
    exact ⟨⟨⟨silent, named⟩, setFree⟩, .inr getFree⟩

/-- Once something has been said, no attribute undoes it. -/
theorem isEmpty_of_reviewMethodNames {issues : Issues} {names : List String} {owners : Owners}
    (silent : (reviewMethodNames (issues, owners) names).isEmpty = true) :
    issues.isEmpty = true := by
  induction names generalizing issues owners with
  | nil => exact silent
  | cons name rest inductionHypothesis =>
      obtain ⟨next, continues, claimed⟩ := reviewMethodNames_step issues name rest owners
      rw [continues] at silent
      exact (claimed.1 (inductionHypothesis silent)).1

/-- Names whose methods are all owned have different methods. -/
theorem Owned.methodsApart {owners : Owners} {seen : List String} (owned : Owned owners seen) :
    MethodsApart seen := by
  intro first firstSeen second secondSeen different method firstHas secondHas
  have firstOwns := (owned method first).2 ⟨firstSeen, firstHas⟩
  have secondOwns := (owned method second).2 ⟨secondSeen, secondHas⟩
  exact different (Option.some.inj (firstOwns.symm.trans secondOwns))

/-- When the methods of a new name are unclaimed, the owners are extended by them. -/
theorem Owned.claim {owners : Owners} {seen : List String} (owned : Owned owners seen)
    {name : String} (unclaimed : ∀ method ∈ Naming.methods name, Unclaimed owners name method) :
    Owned ((Naming.methodName name, name) :: ("set_" ++ Naming.methodName name, name) :: owners)
      (name :: seen) := by
  intro method other
  by_cases mine : method ∈ Naming.methods name
  · have found : List.lookup method ((Naming.methodName name, name) ::
        ("set_" ++ Naming.methodName name, name) :: owners) = some name := by
      simp only [Naming.methods, List.mem_cons, List.not_mem_nil, or_false] at mine
      rcases mine with rfl | rfl
      · by_cases same : "set_" ++ Naming.methodName name = Naming.methodName name
        · simp [same]
        · simp [List.lookup_cons, beq_eq_false_iff_ne.2 same]
      · simp
    rw [found, List.mem_cons]
    constructor
    · intro same
      obtain rfl := Option.some.inj same
      exact ⟨.inl rfl, mine⟩
    · rintro ⟨rfl | before, has⟩
      · rfl
      · rw [unclaimed method mine other ((owned method other).2 ⟨before, has⟩)]
  · have passed : List.lookup method ((Naming.methodName name, name) ::
        ("set_" ++ Naming.methodName name, name) :: owners) = owners.lookup method := by
      simp only [Naming.methods, List.mem_cons, List.not_mem_nil, or_false, not_or] at mine
      simp [List.lookup_cons, beq_eq_false_iff_ne.2 mine.1, beq_eq_false_iff_ne.2 mine.2]
    rw [passed, owned, List.mem_cons]
    constructor
    · exact fun ⟨before, has⟩ => ⟨.inr before, has⟩
    · rintro ⟨rfl | before, has⟩
      · exact absurd has mine
      · exact ⟨before, has⟩

/-- The methods of the attributes collide with those seen before or with each other, or nothing is
said. -/
theorem isEmpty_reviewMethodNames_iff {issues : Issues} {names seen : List String} {owners : Owners}
    (owned : Owned owners seen) :
    (reviewMethodNames (issues, owners) names).isEmpty = true ↔
      issues.isEmpty = true ∧ (∀ name ∈ names, Usable name) ∧ MethodsApart (names ++ seen) := by
  induction names generalizing issues owners seen with
  | nil => simp [reviewMethodNames, owned.methodsApart]
  | cons name rest inductionHypothesis =>
      obtain ⟨next, continues, claimed⟩ := reviewMethodNames_step issues name rest owners
      rw [continues]
      by_cases unclaimed : ∀ method ∈ Naming.methods name, Unclaimed owners name method
      · have moved : MethodsApart (rest ++ name :: seen) ↔ MethodsApart (name :: rest ++ seen) := by
          simp only [MethodsApart, List.perm_middle.mem_iff, List.cons_append]
        rw [inductionHypothesis (owned.claim unclaimed), claimed, List.forall_mem_cons, moved]
        constructor
        · rintro ⟨⟨silent, usable, _⟩, others, apart⟩
          exact ⟨silent, ⟨usable, others⟩, apart⟩
        · rintro ⟨silent, ⟨usable, others⟩, apart⟩
          exact ⟨⟨silent, usable, unclaimed⟩, others, apart⟩
      · -- The method of another attribute is reported here, and stays reported.
        constructor
        · intro silent
          exact absurd (claimed.1 (isEmpty_of_reviewMethodNames silent)).2.2 unclaimed
        · rintro ⟨_, _, apart⟩
          refine absurd ?_ unclaimed
          intro method mine previous owns
          obtain ⟨before, has⟩ := (owned method previous).1 owns
          by_contra different
          exact apart previous (by simp [before]) name (by simp) different method has mine

/-- The review of the constants is silent exactly when they are finite. -/
theorem isEmpty_reviewImmutables_iff {issues : Issues} (table : ClassTable) :
    (table.reviewImmutables issues).isEmpty = true ↔
      issues.isEmpty = true ∧ ∀ immutable ∈ table.immutables, immutable.value.Finite := by
  apply Issues.isEmpty_foldl_iff
  intro issues immutable
  rw [Issues.isEmpty_asked, Constant.isFinite_iff]

/-- The review of an attribute is silent exactly when its rule is well formed. -/
theorem isEmpty_reviewRule_iff {issues : Issues} (table : ClassTable) (rule : Attribute) :
    (table.reviewRule issues rule).isEmpty = true ↔
      issues.isEmpty = true ∧ rule.WellFormed table.name := by
  rw [reviewRule]
  generalize said : (if rule.initial.any (!·.isFinite) = true then _ else _) = reviewed
  have checked : reviewed.isEmpty = true ↔ issues.isEmpty = true ∧
      (rule.validator.isSome = true → rule.complaint ≠ "") ∧ rule.typeName ≠ "" ∧
        ∀ initial, rule.initial = some initial → initial.Finite := by
    rw [← said]
    cases rule.initial <;> simp [and_assoc, Constant.isFinite_iff]
  cases start : rule.initial.bind Constant.toValue? with
  | none =>
      have unset : ∀ initial, rule.initial = some initial → initial.toValue? = none := by
        intro initial given
        simpa [given] using start
      rw [checked]
      constructor
      · rintro ⟨silent, complaint, typeName, finite⟩
        refine ⟨silent, complaint, typeName, finite, ?_⟩
        intro initial value given made
        rw [unset initial given] at made
        contradiction
      · rintro ⟨silent, wellFormed⟩
        exact ⟨silent, wellFormed.complaint, wellFormed.typeName, wellFormed.finite⟩
  | some value =>
      obtain ⟨initial, given, made⟩ := Option.bind_eq_some_iff.1 start
      dsimp only
      cases outcome : rule.accept table.name (.literal value) with
      | ok stored =>
          rw [checked]
          constructor
          · rintro ⟨silent, complaint, typeName, finite⟩
            refine ⟨silent, complaint, typeName, finite, ?_⟩
            intro other otherValue otherGiven otherMade
            obtain rfl := Option.some.inj (given.symm.trans otherGiven)
            obtain rfl := Option.some.inj (made.symm.trans otherMade)
            exact ⟨stored, outcome⟩
          · rintro ⟨silent, wellFormed⟩
            exact ⟨silent, wellFormed.complaint, wellFormed.typeName, wellFormed.finite⟩
      | error refused =>
          simp only [Issues.isEmpty_addAt, Bool.false_eq_true, false_iff, not_and]
          intro _ wellFormed
          obtain ⟨stored, accepted⟩ := wellFormed.accepted initial value given made
          rw [outcome] at accepted
          contradiction

/-- The review of a constructor is silent exactly when it has parameters and a body, or neither. -/
theorem isEmpty_reviewConstructor_iff {issues : Issues} (table : ClassTable) :
    (table.reviewConstructor issues).isEmpty = true ↔
      issues.isEmpty = true ∧ table.parameters.isSome = table.body.isSome := by
  rw [reviewConstructor]
  cases table.parameters <;> cases table.body <;> simp [Issues.add_eq, Issues.isEmpty_addAt]

/-- The review of a table is silent exactly when the table is well formed. -/
theorem isEmpty_review_iff (table : ClassTable) :
    table.review.isEmpty = true ↔ table.WellFormed := by
  have empty : Issues.empty.isEmpty = true := rfl
  have owned : Owned [] [] := by simp [Owned]
  rw [review, isEmpty_reviewConstructor_iff,
    Issues.isEmpty_foldl_iff (fun issues rule => table.isEmpty_reviewRule_iff rule),
    isEmpty_reviewImmutables_iff, isEmpty_reviewMethodNames_iff owned,
    isEmpty_reviewAttributeNames_iff, isEmpty_reviewName_iff, List.append_nil]
  constructor
  · rintro
      ⟨⟨⟨⟨⟨⟨_, name, ident⟩, names, distinct, _⟩, usable, apart⟩, finite⟩, rules⟩, construction⟩
    exact {
      name, ident, distinct, rules, construction, apart
      attributeNames := names
      unreserved := fun name member => (usable name member).1
      usable := fun name member => (usable name member).2
      immutables := finite }
  · intro wellFormed
    refine ⟨⟨⟨⟨⟨⟨empty, wellFormed.name, wellFormed.ident⟩, wellFormed.attributeNames,
      wellFormed.distinct, ?_⟩, ?_, wellFormed.apart⟩, wellFormed.immutables⟩, wellFormed.rules⟩,
      wellFormed.construction⟩
    · simp
    · exact fun name member => ⟨wellFormed.unreserved name member, wellFormed.usable name member⟩

end ClassTable

end SceneCatalog
