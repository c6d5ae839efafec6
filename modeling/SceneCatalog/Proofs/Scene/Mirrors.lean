import SceneCatalog.Proofs.Scene.Layouts

/-
This file shows that two writers write values the same that differ in their objects only, provided
that they write these objects the same.
-/

namespace SceneCatalog

/-- Steps that end the same for each pair of items end the same for all of them. -/
theorem mapM_pairwise {m : Type → Type} [Monad m] [LawfulMonad m] {Item Other Result : Type}
    {items : List Item} {others : List Other} {make : Item → m Result} {remake : Other → m Result}
    (each : List.Forall₂ (fun item other => make item = remake other) items others) :
    items.mapM make = others.mapM remake := by
  induction each with
  | nil => rfl
  | cons here _ inductionHypothesis =>
      rw [List.mapM_cons, List.mapM_cons, here, inductionHypothesis]

/-- Items that are related in pairs keep a relation that follows for each pair. -/
theorem forall₂_of_mem {Item Other : Type} {related holds : Item → Other → Prop} {items : List Item}
    {others : List Other} (each : List.Forall₂ related items others)
    (item : ∀ first ∈ items, ∀ second, related first second → holds first second) :
    List.Forall₂ holds items others :=
  ((List.forall₂_and_left _ _).2 ⟨item, each⟩).imp fun _ second both => both.1 second both.2

theorem mapM_congr {Item Other : Type} {items : List Item}
    {make remake : Item → Except SceneError Other}
    (each : ∀ item ∈ items, make item = remake item) : items.mapM make = items.mapM remake :=
  mapM_pairwise (List.forall₂_same.2 each)

namespace Value

/-- What holds of a list when it holds of its items, and of all values that are no lists, holds of
every value. -/
@[elab_as_elim]
theorem induction_items {motive : Value → Prop}
    (list : ∀ items, (∀ item ∈ items, motive item) → motive (.list items))
    (single : ∀ value, value.asList? = none → motive value) (value : Value) : motive value := by
  match value with
  | .list items => exact list items fun item member => item.induction_items list single
  | .bool _ => exact single _ rfl
  | .float _ => exact single _ rfl
  | .int _ => exact single _ rfl
  | .node _ _ => exact single _ rfl
  | .code _ => exact single _ rfl
  | .text _ => exact single _ rfl
  | .vector _ => exact single _ rfl
termination_by sizeOf value
decreasing_by
  have smaller := List.sizeOf_lt_of_mem member
  simp only [Value.list.sizeOf_spec]
  omega

/-- The values are the same but for their objects, which the writers write the same. Sweeps look
into their spheres. -/
inductive Mirrors (writer other : NodeWriter) : Value → Value → Prop where
  | single {value : Value} (noList : value.asList? = none) (noNode : value.isNode = false) :
      Mirrors writer other value value
  | list {items others : List Value} (each : List.Forall₂ (Mirrors writer other) items others) :
      Mirrors writer other (.list items) (.list others)
  | node {identity otherIdentity : Nat} {first second : Object}
      (sameClass : first.className = second.className) (written : writer first = other second)
      (sphere : ∀ name ∈ ["center", "radius"],
        requiredText writer first name = requiredText other second name) :
      Mirrors writer other (.node identity first) (.node otherIdentity second)

/-- Lists whose items have the same bodies have the same body. -/
theorem bodyOfItems_pairwise {writer other : NodeWriter} {items others : List Value}
    (each : List.Forall₂ (fun item twin => item.body writer = twin.body other) items others) :
    bodyOfItems writer items = bodyOfItems other others := by
  induction each with
  | nil => rfl
  | cons here _ inductionHypothesis => rw [bodyOfItems, bodyOfItems, here, inductionHypothesis]

namespace Mirrors

variable {writer other : NodeWriter} {value twin : Value}

/-- Lists and objects look alike to whatever does not look for them. -/
theorem inspect (mirrors : Mirrors writer other value twin) {Item : Type} {look : Value → Item}
    {unseen : Item} (lists : ∀ items, look (.list items) = unseen)
    (nodes : ∀ identity object, look (.node identity object) = unseen) :
    look value = look twin := by
  cases mirrors with
  | single => rfl
  | list => rw [lists, lists]
  | node => rw [nodes, nodes]

theorem asBool (mirrors : Mirrors writer other value twin) : value.asBool? = twin.asBool? :=
  mirrors.inspect (fun _ => rfl) fun _ _ => rfl

theorem asText (mirrors : Mirrors writer other value twin) : value.asText? = twin.asText? :=
  mirrors.inspect (fun _ => rfl) fun _ _ => rfl

theorem asVector (mirrors : Mirrors writer other value twin) : value.asVector? = twin.asVector? :=
  mirrors.inspect (fun _ => rfl) fun _ _ => rfl

theorem isNode (mirrors : Mirrors writer other value twin) : value.isNode = twin.isNode := by
  cases mirrors <;> rfl

theorem floats (mirrors : Mirrors writer other value twin) : value.floats? = twin.floats? := by
  cases mirrors with
  | list each =>
      exact mapM_pairwise (each.imp fun _ _ mirrors =>
        mirrors.inspect (fun _ => rfl) fun _ _ => rfl)
  | _ => rfl

/-- Mirroring lists both have an object among their items, or both none. -/
theorem any_isNode {items others : List Value}
    (each : List.Forall₂ (Mirrors writer other) items others) :
    items.any Value.isNode = others.any Value.isNode := by
  induction each with
  | nil => rfl
  | cons here _ inductionHypothesis =>
      rw [List.any_cons, List.any_cons, here.isNode, inductionHypothesis]

/-- Mirroring values are written the same within a line. -/
theorem inline (mirrors : Mirrors writer other value twin) (stops : Nat) :
    value.inline writer stops = twin.inline other stops := by
  induction value using Value.induction_items generalizing twin with
  | list items inductionHypothesis =>
      cases mirrors with
      | single noList => contradiction
      | list each =>
          have same := forall₂_of_mem each fun item member _ mirrors =>
            inductionHypothesis item member mirrors
          rw [Value.inline, Value.inline, inlineItems_eq, inlineItems_eq, mapM_pairwise same,
            any_isNode each]
  | single value alone =>
      cases mirrors with
      | single =>
          cases value with
          | list => contradiction
          | node => contradiction
          | _ => rw [Value.inline, Value.inline]
      | list => contradiction
      | node _ written => rw [Value.inline, Value.inline, written]

theorem verbatim (mirrors : Mirrors writer other value twin) :
    value.verbatim writer = twin.verbatim other := by
  have inlined := mirrors.inline 0
  cases mirrors with
  | single =>
      cases value with
      | text => rfl
      | code => rfl
      | _ => exact inlined
  | list => exact inlined
  | node => exact inlined

theorem angled (mirrors : Mirrors writer other value twin) :
    value.angled writer = twin.angled other := by
  rw [Value.angled, Value.angled, mirrors.inline]

theorem keyed (mirrors : Mirrors writer other value twin) (vocabulary : Vocabulary) :
    value.keyed vocabulary writer = twin.keyed vocabulary other := by
  have shown := mirrors.verbatim
  cases mirrors with
  | single =>
      cases value with
      | text => rfl
      | _ => exact shown
  | list => exact shown
  | node => exact shown

theorem lineBody (mirrors : Mirrors writer other value twin) :
    value.lineBody writer = twin.lineBody other := by
  rw [Value.lineBody, Value.lineBody, mirrors.verbatim]

/-- Mirroring values are written the same as the body of a block. -/
theorem body (mirrors : Mirrors writer other value twin) :
    value.body writer = twin.body other := by
  have line := mirrors.lineBody
  induction value using Value.induction_items generalizing twin with
  | list items inductionHypothesis =>
      cases mirrors with
      | single noList => contradiction
      | list each =>
          have same := forall₂_of_mem each fun item member _ mirrors =>
            inductionHypothesis item member mirrors mirrors.lineBody
          rw [Value.body, Value.body, bodyOfItems_pairwise same, any_isNode each, line]
  | single value alone =>
      cases mirrors with
      | single =>
          cases value with
          | list => contradiction
          | node => contradiction
          | _ => exact line
      | list => contradiction
      | node _ written => rw [Value.body, Value.body, written]

/-- Mirroring values are written the same as a block within a block. -/
theorem nested (mirrors : Mirrors writer other value twin) (keyword : String) :
    value.nested writer keyword = twin.nested other keyword := by
  rw [Value.nested, Value.nested, mirrors.body]

end Mirrors

end Value

section Lists

variable {writer other : NodeWriter}

/-- Mirroring lists are joined to the same text. -/
theorem joined_pairwise {items others : List Value}
    (each : List.Forall₂ (Value.Mirrors writer other) items others) :
    joined writer items = joined other others := by
  rw [joined, joined, mapM_pairwise (each.imp fun _ _ mirrors => mirrors.verbatim)]

/-- Mirroring lists of points are written in the same rows. -/
theorem Value.Mirrors.pointLines {value twin : Value} (mirrors : Mirrors writer other value twin)
    (perRow : Nat) (counted : Bool) :
    pointLines writer perRow counted value = pointLines other perRow counted twin := by
  have shown := mirrors.verbatim
  cases mirrors with
  | single noList => simp only [SceneCatalog.pointLines, noList, shown]
  | list each =>
      have rowsAgree := (rows_forall₂ each perRow).imp fun _ _ inRow => joined_pairwise inRow
      simp only [SceneCatalog.pointLines, asList?, mapM_pairwise rowsAgree, each.length_eq]
  | node => simp only [SceneCatalog.pointLines, asList?, shown]

end Lists

end SceneCatalog
