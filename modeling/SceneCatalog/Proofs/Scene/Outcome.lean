import Mathlib.Data.List.Forall2
import SceneCatalog.SceneError

/-
This file says of results whether they are there, and how results are put together.
-/

namespace SceneCatalog

variable {Item Other : Type} {good : Item → Prop} {fine : Other → Prop}

/-- A step that has a result had one to go on. -/
theorem ok_of_bind {Fault : Type} {result : Except Fault Item} {next : Item → Except Fault Other}
    {other : Other} (there : (result >>= next) = .ok other) :
    ∃ item, result = .ok item ∧ next item = .ok other := by
  cases result with
  | error error => contradiction
  | ok item => exact ⟨item, rfl, there⟩

/-- A changed result is there if the result is. -/
theorem ok_of_map {Fault : Type} {result : Except Fault Item} {change : Item → Other}
    {other : Other} (there : result.map change = .ok other) :
    ∃ item, result = .ok item ∧ change item = other := by
  cases result with
  | error error => contradiction
  | ok item => exact ⟨item, rfl, Except.ok.inj there⟩

theorem exists_of_isOk {result : Except SceneError Item} (isOk : result.isOk = true) :
    ∃ item, result = .ok item := by
  cases result with
  | error error => contradiction
  | ok item => exact ⟨item, rfl⟩

/-- Items that are made one by one are all made. -/
theorem mapM_gives {Fault : Type} {items : List Other} {make : Other → Except Fault Item}
    (each : ∀ item ∈ items, ∃ made, make item = .ok made ∧ good made) :
    ∃ all, items.mapM make = .ok all ∧ ∀ made ∈ all, good made := by
  induction items with
  | nil => exact ⟨[], rfl, List.forall_mem_nil _⟩
  | cons first rest inductionHypothesis =>
      obtain ⟨here, later⟩ := List.forall_mem_cons.1 each
      obtain ⟨made, there, right⟩ := here
      obtain ⟨others, othersThere, othersRight⟩ := inductionHypothesis later
      refine ⟨made :: others, ?_, List.forall_mem_cons.2 ⟨right, othersRight⟩⟩
      rw [List.mapM_cons, there, othersThere]
      rfl

/-- All items are made if each of them is. -/
theorem mapM_ok_iff {Fault : Type} {items : List Other} {make : Other → Except Fault Item}
    {all : List Item} :
    items.mapM make = .ok all ↔ List.Forall₂ (fun item made => make item = .ok made) items all := by
  induction items generalizing all with
  | nil => simp [pure, Except.pure, eq_comm]
  | cons first rest inductionHypothesis =>
      rw [List.mapM_cons, List.forall₂_cons_left_iff]
      constructor
      · intro there
        obtain ⟨made, here, continued⟩ := ok_of_bind there
        obtain ⟨others, later, same⟩ := ok_of_bind continued
        exact ⟨made, others, here, inductionHypothesis.1 later, (Except.ok.inj same).symm⟩
      · rintro ⟨made, others, here, later, rfl⟩
        rw [here, inductionHypothesis.2 later]
        rfl

/-- Whatever stands in the second list is related to something in the first. -/
theorem exists_of_forall₂_right {First Second : Type} {related : First → Second → Prop}
    {firsts : List First} {seconds : List Second} (pairs : List.Forall₂ related firsts seconds)
    {second : Second} (member : second ∈ seconds) : ∃ first ∈ firsts, related first second := by
  induction pairs with
  | nil => contradiction
  | cons here _ inductionHypothesis =>
      rcases List.mem_cons.1 member with rfl | later
      · exact ⟨_, .head _, here⟩
      · obtain ⟨first, there, pair⟩ := inductionHypothesis later
        exact ⟨first, .tail _ there, pair⟩

/-- Lists that are related pairwise are related at their ends. -/
theorem exists_getLast_of_forall₂ {First Second : Type} {related : First → Second → Prop}
    {firsts : List First} {seconds : List Second} (pairs : List.Forall₂ related firsts seconds)
    {second : Second} (last : seconds.getLast? = some second) :
    ∃ first, firsts.getLast? = some first ∧ related first second := by
  rw [← List.head?_reverse] at last
  obtain ⟨before, reversed⟩ := List.head?_eq_some_iff.1 last
  have pairs := List.rel_reverse pairs
  rw [reversed] at pairs
  obtain ⟨first, others, here, _, firstReversed⟩ := List.forall₂_cons_right_iff.1 pairs
  refine ⟨first, ?_, here⟩
  rw [← List.head?_reverse, firstReversed, List.head?_cons]

/-- Items that are each related to something make a list of the things they are related to. -/
theorem exists_forall₂ {related : Item → Other → Prop} {items : List Item}
    (each : ∀ item ∈ items, ∃ other, related item other) :
    ∃ others, List.Forall₂ related items others := by
  induction items with
  | nil => exact ⟨[], .nil⟩
  | cons item rest inductionHypothesis =>
      obtain ⟨⟨other, here⟩, later⟩ := List.forall_mem_cons.1 each
      obtain ⟨others, pairs⟩ := inductionHypothesis later
      exact ⟨other :: others, .cons here pairs⟩

/-- What is made is made of one of the items. -/
theorem exists_of_mapM {Fault : Type} {items : List Other} {make : Other → Except Fault Item}
    {all : List Item} (there : items.mapM make = .ok all) {made : Item} (member : made ∈ all) :
    ∃ item ∈ items, make item = .ok made :=
  exists_of_forall₂_right (mapM_ok_iff.1 there) member

/-- Items are made together exactly if each of them can be made. -/
theorem mapM_isOk_iff {Fault : Type} {items : List Other} {make : Other → Except Fault Item} :
    (∃ all, items.mapM make = .ok all) ↔ ∀ item ∈ items, ∃ made, make item = .ok made := by
  constructor
  · rintro ⟨all, there⟩ item member
    obtain ⟨made, _, here⟩ := exists_of_forall₂_right (mapM_ok_iff.1 there).flip member
    exact ⟨made, here⟩
  · intro each
    obtain ⟨all, there, _⟩ := mapM_gives fun item member =>
      (each item member).imp fun _ made => And.intro made trivial
    exact ⟨all, there⟩

/-- The first item that cannot be made decides the fault. -/
theorem mapM_error_iff {Fault : Type} {items : List Other} {make : Other → Except Fault Item}
    {fault : Fault} :
    items.mapM make = .error fault ↔ ∃ before item after, items = before ++ item :: after ∧
      (∀ earlier ∈ before, ∃ made, make earlier = .ok made) ∧ make item = .error fault := by
  constructor
  · intro failed
    induction items with
    | nil => contradiction
    | cons first rest inductionHypothesis =>
        rw [List.mapM_cons] at failed
        cases here : make first with
        | error other =>
            rw [here] at failed
            obtain rfl := Except.error.inj failed
            exact ⟨[], first, rest, rfl, List.forall_mem_nil _, here⟩
        | ok made =>
            cases later : rest.mapM make with
            | error other =>
                rw [here, later] at failed
                obtain rfl := Except.error.inj failed
                obtain ⟨before, item, after, rfl, earlier, there⟩ := inductionHypothesis later
                exact ⟨first :: before, item, after, rfl,
                  List.forall_mem_cons.2 ⟨⟨made, here⟩, earlier⟩, there⟩
            | ok others =>
                rw [here, later] at failed
                contradiction
  · rintro ⟨before, item, after, rfl, earlier, failed⟩
    obtain ⟨all, there⟩ := mapM_isOk_iff.2 earlier
    rw [List.mapM_append, there, List.mapM_cons, failed]
    rfl

/-- Items that are changed once they are made are made first and then changed. -/
theorem mapM_map_eq {Further Fault : Type} (make : Other → Except Fault Item)
    (change : Item → Further) (items : List Other) :
    items.mapM (fun item => (make item).map change) =
      (items.mapM make).map (List.map change) := by
  induction items with
  | nil => rfl
  | cons item rest inductionHypothesis =>
      rw [List.mapM_cons, List.mapM_cons, inductionHypothesis]
      cases make item with
      | error error => rfl
      | ok made => cases rest.mapM make <;> rfl

/-- There is a result, and it is good. -/
def Gives (good : Item → Prop) (result : Except SceneError Item) : Prop :=
  ∃ item, result = .ok item ∧ good item

/-- There is a good result under the condition, and an attribute is missing otherwise. -/
inductive Delivers (condition : Prop) (good : Item → Prop) : Except SceneError Item → Prop where
  | delivered {item : Item} (fulfilled : condition) (right : good item) :
      Delivers condition good (.ok item)
  | missing {className name : String} (unfulfilled : ¬condition) :
      Delivers condition good (.error (.missingRequired className name))

namespace Gives

theorem ok {item : Item} (right : good item) : Gives good (.ok item) := ⟨item, rfl, right⟩

/-- A good result goes on to what every good item gives. -/
theorem bind {result : Except SceneError Item} {next : Item → Except SceneError Other}
    (given : Gives good result) (continued : ∀ item, good item → Gives fine (next item)) :
    Gives fine (result >>= next) := by
  obtain ⟨item, rfl, right⟩ := given
  exact continued item right

theorem map {result : Except SceneError Item} {change : Item → Other} (given : Gives good result)
    (changed : ∀ item, good item → fine (change item)) : Gives fine (result.map change) := by
  obtain ⟨item, rfl, right⟩ := given
  exact ok (changed item right)

/-- Items that all give good results give a list of them. -/
theorem mapM {items : List Other} {make : Other → Except SceneError Item}
    (each : ∀ item ∈ items, Gives good (make item)) :
    Gives (fun made => ∀ item ∈ made, good item) (items.mapM make) :=
  mapM_gives each

end Gives

namespace Delivers

variable {condition further : Prop} {result : Except SceneError Item}

/-- A result that is always good is delivered under a condition that holds. -/
theorem of_gives (given : Gives good result) (fulfilled : condition) :
    Delivers condition good result := by
  obtain ⟨item, rfl, right⟩ := given
  exact .delivered fulfilled right

/-- What goes on from a delivered result needs both conditions. -/
theorem bind {next : Item → Except SceneError Other} (delivered : Delivers condition good result)
    (continued : ∀ item, good item → Delivers further fine (next item)) :
    Delivers (condition ∧ further) fine (result >>= next) := by
  cases delivered with
  | @delivered item fulfilled right =>
      have later := continued item right
      show Delivers _ fine (next item)
      generalize next item = outcome at later ⊢
      cases later with
      | delivered others fineResult => exact .delivered ⟨fulfilled, others⟩ fineResult
      | missing refuted => exact .missing fun both => refuted both.2
  | missing unfulfilled => exact .missing fun both => unfulfilled both.1

theorem map {change : Item → Other} (delivered : Delivers condition good result)
    (changed : ∀ item, good item → fine (change item)) :
    Delivers condition fine (result.map change) := by
  cases delivered with
  | delivered fulfilled right => exact .delivered fulfilled (changed _ right)
  | missing unfulfilled => exact .missing unfulfilled

theorem congr (delivered : Delivers condition good result) (same : condition ↔ further) :
    Delivers further good result := by
  cases delivered with
  | delivered fulfilled right => exact .delivered (same.1 fulfilled) right
  | missing unfulfilled => exact .missing fun others => unfulfilled (same.2 others)

/-- A list is delivered under the conditions of all of its items. -/
theorem mapM {items : List Other} {needed : Other → Prop} {make : Other → Except SceneError Item}
    (each : ∀ item ∈ items, Delivers (needed item) good (make item)) :
    Delivers (∀ item ∈ items, needed item) (fun made => ∀ item ∈ made, good item)
      (items.mapM make) := by
  induction items with
  | nil => exact of_gives (.ok nofun) nofun
  | cons first rest inductionHypothesis =>
      have others := inductionHypothesis fun other member => each other (.tail _ member)
      rw [List.mapM_cons]
      refine (bind (each first (.head _)) fun item right => ?_).congr List.forall_mem_cons.symm
      have joined : Delivers _ (fun made => ∀ item ∈ made, good item)
          ((rest.mapM make).map (item :: ·)) :=
        others.map fun made madeRight => List.forall_mem_cons.2 ⟨right, madeRight⟩
      exact joined

/-- A delivered result is there exactly under its condition. -/
theorem ok_iff (delivered : Delivers condition good result) :
    (∃ item, result = .ok item) ↔ condition := by
  cases delivered with
  | delivered fulfilled _ => simp [fulfilled]
  | missing unfulfilled => simp [unfulfilled]

/-- What is not delivered is missing an attribute. -/
theorem error (delivered : Delivers condition good result) {error : SceneError}
    (failed : result = .error error) :
    ∃ className name, error = .missingRequired className name := by
  cases delivered with
  | delivered => contradiction
  | missing => exact ⟨_, _, (Except.error.inj failed).symm⟩

theorem good_of_ok (delivered : Delivers condition good result) {item : Item}
    (there : result = .ok item) : good item := by
  cases delivered with
  | delivered _ right => exact Except.ok.inj there ▸ right
  | missing => contradiction

end Delivers

end SceneCatalog
