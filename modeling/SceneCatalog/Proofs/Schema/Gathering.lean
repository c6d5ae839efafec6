import SceneCatalog.Proofs.Options.LastWins
import SceneCatalog.Proofs.Schema.TableReview

/-
This file shows that issues keep every message in its order, however they are gathered and come in
under other routes.
-/

namespace SceneCatalog

namespace Issues

/-- A route that nothing was said about has no messages. -/
def messagesAt (issues : Issues) (route : String) : List String := (issues.get? route).getD []

/-- Messages go to the end of their route and leave all other routes. -/
theorem get_extend (issues : Issues) (route place : String) (messages : List String) :
    (issues.extend route messages).get? place =
      if place = route then some (issues.messagesAt route ++ messages) else issues.get? place :=
  SortedMap.get_upsert issues.messages route place fun held => held.getD [] ++ messages

/-- The messages at a place grow exactly when the place is the route. -/
theorem messagesAt_extend (issues : Issues) (route place : String) (messages : List String) :
    (issues.extend route messages).messagesAt place =
      issues.messagesAt place ++ if place = route then messages else [] := by
  rw [messagesAt, get_extend]
  by_cases here : place = route
  · simp [here]
  · simp [here, messagesAt]

/-! Routes that are joined. -/

/-- Under one route different places stay different. -/
theorem joinRoutes_injective (route : String) : Function.Injective (joinRoutes route) := by
  intro first second same
  have longer (sub : String) : route ≠ route ++ "." ++ sub := by
    intro equal
    have length := congrArg String.length equal
    have dot : ".".length = 1 := rfl
    rw [String.length_append, String.length_append, dot] at length
    omega
  unfold joinRoutes at same
  split at same
  · exact same
  · split at same <;> split at same
    · rename_i firstEmpty secondEmpty
      rw [String.isEmpty_iff.1 firstEmpty, String.isEmpty_iff.1 secondEmpty]
    · exact absurd same (longer second)
    · exact absurd same.symm (longer first)
    · exact (String.append_right_inj _).1 same

/-- A place under two routes is the place under the joined route. -/
theorem joinRoutes_joinRoutes {outer inner : String} (outerFilled : outer ≠ "")
    (innerFilled : inner ≠ "") (sub : String) :
    joinRoutes outer (joinRoutes inner sub) = joinRoutes (outer ++ "." ++ inner) sub := by
  have joined : outer ++ "." ++ inner ≠ "" := by simp [innerFilled]
  by_cases empty : sub = ""
  · simp [joinRoutes, outerFilled, innerFilled, empty]
  · simp [joinRoutes, outerFilled, innerFilled, empty, String.append_assoc]

/-! What a merge does to the messages of a route, and to their number. -/

/-- The messages of a route are those of its entries. -/
theorem messagesAt_eq_flatMap (issues : Issues) (route : String) :
    issues.messagesAt route =
      (issues.messages.entries.filter (·.1 == route)).flatMap (·.2) := by
  have distinct := issues.messages.entries_keys_nodup
  rw [messagesAt, get?, SortedMap.get?]
  generalize issues.messages.entries = entries at distinct ⊢
  induction entries with
  | nil => rfl
  | cons entry rest inductionHypothesis =>
      rw [List.map_cons, List.nodup_cons] at distinct
      obtain ⟨fresh, distinct⟩ := distinct
      by_cases here : entry.1 = route
      · have others : rest.filter (·.1 == route) = [] := by
          rw [List.filter_eq_nil_iff]
          intro other member
          rw [beq_iff_eq]
          intro same
          exact fresh (List.mem_map.2 ⟨other, member, same.trans here.symm⟩)
        simp [here, others]
      · simpa [List.find?_cons, List.filter_cons, here] using inductionHypothesis distinct

/-- A merge adds to each place the messages of the entries that are moved there. -/
theorem messagesAt_foldl_extend (route place : String) (entries : List (String × List String))
    (issues : Issues) :
    (entries.foldl (fun merged entry => merged.extend (joinRoutes route entry.1) entry.2)
        issues).messagesAt place =
      issues.messagesAt place ++
        (entries.filter (joinRoutes route ·.1 == place)).flatMap (·.2) := by
  induction entries generalizing issues with
  | nil => simp
  | cons entry rest inductionHypothesis =>
      rw [List.foldl_cons, inductionHypothesis, messagesAt_extend, List.append_assoc]
      congr 1
      by_cases here : joinRoutes route entry.1 = place
      · simp [here]
      · simp [here, Ne.symm here]

/-- After a merge a place under the route has its own messages and then the merged ones. -/
theorem messagesAt_merge (issues other : Issues) (route sub : String) :
    (issues.merge route other).messagesAt (joinRoutes route sub) =
      issues.messagesAt (joinRoutes route sub) ++ other.messagesAt sub := by
  rw [merge, messagesAt_foldl_extend, messagesAt_eq_flatMap other]
  simp only [beq_eq_beq.2 (joinRoutes_injective route).eq_iff]

/-- Routes that do not begin with the one of the merge keep their messages. -/
theorem messagesAt_merge_elsewhere (issues other : Issues) {route place : String}
    (elsewhere : ∀ sub, joinRoutes route sub ≠ place) :
    (issues.merge route other).messagesAt place = issues.messagesAt place := by
  have none : other.messages.entries.filter (joinRoutes route ·.1 == place) = [] := by
    simp [List.filter_eq_nil_iff, elsewhere]
  rw [merge, messagesAt_foldl_extend, none, List.flatMap_nil, List.append_nil]

theorem count_extend (issues : Issues) (route : String) (messages : List String) :
    (issues.extend route messages).count = issues.count + messages.length := by
  rw [count, count, extend, SortedMap.upsert]
  dsimp only
  induction issues.messages.entries with
  | nil => simp [SortedMap.place]
  | cons entry rest inductionHypothesis =>
      obtain ⟨held, stored⟩ := entry
      rw [SortedMap.place]
      split
      · simp only [List.foldr_cons, Option.getD_none, List.nil_append]
        omega
      · split
        · simp only [List.foldr_cons, inductionHypothesis]
          omega
        · simp only [List.foldr_cons, Option.getD_some, List.length_append]
          omega

/-- A merge adds the counts. -/
theorem count_merge (issues other : Issues) (route : String) :
    (issues.merge route other).count = issues.count + other.count := by
  rw [merge, count.eq_1 other]
  induction other.messages.entries generalizing issues with
  | nil => rfl
  | cons entry rest inductionHypothesis =>
      rw [List.foldl_cons, inductionHypothesis, count_extend, List.foldr_cons, Nat.add_assoc]

/-! Issues without a route that has an empty list. -/

/-- A route is held only with messages. -/
def Filled (issues : Issues) : Prop := ∀ route, issues.get? route ≠ some []

theorem filled_empty : empty.Filled := fun _ => nofun

theorem Filled.extend {issues : Issues} (filled : issues.Filled) (route : String)
    {messages : List String} (some : messages ≠ []) : (issues.extend route messages).Filled := by
  intro place
  rw [get_extend]
  split
  · simp [some]
  · exact filled place

/-- A merge leaves no route empty when neither side has an empty one. -/
theorem Filled.merge {issues other : Issues} (filled : issues.Filled) (otherFilled : other.Filled)
    (route : String) : (issues.merge route other).Filled := by
  have each : ∀ entry ∈ other.messages.entries, entry.2 ≠ [] := by
    rintro ⟨sub, messages⟩ member rfl
    exact otherFilled sub ((SortedMap.mem_entries_iff _ _ _).1 member)
  rw [Issues.merge]
  generalize other.messages.entries = entries at each ⊢
  induction entries generalizing issues with
  | nil => exact filled
  | cons entry rest inductionHypothesis =>
      obtain ⟨here, later⟩ := List.forall_mem_cons.1 each
      exact inductionHypothesis (filled.extend _ here) later

/-- Where no route is empty, a route is listed exactly when it has messages. -/
theorem Filled.get_eq {issues : Issues} (filled : issues.Filled) (route : String) :
    issues.get? route =
      if issues.messagesAt route = [] then none else some (issues.messagesAt route) := by
  rw [messagesAt]
  cases held : issues.get? route with
  | none => rfl
  | some messages =>
      have nonempty : messages ≠ [] := by
        rintro rfl
        exact filled route held
      simp [nonempty]

/-- Such issues are determined by the messages of their routes. -/
theorem Filled.ext {first second : Issues} (filled : first.Filled) (otherFilled : second.Filled)
    (alike : ∀ route, first.messagesAt route = second.messagesAt route) : first = second := by
  have same : first.messages = second.messages := by
    apply SortedMap.ext_get
    intro route
    have here := filled.get_eq route
    rw [alike, ← otherFilled.get_eq] at here
    exact here
  cases first
  cases second
  congr

/-- Merging twice is merging once under the longer route. -/
theorem merge_merge {issues other : Issues} (filled : issues.Filled) (otherFilled : other.Filled)
    {outer inner : String} (outerFilled : outer ≠ "") (innerFilled : inner ≠ "") :
    issues.merge outer (empty.merge inner other) =
      issues.merge (outer ++ "." ++ inner) other := by
  apply (filled.merge (filled_empty.merge otherFilled inner) outer).ext
    (filled.merge otherFilled (outer ++ "." ++ inner))
  intro place
  have joined := joinRoutes_joinRoutes outerFilled innerFilled
  by_cases below : ∃ sub, joinRoutes (outer ++ "." ++ inner) sub = place
  · obtain ⟨sub, rfl⟩ := below
    rw [messagesAt_merge, ← joined, messagesAt_merge, messagesAt_merge]
    rfl
  · have elsewhere : ∀ sub, joinRoutes (outer ++ "." ++ inner) sub ≠ place := not_exists.1 below
    rw [messagesAt_merge_elsewhere _ _ elsewhere]
    by_cases within : ∃ route, joinRoutes outer route = place
    · obtain ⟨route, rfl⟩ := within
      have beside : ∀ sub, joinRoutes inner sub ≠ route := by
        rintro sub rfl
        exact elsewhere sub (joined sub).symm
      rw [messagesAt_merge, messagesAt_merge_elsewhere _ _ beside]
      exact List.append_nil _
    · rw [messagesAt_merge_elsewhere _ _ (not_exists.1 within)]

end Issues

/-- How issues come about. -/
inductive Gathering where
  | start
  | add (before : Gathering) (message : String)
  | addAt (before : Gathering) (route message : String)
  | merge (before : Gathering) (route : String) (other : Gathering)

namespace Gathering

def issues : Gathering → Issues
  | start => Issues.empty
  | add before message => before.issues.add message
  | addAt before route message => before.issues.addAt route message
  | merge before route other => before.issues.merge route other.issues

/-- The messages that have been added, each with the route that it ends up under. -/
def added : Gathering → List (String × String)
  | start => []
  | add before message => before.added ++ [("", message)]
  | addAt before route message => before.added ++ [(route, message)]
  | merge before route other =>
    before.added ++ other.added.map fun entry => (Issues.joinRoutes route entry.1, entry.2)

/-- No gathering has a route without messages. -/
theorem filled (gathering : Gathering) : gathering.issues.Filled := by
  induction gathering with
  | start => exact Issues.filled_empty
  | add before message filled => exact filled.extend "" (List.cons_ne_nil message [])
  | addAt before route message filled => exact filled.extend route (List.cons_ne_nil message [])
  | merge before route other filled otherFilled => exact filled.merge otherFilled route

/-- A gathering is empty exactly when nothing was added. -/
theorem isEmpty_iff_added (gathering : Gathering) :
    gathering.issues.isEmpty = true ↔ gathering.added = [] := by
  induction gathering with
  | start => exact iff_of_true rfl rfl
  | add before message => simp [issues, added, Issues.isEmpty_add]
  | addAt before route message => simp [issues, added, Issues.isEmpty_addAt]
  | merge before route other first second =>
      rw [issues, Issues.isEmpty_merge_iff, first, second, added, List.append_eq_nil_iff,
        List.map_eq_nil_iff]

/-- The count of a gathering is the number of messages added. -/
theorem count_eq_length (gathering : Gathering) :
    gathering.issues.count = gathering.added.length := by
  induction gathering with
  | start => rfl
  | add before message counted =>
      rw [issues, Issues.add, Issues.addAt, Issues.count_extend, counted, added,
        List.length_append]
      rfl
  | addAt before route message counted =>
      rw [issues, Issues.addAt, Issues.count_extend, counted, added, List.length_append]
      rfl
  | merge before route other first second =>
      rw [issues, Issues.count_merge, first, second, added, List.length_append, List.length_map]

/-- Each route has the messages that were added for it, in their order, and no others. -/
theorem messagesAt_eq (gathering : Gathering) (place : String) :
    gathering.issues.messagesAt place =
      (gathering.added.filter (·.1 == place)).map (·.2) := by
  have one (before : List (String × String)) (route message place : String) :
      ((before ++ [(route, message)]).filter (·.1 == place)).map (·.2) =
        (before.filter (·.1 == place)).map (·.2) ++ if place = route then [message] else [] := by
    by_cases here : place = route
    · simp [here]
    · simp [here, Ne.symm here]
  induction gathering generalizing place with
  | start => rfl
  | add before message known =>
      rw [issues, Issues.add, Issues.addAt, Issues.messagesAt_extend, known, added, one]
  | addAt before route message known =>
      rw [issues, Issues.addAt, Issues.messagesAt_extend, known, added, one]
  | merge before route other known otherKnown =>
      rw [issues, added, List.filter_append, List.map_append, List.filter_map, List.map_map]
      by_cases below : ∃ sub, Issues.joinRoutes route sub = place
      · obtain ⟨sub, rfl⟩ := below
        rw [Issues.messagesAt_merge, known, otherKnown]
        simp only [Function.comp_def, beq_eq_beq.2 (Issues.joinRoutes_injective route).eq_iff]
      · have elsewhere := not_exists.1 below
        rw [Issues.messagesAt_merge_elsewhere _ _ elsewhere, known]
        simp [Function.comp_def, elsewhere]

/-- What becomes of messages. The issues of a gathering have each message that was added once, under
its route and in its place, and no route without any. A merge appends the messages of each route
below its own, and merging twice is merging once. -/
structure Keeps (gathering other : Gathering) (route : String) : Prop where
  empty : gathering.issues.isEmpty = true ↔ gathering.issues.count = 0
  silent : gathering.issues.result = .ok () ↔ gathering.added = []
  counted : gathering.issues.count = gathering.added.length
  filled : ∀ place, gathering.issues.get? place ≠ some []
  messages : ∀ place, gathering.issues.messagesAt place =
    (gathering.added.filter (·.1 == place)).map (·.2)
  below : ∀ sub,
    (gathering.issues.merge route other.issues).messagesAt (Issues.joinRoutes route sub) =
      gathering.issues.messagesAt (Issues.joinRoutes route sub) ++ other.issues.messagesAt sub
  elsewhere : ∀ place, (∀ sub, Issues.joinRoutes route sub ≠ place) →
    (gathering.issues.merge route other.issues).messagesAt place =
      gathering.issues.messagesAt place
  merged : (gathering.issues.merge route other.issues).count =
    gathering.issues.count + other.issues.count
  nested : ∀ outer inner, outer ≠ "" → inner ≠ "" →
    gathering.issues.merge outer (Issues.empty.merge inner other.issues) =
      gathering.issues.merge (outer ++ "." ++ inner) other.issues

/-- No message is lost or made up, however issues are gathered. -/
theorem messages_kept (gathering other : Gathering) (route : String) :
    Keeps gathering other route where
  empty := by
    rw [gathering.isEmpty_iff_added, gathering.count_eq_length, List.length_eq_zero_iff]
  silent := Issues.result_ok_iff.trans gathering.isEmpty_iff_added
  counted := gathering.count_eq_length
  filled := gathering.filled
  messages := gathering.messagesAt_eq
  below := Issues.messagesAt_merge _ _ route
  elsewhere := fun _ => Issues.messagesAt_merge_elsewhere _ _
  merged := Issues.count_merge _ _ route
  nested := fun _ _ => Issues.merge_merge gathering.filled other.filled

/-- What is wrong with a sphere. -/
def sphereFaults : Gathering :=
  (start.add "class name exceeds 64 characters").addAt "radius" "duplicate attribute name"

/-- Messages for a sphere come in behind one for a box, under two routes. -/
theorem messages_kept_sphere :
    (∀ sub, Issues.joinRoutes "Sphere" sub ≠ "Box.corner1") ∧
      ((start.addAt "Box.corner1" "no error message").issues.merge "Sphere"
        sphereFaults.issues).messagesAt "Box.corner1" = ["no error message"] ∧
      ((start.addAt "Box.corner1" "no error message").issues.merge "Scene"
          (Issues.empty.merge "Sphere" sphereFaults.issues)).get? "Scene.Sphere.radius" =
        some ["duplicate attribute name"] := by
  have elsewhere : ∀ sub, Issues.joinRoutes "Sphere" sub ≠ "Box.corner1" := by
    intro sub same
    have begins : (Issues.joinRoutes "Sphere" sub).toList.head? = some 'S' := by
      unfold Issues.joinRoutes
      split
      · contradiction
      · split <;> simp
    rw [same] at begins
    exact absurd begins (by decide)
  have keeps := messages_kept (start.addAt "Box.corner1" "no error message") sphereFaults "Sphere"
  refine ⟨elsewhere, (keeps.elsewhere "Box.corner1" elsewhere).trans (by decide), ?_⟩
  rw [keeps.nested "Scene" "Sphere" (by decide) (by decide)]
  decide

end Gathering

end SceneCatalog
