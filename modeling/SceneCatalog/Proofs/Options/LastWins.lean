import Mathlib.Data.List.Sort
import Mathlib.Data.String.Basic
import SceneCatalog.SortedMap

/-
This file shows that a sorted map is determined by what its keys look up, and that the last pair of
a key decides it.
-/

namespace SceneCatalog.SortedMap

variable {Entry : Type}

/-- A key in front of all others is not among them. -/
theorem find_none_of_before {key : String} {entries : List (String × Entry)}
    (before : ∀ pair ∈ entries, key < pair.1) :
    entries.find? (fun pair => pair.1 == key) = none := by
  apply List.find?_eq_none.2
  intro pair member
  simpa using (before pair member).ne'

/-- Placing an entry changes what is found under its key only, if the keys ascend. -/
theorem find_place {key name : String} {update : Option Entry → Entry}
    {entries : List (String × Entry)}
    (sorted : entries.Pairwise fun first second => first.1 < second.1) :
    ((place key update entries).find? (fun pair => pair.1 == name)).map (·.2) =
      if name = key then
        some (update ((entries.find? fun pair => pair.1 == key).map (·.2)))
      else (entries.find? fun pair => pair.1 == name).map (·.2) := by
  induction entries with
  | nil =>
      by_cases same : name = key
      · simp [place, same]
      · simp [place, same, Ne.symm same]
  | cons head rest inductionHypothesis =>
      obtain ⟨held, entry⟩ := head
      obtain ⟨first, others⟩ := List.pairwise_cons.1 sorted
      unfold place
      split
      · rename_i less
        have absent : ((held, entry) :: rest).find? (fun pair => pair.1 == key) = none := by
          apply find_none_of_before
          intro pair member
          rcases List.mem_cons.1 member with rfl | later
          · exact less
          · exact less.trans (first pair later)
        rw [absent]
        by_cases same : name = key
        · simp [same]
        · simp [same, Ne.symm same, List.find?_cons]
      · split
        · rename_i less
          have differ : held ≠ key := less.ne
          by_cases heldNamed : held = name
          · have other : name ≠ key := heldNamed ▸ differ
            simp [heldNamed, other]
          · simpa [List.find?_cons, heldNamed, differ] using inductionHypothesis others
        · rename_i notLess notMore
          have same : held = key := le_antisymm (not_lt.1 notLess) (not_lt.1 notMore)
          subst same
          by_cases heldNamed : held = name
          · simp [heldNamed]
          · simp [heldNamed, Ne.symm heldNamed]

/-- An update changes the entry under its key and no other. -/
theorem get_upsert (map : SortedMap Entry) (key name : String) (update : Option Entry → Entry) :
    (map.upsert key update).get? name =
      if name = key then some (update (map.get? key)) else map.get? name :=
  find_place map.sorted

theorem get_insert (map : SortedMap Entry) (key name : String) (entry : Entry) :
    (map.insert key entry).get? name = if name = key then some entry else map.get? name :=
  get_upsert map key name fun _ => entry

theorem get_empty (name : String) : (empty : SortedMap Entry).get? name = none := rfl

/-- Inserted pairs hide the map below them, and later pairs hide earlier ones. -/
theorem get_foldl_insert (pairs : List (String × Entry)) (map : SortedMap Entry) (name : String) :
    (pairs.foldl (fun map pair => map.insert pair.1 pair.2) map).get? name =
      ((pairs.reverse.find? fun pair => pair.1 == name).map (·.2)).or (map.get? name) := by
  induction pairs generalizing map with
  | nil => simp
  | cons pair rest inductionHypothesis =>
      rw [List.foldl_cons, inductionHypothesis, get_insert, List.reverse_cons, List.find?_append]
      cases rest.reverse.find? (fun pair => pair.1 == name) with
      | some found => simp
      | none =>
          by_cases same : name = pair.1
          · simp [same]
          · simp [same, Ne.symm same]

/-- The entry of a key is that of its last pair. -/
theorem get_ofList (pairs : List (String × Entry)) (name : String) :
    (ofList pairs).get? name = (pairs.reverse.find? fun pair => pair.1 == name).map (·.2) := by
  rw [ofList, get_foldl_insert, get_empty, Option.or_none]

/-- A map lists each key once. -/
theorem entries_keys_nodup (map : SortedMap Entry) : (map.entries.map (·.1)).Nodup := by
  rw [List.Nodup, List.pairwise_map]
  exact map.sorted.imp fun less => less.ne

/-- What has a smaller key than a pair stands before it. -/
theorem mem_before_of_lt (map : SortedMap Entry) {before after : List (String × Entry)}
    {pair other : String × Entry} (entries : map.entries = before ++ pair :: after)
    (member : other ∈ map.entries) (less : other.1 < pair.1) : other ∈ before := by
  have sorted := map.sorted
  rw [entries] at sorted member
  obtain ⟨_, fromHere, _⟩ := List.pairwise_append.1 sorted
  rcases List.mem_append.1 member with early | late
  · exact early
  · rcases List.mem_cons.1 late with rfl | later
    · exact absurd less (lt_irrefl _)
    · have more : pair.1 < other.1 := (List.pairwise_cons.1 fromHere).1 other later
      exact absurd less (lt_asymm more)

/-- A list without repeated keys holds exactly what its keys look up. -/
theorem mem_iff_find {entries : List (String × Entry)} (distinct : (entries.map (·.1)).Nodup)
    (key : String) (entry : Entry) :
    (key, entry) ∈ entries ↔
      (entries.find? fun pair => pair.1 == key).map (·.2) = some entry := by
  induction entries with
  | nil => simp
  | cons head rest inductionHypothesis =>
      obtain ⟨held, stored⟩ := head
      rw [List.map_cons, List.nodup_cons] at distinct
      by_cases same : held = key
      · subst same
        have absent : (held, entry) ∉ rest := fun member =>
          distinct.1 (List.mem_map.2 ⟨_, member, rfl⟩)
        simp [absent, eq_comm]
      · simpa [List.find?_cons, same, Ne.symm same] using inductionHypothesis distinct.2

/-- A map lists a pair exactly when it finds the entry under the key. -/
theorem mem_entries_iff (map : SortedMap Entry) (key : String) (entry : Entry) :
    (key, entry) ∈ map.entries ↔ map.get? key = some entry :=
  mem_iff_find map.entries_keys_nodup key entry

/-- Maps that answer alike are the same, since the keys fix the order. -/
theorem ext_get {first second : SortedMap Entry}
    (alike : ∀ name, first.get? name = second.get? name) : first = second := by
  have permuted : first.entries.Perm second.entries := by
    refine (List.perm_ext_iff_of_nodup ?_ ?_).2 ?_
    · exact first.entries_keys_nodup.of_map
    · exact second.entries_keys_nodup.of_map
    · rintro ⟨key, entry⟩
      rw [mem_entries_iff, mem_entries_iff, alike]
  have same : first.entries = second.entries := by
    refine permuted.eq_of_pairwise ?_ first.sorted second.sorted
    intro one other _ _ less more
    exact absurd less (lt_asymm more)
  cases first
  cases second
  congr

/-- Pairs with different keys give the same map in any order. -/
theorem ofList_perm {pairs others : List (String × Entry)} (permuted : others.Perm pairs)
    (distinct : (pairs.map (·.1)).Nodup) : ofList others = ofList pairs := by
  apply ext_get
  intro name
  have otherDistinct : (others.map (·.1)).Nodup := (permuted.map _).nodup_iff.2 distinct
  rw [get_ofList, get_ofList]
  apply Option.ext
  intro entry
  rw [← mem_iff_find, ← mem_iff_find, List.mem_reverse, List.mem_reverse, permuted.mem_iff]
  · simpa using distinct
  · simpa using otherDistinct

end SceneCatalog.SortedMap
