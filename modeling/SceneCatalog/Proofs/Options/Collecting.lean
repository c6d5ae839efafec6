import Mathlib.Data.List.Dedup
import SceneCatalog.Proofs.Options.LastWins
import SceneCatalog.Proofs.Text.ByteOrder

/-
This file shows that sorting pairs all at once makes the map that inserting them one by one makes,
and what the map of some pairs lists.
-/

namespace SceneCatalog.SortedMap

variable {Entry : Type}

def keyLe (first second : String × Entry) : Bool := decide (first.1 ≤ second.1)

theorem keyLe_trans (first second third : String × Entry) (left : keyLe first second = true)
    (right : keyLe second third = true) : keyLe first third = true := by
  simp only [keyLe, decide_eq_true_eq] at left right ⊢
  exact le_trans left right

theorem keyLe_total (first second : String × Entry) :
    (keyLe first second || keyLe second first) = true := by
  simpa [keyLe] using le_total first.1 second.1

/-- Only the last one of neighbours with the same key is kept. -/
def lastOfEach : List (String × Entry) → List (String × Entry)
  | [] => []
  | [pair] => [pair]
  | first :: second :: rest =>
    if first.1 = second.1 then lastOfEach (second :: rest)
    else first :: lastOfEach (second :: rest)

/-- The pairs of one key already stand in order, so sorting leaves them as they are. -/
theorem filter_mergeSort (pairs : List (String × Entry)) (name : String) :
    (pairs.mergeSort keyLe).filter (·.1 == name) = pairs.filter (·.1 == name) := by
  have ordered : (pairs.filter (·.1 == name)).Pairwise fun first second =>
      keyLe first second = true := by
    apply List.pairwise_of_forall_mem_list
    intro first firstMember second secondMember
    have firstNamed : first.1 = name := by simpa using (List.mem_filter.1 firstMember).2
    have secondNamed : second.1 = name := by simpa using (List.mem_filter.1 secondMember).2
    simp [keyLe, firstNamed, secondNamed]
  have kept := List.sublist_mergeSort keyLe_trans keyLe_total ordered List.filter_sublist
  have inside := kept.filter fun pair => pair.1 == name
  rw [List.filter_filter] at inside
  simp only [Bool.and_self] at inside
  symm
  apply inside.eq_of_length
  exact ((List.mergeSort_perm pairs keyLe).filter _).length_eq.symm

/-- The last pair of each key stand in the order of the pairs. -/
theorem lastOfEach_sublist (pairs : List (String × Entry)) :
    (lastOfEach pairs).Sublist pairs := by
  induction pairs using lastOfEach.induct with
  | case1 => exact .refl _
  | case2 pair => exact .refl _
  | case3 first second rest same inductionHypothesis =>
      rw [lastOfEach, if_pos same]
      exact inductionHypothesis.cons first
  | case4 first second rest different inductionHypothesis =>
      rw [lastOfEach, if_neg different]
      exact inductionHypothesis.cons_cons first

/-- A key that differs from the next one is smaller than all that follow. -/
theorem before_rest {first second : String × Entry} {rest : List (String × Entry)}
    (sorted : (first :: second :: rest).Pairwise fun first second => keyLe first second = true)
    (different : first.1 ≠ second.1) : ∀ pair ∈ second :: rest, first.1 < pair.1 := by
  simp only [keyLe, decide_eq_true_eq] at sorted
  obtain ⟨above, restSorted⟩ := List.pairwise_cons.1 sorted
  have less : first.1 < second.1 := lt_of_le_of_ne (above second List.mem_cons_self) different
  intro pair member
  rcases List.mem_cons.1 member with rfl | later
  · exact less
  · exact lt_of_lt_of_le less ((List.pairwise_cons.1 restSorted).1 pair later)

/-- Among sorted pairs the last ones have strictly ascending keys. -/
theorem lastOfEach_sorted {pairs : List (String × Entry)}
    (sorted : pairs.Pairwise fun first second => keyLe first second = true) :
    (lastOfEach pairs).Pairwise fun first second => first.1 < second.1 := by
  induction pairs using lastOfEach.induct with
  | case1 => exact .nil
  | case2 pair => exact List.pairwise_singleton _ pair
  | case3 first second rest same inductionHypothesis =>
      rw [lastOfEach, if_pos same]
      exact inductionHypothesis sorted.tail
  | case4 first second rest different inductionHypothesis =>
      rw [lastOfEach, if_neg different]
      refine List.pairwise_cons.2 ⟨?_, inductionHypothesis sorted.tail⟩
      intro pair member
      exact before_rest sorted different pair ((lastOfEach_sublist _).subset member)

/-- Dropping a pair never hides the last one of its key. -/
theorem find_lastOfEach {pairs : List (String × Entry)}
    (sorted : pairs.Pairwise fun first second => keyLe first second = true) (name : String) :
    (lastOfEach pairs).find? (fun pair => pair.1 == name) =
      (pairs.filter fun pair => pair.1 == name).getLast? := by
  induction pairs using lastOfEach.induct with
  | case1 => rfl
  | case2 pair =>
      by_cases named : pair.1 = name <;> simp [lastOfEach, named]
  | case3 first second rest same inductionHypothesis =>
      rw [lastOfEach, if_pos same, inductionHypothesis sorted.tail]
      by_cases named : second.1 = name
      · simp [same, named]
      · simp [same, named]
  | case4 first second rest different inductionHypothesis =>
      rw [lastOfEach, if_neg different, List.find?_cons, List.filter_cons]
      by_cases named : first.1 = name
      · have others : (second :: rest).filter (fun pair => pair.1 == name) = [] := by
          rw [List.filter_eq_nil_iff]
          intro pair member
          have less := before_rest sorted different pair member
          rw [named] at less
          simpa using less.ne'
        simp [named, others]
      · have unlike : (first.1 == name) = false := by simpa using named
        simp only [unlike, inductionHypothesis sorted.tail, Bool.false_eq_true, if_false]

/-- The pairs are sorted, those of the same key in the order given, of which the last one stays. -/
def collect (pairs : List (String × Entry)) : SortedMap Entry where
  entries := lastOfEach (pairs.mergeSort keyLe)
  sorted := lastOfEach_sorted (List.pairwise_mergeSort keyLe_trans keyLe_total pairs)

/-- Collecting into a map is sorting and keeping the last pair of each key. -/
theorem collect_eq (pairs : List (String × Entry)) : collect pairs = ofList pairs := by
  apply ext_get
  intro name
  rw [get_ofList, get?, collect,
    find_lastOfEach (List.pairwise_mergeSort keyLe_trans keyLe_total pairs), filter_mergeSort,
    List.getLast?_filter]

/-- The pairs are inserted one after the other. -/
def insertAll (map : SortedMap Entry) (pairs : List (String × Entry)) : SortedMap Entry :=
  pairs.foldl (fun map pair => map.insert pair.1 pair.2) map

/-- Inserting after collecting is collecting all pairs at once. -/
theorem insertAll_ofList (collected inserted : List (String × Entry)) :
    (ofList collected).insertAll inserted = ofList (collected ++ inserted) :=
  List.foldl_append.symm

/-- No pair of the same key stands behind this one. -/
def LastOfKey (pairs : List (String × Entry)) (pair : String × Entry) : Prop :=
  ∃ before after, pairs = before ++ pair :: after ∧ ∀ later ∈ after, later.1 ≠ pair.1

/-- The last pair of a key is the first one found from the end. -/
theorem lastOfKey_iff_find {pairs : List (String × Entry)} {pair : String × Entry} :
    LastOfKey pairs pair ↔ pairs.reverse.find? (·.1 == pair.1) = some pair := by
  rw [List.find?_eq_some_iff_append]
  constructor
  · rintro ⟨before, after, rfl, others⟩
    refine ⟨beq_self_eq_true _, after.reverse, before.reverse, by simp, ?_⟩
    simpa using others
  · rintro ⟨_, behind, front, reversed, others⟩
    refine ⟨front.reverse, behind.reverse, ?_, by simpa using others⟩
    rw [← List.reverse_reverse pairs, reversed]
    simp

/-- A collected map lists the last pair of each key and nothing else. -/
theorem mem_entries_ofList {pairs : List (String × Entry)} {pair : String × Entry} :
    pair ∈ (ofList pairs).entries ↔ LastOfKey pairs pair := by
  obtain ⟨key, entry⟩ := pair
  rw [mem_entries_iff, get_ofList, lastOfKey_iff_find, Option.map_eq_some_iff]
  constructor
  · rintro ⟨⟨held, stored⟩, found, rfl⟩
    obtain rfl : held = key := by simpa using List.find?_some found
    exact found
  · exact fun found => ⟨_, found, rfl⟩

theorem mem_keys_ofList {pairs : List (String × Entry)} {key : String} :
    key ∈ (ofList pairs).keys ↔ key ∈ pairs.map (·.1) := by
  have found : (pairs.reverse.find? (·.1 == key)).isSome ↔ key ∈ pairs.map (·.1) := by
    simp
  rw [← found, keys, List.mem_map]
  constructor
  · rintro ⟨pair, member, rfl⟩
    rw [lastOfKey_iff_find.1 (mem_entries_ofList.1 member)]
    rfl
  · intro some
    obtain ⟨pair, here⟩ := Option.isSome_iff_exists.1 some
    obtain rfl : pair.1 = key := by simpa using List.find?_some here
    exact ⟨pair, mem_entries_ofList.2 (lastOfKey_iff_find.2 here), rfl⟩

/-- A map that pairs are collected in and others are inserted into lists every key once, in the
order of bytes, with the entry of its last pair. -/
theorem entries_insertAll_collect (collected inserted : List (String × Entry)) :
    (((collect collected).insertAll inserted).keys.Pairwise fun first second =>
        Text.bytes first < Text.bytes second) ∧
      (∀ key, ((collect collected).insertAll inserted).keys.count key =
        if key ∈ (collected ++ inserted).map (·.1) then 1 else 0) ∧
      (∀ pair, pair ∈ ((collect collected).insertAll inserted).entries ↔
        LastOfKey (collected ++ inserted) pair) ∧
      ((collect collected).insertAll inserted).size =
        ((collected ++ inserted).map (·.1)).dedup.length ∧
      collect collected = empty.insertAll collected := by
  have built : (collect collected).insertAll inserted = ofList (collected ++ inserted) := by
    rw [collect_eq, insertAll_ofList]
  rw [built]
  generalize collected ++ inserted = pairs
  have distinct : (ofList pairs).keys.Nodup := entries_keys_nodup _
  refine ⟨?_, ?_, fun pair => mem_entries_ofList, ?_, collect_eq collected⟩
  · rw [keys, List.pairwise_map]
    exact (ofList pairs).sorted.imp fun less => (Text.bytes_lt_iff _ _).2 less
  · intro key
    simp only [distinct.count, mem_keys_ofList]
  · have same : (ofList pairs).keys.Perm (pairs.map (·.1)).dedup := by
      rw [List.perm_ext_iff_of_nodup distinct (List.nodup_dedup _)]
      intro key
      rw [mem_keys_ofList, List.mem_dedup]
    rw [← same.length_eq, keys, List.length_map, size]

end SceneCatalog.SortedMap
