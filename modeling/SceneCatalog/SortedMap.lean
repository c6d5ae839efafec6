/-
This file holds maps from strings that list their entries in the order of the keys.
-/

namespace SceneCatalog

/-- Keys ascend in the order of their code points, which is also that of their bytes. -/
structure SortedMap (Entry : Type) where
  entries : List (String × Entry)
  sorted : entries.Pairwise fun first second => first.1 < second.1

namespace SortedMap

variable {Entry : Type}

/-- The entry of the key is updated where it is, or put where it belongs. -/
def place (key : String) (update : Option Entry → Entry) :
    List (String × Entry) → List (String × Entry)
  | [] => [(key, update none)]
  | (held, entry) :: rest =>
    if key < held then (key, update none) :: (held, entry) :: rest
    else if held < key then (held, entry) :: place key update rest
    else (held, update (some entry)) :: rest

/-- Placing an entry brings in no key but its own. -/
theorem keyOfMemPlace {key : String} {update : Option Entry → Entry} {pair : String × Entry} :
    {entries : List (String × Entry)} → pair ∈ place key update entries →
      pair.1 = key ∨ ∃ entry, (pair.1, entry) ∈ entries
  | [], member => by
    simp only [place, List.mem_singleton] at member
    exact .inl (by rw [member])
  | (held, entry) :: rest, member => by
    unfold place at member
    split at member
    · rcases List.mem_cons.1 member with here | later
      · exact .inl (by rw [here])
      · exact .inr ⟨pair.2, later⟩
    · split at member
      · rcases List.mem_cons.1 member with here | later
        · exact .inr ⟨entry, by rw [here]; exact List.mem_cons_self⟩
        · rcases keyOfMemPlace later with same | ⟨old, inRest⟩
          · exact .inl same
          · exact .inr ⟨old, List.mem_cons_of_mem _ inRest⟩
      · rcases List.mem_cons.1 member with here | later
        · exact .inr ⟨entry, by rw [here]; exact List.mem_cons_self⟩
        · exact .inr ⟨pair.2, List.mem_cons_of_mem _ later⟩

/-- Placing an entry keeps the keys strictly ascending. -/
theorem placeSorted {key : String} {update : Option Entry → Entry} :
    {entries : List (String × Entry)} →
      (entries.Pairwise fun first second => first.1 < second.1) →
      (place key update entries).Pairwise fun first second => first.1 < second.1
  | [], _ => by simp [place]
  | (held, entry) :: rest, sorted => by
    have ⟨first, others⟩ := List.pairwise_cons.1 sorted
    unfold place
    split
    · rename_i before
      refine List.pairwise_cons.2 ⟨?_, sorted⟩
      intro pair member
      rcases List.mem_cons.1 member with here | later
      · rw [here]; exact before
      · exact String.lt_trans before (first pair later)
    · split
      · rename_i after
        refine List.pairwise_cons.2 ⟨?_, placeSorted others⟩
        intro pair member
        rcases keyOfMemPlace member with same | ⟨old, inRest⟩
        · rw [same]; exact after
        · exact first (pair.1, old) inRest
      · exact List.pairwise_cons.2 ⟨first, others⟩

def empty : SortedMap Entry := ⟨[], List.Pairwise.nil⟩

def upsert (map : SortedMap Entry) (key : String) (update : Option Entry → Entry) :
    SortedMap Entry :=
  ⟨place key update map.entries, placeSorted map.sorted⟩

/-- A later entry replaces an earlier one of the same key. -/
def insert (map : SortedMap Entry) (key : String) (entry : Entry) : SortedMap Entry :=
  map.upsert key fun _ => entry

def ofList (pairs : List (String × Entry)) : SortedMap Entry :=
  pairs.foldl (fun map pair => map.insert pair.1 pair.2) empty

def get? (map : SortedMap Entry) (key : String) : Option Entry :=
  (map.entries.find? (·.1 == key)).map (·.2)

def contains (map : SortedMap Entry) (key : String) : Bool := map.entries.any (·.1 == key)

def keys (map : SortedMap Entry) : List String := map.entries.map (·.1)

def size (map : SortedMap Entry) : Nat := map.entries.length

end SortedMap

end SceneCatalog
