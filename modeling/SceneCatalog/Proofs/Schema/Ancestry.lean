import Mathlib.Data.List.Chain
import Mathlib.Data.List.Dedup
import Mathlib.Data.List.Perm.Subperm
import SceneCatalog.Proofs.Catalog.Lines
import SceneCatalog.Proofs.Schema.Review

/-
This file shows that the way from a class to its ancestors ends in every catalog, where it ends, and
that it ends at a class without a superclass in catalogs without faults.
-/

namespace SceneCatalog.Catalog

variable {tables : Catalog}

/-- A walk to the ancestors of a class: the classes met so far, and the one to look at next. -/
structure Walk where
  met : List ClassTable
  next : Option ClassTable

namespace Walk

def start (tables : Catalog) (name : String) : Walk := ⟨[], tables.find? name⟩

/-- One turn meets the next class and looks at its superclass. There is none at the end of the
line, nor at a class that was met before. -/
def turn? (tables : Catalog) (walk : Walk) : Option Walk :=
  match walk.next with
  | none => none
  | some table =>
    if table.name ∈ walk.met.map (·.name) then none
    else some ⟨walk.met ++ [table], table.superclass.bind tables.find?⟩

/-- So many turns lead from one walk to another. -/
inductive Turns (tables : Catalog) : Nat → Walk → Walk → Prop where
  | none (walk : Walk) : Turns tables 0 walk walk
  | more {turns : Nat} {walk further last : Walk} (turned : walk.turn? tables = some further)
      (rest : Turns tables turns further last) : Turns tables (turns + 1) walk last

/-- A walk takes a turn when its next table is there and has not been met. -/
theorem turn_eq_some_iff {walk further : Walk} :
    walk.turn? tables = some further ↔
      ∃ table, walk.next = some table ∧ table.name ∉ walk.met.map (·.name) ∧
        further = ⟨walk.met ++ [table], table.superclass.bind tables.find?⟩ := by
  obtain ⟨met, next⟩ := walk
  cases next with
  | none => simp [turn?]
  | some table => simp [turn?, eq_comm]

/-- A walk stops at the end of a line, or where it would meet a name again. -/
theorem turn_eq_none_iff {walk : Walk} :
    walk.turn? tables = none ↔
      walk.next = none ∨ ∃ table, walk.next = some table ∧ table.name ∈ walk.met.map (·.name) := by
  obtain ⟨met, next⟩ := walk
  cases next with
  | none => simp [turn?]
  | some table => simp [turn?]

/-- What holds of every walk from a class: no class is met twice, each is the superclass of the one
before it, and so is the next one. -/
structure Upward (tables : Catalog) (name : String) (walk : Walk) : Prop where
  distinct : (walk.met.map (·.name)).Nodup
  found : ∀ table ∈ walk.met, tables.find? table.name = some table
  linked : walk.met.IsChain fun lower upper => lower.superclass = some upper.name
  first : walk.met.head?.or walk.next = tables.find? name
  next : ∀ last, walk.met.getLast? = some last → walk.next = last.superclass.bind tables.find?

theorem Upward.start (tables : Catalog) (name : String) :
    Upward tables name (Walk.start tables name) where
  distinct := List.nodup_nil
  found := List.forall_mem_nil _
  linked := .nil
  first := rfl
  next := nofun

/-- The class to look at next is one that a search has found. -/
theorem Upward.next_found {name : String} {walk : Walk} (upward : Upward tables name walk)
    {table : ClassTable} (here : walk.next = some table) :
    tables.find? table.name = some table := by
  have searched : ∃ sought, tables.find? sought = some table := by
    cases last : walk.met.getLast? with
    | none =>
        have first := upward.first
        rw [List.getLast?_eq_none_iff.1 last] at first
        exact ⟨name, first.symm.trans here⟩
    | some lower =>
        have above := upward.next lower last
        rw [here] at above
        obtain ⟨sought, _, found⟩ := Option.bind_eq_some_iff.1 above.symm
        exact ⟨sought, found⟩
  obtain ⟨sought, found⟩ := searched
  rw [(find_mem found).2]
  exact found

/-- A turn keeps it. -/
theorem Upward.turn {name : String} {walk further : Walk} (upward : Upward tables name walk)
    (turned : walk.turn? tables = some further) : Upward tables name further := by
  obtain ⟨table, here, fresh, rfl⟩ := turn_eq_some_iff.1 turned
  refine ⟨?_, ?_, ?_, ?_, ?_⟩
  · rw [List.map_append, List.map_singleton, ← List.concat_eq_append]
    exact upward.distinct.concat fresh
  · intro other member
    rcases List.mem_append.1 member with earlier | now
    · exact upward.found other earlier
    · obtain rfl := List.mem_singleton.1 now
      exact upward.next_found here
  · refine upward.linked.append (.singleton table) ?_
    intro lower last upper now
    obtain rfl := Option.some.inj now
    have above := upward.next lower last
    rw [here] at above
    obtain ⟨sought, extended, found⟩ := Option.bind_eq_some_iff.1 above.symm
    rw [extended, (find_mem found).2]
  · rw [← upward.first, here]
    cases walk.met <;> rfl
  · intro last atEnd
    rw [List.getLast?_concat] at atEnd
    rw [Option.some.inj atEnd]

/-- A walk that goes upward still does after any number of turns. -/
theorem Upward.turns {name : String} {turns : Nat} {walk last : Walk}
    (upward : Upward tables name walk) (turned : Turns tables turns walk last) :
    Upward tables name last := by
  induction turned with
  | none walk => exact upward
  | more turned _ inductionHypothesis => exact inductionHypothesis (upward.turn turned)

/-- The different names of a catalog bound the classes met, and are all met with as many. -/
theorem Upward.names_subperm {name : String} {walk : Walk} (upward : Upward tables name walk) :
    (walk.met.map (·.name)).Subperm (tables.map (·.name)).dedup := by
  apply List.Nodup.subperm upward.distinct
  intro met member
  obtain ⟨table, inMet, rfl⟩ := List.mem_map.1 member
  rw [List.mem_dedup]
  exact List.mem_map_of_mem (find_mem (upward.found table inMet)).1

/-- Climbing with as many steps as names are left takes all turns that there are. -/
theorem Upward.climb {name : String} {walk : Walk} (upward : Upward tables name walk)
    {steps : Nat} (seen : List String) (known : ∀ met, met ∈ seen ↔ met ∈ walk.met.map (·.name))
    (enough : (tables.map (·.name)).dedup.length ≤ walk.met.length + steps) :
    ∃ last, Turns tables (tables.climb steps seen walk.next).length walk last ∧
      last.turn? tables = none ∧ last.met = walk.met ++ tables.climb steps seen walk.next := by
  induction steps generalizing walk seen with
  | zero =>
      refine ⟨walk, .none walk, ?_, (List.append_nil _).symm⟩
      -- All names have been met, the next one among them.
      have all : (walk.met.map (·.name)).Perm (tables.map (·.name)).dedup := by
        apply List.Subperm.perm_of_length_le upward.names_subperm
        rwa [List.length_map]
      rw [turn_eq_none_iff]
      cases here : walk.next with
      | none => exact .inl rfl
      | some table =>
          refine .inr ⟨table, rfl, ?_⟩
          rw [all.mem_iff, List.mem_dedup]
          exact List.mem_map_of_mem (find_mem (upward.next_found here)).1
  | succ steps inductionHypothesis =>
      cases here : walk.next with
      | none =>
          exact ⟨walk, .none walk, turn_eq_none_iff.2 (.inl here), (List.append_nil _).symm⟩
      | some table =>
          rw [Catalog.climb]
          by_cases before : table.name ∈ walk.met.map (·.name)
          · rw [if_pos (by simpa using (known table.name).2 before)]
            exact ⟨walk, .none walk, turn_eq_none_iff.2 (.inr ⟨table, here, before⟩),
              (List.append_nil _).symm⟩
          · rw [if_neg (by simpa using mt (known table.name).1 before)]
            have turned : walk.turn? tables =
                some ⟨walk.met ++ [table], table.superclass.bind tables.find?⟩ :=
              turn_eq_some_iff.2 ⟨table, here, before, rfl⟩
            obtain ⟨last, rest, ended, met⟩ := inductionHypothesis (upward.turn turned)
              (table.name :: seen) (by simp [known, or_comm])
              (by rw [List.length_append, List.length_singleton]; omega)
            refine ⟨last, .more turned rest, ended, ?_⟩
            rw [met, List.append_assoc, List.singleton_append]

end Walk

/-- The walk from a class meets the tables of its line, in as many turns. -/
theorem exists_walk (tables : Catalog) (name : String) :
    ∃ last, Walk.Turns tables (tables.lineage name).length (Walk.start tables name) last ∧
      last.turn? tables = none ∧ last.met = tables.lineage name ∧ last.Upward tables name := by
  have upward := Walk.Upward.start tables name
  have enough : (tables.map (·.name)).dedup.length ≤ 0 + tables.length := by
    rw [Nat.zero_add, ← List.length_map (fun table : ClassTable => table.name)]
    exact (List.dedup_sublist _).length_le
  obtain ⟨last, turned, ended, met⟩ := upward.climb [] (by simp [Walk.start]) enough
  exact ⟨last, turned, ended, met, upward.turns turned⟩

theorem find_eq_none_iff {name : String} :
    tables.find? name = none ↔ name ∉ tables.map (·.name) := by
  simp [find?]

/-- A line that does not end at a class without a superclass ends below an unknown class or below
one of its own. -/
theorem Walk.Upward.ending {name : String} {walk : Walk} (upward : walk.Upward tables name)
    (ended : walk.turn? tables = none) {root : ClassTable}
    (last : walk.met.getLast? = some root) {superclass : String}
    (extended : root.superclass = some superclass) :
    superclass ∉ tables.map (·.name) ∨ ∃ table ∈ walk.met, table.name = superclass := by
  have above := upward.next root last
  rw [extended, Option.bind_some] at above
  rcases turn_eq_none_iff.1 ended with none | ⟨table, here, met⟩
  · exact .inl (find_eq_none_iff.1 (above.symm.trans none))
  · obtain ⟨same, member, named⟩ := List.mem_map.1 met
    refine .inr ⟨same, member, named.trans ?_⟩
    exact (find_mem (above.symm.trans here)).2

/-- The place of the first class that has the name. -/
def place (tables : Catalog) (name : String) : Nat := (tables.map (·.name)).idxOf name

/-- A superclass stands at an earlier place than the classes that extend it. -/
theorem WellFormed.place_lt (wellFormed : tables.WellFormed) {table : ClassTable}
    (member : table ∈ tables) {superclass : String}
    (extended : table.superclass = some superclass) :
    superclass ∈ tables.map (·.name) ∧ tables.place superclass < tables.place table.name := by
  have placed {index : Nat} {table : ClassTable} (here : tables[index]? = some table) :
      tables.place table.name = index := by
    have named : (tables.map (·.name))[index]? = some table.name := by simp [here]
    obtain ⟨inside, same⟩ := List.getElem?_eq_some_iff.1 named
    rw [place, ← same]
    exact wellFormed.distinct.idxOf_getElem index inside
  obtain ⟨index, here⟩ := List.mem_iff_getElem?.1 member
  obtain ⟨earlier, parent, before, there, rfl, _⟩ :=
    wellFormed.superclasses index table superclass here extended
  rw [placed here, placed there]
  exact ⟨List.mem_map_of_mem (List.mem_of_getElem? there), before⟩

/-- The last class of a line stands first in the catalog. -/
theorem WellFormed.place_le (wellFormed : tables.WellFormed) {name : String} {walk : Walk}
    (upward : walk.Upward tables name) {root table : ClassTable}
    (last : walk.met.getLast? = some root) (member : table ∈ walk.met) :
    tables.place root.name ≤ tables.place table.name := by
  have downward : walk.met.Pairwise fun lower upper =>
      tables.place upper.name < tables.place lower.name := by
    have trans : IsTrans ClassTable fun lower upper =>
        tables.place upper.name < tables.place lower.name :=
      ⟨fun _ _ _ first second => Nat.lt_trans second first⟩
    rw [← List.isChain_iff_pairwise]
    refine List.IsChain.imp_of_mem_imp ?_ upward.linked
    intro lower upper inLine _ extended
    exact (wellFormed.place_lt (find_mem (upward.found lower inLine)).1 extended).2
  obtain ⟨front, met⟩ := List.getLast?_eq_some_iff.1 last
  rw [met] at downward member
  rcases List.mem_append.1 member with earlier | now
  · exact Nat.le_of_lt ((List.pairwise_append.1 downward).2.2 table earlier root (.head _))
  · rw [List.mem_singleton.1 now]

/-- So the walk ends at a class without a superclass. -/
theorem WellFormed.top (wellFormed : tables.WellFormed) {name : String} {walk : Walk}
    (upward : walk.Upward tables name) (ended : walk.turn? tables = none) {root : ClassTable}
    (last : walk.met.getLast? = some root) : root.superclass = none := by
  by_contra extended
  obtain ⟨superclass, extended⟩ := Option.ne_none_iff_exists'.1 extended
  have inside := (find_mem (upward.found root (List.mem_of_getLast? last))).1
  obtain ⟨named, before⟩ := wellFormed.place_lt inside extended
  rcases upward.ending ended last extended with unknown | ⟨table, member, rfl⟩
  · exact unknown named
  · exact absurd before (Nat.not_lt_of_le (wellFormed.place_le upward last member))

/-- What the line of a class is. It takes as many turns as it has classes, which are no more than
there are names in the catalog. It begins with the class and goes on from superclass to superclass,
without meeting a class twice, to a class without a superclass, below an unknown class or below a
class of its own. Without faults in the catalog it ends at a class without a superclass. -/
structure Ascends (tables : Catalog) (name : String) (line : List ClassTable) : Prop where
  turns : ∃ last, Walk.Turns tables line.length (Walk.start tables name) last ∧
    last.turn? tables = none ∧ last.met = line
  short : line.length ≤ (tables.map (·.name)).dedup.length
  distinct : (line.map (·.name)).Nodup
  empty : line = [] ↔ name ∉ tables.map (·.name)
  begins : ∀ own rest, line = own :: rest → own.name = name
  found : ∀ table ∈ line, tables.find? table.name = some table
  linked : line.IsChain fun lower upper => lower.superclass = some upper.name
  ends : ∀ root superclass, line.getLast? = some root → root.superclass = some superclass →
    superclass ∉ tables.map (·.name) ∨ superclass ∈ line.map (·.name)
  rooted : tables.review = .ok () → name ∈ tables.map (·.name) →
    ∃ root, line.getLast? = some root ∧ root.superclass = none

/-- The line that is climbed is such a line, in every catalog and for every name. -/
theorem lineage_upward (tables : Catalog) (name : String) :
    Ascends tables name (tables.lineage name) := by
  obtain ⟨last, turned, ended, met, upward⟩ := exists_walk tables name
  have short := upward.names_subperm.length_le
  have empty : last.met = [] ↔ name ∉ tables.map (·.name) := by
    rw [← find_eq_none_iff, ← upward.first]
    constructor
    · intro none
      rcases Walk.turn_eq_none_iff.1 ended with absent | ⟨table, _, member⟩
      · rw [none, absent]
        rfl
      · simp [none] at member
    · intro unknown
      exact List.head?_eq_none_iff.1 (Option.or_eq_none_iff.1 unknown).1
  rw [List.length_map] at short
  rw [← met] at turned ⊢
  constructor
  case turns => exact ⟨last, turned, ended, rfl⟩
  case short => exact short
  case distinct => exact upward.distinct
  case empty => exact empty
  case begins =>
    intro own rest begins
    have first := upward.first
    rw [begins] at first
    exact (find_mem first.symm).2
  case found => exact upward.found
  case linked => exact upward.linked
  case ends =>
    intro root superclass atEnd extended
    refine (upward.ending ended atEnd extended).imp_right ?_
    rintro ⟨table, member, rfl⟩
    exact List.mem_map_of_mem member
  case rooted =>
    intro silent known
    have atEnd := List.getLast?_eq_some_getLast fun none : last.met = [] => empty.1 none known
    exact ⟨_, atEnd, (WellFormed.of_review silent).top upward ended atEnd⟩

/-- A class that extends nothing. -/
def body : ClassTable where
  location := ⟨"tables", "BODY"⟩
  name := "Body"

/-- A class that extends it. -/
def planet : ClassTable where
  location := ⟨"tables", "PLANET"⟩
  name := "Planet"
  superclass := some "Body"

/-- A class that extends another class of its own line. -/
def moon : ClassTable where
  location := ⟨"tables", "MOON"⟩
  name := "Moon"
  superclass := some "Moon"

theorem lineage_upward_planet :
    Catalog.review [body, planet] = .ok () ∧
      "Planet" ∈ List.map (·.name) [body, planet] ∧
      ∃ lower root, Catalog.lineage [body, planet] "Planet" = [lower, root] ∧
        lower.name = "Planet" ∧ lower.superclass = some root.name ∧ root.superclass = none := by
  have silent : Catalog.review [body, planet] = .ok () := by
    rw [Catalog.review, Issues.result, if_pos (by decide)]
  have member : "Planet" ∈ List.map (·.name) [body, planet] := by decide
  have line : Catalog.lineage [body, planet] "Planet" = [planet, body] := by rfl
  have ascends := lineage_upward [body, planet] "Planet"
  rw [line] at ascends
  obtain ⟨root, last, top⟩ := ascends.rooted silent member
  obtain rfl : body = root := Option.some.inj last
  exact ⟨silent, member, planet, body, line, ascends.begins planet [body] rfl,
    (List.isChain_cons_cons.1 ascends.linked).1, top⟩

/-- The line of a class that extends itself ends there. -/
example : (Catalog.lineage [moon, body] "Moon").map (·.name) = ["Moon"] := by decide

end SceneCatalog.Catalog
