import SceneCatalog.Proofs.Scene.Dependence

/-
This file compares the texts of objects that differ in one attribute by their sizes.
-/

namespace SceneCatalog

open Markup

namespace Markup

/-- The bytes of the lines, with a line end behind each. -/
def bytes : List String → Nat
  | [] => 0
  | text :: rest => text.utf8ByteSize + 1 + bytes rest

def size (stops : Nat) (markups : List Markup) : Nat := bytes (writeAll stops markups)

theorem bytes_append (first second : List String) :
    bytes (first ++ second) = bytes first + bytes second := by
  induction first with
  | nil => exact (Nat.zero_add _).symm
  | cons line rest inductionHypothesis =>
      rw [List.cons_append, bytes, bytes, inductionHypothesis, Nat.add_assoc _ (bytes rest)]

theorem size_append (stops : Nat) (first second : List Markup) :
    size stops (first ++ second) = size stops first + size stops second := by
  rw [size, writeAll_append, bytes_append]
  rfl

theorem size_cons_pos (stops : Nat) (markup : Markup) (rest : List Markup) :
    0 < size stops (markup :: rest) := by
  rw [size, writeAll, bytes]
  omega

/-- Lines are joined with one line end less than they have lines. -/
theorem bytes_intercalate (line : String) (rest : List String) :
    ("\n".intercalate (line :: rest)).utf8ByteSize + 1 = bytes (line :: rest) := by
  induction rest generalizing line with
  | nil => simp [bytes]
  | cons next rest inductionHypothesis =>
      have lineEnd : "\n".utf8ByteSize = 1 := rfl
      rw [String.intercalate_cons_cons, String.utf8ByteSize_append, String.utf8ByteSize_append,
        lineEnd, bytes, ← inductionHypothesis]
      omega

/-- Blocks with larger bodies are larger. -/
theorem size_inner_mono {stops least : Nat} {body other : List Markup}
    (larger : size (stops + 1) body + least ≤ size (stops + 1) other) :
    (inner stops body).utf8ByteSize + least ≤ (inner stops other).utf8ByteSize := by
  have bytes (markup : Markup) (rest : List Markup) :
      (inner stops (markup :: rest)).utf8ByteSize =
        size (stops + 1) (markup :: rest) + 1 + (tab stops).utf8ByteSize := by
    have lineEnd : "\n".utf8ByteSize = 1 := rfl
    have lines := bytes_intercalate (write (stops + 1) markup) (writeAll (stops + 1) rest)
    rw [inner, size, writeAll, ← lines]
    dsimp only
    rw [String.utf8ByteSize_append, String.utf8ByteSize_append, String.utf8ByteSize_append, lineEnd]
    omega
  have empty : (inner stops []).utf8ByteSize = 1 := rfl
  have none : size (stops + 1) [] = 0 := rfl
  cases body with
  | nil =>
      cases other with
      | nil => omega
      | cons markup rest =>
          rw [bytes]
          omega
  | cons markup rest =>
      have positive := size_cons_pos (stops + 1) markup rest
      cases other with
      | nil => omega
      | cons second others =>
          rw [bytes, bytes]
          omega

/-- A block grows with its body. -/
theorem size_block_mono {stops least : Nat} {comment : Option String} {keyword longer : String}
    (keywords : keyword.utf8ByteSize ≤ longer.utf8ByteSize) {body other : List Markup}
    (larger : size (stops + 1) body + least ≤ size (stops + 1) other) :
    (write stops (.block comment keyword body)).utf8ByteSize + least ≤
      (write stops (.block comment longer other)).utf8ByteSize := by
  have inside := size_inner_mono larger
  rw [write_block, write_block]
  simp only [String.utf8ByteSize_append]
  omega

end Markup

/-- Both are written, and the second is larger by so many bytes or more. -/
def Gains (stops least : Nat) (result other : Except SceneError (List Markup)) : Prop :=
  ∃ entries others, result = .ok entries ∧ other = .ok others ∧
    size stops entries + least ≤ size stops others

namespace Gains

variable {stops : Nat}

theorem weaken {result other : Except SceneError (List Markup)} {least : Nat}
    (gains : Gains stops least result other) : Gains stops 0 result other := by
  obtain ⟨entries, others, written, otherWritten, larger⟩ := gains
  exact ⟨entries, others, written, otherWritten, by omega⟩

theorem same {result : Except SceneError (List Markup)} {entries : List Markup}
    (written : result = .ok entries) : Gains stops 0 result result :=
  ⟨entries, entries, written, written, Nat.le_refl _⟩

/-- The gains of two parts add up. -/
theorem append {result other following otherFollowing : Except SceneError (List Markup)}
    {least further : Nat} (first : Gains stops least result other)
    (second : Gains stops further following otherFollowing) :
    Gains stops (least + further) (do return (← result) ++ (← following))
      (do return (← other) ++ (← otherFollowing)) := by
  obtain ⟨entries, others, rfl, rfl, larger⟩ := first
  obtain ⟨rest, otherRest, rfl, rfl, restLarger⟩ := second
  refine ⟨entries ++ rest, others ++ otherRest, rfl, rfl, ?_⟩
  rw [size_append, size_append]
  omega

/-- What none of the items loses, all together do not lose, and they gain what one of them gains. -/
theorem flatten {Item : Type} {items : List Item} {least : Nat}
    {make other : Item → Except SceneError (List Markup)}
    (each : ∀ item ∈ items, Gains stops 0 (make item) (other item))
    (enough : least = 0 ∨ ∃ item ∈ items, Gains stops least (make item) (other item)) :
    Gains stops least ((items.mapM make).map List.flatten)
      ((items.mapM other).map List.flatten) := by
  have cons (make : Item → Except SceneError (List Markup)) (first : Item) (rest : List Item) :
      ((first :: rest).mapM make).map List.flatten =
        (do return (← make first) ++ (← (rest.mapM make).map List.flatten)) := by
    rw [List.mapM_cons]
    cases make first with
    | error error => rfl
    | ok above => cases rest.mapM make <;> rfl
  induction items generalizing least with
  | nil =>
      obtain rfl : least = 0 := by simpa using enough
      exact same rfl
  | cons item rest inductionHypothesis =>
      obtain ⟨here, later⟩ := List.forall_mem_cons.1 each
      rw [cons, cons]
      rcases enough with rfl | ⟨gainer, member, gains⟩
      · exact here.append (inductionHypothesis later (.inl rfl))
      · rcases List.mem_cons.1 member with rfl | inRest
        · exact gains.append (inductionHypothesis later (.inl rfl))
        · have rests := inductionHypothesis later (.inr ⟨gainer, inRest, gains⟩)
          simpa only [Nat.zero_add] using here.append rests

/-- A switch that is off hides what would be gained. -/
theorem whileOn {least : Nat} {result other : Except SceneError (List Markup)}
    (gains : Gains stops least result other) {on : Prop} [Decidable on]
    (enough : least = 0 ∨ on) :
    Gains stops least (if on then result else .ok []) (if on then other else .ok []) := by
  split
  · exact gains
  · rename_i off
    obtain rfl := enough.resolve_right off
    exact same rfl

end Gains

/-- The comparison can be carried out. -/
def gains (stops least : Nat) : (result other : Except SceneError (List Markup)) → Bool
  | .ok entries, .ok others => decide (size stops entries + least ≤ size stops others)
  | _, _ => false

/-- The comparison is carried out by the Boolean test. -/
theorem gains_iff {stops least : Nat} {result other : Except SceneError (List Markup)} :
    gains stops least result other = true ↔ Gains stops least result other := by
  cases result <;> cases other <;> simp [gains, Gains]

/-- Nothing becomes something. -/
def opens : (result other : Except SceneError (List Markup)) → Bool
  | .ok [], .ok (_ :: _) => true
  | _, _ => false

/-- When nothing becomes something, something is gained. -/
theorem Gains.of_opens {result other : Except SceneError (List Markup)}
    (opened : opens result other = true) (stops : Nat) : Gains stops 1 result other := by
  unfold opens at opened
  split at opened
  · rename_i markup rest
    exact ⟨[], markup :: rest, rfl, rfl, by
      rw [Nat.add_comm]
      exact size_cons_pos stops markup rest⟩
  · contradiction

/-! An attribute is compared where it is read: its clauses are written for both objects, and its
switches open their sections. -/

section Comparison

variable (className name : String) (first second : Object)

def Clause.keeps (stops : Nat) (clause : Clause) : Bool :=
  !(clause.reads className).contains name ||
    gains stops 0 (clause.write Object.markup first) (clause.write Object.markup second)

/-- How deep the clauses of the section stand in blocks. -/
def Section.depth : Section → Nat
  | always _ => 1
  | whileOn _ _ => 1
  | blockWhileOn _ _ _ => 2

def Section.isOpen (object : Object) (part : Section) : Bool :=
  part.switches.all fun switch => object.flag? switch == some true

def Section.keeps (part : Section) : Bool :=
  if part.switches.contains name then
    opens (part.write Object.markup first) (part.write Object.markup second)
  else part.clauses.all (Clause.keeps className name first second part.depth)

def Section.grows (part : Section) : Bool :=
  part.switches.contains name ||
    part.clauses.any fun clause => (clause.reads className).contains name && part.isOpen first &&
      gains part.depth 1 (clause.write Object.markup first) (clause.write Object.markup second)

/-- The text of the second object is larger. -/
def Layout.grows (layout : Layout) : Bool :=
  layout.sections.any (Section.grows className name first second) &&
    layout.sections.all (Section.keeps className name first second) &&
    decide ((layout.keyword first).utf8ByteSize ≤ (layout.keyword second).utf8ByteSize)

end Comparison

/-- The block is larger if its body is. -/
theorem Gains.block {least : Nat} {result other : Except SceneError (List Markup)}
    (gains : Gains 2 least result other) (keyword : String) :
    Gains 1 least (result.map fun body => [.block none keyword body])
      (other.map fun body => [.block none keyword body]) := by
  obtain ⟨entries, others, rfl, rfl, larger⟩ := gains
  refine ⟨_, _, rfl, rfl, ?_⟩
  have inside : (write 1 (.block none keyword entries)).utf8ByteSize + least ≤
      (write 1 (.block none keyword others)).utf8ByteSize :=
    size_block_mono (Nat.le_refl _) larger
  simp only [size, writeAll, bytes]
  omega

section Soundness

variable {className name : String} {first second : Object} {layout : Layout}
  (laid : (className, layout) ∈ Layout.ofBlocks) (sameClass : first.className = second.className)
  (others : ∀ other, other ≠ name → first.value? other = second.value? other)
  {part : Section} (partMember : part ∈ layout.sections)

include sameClass others in
/-- Objects that differ in one attribute are alike in all others. -/
theorem Object.alike_of_others {names : List String} (unread : name ∉ names)
    (writer : NodeWriter) : first.Alike names writer writer second :=
  alike_of_reads sameClass (fun other member => others other fun same => unread (same ▸ member))
    writer

include laid sameClass others partMember

/-- A clause that does not read the attribute is written the same. -/
theorem Clause.write_unread {clause : Clause} (member : clause ∈ part.clauses)
    (unread : name ∉ clause.reads className) :
    clause.write Object.markup first = clause.write Object.markup second := by
  have alike := Object.alike_of_others sameClass others unread Object.markup
  apply Clause.write_congr alike.mirrors
  rintro compose rfl
  apply Layout.composer_congr laid _ alike.mirrors
  exact List.mem_flatMap.2 ⟨part, partMember, List.mem_filterMap.2 ⟨_, member, rfl⟩⟩

/-- A clause that passes the test loses nothing. -/
theorem Clause.gains_of_keeps {clause : Clause} (member : clause ∈ part.clauses)
    (written : name ∉ clause.reads className →
      ∃ entries, clause.write Object.markup first = .ok entries)
    (keeps : clause.keeps className name first second part.depth = true) :
    Gains part.depth 0 (clause.write Object.markup first) (clause.write Object.markup second) := by
  by_cases read : name ∈ clause.reads className
  · rw [Clause.keeps, List.contains_iff_mem.2 read, Bool.not_true, Bool.false_or] at keeps
    exact gains_iff.1 keeps
  · obtain ⟨entries, there⟩ := written read
    rw [← Clause.write_unread laid sameClass others partMember member read]
    exact Gains.same there

/-- A section that a switch opens is larger than before, and any other is as large as its clauses
make it. -/
theorem Section.gains_of_keeps
    (written : ∀ clause ∈ part.clauses, name ∉ clause.reads className →
      ∃ entries, clause.write Object.markup first = .ok entries)
    (keeps : part.keeps className name first second = true) {least : Nat}
    (enough : least = 0 ∨ least = 1 ∧ part.grows className name first second = true) :
    Gains 1 least (part.write Object.markup first) (part.write Object.markup second) := by
  rw [Section.keeps] at keeps
  split at keeps
  · have opened := Gains.of_opens keeps 1
    rcases enough with rfl | ⟨rfl, _⟩
    · exact opened.weaken
    · exact opened
  · rename_i unswitched
    rw [List.contains_iff_mem] at unswitched
    have each : ∀ clause ∈ part.clauses, Gains part.depth 0
        (clause.write Object.markup first) (clause.write Object.markup second) :=
      fun clause member => Clause.gains_of_keeps laid sameClass others partMember member
        (written clause member) (List.all_eq_true.1 keeps clause member)
    have grown : least = 0 ∨ part.isOpen first = true ∧ ∃ clause ∈ part.clauses,
        Gains part.depth least (clause.write Object.markup first)
          (clause.write Object.markup second) := by
      apply enough.imp_right
      rintro ⟨rfl, grows⟩
      rw [Section.grows, Bool.or_eq_true, List.contains_iff_mem, or_iff_right unswitched] at grows
      obtain ⟨clause, member, gained⟩ := List.any_eq_true.1 grows
      rw [Bool.and_eq_true, Bool.and_eq_true] at gained
      exact ⟨gained.1.2, clause, member, gains_iff.1 gained.2⟩
    have clauses : Gains part.depth least (Clause.writeAll Object.markup first part.clauses)
        (Clause.writeAll Object.markup second part.clauses) := by
      rw [Clause.writeAll_eq, Clause.writeAll_eq]
      exact Gains.flatten each (grown.imp_right And.right)
    have sameFlag (switch : String) (inside : switch ∈ part.switches) :
        first.flag? switch = second.flag? switch := by
      rw [Object.flag?, Object.flag?, others switch fun same => unswitched (same ▸ inside)]
    cases part with
    | always _ => exact clauses
    | whileOn switch _ =>
        rw [Section.write, Section.write, ← sameFlag switch (.head _)]
        exact clauses.whileOn (grown.imp_right fun found =>
          List.all_eq_true.1 found.1 switch (.head _))
    | blockWhileOn switch keyword _ =>
        rw [Section.write, Section.write, ← sameFlag switch (.head _)]
        exact (clauses.block keyword).whileOn (grown.imp_right fun found =>
          List.all_eq_true.1 found.1 switch (.head _))

omit partMember in
/-- Objects without identifiers that differ in one attribute have different texts if the comparison
says so. -/
theorem Layout.texts_of_grows (firstRequired : first.requireOwn = .ok ())
    (secondRequired : second.requireOwn = .ok ()) (notId : name ≠ "id")
    (bare : first.value? "id" = none)
    (written : ∀ part ∈ layout.sections, ∀ clause ∈ part.clauses, name ∉ clause.reads className →
      ∃ entries, clause.write Object.markup first = .ok entries)
    (grows : layout.grows className name first second = true) :
    ∃ block other, first.writeAs layout Object.markup = .ok block ∧
      second.writeAs layout Object.markup = .ok other ∧ block.write 0 ≠ other.write 0 := by
  simp only [Layout.grows, Bool.and_eq_true, decide_eq_true_eq, List.all_eq_true,
    List.any_eq_true] at grows
  obtain ⟨⟨⟨gainer, gainerMember, gained⟩, keeps⟩, keywords⟩ := grows
  have body : Gains 1 1 (Section.writeAll Object.markup first layout.sections)
      (Section.writeAll Object.markup second layout.sections) := by
    rw [Section.writeAll_eq, Section.writeAll_eq]
    apply Gains.flatten
    · intro part member
      exact Section.gains_of_keeps laid sameClass others member (written part member)
        (keeps part member) (.inl rfl)
    · exact .inr ⟨gainer, gainerMember, Section.gains_of_keeps laid sameClass others gainerMember
        (written gainer gainerMember) (keeps gainer gainerMember) (.inr ⟨rfl, gained⟩)⟩
  obtain ⟨entries, otherEntries, firstBody, secondBody, larger⟩ := body
  have unnamed (object : Object) (bare : object.value? "id" = none) :
      textIfSet Object.markup object "id" = .ok none := by
    rw [textIfSet, bare]
  have secondBare : second.value? "id" = none := (others "id" notId.symm).symm.trans bare
  refine ⟨.block none (layout.keyword first) entries,
    .block none (layout.keyword second) otherEntries, ?_, ?_, ?_⟩
  · rw [Object.writeAs_eq, Object.interior, firstRequired, firstBody,
      unnamed first bare]
    rfl
  · rw [Object.writeAs_eq, Object.interior, secondRequired, secondBody,
      unnamed second secondBare]
    rfl
  · intro same
    have bytes : (Markup.write 0 (.block none (layout.keyword first) entries)).utf8ByteSize + 1 ≤
        (Markup.write 0 (.block none (layout.keyword second) otherEntries)).utf8ByteSize :=
      size_block_mono keywords larger
    rw [same] at bytes
    omega

end Soundness

end SceneCatalog
