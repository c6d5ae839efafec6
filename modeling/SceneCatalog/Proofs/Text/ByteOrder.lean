import Mathlib.Data.String.Basic
import SceneCatalog.SortedMap

/-
This file shows that strings compare as the bytes of their UTF-8 text do.
-/

namespace SceneCatalog.Text

/-- The UTF-8 text as it is stored. -/
def bytes (text : String) : List UInt8 := text.toUTF8.data.toList

/-- The bytes of a text are those of its characters. -/
theorem bytes_eq_flatMap (text : String) :
    bytes text = text.toList.flatMap String.utf8EncodeChar := by
  have encoded : text.toByteArray = text.toList.utf8Encode := String.utf8Encode_toList.symm
  simp only [bytes, String.toUTF8, encoded, List.utf8Encode, List.data_toByteArray]

/-- The first bytes in which two lists differ decide their order. -/
inductive Precedes : List UInt8 → List UInt8 → Prop where
  | here {first second : UInt8} {firsts seconds : List UInt8} (less : first < second) :
      Precedes (first :: firsts) (second :: seconds)
  | later {shared : UInt8} {firsts seconds : List UInt8} (rest : Precedes firsts seconds) :
      Precedes (shared :: firsts) (shared :: seconds)

/-- What comes behind does not change an order that is decided before. -/
theorem Precedes.append_lt {firsts seconds : List UInt8} (before : Precedes firsts seconds)
    (more others : List UInt8) : firsts ++ more < seconds ++ others := by
  induction before with
  | here less => exact List.Lex.rel less
  | later _ inductionHypothesis => exact List.Lex.cons inductionHypothesis

/-- The first byte decides unless it is shared. -/
theorem precedes_cons {first second : Nat} {firsts seconds : List UInt8}
    (firstFits : first < 256) (secondFits : second < 256) (ordered : first ≤ second)
    (rest : first = second → Precedes firsts seconds) :
    Precedes (UInt8.ofNat first :: firsts) (UInt8.ofNat second :: seconds) := by
  rcases Nat.lt_or_eq_of_le ordered with less | rfl
  · apply Precedes.here
    rwa [UInt8.lt_iff_toNat_lt, UInt8.toNat_ofNat_of_lt' firstFits,
      UInt8.toNat_ofNat_of_lt' secondFits]
  · exact .later (rest rfl)

/-- A smaller code point never has an encoding that a larger one begins with. -/
theorem utf8EncodeChar_precedes {first second : Char} (less : first < second) :
    Precedes (String.utf8EncodeChar first) (String.utf8EncodeChar second) := by
  have lessThan : first.val.toNat < second.val.toNat := less
  have bound : second.val.toNat < 1114112 := by
    rcases second.valid with low | ⟨_, high⟩
    · exact Nat.lt_trans low (by decide)
    · exact high
  unfold String.utf8EncodeChar
  dsimp only
  generalize first.val.toNat = low at lessThan ⊢
  generalize second.val.toNat = high at lessThan bound ⊢
  -- Encodings of different lengths differ in their first bytes, and those of one length are
  -- digits of base 64, the highest first.
  split
  · split <;> [skip; split <;> [skip; split]] <;>
      exact precedes_cons (by omega) (by omega) (by omega) (by omega)
  split
  · split <;> [omega; split <;> [skip; split]]
    · refine precedes_cons (by omega) (by omega) (by omega) fun _ => ?_
      exact precedes_cons (by omega) (by omega) (by omega) (by omega)
    · exact precedes_cons (by omega) (by omega) (by omega) (by omega)
    · exact precedes_cons (by omega) (by omega) (by omega) (by omega)
  split
  · split <;> [omega; split <;> [omega; split]]
    · refine precedes_cons (by omega) (by omega) (by omega) fun _ => ?_
      refine precedes_cons (by omega) (by omega) (by omega) fun _ => ?_
      exact precedes_cons (by omega) (by omega) (by omega) (by omega)
    · exact precedes_cons (by omega) (by omega) (by omega) (by omega)
  split <;> [omega; split <;> [omega; split <;> [omega; skip]]]
  refine precedes_cons (by omega) (by omega) (by omega) fun _ => ?_
  refine precedes_cons (by omega) (by omega) (by omega) fun _ => ?_
  refine precedes_cons (by omega) (by omega) (by omega) fun _ => ?_
  exact precedes_cons (by omega) (by omega) (by omega) (by omega)

/-- Texts are ordered by their bytes as by their characters. -/
theorem flatMap_lt {firsts seconds : List Char} (less : firsts < seconds) :
    firsts.flatMap String.utf8EncodeChar < seconds.flatMap String.utf8EncodeChar := by
  induction less with
  | nil =>
      rename_i letter rest
      obtain ⟨byte, others, encoded⟩ :=
        List.exists_cons_of_ne_nil (String.utf8EncodeChar_ne_nil (c := letter))
      rw [List.flatMap_nil, List.flatMap_cons, encoded]
      exact List.Lex.nil
  | cons _ inductionHypothesis =>
      rw [List.flatMap_cons, List.flatMap_cons]
      exact List.append_left_lt inductionHypothesis
  | rel less =>
      rw [List.flatMap_cons, List.flatMap_cons]
      exact (utf8EncodeChar_precedes less).append_lt _ _

/-- Strings compare as their bytes do. -/
theorem bytes_lt_iff (first second : String) : bytes first < bytes second ↔ first < second := by
  have forward {low high : String} (less : low < high) : bytes low < bytes high := by
    rw [bytes_eq_flatMap, bytes_eq_flatMap]
    exact flatMap_lt (String.lt_iff.1 less)
  constructor
  · intro less
    rcases lt_trichotomy first second with before | rfl | after
    · exact before
    · exact absurd less (List.lt_irrefl _)
    · exact absurd less (List.lt_asymm (forward after))
  · exact forward

end SceneCatalog.Text
