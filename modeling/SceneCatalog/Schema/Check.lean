import SceneCatalog.Schema.Keyword
import SceneCatalog.Text.Blank
import SceneCatalog.Value.Views

/-
This file holds the conditions that attributes put on their values.
-/

namespace SceneCatalog

/-- Bounds are inclusive except for `moreThan` and `lessThan`; a list without a bound may be of any
length. -/
inductive Check where
  | bool
  | int
  | number
  | string
  | nonEmptyString
  | text
  | function
  | within (low high : Float)
  | intWithin (low high : Int64)
  | atLeast (low : Float)
  | moreThan (low : Float)
  | lessThan (high : Float)
  | key (vocabulary : Vocabulary)
  | oneOf (choices : List String)
  | list (least : Nat) (most : Option Nat) (item : Check)
  | ofClass (names : List String)
  | descendant (base : String)
  | either (first second : Check)
  | both (first second : Check)
  | satisfies (condition : Value → Bool)

/-- A user function of the scene language, such as a polynomial in braces after its keyword. -/
def isFunction (text : String) : Bool :=
  let trimmed := Text.trim text.toList
  "function".toList.isPrefixOf trimmed && trimmed.contains '\x7b' &&
    trimmed.getLast? == some '\x7d'

def lengthWithin (least : Nat) (most : Option Nat) (length : Nat) : Bool :=
  decide (least ≤ length) && most.all (fun bound => decide (length ≤ bound))

namespace Value

/-- Infinities are no numbers here. -/
def finite? (value : Value) : Option Float := value.asFloat?.filter Float.isFinite

/-- The class of an object or of a tuple. -/
def className? : Value → Option String
  | node _ object => some object.className
  | vector coordinates => some coordinates.kind.className
  | _ => none

end Value

def Check.accepts : Check → Value → Bool
  | bool, value => value.asBool?.isSome
  | int, value => value.asInt?.isSome
  | number, value => value.finite?.isSome
  | string, .text _ => true
  | nonEmptyString, .text content => !content.isEmpty
  | text, value => value.asText?.isSome
  | function, value => value.asText?.any isFunction
  | within low high, value => value.finite?.any fun number => low ≤ number && number ≤ high
  | intWithin low high, value => value.asInt?.any fun number => low ≤ number && number ≤ high
  | atLeast low, value => value.finite?.any fun number => low ≤ number
  | moreThan low, value => value.finite?.any fun number => low < number
  | lessThan high, value => value.finite?.any fun number => number < high
  | key vocabulary, .text content => vocabulary.any (·.key == content)
  | oneOf choices, .text content => choices.contains content
  | list least most item, value =>
    value.asList?.any fun items => lengthWithin least most items.length && items.all item.accepts
  | ofClass names, value => value.className?.any names.contains
  | descendant base, value => value.asObject?.any (·.isA base)
  | either first second, value => first.accepts value || second.accepts value
  | both first second, value => first.accepts value && second.accepts value
  | satisfies condition, value => condition value
  | _, _ => false

end SceneCatalog
