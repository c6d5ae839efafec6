import SceneCatalog.Text.Blank
import SceneCatalog.Text.Identifier

/-
This file cuts Rust source into tokens.
-/

namespace SceneCatalog.Source

inductive Bracket where
  | round
  | square
  | curly
  deriving Repr, DecidableEq

/-- A remark is a documentation comment; inner ones describe what is around them. -/
inductive Token where
  | word (name : String)
  | rawWord (name : String)
  | lifetime (name : String)
  | literal
  | mark (c : Char)
  | opening (bracket : Bracket)
  | closing (bracket : Bracket)
  | remark (inner : Bool)
  deriving Repr, DecidableEq

namespace Token

/-- Marks of direction count as blanks in source. -/
def isSpace (c : Char) : Bool := Text.isBlank c || c.toNat == 0x200e || c.toNat == 0x200f

/-- The text after the end of a nested comment. -/
def afterComment : Nat → List Char → Option (List Char)
  | _, [] => none
  | depth, '/' :: '*' :: rest => afterComment (depth + 1) rest
  | 0, '*' :: '/' :: _ => none
  | 1, '*' :: '/' :: rest => some rest
  | depth + 2, '*' :: '/' :: rest => afterComment (depth + 1) rest
  | depth, _ :: rest => afterComment depth rest

def isHex (c : Char) : Bool := c.isDigit || ('a' ≤ c && c ≤ 'f') || ('A' ≤ c && c ≤ 'F')

/-- The text after an escape, whose backslash is read. -/
def afterEscape? : List Char → Option (List Char)
  | 'x' :: high :: low :: rest => if isHex high && isHex low then some rest else none
  | 'u' :: '\x7b' :: rest =>
    let digits := rest.takeWhile fun c => isHex c || c == '_'
    match rest.drop digits.length with
    | '\x7d' :: rest => if digits.any isHex then some rest else none
    | _ => none
  | c :: rest => if ['n', 'r', 't', '\\', '0', '\'', '"', '\n'].contains c then some rest else none
  | [] => none

/-- The text after the closing quote of a string. -/
def afterString? : Nat → List Char → Option (List Char)
  | 0, _ => none
  | _, [] => none
  | _ + 1, '"' :: rest => some rest
  | fuel + 1, '\\' :: rest => (afterEscape? rest).bind (afterString? fuel)
  | fuel + 1, '\r' :: '\n' :: rest => afterString? fuel rest
  | _ + 1, '\r' :: _ => none
  | fuel + 1, _ :: rest => afterString? fuel rest

/-- The text after a string that ends with a quote and as many hashes as it began with. -/
def afterRawString? (hashes : Nat) : List Char → Option (List Char)
  | [] => none
  | '"' :: rest =>
    if (rest.take hashes) == List.replicate hashes '#' then some (rest.drop hashes)
    else afterRawString? hashes rest
  | _ :: rest => afterRawString? hashes rest

/-- The text after a raw string, from its hashes on. -/
def afterHashes? (text : List Char) : Option (List Char) :=
  let hashes := (text.takeWhile (· == '#')).length
  match text.drop hashes with
  | '"' :: rest => afterRawString? hashes rest
  | _ => none

def afterCharacter? : List Char → Option (List Char)
  | '\\' :: rest =>
    match afterEscape? rest with
    | some ('\'' :: rest) => some rest
    | _ => none
  | '\'' :: _ => none
  | '\n' :: _ => none
  | _ :: '\'' :: rest => some rest
  | _ => none

def dropName (text : List Char) : List Char := text.dropWhile Text.continuesIdentifier

/-- The digits of an exponent may have a sign; `read` is the number in front of them. -/
def afterExponent (read rest : List Char) : List Char :=
  match read.getLast?, rest with
  | some 'e', sign :: digit :: tail =>
    if (sign == '-' || sign == '+') && digit.isDigit && !read.contains 'x' then
      dropName (digit :: tail)
    else rest
  | _, rest => rest

/-- A number with its fraction, exponent and suffix. A point belongs to it unless a range or a
method follows. -/
def afterNumber (text : List Char) : List Char :=
  let whole := text.takeWhile Text.continuesIdentifier
  match text.drop whole.length with
  | '.' :: next :: tail =>
    if next.isDigit then
      let fraction := (next :: tail).takeWhile Text.continuesIdentifier
      afterExponent fraction ((next :: tail).drop fraction.length)
    else if next == '.' || Text.startsIdentifier next then '.' :: next :: tail
    else next :: tail
  | ['.'] => []
  | rest => afterExponent whole rest

def marks : List Char := "~!@#$%^&*-=+|;:,<.>/?".toList

/-- The next token and the text after it, where blanks and comments are already left out. The fuel
is no less than the length of the text. -/
def next? (fuel : Nat) (text : List Char) : Option (Token × List Char) :=
  match text with
  | [] => none
  | '(' :: rest => some (.opening .round, rest)
  | ')' :: rest => some (.closing .round, rest)
  | '[' :: rest => some (.opening .square, rest)
  | ']' :: rest => some (.closing .square, rest)
  | '\x7b' :: rest => some (.opening .curly, rest)
  | '\x7d' :: rest => some (.closing .curly, rest)
  | '"' :: rest => (afterString? fuel rest).map fun rest => (.literal, dropName rest)
  | '\'' :: rest =>
    match afterCharacter? rest with
    | some rest => some (.literal, dropName rest)
    | none =>
      let name := rest.takeWhile Text.continuesIdentifier
      if Text.isIdentifier name then
        some (.lifetime (String.ofList name), rest.drop name.length)
      else none
  | c :: _ =>
    if c.isDigit then some (.literal, afterNumber text)
    else if Text.startsIdentifier c then
      let name := text.takeWhile Text.continuesIdentifier
      let rest := text.drop name.length
      match String.ofList name, rest with
      | "r", '#' :: first :: tail =>
        if Text.startsIdentifier first then
          let raw := (first :: tail).takeWhile Text.continuesIdentifier
          if ["_", "super", "self", "Self", "crate"].contains (String.ofList raw) then none
          else some (.rawWord (String.ofList raw), (first :: tail).drop raw.length)
        else (afterHashes? rest).map fun rest => (.literal, dropName rest)
      | "r", '"' :: _ | "br", '"' :: _ | "cr", '"' :: _ | "br", '#' :: _ | "cr", '#' :: _ =>
        (afterHashes? rest).map fun rest => (.literal, dropName rest)
      | "b", '"' :: rest | "c", '"' :: rest =>
        (afterString? fuel rest).map fun rest => (.literal, dropName rest)
      | "b", '\'' :: rest => (afterCharacter? rest).map fun rest => (.literal, dropName rest)
      | name, rest => some (.word name, rest)
    else if marks.contains c then some (.mark c, text.drop 1)
    else none

/-- Each step reads a blank, a comment or a token, so the length of the text bounds the steps. The
tokens read so far are kept last token first. -/
def scanFrom : Nat → List Token → List Char → Option (List Token)
  | _, read, [] => some read.reverse
  | 0, _, _ => none
  | steps + 1, read, '/' :: '/' :: rest =>
    let after := rest.dropWhile (· != '\n')
    match rest with
    | '!' :: _ => scanFrom steps (.remark true :: read) after
    | '/' :: '/' :: _ => scanFrom steps read after
    | '/' :: _ => scanFrom steps (.remark false :: read) after
    | _ => scanFrom steps read after
  | steps + 1, read, '/' :: '*' :: rest =>
    match afterComment 1 rest with
    | none => none
    | some after =>
      match rest with
      | '!' :: _ => scanFrom steps (.remark true :: read) after
      | '*' :: '*' :: _ | '*' :: '/' :: _ => scanFrom steps read after
      | '*' :: _ => scanFrom steps (.remark false :: read) after
      | _ => scanFrom steps read after
  | steps + 1, read, c :: rest =>
    if isSpace c then scanFrom steps read rest
    else match next? (steps + 1) (c :: rest) with
      | none => none
      | some (token, after) => scanFrom steps (token :: read) after

/-- The tokens of a text, or nothing if they do not cover it. -/
def scan (text : String) : Option (List Token) := scanFrom text.length [] text.toList

end Token

end SceneCatalog.Source
