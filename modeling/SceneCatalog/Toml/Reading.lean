import SceneCatalog.Toml.Basic

/-
This file reads the text of TOML documents.
-/

namespace SceneCatalog.Toml

def isMargin (c : Char) : Bool := c == ' ' || c == '\t'

def skipMargin (text : List Char) : List Char := text.dropWhile isMargin

/-- Control characters other than tabs cannot stand in comments and strings. -/
def isControl (c : Char) : Bool := (c.toNat < 32 && c != '\t') || c.toNat == 127

/-- The text after an optional comment. -/
def skipComment? : List Char → Option (List Char)
  | '#' :: rest =>
    let comment := rest.takeWhile fun c => c != '\n'
    let visible := match comment.reverse with
      | '\r' :: shorter => shorter
      | whole => whole
    if visible.any isControl then none else some (rest.drop comment.length)
  | text => some text

/-- The text after the rest of a line, in which only a comment may stand. -/
def endLine? (text : List Char) : Option (List Char) :=
  match skipComment? (skipMargin text) with
  | some [] => some []
  | some ('\n' :: rest) => some rest
  | some ('\r' :: '\n' :: rest) => some rest
  | _ => none

/-- The text after blanks, line ends and comments. -/
def skipLines? : Nat → List Char → Option (List Char)
  | 0, text => some text
  | fuel + 1, text =>
    match skipMargin text with
    | '\n' :: rest => skipLines? fuel rest
    | '\r' :: '\n' :: rest => skipLines? fuel rest
    | '#' :: rest => (skipComment? ('#' :: rest)).bind (skipLines? fuel)
    | text => some text

def hexValue? (c : Char) : Option Nat :=
  if c.isDigit then some (c.toNat - '0'.toNat)
  else if 'a' ≤ c && c ≤ 'f' then some (c.toNat - 'a'.toNat + 10)
  else if 'A' ≤ c && c ≤ 'F' then some (c.toNat - 'A'.toNat + 10)
  else none

/-- The character of a number in hexadecimal digits. -/
def readCode (digits : Nat) (text : List Char) : Option (Char × List Char) := do
  let places := text.take digits
  if places.length < digits then none
  else
    let values ← places.mapM hexValue?
    let code := values.foldl (fun number place => 16 * number + place) 0
    if code.isValidChar then some (Char.ofNat code, text.drop digits) else none

/-- The character of an escape, whose backslash is read. -/
def readEscape : List Char → Option (Char × List Char)
  | 'b' :: rest => some (Char.ofNat 8, rest)
  | 't' :: rest => some ('\t', rest)
  | 'n' :: rest => some ('\n', rest)
  | 'f' :: rest => some (Char.ofNat 12, rest)
  | 'r' :: rest => some ('\r', rest)
  | 'e' :: rest => some (Char.ofNat 27, rest)
  | '"' :: rest => some ('"', rest)
  | '\\' :: rest => some ('\\', rest)
  | 'x' :: rest => readCode 2 rest
  | 'u' :: rest => readCode 4 rest
  | 'U' :: rest => readCode 8 rest
  | _ => none

/-- The content of a string in one line; `read` holds what was read, last character first. -/
def readLineString (quote : Char) (escapes : Bool) :
    Nat → List Char → List Char → Option (String × List Char)
  | 0, _, _ => none
  | _, _, [] => none
  | fuel + 1, read, c :: rest =>
    if c == quote then some (String.ofList read.reverse, rest)
    else if c == '\\' && escapes then
      match readEscape rest with
      | some (escaped, rest) => readLineString quote escapes fuel (escaped :: read) rest
      | none => none
    else if isControl c then none
    else readLineString quote escapes fuel (c :: read) rest

/-- The text after a backslash that ends a line, and after the blanks and line ends that follow. -/
def afterLineEnd? (text : List Char) : Option (List Char) :=
  match skipMargin text with
  | '\n' :: rest => some (rest.dropWhile fun c => isMargin c || c == '\n' || c == '\r')
  | '\r' :: '\n' :: rest => some (rest.dropWhile fun c => isMargin c || c == '\n' || c == '\r')
  | _ => none

/-- The content of a string that ends with three quotes; up to two more belong to it. -/
def readLongString (quote : Char) (escapes : Bool) :
    Nat → List Char → List Char → Option (String × List Char)
  | 0, _, _ => none
  | _, _, [] => none
  | fuel + 1, read, c :: rest =>
    if c == quote then
      let quotes := ((c :: rest).takeWhile (· == quote)).length
      let after := (c :: rest).drop quotes
      if quotes > 5 then none
      else if quotes ≥ 3 then
        some (String.ofList (List.replicate (quotes - 3) quote ++ read).reverse, after)
      else readLongString quote escapes fuel (List.replicate quotes quote ++ read) after
    else if c == '\\' && escapes then
      match afterLineEnd? rest with
      | some rest => readLongString quote escapes fuel read rest
      | none =>
        match readEscape rest with
        | some (escaped, rest) => readLongString quote escapes fuel (escaped :: read) rest
        | none => none
    else if c == '\r' then
      match rest with
      | '\n' :: rest => readLongString quote escapes fuel ('\n' :: '\r' :: read) rest
      | _ => none
    else if isControl c && c != '\n' then none
    else readLongString quote escapes fuel (c :: read) rest

/-- A line end right after the opening quotes is left out. -/
def skipFirstLineEnd : List Char → List Char
  | '\n' :: rest => rest
  | '\r' :: '\n' :: rest => rest
  | text => text

def readString (text : List Char) : Option (String × List Char) :=
  let fuel := text.length
  match text with
  | '"' :: '"' :: '"' :: rest => readLongString '"' true fuel [] (skipFirstLineEnd rest)
  | '"' :: rest => readLineString '"' true fuel [] rest
  | '\'' :: '\'' :: '\'' :: rest => readLongString '\'' false fuel [] (skipFirstLineEnd rest)
  | '\'' :: rest => readLineString '\'' false fuel [] rest
  | _ => none

def isBareKey (c : Char) : Bool := c.isAlphanum || c == '_' || c == '-'

/-- A bare word, or a string in one line. -/
def readKeyPart (text : List Char) : Option (String × List Char) :=
  match text with
  | '"' :: rest => readLineString '"' true text.length [] rest
  | '\'' :: rest => readLineString '\'' false text.length [] rest
  | _ =>
    let word := text.takeWhile isBareKey
    if word.isEmpty then none else some (String.ofList word, text.drop word.length)

/-- Parts with dots between them, and the text after the blanks behind them. -/
def readKey : Nat → List Char → Option (List String × List Char)
  | 0, _ => none
  | fuel + 1, text => do
    let (part, rest) ← readKeyPart (skipMargin text)
    match skipMargin rest with
    | '.' :: rest =>
      let (parts, rest) ← readKey fuel rest
      return (part :: parts, rest)
    | rest => return ([part], rest)

/-- Single underscores may stand between digits. -/
def dropUnderscores? (isPlace : Char → Bool) : List Char → Option (List Char)
  | [] => some []
  | ['_'] => none
  | '_' :: next :: rest => if isPlace next then dropUnderscores? isPlace (next :: rest) else none
  | c :: rest =>
    if isPlace c then (dropUnderscores? isPlace rest).map (c :: ·) else none

def digits? (isPlace : Char → Bool) (text : List Char) : Option (List Char) :=
  match text with
  | [] => none
  | '_' :: _ => none
  | text => dropUnderscores? isPlace text

def numberIn (base : Nat) (places : List Char) : Int :=
  places.foldl (fun number place => base * number + ((hexValue? place).getD 0 : Nat)) 0

def isPlaceIn (base : Nat) (c : Char) : Bool := (hexValue? c).any (· < base)

/-- Decimal digits without zeros in front of them. -/
def readDecimal? (text : List Char) : Option Int := do
  let places ← digits? Char.isDigit text
  match places with
  | '0' :: _ :: _ => none
  | _ => return numberIn 10 places

def readInt? (text : List Char) : Option Int :=
  match text with
  | '0' :: 'x' :: places => (digits? (isPlaceIn 16) places).map (numberIn 16)
  | '0' :: 'o' :: places => (digits? (isPlaceIn 8) places).map (numberIn 8)
  | '0' :: 'b' :: places => (digits? (isPlaceIn 2) places).map (numberIn 2)
  | '-' :: places => (readDecimal? places).map (- ·)
  | '+' :: places => readDecimal? places
  | places => readDecimal? places

def unsigned : List Char → List Char
  | '-' :: rest => rest
  | '+' :: rest => rest
  | text => text

/-- A whole part, then a fraction or an exponent or both; or a special value. -/
def isFloat (text : List Char) : Bool :=
  let text := unsigned text
  if text == "inf".toList || text == "nan".toList then true
  else
    let whole := text.takeWhile fun c => c.isDigit || c == '_'
    let rest := text.drop whole.length
    let isExponent (text : List Char) : Bool :=
      match text with
      | [] => true
      | mark :: places =>
        (mark == 'e' || mark == 'E') && (digits? Char.isDigit (unsigned places)).isSome
    (readDecimal? whole).isSome && !rest.isEmpty &&
      match rest with
      | '.' :: rest =>
        let fraction := rest.takeWhile fun c => c.isDigit || c == '_'
        (digits? Char.isDigit fraction).isSome && isExponent (rest.drop fraction.length)
      | rest => isExponent rest

/-- Whether the text has the places of a pattern, in which `0` stands for any digit. -/
def hasPlaces (pattern : String) (text : List Char) : Bool :=
  text.length ≥ pattern.length &&
    (pattern.toList.zip text).all fun place =>
      if place.1 == '0' then place.2.isDigit else place.1 == place.2

def isDate (text : List Char) : Bool := hasPlaces "0000-00-00" text

def isMoment (text : List Char) : Bool := isDate text || hasPlaces "00:00" text

def isScalar (c : Char) : Bool := c.isAlphanum || ['+', '-', '_', '.', ':'].contains c

/-- A time may stand behind a date and a blank. -/
def scalarText (text : List Char) : List Char :=
  let first := text.takeWhile isScalar
  match text.drop first.length with
  | ' ' :: next :: rest =>
    if isDate first && first.length == 10 && next.isDigit then
      first ++ ' ' :: (next :: rest).takeWhile isScalar
    else first
  | _ => first

def readScalar (text : List Char) : Option (Toml × List Char) :=
  let scalar := scalarText text
  let rest := text.drop scalar.length
  if scalar == "true".toList then some (.bool true, rest)
  else if scalar == "false".toList then some (.bool false, rest)
  else match readInt? scalar with
    | some number => some (.int number, rest)
    | none =>
      if isFloat scalar then some (.float, rest)
      else if isMoment scalar then some (.moment, rest)
      else none

mutual

def readValue : Nat → List Char → Option (Toml × List Char)
  | 0, _ => none
  | fuel + 1, text =>
    match text with
    | '"' :: _ => (readString text).map fun found => (.string found.1, found.2)
    | '\'' :: _ => (readString text).map fun found => (.string found.1, found.2)
    | '[' :: rest => (readItems fuel rest).map fun found => (.array found.1, found.2)
    | '\x7b' :: rest =>
      (readMembers fuel [] rest).map fun found => (.table (Node.memberValues found.1), found.2)
    | text => readScalar text

/-- The items of an array up to its bracket. -/
def readItems : Nat → List Char → Option (List Toml × List Char)
  | 0, _ => none
  | fuel + 1, text => do
    match ← skipLines? text.length text with
    | ']' :: rest => return ([], rest)
    | text =>
      let (item, rest) ← readValue fuel text
      match ← skipLines? rest.length rest with
      | ',' :: rest =>
        let (items, rest) ← readItems fuel rest
        return (item :: items, rest)
      | ']' :: rest => return ([item], rest)
      | _ => none

/-- The members of a table up to its brace. -/
def readMembers : Nat → Members → List Char → Option (Members × List Char)
  | 0, _, _ => none
  | fuel + 1, members, text => do
    match ← skipLines? text.length text with
    | '\x7d' :: rest => return (members, rest)
    | text =>
      let (key, rest) ← readKey text.length text
      match rest with
      | '=' :: rest =>
        let (value, rest) ← readValue fuel (skipMargin rest)
        let members ← putValue value key members
        match ← skipLines? rest.length rest with
        | ',' :: rest => readMembers fuel members rest
        | '\x7d' :: rest => return (members, rest)
        | _ => none
      | _ => none

end

/-- A document that is read in part: its members and the path of the header opened last. -/
structure Document where
  members : Members
  path : List String

def Document.line? (document : Document) (text : List Char) : Option (Document × List Char) := do
  match text with
  | '[' :: '[' :: rest =>
    match ← readKey rest.length rest with
    | (path, ']' :: ']' :: rest) =>
      let members ← openNextTable path document.members
      return (⟨members, path⟩, ← endLine? rest)
    | _ => none
  | '[' :: rest =>
    match ← readKey rest.length rest with
    | (path, ']' :: rest) =>
      let members ← openTable path document.members
      return (⟨members, path⟩, ← endLine? rest)
    | _ => none
  | text =>
    match ← readKey text.length text with
    | (key, '=' :: rest) =>
      let (value, rest) ← readValue rest.length (skipMargin rest)
      let members ← putBelow value key document.path document.members
      return (⟨members, document.path⟩, ← endLine? rest)
    | _ => none

/-- The remaining lines of a document; each step reads one that is not blank. -/
def Document.lines? : Nat → Document → List Char → Option Members
  | 0, _, _ => none
  | steps + 1, document, text => do
    match ← skipLines? text.length text with
    | [] => return document.members
    | text =>
      let (document, rest) ← document.line? text
      document.lines? steps rest

/-- A mark of the byte order may stand at the beginning. -/
def skipOrderMark : List Char → List Char
  | c :: rest => if c.toNat == 0xfeff then rest else c :: rest
  | [] => []

/-- The members of the document, if it is well formed and defines nothing twice. -/
def read? (text : String) : Option (List (String × Toml)) :=
  (Document.lines? (text.length + 1) ⟨[], []⟩ (skipOrderMark text.toList)).map Node.memberValues

end SceneCatalog.Toml
