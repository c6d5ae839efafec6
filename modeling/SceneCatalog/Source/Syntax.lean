import SceneCatalog.Source.Token

/-
This file tells source that can be compiled from text that is plainly no source.
-/

namespace SceneCatalog.Source

/-- Tokens with their brackets matched. -/
inductive Tree where
  | leaf (token : Token)
  | group (bracket : Bracket) (trees : List Tree)

namespace Tree

/-- The trees of a bracket still open, last tree first, and those of the brackets around it. -/
abbrev Pending := List (Bracket × List Tree)

/-- Every closing bracket ends the bracket opened last, which is of the same kind. -/
def matchFrom (trees : List Tree) (pending : Pending) : List Token → Option (List Tree)
  | [] => if pending.isEmpty then some trees.reverse else none
  | .opening bracket :: rest => matchFrom [] ((bracket, trees) :: pending) rest
  | .closing bracket :: rest =>
    match pending with
    | (opened, outer) :: pending =>
      if opened == bracket then matchFrom (.group bracket trees.reverse :: outer) pending rest
      else none
    | [] => none
  | token :: rest => matchFrom (.leaf token :: trees) pending rest

/-- These words have a meaning in front of a name although they are no keywords. -/
def contextual : List String := ["auto", "default", "macro_rules", "raw", "safe", "union"]

/-- Two names or literals never stand side by side. -/
def isOperand : Tree → Bool
  | leaf (.word name) => !Text.refusedWords.contains name && !contextual.contains name
  | leaf (.rawWord _) => true
  | leaf .literal => true
  | _ => false

/-- Operators with two sides that cannot stand in front of a value. -/
def needsLeft (mark : Char) : Bool := ['%', '^', '/'].contains mark

/-- Operators that a value has to follow. -/
def needsRight (tree : Tree) : Bool :=
  match tree with
  | leaf (.mark mark) => mark == '=' || mark == '-' || needsLeft mark
  | leaf (.word word) => word == "let"
  | _ => false

/-- A value, or the end of one. -/
def endsValue : Tree → Bool
  | leaf (.mark mark) => mark == '?' || mark == '>'
  | _ => true

/-- The tree may stand directly behind another one, or at the beginning if there is none. -/
def mayFollow (tree : Tree) : Option Tree → Bool
  | none =>
    match tree with
    | leaf (.mark mark) => mark != '=' && mark != '~' && !needsLeft mark
    | _ => true
  | some before =>
    match tree with
    | leaf (.mark '~') => false
    | leaf (.mark ';') => !needsRight before
    | leaf (.mark ',') => !needsRight before
    | leaf (.mark '=') =>
      match before with
      | leaf (.mark mark) => mark != ';' && mark != ','
      | leaf (.word word) => word != "let"
      | _ => true
    | leaf (.mark mark) => !needsLeft mark || endsValue before
    | tree => !(isOperand before && isOperand tree)

mutual

def readable : Tree → Bool
  | leaf _ => true
  | group _ trees => readableAll none trees

/-- The trees behind the one before them. -/
def readableAll (before : Option Tree) : List Tree → Bool
  | [] => !before.any needsRight
  | tree :: rest => mayFollow tree before && readable tree && readableAll (some tree) rest

end

/-- Attributes and remarks stand in front of an item. -/
def afterAttributes : List Tree → List Tree
  | leaf (.mark '#') :: group .square _ :: rest => afterAttributes rest
  | leaf (.remark false) :: rest => afterAttributes rest
  | trees => trees

/-- Inner attributes and remarks stand at the beginning. -/
def afterInner : List Tree → List Tree
  | leaf (.mark '#') :: leaf (.mark '!') :: group .square _ :: rest => afterInner rest
  | leaf (.remark true) :: rest => afterInner rest
  | trees => trees

def afterVisibility : List Tree → List Tree
  | leaf (.word "pub") :: group .round _ :: rest => rest
  | leaf (.word "pub") :: rest => rest
  | trees => trees

def isNameTree : Tree → Bool
  | leaf (.word name) => !Text.refusedWords.contains name
  | leaf (.rawWord _) => true
  | _ => false

def isSemicolon : Tree → Bool
  | leaf (.mark ';') => true
  | _ => false

def isBlock : Tree → Bool
  | group .curly _ => true
  | _ => false

/-- The trees up to the first that ends an item, that tree, and those after it. -/
def upTo (ends : Tree → Bool) : List Tree → Option (List Tree × Tree × List Tree)
  | [] => none
  | tree :: rest =>
    if ends tree then some ([], tree, rest)
    else (upTo ends rest).map fun found => (tree :: found.1, found.2)

/-- The words that begin an item ending with a block, with a semicolon, or with either. -/
def blockItems : List String := ["enum", "trait", "union"]

def semicolonItems : List String := ["const", "extern", "static", "type", "use"]

def qualifiers : List String := ["async", "const", "default", "safe", "unsafe"]

/-- A function may be qualified by words in front of it. -/
def isFunction : List Tree → Bool
  | leaf (.word "fn") :: name :: _ => isNameTree name
  | leaf (.word word) :: rest => qualifiers.contains word && isFunction rest
  | _ => false

/-- A function has parameters in front of its body. -/
def hasParameters (trees : List Tree) : Bool :=
  trees.any fun tree => match tree with
    | group .round _ => true
    | _ => false

/-- The trees are items one after the other. Each step reads an item or goes into one, so the
number of tokens bounds the steps. -/
def areItems : Nat → List Tree → Bool
  | 0, _ => false
  | steps + 1, trees =>
    match afterInner trees with
    | [] => true
    | trees =>
      let item := afterVisibility (afterAttributes trees)
      let endsWithBlock (trees : List Tree) : Bool :=
        match upTo isBlock trees with
        | some (_, _, rest) => areItems steps rest
        | none => false
      if isFunction item then
        match upTo (fun tree => isBlock tree || isSemicolon tree) item with
        | some (head, _, rest) => hasParameters head && areItems steps rest
        | none => false
      else match item with
        | leaf (.word "mod") :: name :: group .curly inner :: rest =>
          isNameTree name && areItems steps inner && areItems steps rest
        | leaf (.word "mod") :: name :: leaf (.mark ';') :: rest =>
          isNameTree name && areItems steps rest
        | leaf (.word "impl") :: rest =>
          match upTo isBlock rest with
          | some (_ :: _, group _ inner, rest) => areItems steps inner && areItems steps rest
          | _ => false
        | leaf (.word "struct") :: name :: rest =>
          isNameTree name &&
            match upTo (fun tree => isBlock tree || isSemicolon tree) rest with
            | some (_, _, rest) => areItems steps rest
            | none => false
        | leaf (.word word) :: rest =>
          if blockItems.contains word then endsWithBlock rest
          else if semicolonItems.contains word then
            match upTo isSemicolon rest with
            | some (_ :: _, _, rest) => areItems steps rest
            | _ => false
          else match rest with
            | leaf (.mark '!') :: rest =>
              match rest with
              | group .curly _ :: rest => areItems steps rest
              | group _ _ :: leaf (.mark ';') :: rest => areItems steps rest
              | leaf (.word _) :: group .curly _ :: rest => areItems steps rest
              | _ => false
            | _ => false
        | _ => false

end Tree

/-- Brackets match, items follow one another, no names stand side by side, and operators have what
they need on both sides. -/
def isSource (text : String) : Bool :=
  match Token.scan text with
  | none => false
  | some tokens =>
    match Tree.matchFrom [] [] tokens with
    | none => false
    | some trees => Tree.areItems (tokens.length + 1) trees && Tree.readableAll none trees

end SceneCatalog.Source
