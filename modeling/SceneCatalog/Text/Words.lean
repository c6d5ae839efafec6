import SceneCatalog.Text.Casing
import SceneCatalog.Text.Printing

/-
This file splits names into words and joins them in lower case.
-/

namespace SceneCatalog.Text

/-- A character with the marks that attach to it. -/
abbrev Cluster := List Char

def clusters : List Char → List Cluster
  | [] => []
  | c :: rest =>
    match clusters rest with
    | (mark :: marks) :: others =>
      if isExtending mark || mark.toNat == 0x200d then (c :: mark :: marks) :: others
      else [c] :: (mark :: marks) :: others
    | others => [c] :: others

def capital (cluster : Cluster) : Bool :=
  cluster.any isCapital && !cluster.any (fun c => isSmall c || (isCased c && !isCapital c))

def small (cluster : Cluster) : Bool :=
  cluster.any isSmall && !cluster.any (fun c => isCapital c || (isCased c && !isSmall c))

def digit (cluster : Cluster) : Bool := cluster.all Char.isDigit

/-- Where one word ends and the next one starts. -/
structure WordRule where
  /-- These characters stand between words. -/
  separators : List Char
  /-- A digit and a letter belong to different words. -/
  splitsDigits : Bool

/-- A word ends between a small letter and a capital, and in front of the last of several capitals
that a small letter follows. -/
def WordRule.endsAfter (rule : WordRule) (cluster : Cluster) : List Cluster → Bool
  | [] => false
  | next :: rest =>
    (small cluster && capital next) ||
    (capital cluster && capital next && rest.head?.any small) ||
    (rule.splitsDigits &&
      ((digit cluster && (capital next || small next)) ||
        (digit next && (capital cluster || small cluster))))

def WordRule.split (rule : WordRule) (word : List Cluster) : List Cluster → List (List Cluster)
  | [] => [word.reverse]
  | cluster :: rest =>
    if rule.separators.any (fun separator => cluster == [separator]) then
      word.reverse :: rule.split [] rest
    else if rule.endsAfter cluster rest then
      (cluster :: word).reverse :: rule.split [] rest
    else rule.split (cluster :: word) rest

/-- The words of a name; the empty name has none, and two separators enclose an empty word. -/
def WordRule.words (rule : WordRule) (name : String) : List (List Char) :=
  if name.isEmpty then [] else (rule.split [] (clusters name.toList)).map List.flatten

/-- Punctuation and marks that may stand within a word without ending it. -/
def isPassedOver (c : Char) : Bool :=
  isExtending c || [0x27, 0x2e, 0x3a, 0x5e, 0x60, 0xa8, 0xb7, 0x2018, 0x2019].contains c.toNat

/-- A sigma at the end of a word has a lower case of its own; `before` is the text in front of it,
last character first. -/
def sigma (before after : List Char) : Char :=
  if ((before.dropWhile isPassedOver).head?.any isCased) &&
      !((after.dropWhile isPassedOver).head?.any isCased) then 'ς' else 'σ'

def lowerCaseFrom (before : List Char) : List Char → List Char
  | [] => []
  | c :: rest =>
    (if c == 'Σ' then [sigma before rest] else lowered c) ++ lowerCaseFrom (c :: before) rest

def lowerCase (word : List Char) : List Char := lowerCaseFrom [] word

/-- The words in lower case with underscores between them. -/
def WordRule.snake (rule : WordRule) (name : String) : String :=
  "_".intercalate ((rule.words name).map fun word => String.ofList (lowerCase word))

end SceneCatalog.Text
