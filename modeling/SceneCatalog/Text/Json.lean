import SceneCatalog.Number.Format
import SceneCatalog.Text.Quoted

/-
This file writes JSON in one line or indented.
-/

namespace SceneCatalog.Text

inductive Json where
  | null
  | bool (flag : Bool)
  | int (number : Int)
  | float (number : Float)
  | text (content : String)
  | array (items : List Json)
  | object (members : List (String × Json))

namespace Json

def escape (c : Char) : String :=
  match c with
  | '"' => "\\\""
  | '\\' => "\\\\"
  | '\n' => "\\n"
  | '\t' => "\\t"
  | '\r' => "\\r"
  | c =>
    if c.toNat == 8 then "\\b"
    else if c.toNat == 12 then "\\f"
    else if c.toNat < 16 then "\\u000" ++ hexDigits c.toNat
    else if c.toNat < 32 then "\\u00" ++ hexDigits c.toNat
    else c.toString

def string (text : String) : String :=
  "\"" ++ String.join (text.toList.map escape) ++ "\""

/-- Only finite numbers have a text of their own. -/
def number (value : Float) : String :=
  if value.isFinite then Number.json.write value else "null"

mutual

def compact : Json → String
  | .null => "null"
  | .bool flag => if flag then "true" else "false"
  | .int value => toString value
  | .float value => number value
  | .text content => string content
  | .array items => "[" ++ ",".intercalate (compactItems items) ++ "]"
  | .object members => "\x7b" ++ ",".intercalate (compactMembers members) ++ "\x7d"

def compactItems : List Json → List String
  | [] => []
  | item :: items => compact item :: compactItems items

def compactMembers : List (String × Json) → List String
  | [] => []
  | (name, value) :: members => (string name ++ ":" ++ compact value) :: compactMembers members

end

/-- One item a line, two blanks deeper than the brackets around it. -/
def enclose (opening closing : String) (depth : Nat) (items : List String) : String :=
  if items.isEmpty then opening ++ closing
  else
    let margin := "\n" ++ "".pushn ' ' (2 * depth)
    opening ++ ",".intercalate (items.map (margin ++ "  " ++ ·)) ++ margin ++ closing

mutual

def indented (depth : Nat) : Json → String
  | .array items => enclose "[" "]" depth (indentedItems (depth + 1) items)
  | .object members => enclose "\x7b" "\x7d" depth (indentedMembers (depth + 1) members)
  | .null => "null"
  | .bool flag => if flag then "true" else "false"
  | .int value => toString value
  | .float value => number value
  | .text content => string content

def indentedItems (depth : Nat) : List Json → List String
  | [] => []
  | item :: items => indented depth item :: indentedItems depth items

def indentedMembers (depth : Nat) : List (String × Json) → List String
  | [] => []
  | (name, value) :: members =>
    (string name ++ ": " ++ indented depth value) :: indentedMembers depth members

end

end Json

end SceneCatalog.Text
