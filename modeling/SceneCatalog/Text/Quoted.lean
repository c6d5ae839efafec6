import SceneCatalog.Text.Printing

/-
This file writes strings between double quotes.
-/

namespace SceneCatalog.Text

def hexDigits (number : Nat) : String := String.ofList (Nat.toDigits 16 number)

/-- Strings of the scene language escape the quote, the backslash and the line feed. -/
def sceneEscape : Char → List Char
  | '"' => ['\\', '"']
  | '\\' => ['\\', '\\']
  | '\n' => ['\\', 'n']
  | c => [c]

def quote (text : String) : String :=
  String.ofList ('"' :: text.toList.flatMap sceneEscape ++ ['"'])

/-- Strings of Rust escape also what cannot be printed. -/
def sourceEscape (c : Char) : String :=
  match c with
  | '"' => "\\\""
  | '\\' => "\\\\"
  | '\n' => "\\n"
  | '\t' => "\\t"
  | '\r' => "\\r"
  | c =>
    if c.toNat == 0 then "\\0"
    else if isPrintable c && !isExtending c then c.toString
    else "\\u\x7b" ++ hexDigits c.toNat ++ "\x7d"

/-- The text of a value in messages for developers. -/
def inspect (text : String) : String :=
  "\"" ++ String.join (text.toList.map sourceEscape) ++ "\""

/-- A zero character in front of an octal digit has two hexadecimal digits. -/
def literalFrom : List Char → String
  | [] => ""
  | c :: rest =>
    (if c.toNat == 0 && rest.head?.any (fun next => '0' ≤ next && next ≤ '7') then "\\x00"
      else sourceEscape c) ++ literalFrom rest

/-- The string literal of Rust source. -/
def sourceLiteral (text : String) : String := "\"" ++ literalFrom text.toList ++ "\""

end SceneCatalog.Text
