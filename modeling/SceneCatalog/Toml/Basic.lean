/-
This file holds the values of TOML documents and the tables that they are collected in.
-/

namespace SceneCatalog

/-- Floats and moments are told apart from other values, but their content is not kept. -/
inductive Toml where
  | string (content : String)
  | int (number : Int)
  | float
  | bool (flag : Bool)
  | moment
  | array (items : List Toml)
  | table (members : List (String × Toml))

namespace Toml

/-- How a table of a document came to be: on the way to another one, by its header, or by dotted
keys. -/
inductive Origin where
  | implied
  | header
  | dotted
  deriving Repr, DecidableEq

/-- A document under construction. Values are closed, and an array of tables keeps its last table
open. -/
inductive Node where
  | closed (value : Toml)
  | table (origin : Origin) (members : List (String × Node))
  | tables (earlier : List Toml) (members : List (String × Node))

abbrev Members := List (String × Node)

def replace (key : String) (node : Node) : Members → Members
  | [] => [(key, node)]
  | (held, old) :: rest =>
    if held == key then (key, node) :: rest else (held, old) :: replace key node rest

mutual

def Node.value : Node → Toml
  | .closed value => value
  | .table _ members => .table (Node.memberValues members)
  | .tables earlier members => .array (earlier ++ [.table (Node.memberValues members)])

def Node.memberValues : List (String × Node) → List (String × Toml)
  | [] => []
  | (key, node) :: rest => (key, node.value) :: Node.memberValues rest

end

/-- Puts a value under a dotted key. Only tables that dotted keys made can be added to. -/
def putValue (value : Toml) : List String → Members → Option Members
  | [], _ => none
  | [key], members =>
    if (members.lookup key).isSome then none else some (replace key (.closed value) members)
  | key :: path, members =>
    match members.lookup key with
    | none => (putValue value path []).map fun inner => replace key (.table .dotted inner) members
    | some (.table .header _) => none
    | some (.table origin inner) =>
      (putValue value path inner).map fun inner => replace key (.table origin inner) members
    | some _ => none

/-- Opens the table of a header, which no other header or dotted key has opened before. -/
def openTable : List String → Members → Option Members
  | [], _ => none
  | [key], members =>
    match members.lookup key with
    | none => some (replace key (.table .header []) members)
    | some (.table .implied inner) => some (replace key (.table .header inner) members)
    | some _ => none
  | key :: path, members =>
    match members.lookup key with
    | none => (openTable path []).map fun inner => replace key (.table .implied inner) members
    | some (.table origin inner) =>
      (openTable path inner).map fun inner => replace key (.table origin inner) members
    | some (.tables earlier inner) =>
      (openTable path inner).map fun inner => replace key (.tables earlier inner) members
    | some (.closed _) => none

/-- Opens one more table of an array of tables. -/
def openNextTable : List String → Members → Option Members
  | [], _ => none
  | [key], members =>
    match members.lookup key with
    | none => some (replace key (.tables [] []) members)
    | some (.tables earlier inner) =>
      some (replace key (.tables (earlier ++ [.table (Node.memberValues inner)]) []) members)
    | some _ => none
  | key :: path, members =>
    match members.lookup key with
    | none =>
      (openNextTable path []).map fun inner => replace key (.table .implied inner) members
    | some (.table origin inner) =>
      (openNextTable path inner).map fun inner => replace key (.table origin inner) members
    | some (.tables earlier inner) =>
      (openNextTable path inner).map fun inner => replace key (.tables earlier inner) members
    | some (.closed _) => none

/-- Puts a value under a key of the table that a header has opened. -/
def putBelow (value : Toml) (key : List String) : List String → Members → Option Members
  | [], members => putValue value key members
  | step :: path, members =>
    match members.lookup step with
    | some (.table origin inner) =>
      (putBelow value key path inner).map fun inner => replace step (.table origin inner) members
    | some (.tables earlier inner) =>
      (putBelow value key path inner).map fun inner => replace step (.tables earlier inner) members
    | _ => none

end Toml

end SceneCatalog
