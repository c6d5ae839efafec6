import SceneCatalog.Object.Fields
import SceneCatalog.Scene.Inline

/-
This file holds the clauses that the blocks of objects are made of.
-/

namespace SceneCatalog

/-- The text of an attribute that has to be set. -/
def requiredText (writer : NodeWriter) (object : Object) (name : String) :
    Except SceneError String := do
  (← object.required name).verbatim writer

/-- The text of an attribute that is set. -/
def textIfSet (writer : NodeWriter) (object : Object) (name : String) :
    Except SceneError (Option String) :=
  match object.value? name with
  | some value => (value.verbatim writer).map some
  | none => .ok none

/-- A part of a line. The attribute of an optional part may be unset. -/
inductive Piece where
  | words (text : String)
  | value (name : String)
  | quoted (name : String)
  | angled (name : String)
  | keyed (vocabulary : Vocabulary) (name : String)
  | optional (lead name : String)

def Piece.write (writer : NodeWriter) (object : Object) : Piece → Except SceneError String
  | words text => .ok text
  | value name => requiredText writer object name
  | quoted name => do (← object.required name).inline writer 0
  | angled name => do (← object.required name).angled writer
  | keyed vocabulary name => do (← object.required name).keyed vocabulary writer
  | optional lead name => do
    match ← textIfSet writer object name with
    | some text => return lead ++ text
    | none => return ""

/-- All items but the last have a comma behind them. -/
def separated : List String → List String
  | [] => []
  | [last] => [last]
  | item :: rest => (item ++ ",") :: separated rest

/-- Rows of equal size, the last one possibly shorter, given the places left in the row begun and
its items, last item first. -/
def rowsFrom {Item : Type} (size room : Nat) (row : List Item) : List Item → List (List Item)
  | [] => if row.isEmpty then [] else [row.reverse]
  | item :: rest =>
    if room == 0 then row.reverse :: rowsFrom size (size - 1) [item] rest
    else rowsFrom size (room - 1) (item :: row) rest

def rows {Item : Type} (size : Nat) (items : List Item) : List (List Item) :=
  rowsFrom (max size 1) (max size 1) [] items

def joined (writer : NodeWriter) (items : List Value) : Except SceneError String := do
  return ", ".intercalate (← items.mapM (·.verbatim writer))

/-- A list of points in rows, its length in front of it if it is counted. Other values stand in
one line. -/
def pointLines (writer : NodeWriter) (perRow : Nat) (counted : Bool) (value : Value) :
    Except SceneError (List String) :=
  match value.asList? with
  | none => (value.verbatim writer).map fun text => [text]
  | some items => do
    let texts ← (rows perRow items).mapM (joined writer)
    return (if counted then [toString items.length ++ ","] else []) ++ separated texts

def onOff (flag : Bool) : String := if flag then "on" else "off"

/-- What an object writes into its block. Attributes that are not set write nothing, except those
of lines, parts and points. -/
inductive Clause where
  | line (pieces : List Piece)
  | setting (name keyword : String)
  | file (name keyword : String)
  | bare (name : String)
  | flag (name keyword : String)
  | toggle (name keyword : String)
  | switchedOff (name text : String)
  | parts (name : String)
  | nested (name keyword : String)
  | points (name : String) (perRow : Nat) (counted : Bool)
  | lines (compose : NodeWriter → Object → Except SceneError (List String))

namespace Clause

/-- The lines of a clause that writes lines only. -/
def oneLine (text : Except SceneError String) : Except SceneError (List Markup) :=
  text.map fun line => [.line line]

def write (writer : NodeWriter) (object : Object) : Clause → Except SceneError (List Markup)
  | line pieces => oneLine ((pieces.mapM (Piece.write writer object)).map String.join)
  | setting name keyword =>
    match object.value? name with
    | some value => oneLine ((value.verbatim writer).map (keyword ++ " " ++ ·))
    | none => .ok []
  | file name keyword =>
    match object.value? name with
    | some value => oneLine ((value.inline writer 0).map (keyword ++ " " ++ ·))
    | none => .ok []
  | bare name =>
    match object.value? name with
    | some value => oneLine (value.verbatim writer)
    | none => .ok []
  | flag name keyword => .ok (if object.flag? name == some true then [.line keyword] else [])
  | toggle name keyword =>
    match object.flag? name with
    | some state => .ok [.line (keyword ++ " " ++ onOff state)]
    | none => .ok []
  | switchedOff name text => .ok (if object.flag? name == some false then [.line text] else [])
  | parts name => do ((← object.required name).body writer).toExcept
  | nested name keyword =>
    match object.value? name with
    | some value => (value.nested writer keyword).map fun block => [block]
    | none => .ok []
  | points name perRow counted => do
    return (← pointLines writer perRow counted (← object.required name)).map .line
  | lines compose => (compose writer object).map (·.map .line)

def writeAll (writer : NodeWriter) (object : Object) :
    List Clause → Except SceneError (List Markup)
  | [] => .ok []
  | clause :: rest => do
    let first ← clause.write writer object
    return first ++ (← writeAll writer object rest)

end Clause

/-- Clauses that stand in the block always, only while a flag is set, or then in a block of their
own. -/
inductive Section where
  | always (clauses : List Clause)
  | whileOn (switch : String) (clauses : List Clause)
  | blockWhileOn (switch keyword : String) (clauses : List Clause)

namespace Section

def write (writer : NodeWriter) (object : Object) : Section → Except SceneError (List Markup)
  | always clauses => Clause.writeAll writer object clauses
  | whileOn switch clauses =>
    if object.flag? switch == some true then Clause.writeAll writer object clauses else .ok []
  | blockWhileOn switch keyword clauses =>
    if object.flag? switch == some true then
      (Clause.writeAll writer object clauses).map fun body => [.block none keyword body]
    else .ok []

def writeAll (writer : NodeWriter) (object : Object) :
    List Section → Except SceneError (List Markup)
  | [] => .ok []
  | part :: rest => do
    let first ← part.write writer object
    return first ++ (← writeAll writer object rest)

end Section

/-- The block of a class. Its keyword may depend on the object. -/
structure Layout where
  keyword : Object → String
  sections : List Section

/-- The identifier of an object stands above its block. -/
def Layout.write (layout : Layout) (writer : NodeWriter) (object : Object) :
    Except SceneError Markup := do
  let body ← Section.writeAll writer object layout.sections
  let comment ← textIfSet writer object "id"
  return .block comment (layout.keyword object) body

end SceneCatalog
