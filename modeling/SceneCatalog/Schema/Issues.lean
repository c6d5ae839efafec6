import SceneCatalog.SortedMap

/-
This file collects what is wrong with class tables.
-/

namespace SceneCatalog

/-- Messages stand under the route to a class or an attribute, or under the empty route. -/
structure Issues where
  messages : SortedMap (List String)

namespace Issues

def empty : Issues := ⟨SortedMap.empty⟩

/-- New messages of a route come after those it has. -/
def extend (issues : Issues) (route : String) (messages : List String) : Issues :=
  ⟨issues.messages.upsert route fun held => held.getD [] ++ messages⟩

def addAt (issues : Issues) (route message : String) : Issues := issues.extend route [message]

def add (issues : Issues) (message : String) : Issues := issues.addAt "" message

def joinRoutes (route sub : String) : String :=
  if route.isEmpty then sub else if sub.isEmpty then route else route ++ "." ++ sub

/-- The other issues come in under a route. -/
def merge (issues : Issues) (route : String) (other : Issues) : Issues :=
  other.messages.entries.foldl
    (fun merged entry => merged.extend (joinRoutes route entry.1) entry.2) issues

def isEmpty (issues : Issues) : Bool := issues.messages.entries.isEmpty

def count (issues : Issues) : Nat :=
  issues.messages.entries.foldr (fun entry total => entry.2.length + total) 0

def get? (issues : Issues) (route : String) : Option (List String) := issues.messages.get? route

def routes (issues : Issues) : List String := issues.messages.keys

def result (issues : Issues) : Except Issues Unit :=
  if issues.isEmpty then .ok () else .error issues

def line (route message : String) : String :=
  if route.isEmpty then "  " ++ message ++ "\n" else "  " ++ route ++ ": " ++ message ++ "\n"

/-- One message a line. -/
def text (issues : Issues) : String :=
  String.join (issues.messages.entries.flatMap fun entry => entry.2.map (line entry.1))

end Issues

end SceneCatalog
