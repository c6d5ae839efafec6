import SceneCatalog.Schema.Issues
import SceneCatalog.Schema.Lineage
import SceneCatalog.Schema.Naming

/-
This file looks for faults in class tables before code is generated from them.
-/

namespace SceneCatalog

namespace ClassTable

def reviewName (table : ClassTable) (issues : Issues) : Issues :=
  let issues :=
    if Naming.isPascalCase table.name then issues
    else issues.add ("class name '" ++ table.name ++ "' must be PascalCase")
  let issues :=
    if table.name.utf8ByteSize > Naming.longestName then
      issues.add ("class name '" ++ table.name ++ "' exceeds " ++
        toString Naming.longestName ++ " characters")
    else issues
  if table.location.ident.isEmpty then
    issues.add ("descriptor for '" ++ table.name ++ "' has no static identifier")
  else issues

/-- A name that came before is a duplicate; `seen` holds the names that came before. -/
def reviewAttributeNames (issues : Issues) (seen : List String) : List String → Issues
  | [] => issues
  | name :: rest =>
    let issues :=
      if Naming.isCamelCase name then issues
      else issues.addAt name "attribute names must be camelCase"
    let issues :=
      if name.utf8ByteSize > Naming.longestName then
        issues.addAt name ("attribute name exceeds " ++ toString Naming.longestName ++
          " characters")
      else issues
    let issues :=
      if seen.contains name then issues.addAt name "duplicate attribute name" else issues
    reviewAttributeNames issues (name :: seen) rest

/-- The attribute that had a method last, for each method. -/
abbrev Owners := List (String × String)

/-- A method of another attribute is taken over and reported. -/
def claimMethod (name method : String) (state : Issues × Owners) : Issues × Owners :=
  let (issues, owners) := state
  let issues := match owners.lookup method with
    | some previous =>
      if previous == name then issues
      else issues.addAt name ("method '" ++ method ++ "' collides with '" ++ previous ++ "'")
    | none => issues
  (issues, (method, name) :: owners)

def reviewMethodNames (state : Issues × Owners) : List String → Issues
  | [] => state.1
  | name :: rest =>
    let getter := Naming.methodName name
    let (issues, owners) := state
    let issues :=
      if Naming.reservedMethods.contains getter then
        issues.addAt name ("'" ++ getter ++ "' is a reserved method name")
      else issues
    let issues :=
      if Naming.neverNames.contains getter then
        issues.addAt name ("'" ++ getter ++ "' cannot be used as an identifier")
      else issues
    reviewMethodNames (claimMethod name getter (claimMethod name ("set_" ++ getter)
      (issues, owners))) rest

def reviewImmutables (table : ClassTable) (issues : Issues) : Issues :=
  table.immutables.foldl (fun issues immutable =>
    if immutable.value.isFinite then issues
    else issues.addAt immutable.name "initializer is not a finite number") issues

/-- An initial value has to be one that an assignment would accept. -/
def reviewRule (table : ClassTable) (issues : Issues) (rule : Attribute) : Issues :=
  let issues :=
    if rule.validator.isSome && rule.complaint.isEmpty then
      issues.addAt rule.name "validated attribute has no error message"
    else issues
  let issues :=
    if rule.typeName.isEmpty then issues.addAt rule.name "attribute has no type name" else issues
  let issues :=
    if rule.initial.any (!·.isFinite) then
      issues.addAt rule.name "default value is not a finite number"
    else issues
  match rule.initial.bind Constant.toValue? with
  | none => issues
  | some value =>
    match rule.accept table.name (.literal value) with
    | .ok _ => issues
    | .error _ => issues.addAt rule.name "default value fails the attribute's validator"

def reviewConstructor (table : ClassTable) (issues : Issues) : Issues :=
  match table.parameters, table.body with
  | some _, none => issues.add "constructor_args given without constructor_body"
  | none, some _ => issues.add "constructor_body given without constructor_args"
  | _, _ => issues

/-- The faults of one table by itself. -/
def review (table : ClassTable) : Issues :=
  let issues := table.reviewName Issues.empty
  let issues := reviewAttributeNames issues [] table.attributeNames
  let issues := reviewMethodNames (issues, []) table.attributeNames
  let issues := table.reviewImmutables issues
  let issues := table.attributes.foldl table.reviewRule issues
  table.reviewConstructor issues

end ClassTable

namespace Catalog

/-- Classes share no module; `seen` holds the modules and classes that came before. -/
def reviewModules (issues : Issues) (seen : List (String × String)) : Catalog → Issues
  | [] => issues
  | table :: rest =>
    let snake := Naming.snakeName table.name
    let issues := match seen.lookup snake with
      | some previous =>
        if previous == table.name then
          issues.add ("duplicate class name '" ++ previous ++ "'")
        else
          issues.add ("class names '" ++ previous ++ "' and '" ++ table.name ++
            "' both map to '" ++ snake ++ "'")
      | none => issues
    reviewModules issues ((snake, table.name) :: seen) rest

/-- The place of the last class that has the name. -/
def lastIndex? (catalog : Catalog) (name : String) : Option Nat :=
  (catalog.zipIdx.reverse.find? fun entry => entry.1.name == name).map (·.2)

/-- Superclasses stand in front of their subclasses and are built from options. -/
def reviewSuperclass (catalog : Catalog) (issues : Issues) (entry : ClassTable × Nat) : Issues :=
  let (table, index) := entry
  match table.superclass with
  | none => issues
  | some superclass =>
    match catalog.lastIndex? superclass with
    | none => issues.add ("'" ++ table.name ++ "' extends unknown class '" ++ superclass ++ "'")
    | some place =>
      if place ≥ index then
        issues.add ("'" ++ table.name ++ "' must be declared after its superclass '" ++
          superclass ++ "'")
      else if (catalog[place]?.all (·.takesOptions)) then issues
      else
        issues.add ("'" ++ table.name ++ "' extends '" ++ superclass ++
          "', which has a custom constructor")

/-- The faults of each table under the name of its class, then those of all tables together. -/
def reviewAll (catalog : Catalog) : Issues :=
  let issues := catalog.foldl (fun issues table => issues.merge table.name table.review)
    Issues.empty
  let issues := reviewModules issues [] catalog
  catalog.zipIdx.foldl catalog.reviewSuperclass issues

def review (catalog : Catalog) : Except Issues Unit := catalog.reviewAll.result

end Catalog

end SceneCatalog
