import DataGrammar.Definitions
import DataGrammar.Document.Describe
import DataGrammar.Document.Fault
/-!
# Grammar documents in JSON

A grammar document is an object whose only field is `definitions`, an object that has the
description of each rule under its name. It may also be a list of that one field.

The document is checked while it is read, so a rule that has no description is reported before
anything that follows it. Such a fault is placed where the map or list around it ends, or where
its end is missing.
-/

namespace DataGrammar.Document

/-- A step of a reader of documents. -/
abbrev Read (α : Type) := StateT Cursor (Except Error) α

namespace Read

/-- A step of a reader of JSON. -/
def json {α : Type} (step : Json.Read α) : Read α := fun c =>
  match step c with
  | .ok r => .ok r
  | .error e => .error ⟨.json e.fault, e.offset⟩

/-- Stop with a fault before the cursor. -/
def fail {α : Type} (fault : Fault) : Read α := do throw ⟨fault, (← get).offset⟩

/-- Stop with a fault at the end of the map around it. -/
def failInMap {α : Type} (fault : Fault) : Read α := do
  if (← json Json.Read.token?) = some '}' then json (Json.Read.pass 1)
  fail fault

/-- Stop with a fault at the end of the list around it. -/
def failInList {α : Type} (fault : Fault) : Read α := do
  match ← json Json.Read.token? with
  | some ']' => json (Json.Read.pass 1)
  | some ',' => json do
    Json.Read.pass 1
    let _ ← Json.Read.token?
  | _ => pure ()
  fail fault

end Read

open Read

/-- What a message calls a scalar. -/
def scalarName : Json → String
  | .null => "null"
  | .boolean b => if b then "boolean `true`" else "boolean `false`"
  | .integer n => s!"integer `{n}`"
  | .float negative m =>
    let number := Binary.double.compact negative m
    s!"floating point `{number}`"
  | .text s => "string " ++ quoted s
  | .array _ => "sequence"
  | .object _ => "map"

/-- Stop with a fault of the next value, which should have been something else. Of arrays and
objects nothing is read. -/
def failType {α : Type} (expected : String) : Read α := do
  match ← json Json.Read.token? with
  | some '[' => fail (.wrongType "sequence" expected)
  | some '{' => fail (.wrongType "map" expected)
  | _ =>
    let j ← json (Json.readValue 0)
    fail (.wrongType (scalarName j) expected)

/-- Read the description of a rule. -/
def readDescription (depth : Nat) : Read Description := do
  let j ← json (Json.readValue depth)
  match (Tree.ofJson j).describe? with
  | some (.ok d) => return d
  | some (.error m) => failInMap (.misfit m)
  | none => failInMap .noDescription

/-- Read the next character of a value, which must be there. -/
def firstToken : Read Char := do
  match ← json Json.Read.token? with
  | some c => return c
  | none => json (Json.Read.failNext .endInValue)

/-- Read the definitions of rules. -/
def readDefinitions (depth : Nat) : Read Definitions := do
  if (← firstToken) = '{' then
    json (Json.Read.pass 1)
    let rules ← readRules depth ((← get).ahead.length + 1) true
    json (Json.Read.pass 1)
    return .ofList rules
  else failType "a map"
where
  /-- Read rules up to the closing brace. -/
  readRules (depth : Nat) : (fuel : Nat) → (first : Bool) → Read (List (String × Description))
    | 0, _ => json (Json.Read.failNext .endInObject)
    | fuel + 1, first => do
      if ← json (Json.anotherKey first) then
        let name ← json Json.readString
        json Json.expectColon
        let d ← readDescription depth
        return (name, d) :: (← readRules depth fuel false)
      else return []

/-- Read the fields of a document up to its closing brace; `found` are the definitions, if they
have come already. -/
def readFields (depth : Nat) :
    (fuel : Nat) → (first : Bool) → (found : Option Definitions) → Read Definitions
  | 0, _, _ => json (Json.Read.failNext .endInObject)
  | fuel + 1, first, found => do
    if ← json (Json.anotherKey first) then
      let key ← json Json.readString
      if key ≠ "definitions" then failInMap (.unknownField key)
      else if found.isSome then failInMap .duplicateField
      else
        json Json.expectColon
        let d ← readDefinitions depth
        readFields depth fuel false (some d)
    else
      match found with
      | some d => return d
      | none => failInMap .missingField

/-- Pass the closing bracket of a document that is a list; one item must be all there is. -/
def closeList : Read Unit := do
  match ← json Json.Read.token? with
  | some ']' => json (Json.Read.pass 1)
  | some ',' => json do
    Json.Read.pass 1
    Json.Read.failNext (if (← Json.Read.token?) = some ']' then .trailingComma
      else .trailingCharacters)
  | some _ => json (Json.Read.failNext .trailingCharacters)
  | none => json (Json.Read.failNext .endInArray)

/-- Read a document. -/
def readDocument : Read Definitions := do
  match ← firstToken with
  | '{' =>
    json (Json.Read.pass 1)
    let d ← readFields (Json.maxDepth - 2) ((← get).ahead.length + 1) true none
    json (Json.Read.pass 1)
    return d
  | '[' =>
    json (Json.Read.pass 1)
    if ← json (Json.anotherItem true) then
      let d ← readDefinitions (Json.maxDepth - 2)
      closeList
      return d
    else failInList .noItems
  | _ => failType "struct GrammarDocument"

/-- Read the definitions in a document. -/
def definitions (text : String) : Except Error Definitions :=
  (do
    let d ← readDocument
    json Json.expectEnd
    return d : Read Definitions).run' (.start text)

end DataGrammar.Document
