import DataGrammar.Value.Json
/-!
# Document trees

The part of a grammar document that describes a rule is held as a tree, whatever the format of the
document. In some formats the keys of a map need not be text.
-/

namespace DataGrammar.Document

/-- The key of an entry. -/
inductive Key where
  | text (content : String)
  | number (value : Nat)
  /-- Any other key. -/
  | other
  deriving DecidableEq, Repr

/-- What a document holds. -/
inductive Tree where
  | null
  | boolean (value : Bool)
  | integer (value : Int)
  | float (negative : Bool) (magnitude : Binary.Magnitude)
  | text (content : String)
  | list (items : List Tree)
  | map (entries : List (Key × Tree))
  deriving Repr, Inhabited

namespace Tree

mutual

/-- The tree of a JSON value. -/
def ofJson : Json → Tree
  | .null => .null
  | .boolean b => .boolean b
  | .integer n => .integer n
  | .float negative m => .float negative m
  | .text s => .text s
  | .array items => .list (itemsOfJson items)
  | .object entries => .map (entriesOfJson entries)

/-- The trees of items. -/
def itemsOfJson : List Json → List Tree
  | [] => []
  | j :: rest => ofJson j :: itemsOfJson rest

/-- The trees of entries. -/
def entriesOfJson : List (String × Json) → List (Key × Tree)
  | [] => []
  | (key, j) :: rest => (.text key, ofJson j) :: entriesOfJson rest

end

mutual

/-- The value that a tree stands for, if all keys are text. -/
def value? : Tree → Option Value
  | .null => some .null
  | .boolean b => some (.ofBool b)
  | .integer n => some (.ofInt n)
  | .float negative m => some (.ofFloat negative m)
  | .text s => some (.text s)
  | .list items => (values? items).map .list
  | .map entries => (entryValues? entries).map .ofEntries

/-- The values of items. -/
def values? : List Tree → Option (List Value)
  | [] => some []
  | t :: rest =>
    match t.value?, values? rest with
    | some v, some vs => some (v :: vs)
    | _, _ => none

/-- The values of entries. -/
def entryValues? : List (Key × Tree) → Option (List (String × Value))
  | [] => some []
  | (.text key, t) :: rest =>
    match t.value?, entryValues? rest with
    | some v, some vs => some ((key, v) :: vs)
    | _, _ => none
  | _ :: _ => none

end

end Tree
end DataGrammar.Document
