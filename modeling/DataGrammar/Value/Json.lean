import DataGrammar.Json.Printer
import DataGrammar.Json.Reader
import DataGrammar.Value
/-!
# Values as JSON

A value is written as the JSON value of the same form. From JSON any value can be read: numbers and
truth values become their text.

* `Value.toJson` and `Value.ofJson` convert between the two.
* `Value.serialize` writes a value as compact JSON, with no tree in between.
-/

namespace DataGrammar.Value

/-- The text of a truth value. -/
def ofBool (b : Bool) : Value := .text (if b then "true" else "false")

/-- The text of a whole number. -/
def ofInt (n : Int) : Value := .text (toString n)

/-- The text of a floating point number: all its places, as few digits as read back. -/
def ofFloat (negative : Bool) (m : Binary.Magnitude) : Value :=
  .text (Binary.double.display negative m)

mutual

/-- The JSON value of a value. -/
def toJson : Value → Json
  | .null => .null
  | .text s => .text s
  | .list items => .array (itemsToJson items)
  | .map entries => .object (entriesToJson entries)

/-- The JSON values of items. -/
def itemsToJson : List Value → List Json
  | [] => []
  | v :: rest => v.toJson :: itemsToJson rest

/-- The JSON values of entries. -/
def entriesToJson : List (String × Value) → List (String × Json)
  | [] => []
  | (key, v) :: rest => (key, v.toJson) :: entriesToJson rest

end

mutual

/-- The value that a JSON value stands for; the last entry of each key stays. -/
def ofJson : Json → Value
  | .null => .null
  | .boolean b => ofBool b
  | .integer n => ofInt n
  | .float negative m => ofFloat negative m
  | .text s => .text s
  | .array items => .list (itemsOfJson items)
  | .object entries => .ofEntries (entriesOfJson entries)

/-- The values of items. -/
def itemsOfJson : List Json → List Value
  | [] => []
  | j :: rest => ofJson j :: itemsOfJson rest

/-- The values of entries. -/
def entriesOfJson : List (String × Json) → List (String × Value)
  | [] => []
  | (key, j) :: rest => (key, ofJson j) :: entriesOfJson rest

end

/-- The text of a value: compact JSON. -/
def display (v : Value) : String := v.toJson.compact

mutual

/-- The characters of a value as compact JSON. -/
def serializeChars : Value → List Char
  | .null => ['n', 'u', 'l', 'l']
  | .text s => Json.string s
  | .list items => '[' :: serializeItems true items
  | .map entries => '{' :: serializeEntries true entries

/-- The items after others or as the first ones, and the closing bracket. -/
def serializeItems (first : Bool) : List Value → List Char
  | [] => [']']
  | v :: rest => (if first then [] else [',']) ++ v.serializeChars ++ serializeItems false rest

/-- The entries after others or as the first ones, and the closing brace. -/
def serializeEntries (first : Bool) : List (String × Value) → List Char
  | [] => ['}']
  | (key, v) :: rest =>
    (if first then [] else [',']) ++ Json.string key ++ ':' :: v.serializeChars ++
      serializeEntries false rest

end

/-- Write a value as compact JSON. -/
def serialize (v : Value) : String := .ofList v.serializeChars

/-- Read a value from JSON. -/
def deserialize (text : String) : Except Json.Error Value := (Json.ofText text).map ofJson

end DataGrammar.Value
