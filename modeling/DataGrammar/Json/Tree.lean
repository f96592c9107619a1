import DataGrammar.Number.Binary
/-!
# JSON trees

What a JSON text holds. An object keeps its entries in the order of the text, and a key may occur
several times. Whole numbers of up to 64 bits are exact; other numbers are floating point.
-/

namespace DataGrammar

/-- A JSON value. -/
inductive Json where
  | null
  | boolean (value : Bool)
  /-- A whole number from `-2 ^ 63` to `2 ^ 64 - 1`. -/
  | integer (value : Int)
  | float (negative : Bool) (magnitude : Binary.Magnitude)
  | text (content : String)
  | array (items : List Json)
  | object (entries : List (String × Json))
  deriving Repr, Inhabited

end DataGrammar
