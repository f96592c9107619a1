import DataGrammar.Number.Binary
import DataGrammar.Value
/-!
# Targets of a coercion

A caller who wants typed data says so by a target: a scalar, a container of targets, a record with
named fields, or a choice of named variants. What a coercion then gives is a `Datum`.
-/

namespace DataGrammar

/-- How a variant of a choice carries its data. -/
inductive VariantShape where
  /-- No data. -/
  | unit
  /-- One datum. -/
  | newtype
  /-- A fixed number of data. -/
  | tuple
  /-- Named fields. -/
  | struct
  deriving DecidableEq, Repr

/-- Typed data. -/
inductive Datum where
  | boolean (value : Bool)
  | integer (value : Int)
  | float (format : Binary.Format) (negative : Bool) (magnitude : Binary.Magnitude)
  | character (value : Char)
  | text (content : String)
  | unit
  | bytes (content : List UInt8)
  /-- A value as it is. -/
  | value (content : Value)
  /-- What is not looked at. -/
  | ignored
  /-- No datum, where there may be none. -/
  | absent
  | present (content : Datum)
  | list (items : List Datum)
  /-- Entries under the keys that the value has, in its order. -/
  | mapping (entries : List (String × Datum))
  /-- Fields by their labels, in the order in which they are declared. -/
  | record (fields : List (String × Datum))
  | variant (name : String) (shape : VariantShape) (content : Datum)
  deriving Repr, Inhabited

/-- A field of a record. -/
structure Field where
  /-- The key that has it in a value. -/
  key : String
  /-- Its name in the record. -/
  label : String
  /-- What it is where the value lacks it; a field without a default is required. -/
  default : Option Datum
  deriving Repr, Inhabited

namespace Field

/-- A field that must be there, filed under its name. -/
def required (name : String) : Field := ⟨name, name, none⟩

/-- A field that may be left out, filed under its name. -/
def defaulted (name : String) (default : Datum) : Field := ⟨name, name, some default⟩

end Field

/-- The keys that a mapping may have. -/
inductive KeyTarget where
  /-- Any text. -/
  | text
  /-- One character. -/
  | character
  /-- An integer type of this name, which no text is a key of. -/
  | integer (name : String)
  deriving DecidableEq, Repr

/-- What a value is coerced into. -/
inductive Target where
  | boolean
  /-- Integers of so many bits. -/
  | integer (signed : Bool) (bits : Nat)
  /-- An integer type of this name that is too wide to be read from text. -/
  | wide (name : String)
  | float (format : Binary.Format)
  | character
  | text
  | unit
  /-- The UTF-8 form of a text. -/
  | bytes
  /-- Any value as it is. -/
  | value
  /-- Any value, which is not looked at. -/
  | ignored
  | optional (content : Target)
  | list (item : Target)
  /-- As many items as there are targets; `expected` describes them. -/
  | tuple (items : List Target) (expected : String)
  | wrapped (content : Target)
  | mapping (key : KeyTarget) (item : Target)
  /-- Fields; a closed record has no others. -/
  | record (closed : Bool) (fields : List (Field × Target))
  | choice (variants : List (String × VariantShape × Target))
  deriving Inhabited

namespace Target

/-- Whether there may be no datum. -/
def isOptional : Target → Bool
  | .optional _ => true
  | _ => false

/-- A target that occurs in itself, written out to a depth. Values that nest less deep than that
do not see where it ends. -/
def unroll (step : Target → Target) : (depth : Nat) → Target
  | 0 => .ignored
  | depth + 1 => step (unroll step depth)

end Target
end DataGrammar
