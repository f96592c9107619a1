import DataGrammar.Coercion.Target
import DataGrammar.Text.Quoted
/-!
# Mismatches

Most values that do not fit a target give its zero value. A mismatch is what is left: a place
where the target has none.
-/

namespace DataGrammar

/-- Why a value cannot be coerced. -/
inductive Mismatch where
  /-- A required field is not there. -/
  | missingField (name : String)
  /-- A closed record has no such field. -/
  | unknownField (name : String) (expected : List String)
  /-- A choice has no such variant. -/
  | unknownVariant (name : String) (expected : List String)
  /-- A variant with data is named without them. -/
  | bareVariant (expected : VariantShape)
  /-- There are fewer items than a tuple has. -/
  | tooFew (length : Nat) (expected : String)
  /-- A value of this kind names no variant. -/
  | noVariant (typeName : String)
  /-- A value or a key is of no use for a type. -/
  | wrongType (found expected : String)
  /-- A key is not one character. -/
  | noCharacter (key : String)
  deriving DecidableEq, Repr

namespace Mismatch

/-- A list of names, of which one is expected. -/
def oneOf : List String → String
  | [] => ""
  | [a] => s!"`{a}`"
  | [a, b] => s!"`{a}` or `{b}`"
  | names => "one of " ++ ", ".intercalate (names.map fun n => s!"`{n}`")

/-- The end of a message about a name that is not one of those expected. -/
def alternatives (nothing : String) (expected : List String) : String :=
  if expected.isEmpty then s!", there are no {nothing}" else s!", expected {oneOf expected}"

/-- How a message calls a variant of a shape. -/
def shapeName : VariantShape → String
  | .unit => "unit variant"
  | .newtype => "newtype variant"
  | .tuple => "tuple variant"
  | .struct => "struct variant"

/-- The wording. -/
def message : Mismatch → String
  | .missingField name => s!"missing field `{name}`"
  | .unknownField name expected => s!"unknown field `{name}`" ++ alternatives "fields" expected
  | .unknownVariant name expected =>
    s!"unknown variant `{name}`" ++ alternatives "variants" expected
  | .bareVariant expected => "invalid type: unit variant, expected " ++ shapeName expected
  | .tooFew length expected => s!"invalid length {length}, expected {expected}"
  | .noVariant typeName =>
    s!"expected a string or a one-entry map for an enum, got {typeName}"
  | .wrongType found expected => s!"invalid type: {found}, expected {expected}"
  | .noCharacter key => "invalid value: string " ++ quoted key ++ ", expected a character"

end Mismatch
end DataGrammar
