import DataGrammar.Draft
import DataGrammar.Json.Fault
import DataGrammar.Text.Quoted
/-!
# Faults of grammar documents

What can be wrong with a grammar document in JSON besides its syntax, and where.
-/

namespace DataGrammar.Document

/-- What is wrong with a grammar document. -/
inductive Fault where
  /-- It is no JSON. -/
  | json (fault : Json.Fault)
  /-- There is a field besides the definitions. -/
  | unknownField (name : String)
  /-- The definitions come twice. -/
  | duplicateField
  /-- There are no definitions. -/
  | missingField
  /-- The list in place of the document is empty. -/
  | noItems
  /-- Something of this kind stands where `expected` should. -/
  | wrongType (found expected : String)
  /-- A tree is no description of a rule. -/
  | noDescription
  /-- An object is no description of a rule. -/
  | misfit (m : Draft.Misfit)
  deriving DecidableEq, Repr

/-- The wording of a misfit. -/
def misfitMessage : Draft.Misfit → String
  | .shapeless =>
    "a description object needs one of `pattern`, `contains`, `first`, or `repeats`"
  | .ambiguous => "use only one of `pattern`, `contains`, `first`, or `repeats`"

/-- The wording of a fault. -/
def Fault.message : Fault → String
  | .json f => f.message
  | .unknownField name => s!"unknown field `{name}`, expected `definitions`"
  | .duplicateField => "duplicate field `definitions`"
  | .missingField => "missing field `definitions`"
  | .noItems => "invalid length 0, expected struct GrammarDocument with 1 element"
  | .wrongType found expected => s!"invalid type: {found}, expected {expected}"
  | .noDescription => "data did not match any variant of untagged enum RawDescription"
  | .misfit m => misfitMessage m

/-- A fault and the number of bytes up to it. -/
structure Error where
  fault : Fault
  offset : Nat
  deriving DecidableEq, Repr

/-- The wording of an error in a text. -/
def Error.message (e : Error) (text : String) : String :=
  Json.located e.fault.message text e.offset

/-- The byte of a text that an error points to: the last one that was read. -/
def Error.place (e : Error) (text : String) : Nat := (Position.ofOffset text e.offset).offset text

end DataGrammar.Document
