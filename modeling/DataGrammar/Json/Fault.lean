import DataGrammar.Text.Position
/-!
# Faults of JSON texts

What can be wrong with a JSON text, and where.
-/

namespace DataGrammar.Json

/-- What is wrong with a JSON text. -/
inductive Fault where
  /-- The text ends in an array. -/
  | endInArray
  /-- The text ends in an object. -/
  | endInObject
  /-- The text ends in a string. -/
  | endInText
  /-- The text ends where a value is expected or not complete. -/
  | endInValue
  | expectedColon
  | expectedCommaOrBracket
  | expectedCommaOrBrace
  /-- A word that is not `true`, `false` or `null`. -/
  | expectedWord
  | expectedValue
  | invalidEscape
  | invalidNumber
  /-- A number beyond floating point. -/
  | numberOutOfRange
  /-- A control character in a string. -/
  | controlCharacter
  /-- An object has a key without quotes. -/
  | keyWithoutQuotes
  /-- A surrogate in an escape without its partner. -/
  | loneSurrogate
  /-- The escape of a leading surrogate is not followed by an escape. -/
  | missingSurrogate
  /-- Arrays and objects nest too deep. -/
  | tooDeep
  | trailingComma
  /-- Something follows that should not be there. -/
  | trailingCharacters
  deriving DecidableEq, Repr

/-- The wording of a fault. -/
def Fault.message : Fault → String
  | .endInArray => "EOF while parsing a list"
  | .endInObject => "EOF while parsing an object"
  | .endInText => "EOF while parsing a string"
  | .endInValue => "EOF while parsing a value"
  | .expectedColon => "expected `:`"
  | .expectedCommaOrBracket => "expected `,` or `]`"
  | .expectedCommaOrBrace => "expected `,` or `\x7d`"
  | .expectedWord => "expected ident"
  | .expectedValue => "expected value"
  | .invalidEscape => "invalid escape"
  | .invalidNumber => "invalid number"
  | .numberOutOfRange => "number out of range"
  | .controlCharacter => "control character (\\u0000-\\u001F) found while parsing a string"
  | .keyWithoutQuotes => "key must be a string"
  | .loneSurrogate => "lone leading surrogate in hex escape"
  | .missingSurrogate => "unexpected end of hex escape"
  | .tooDeep => "recursion limit exceeded"
  | .trailingComma => "trailing comma"
  | .trailingCharacters => "trailing characters"

/-- A fault and the number of bytes up to it. -/
structure Error where
  fault : Fault
  offset : Nat
  deriving DecidableEq, Repr

/-- A message with the position in a text that it is about. -/
def located (message text : String) (offset : Nat) : String :=
  let p := Position.ofOffset text offset
  s!"{message} at line {p.line} column {p.column}"

/-- The wording of an error in a text. -/
def Error.message (e : Error) (text : String) : String := located e.fault.message text e.offset

end DataGrammar.Json
