import DataGrammar.Draft
import DataGrammar.Notation.Grammar
import DataGrammar.Notation.Literal
import DataGrammar.Number.Literal
/-!
# Reading the notation

`Notation.definitions` reads the rules of a grammar off a text. The text must match as a whole;
the literal under `definitions` then gives the rules, whose names must differ.
-/

namespace DataGrammar.Notation

/-- The greatest bound that a repetition can have. -/
def greatestBound : Nat := Nat.pow 2 64 - 1

/-- The bound of a repetition: the whole part of the nearest floating point number, or the
greatest bound. -/
def bound? (spelling : String) : Option Nat :=
  match Number.float? Binary.double spelling with
  | some (negative, m) =>
    if negative && m != .finite 0 0 then none
    else (Binary.double.floor? m).map (min greatestBound)
  | none => none

/-- A diagnostic of a rule. -/
def invalid (rule reason : String) : Diagnostic := Cause.invalidDescription rule reason

/-- How an object fails to be a description. -/
def misfit (rule : String) : Draft.Misfit → Diagnostic
  | .shapeless => invalid rule "object needs one of `contains`, `first`, or `repeats`"
  | .ambiguous => invalid rule "use only one of `contains`, `first`, or `repeats`"

namespace Literal

/-- The bound that a property sets. -/
def bound (rule key : String) : Literal → Except Diagnostic Nat
  | .number spelling =>
    match bound? spelling with
    | some n => .ok n
    | none => .error (invalid rule s!"`{key}` must be a non-negative number")
  | _ => .error (invalid rule s!"`{key}` must be a non-negative number")

/-- The text that a property sets. -/
def label (rule key : String) : Literal → Except Diagnostic String
  | .string content | .word content => .ok content
  | _ => .error (invalid rule s!"`{key}` must be a string")

mutual

/-- The value that a literal stands for; numbers and truth values keep their spelling. -/
def value : Literal → Value
  | .string content => .text content
  | .null _ => .null
  | .regex spelling | .number spelling | .boolean spelling | .word spelling => .text spelling
  | .array items => .list (values items)
  | .object properties => .ofEntries (entries properties)

/-- The values of literals. -/
def values : List Literal → List Value
  | [] => []
  | literal :: rest => literal.value :: values rest

/-- The entries of properties. -/
def entries : List (String × Literal) → List (String × Value)
  | [] => []
  | (name, literal) :: rest => (name, literal.value) :: entries rest

end

/-- The default that a property sets; `undefined` sets none. -/
def default? : Literal → Option Value
  | .null "undefined" => none
  | literal => some literal.value

mutual

/-- The description that a literal stands for in a rule. -/
def describe (rule : String) : Literal → Except Diagnostic Description
  | .string content | .word content => .ok (.ref content)
  | .regex body => .ok (.slashed body)
  | .number spelling => .error (invalid rule s!"number `{spelling}` is not a grammar construct")
  | .boolean spelling => .error (invalid rule s!"boolean `{spelling}` is not a grammar construct")
  | .null spelling => .error (invalid rule s!"null `{spelling}` is not a grammar construct")
  | .array items => do return .series (← describeItems rule items)
  | .object properties => do
    let draft ← draft rule properties {}
    match draft.describe with
    | .ok d => return d
    | .error m => throw (misfit rule m)

/-- The descriptions of literals. -/
def describeItems (rule : String) : List Literal → Except Diagnostic (List Description)
  | [] => .ok []
  | literal :: rest => do
    let d ← literal.describe rule
    let ds ← describeItems rule rest
    return d :: ds

/-- The descriptions that a property sets. -/
def describeArray (rule key : String) : Literal → Except Diagnostic (List Description)
  | .array items => describeItems rule items
  | _ => .error (invalid rule s!"`{key}` must be an array")

/-- Read properties into a draft; the last one of each key counts. -/
def draft (rule : String) : List (String × Literal) → Draft → Except Diagnostic Draft
  | [], d => .ok d
  | (key, literal) :: rest, d => do
    let d ← match key with
      | "contains" => do
        let parts ← literal.describeArray rule key
        pure { d with contains := some parts }
      | "first" => do
        let branches ← literal.describeArray rule key
        pure { d with first := some branches }
      | "repeats" => do
        let item ← literal.describe rule
        pure { d with repeats := some item }
      | "separator" => do
        let separator ← literal.describe rule
        pure { d with separator := some separator }
      | "min" => do
        let least ← literal.bound rule key
        pure { d with least }
      | "max" => do
        let most ← literal.bound rule key
        pure { d with most := some most }
      | "nest" => do
        let keyword ← literal.label rule key
        pure { d with nesting := .ofKeyword keyword }
      | "name" => do
        let name ← literal.label rule key
        pure { d with name := some name }
      | "default" => pure { d with default := literal.default? }
      | _ => throw (invalid rule s!"unknown key `{key}`")
    draft rule rest d

end

end Literal

/-- Define rules one after the other; a name must not come twice. -/
def define : List (String × Literal) → Definitions → Except Diagnostic Definitions
  | [], d => .ok d
  | (rule, literal) :: rest, d => do
    let description ← literal.describe rule
    if d.contains rule then
      Except.error (Diagnostic.ofCause (.duplicateRule rule))
    define rest (d.insert rule description)

/-- The rules in the tree of a text. A text that matches as a whole has a tree of properties. -/
def rules (tree : Value) : Except Diagnostic (List (String × Literal)) :=
  match tree.list?.bind Literal.properties? with
  | none => .error (Cause.invalidNotation "`document` is not an object")
  | some root =>
    match root.find? fun p => p.1 = "definitions" with
    | none => .error (Cause.invalidNotation "missing `definitions`")
    | some (_, .object rules) => .ok rules
    | some _ => .error (Cause.invalidNotation "`definitions` must be an object")

/-- Why a text does not match as a whole. -/
def mismatch (o : Outcome) : Cause :=
  if o.success then .invalidNotation "unexpected text after the grammar object"
  else .invalidNotation "expected a `\x7b definitions: \x7b ... \x7d \x7d` object"

/-- Read the rules of a grammar off a text; `name` stands for the text in diagnostics. -/
def definitions (name text : String) : Except Diagnostic Definitions := do
  let o ← (← parser).run "document" text
  if !o.isComplete text then
    let stop := min o.position text.utf8ByteSize
    throw ((Diagnostic.ofCause (mismatch o)).withSource (.between name text stop stop))
  define (← rules o.result) .empty

end DataGrammar.Notation
