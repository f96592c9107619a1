import DataGrammar.Pattern.Meaning
import DataGrammar.Pattern.Search
import DataGrammar.Text.Cursor
/-!
# Patterns

A pattern is a regular expression that is matched at a cursor, with the text before the cursor in
view. `Pattern.compile` makes one from its text, or says why it is none.
-/

namespace DataGrammar

/-- A compiled pattern. -/
structure Pattern where
  /-- The program to run. -/
  program : Pattern.Program
  /-- Whether the pattern has a capture group, whose text is its value. -/
  hasCapture : Bool
  deriving Inhabited

namespace Pattern

/-- The pattern of an expression, unless its automaton would be too large. -/
def ofExpression (e : Expression) : Except Refusal Pattern :=
  if Expression.byteLimit < e.bytes then .error .tooLarge
  else .ok ⟨.ofExpression e, e.hasCapture⟩

/-- Compile a pattern. -/
def compile (text : String) : Except Refusal Pattern := do
  let tree ← Tree.ofText text
  let (e, _) ← tree.meaning .initial
  ofExpression e

/-- Match at a cursor. -/
def matchAt? (p : Pattern) (c : Cursor) : Option Match :=
  p.program.match? c.behind c.ahead

/-- The text of a match at a cursor: what the first capture group took, nothing if that group took
no part, and all of the match if the pattern has no group. -/
def textOf (p : Pattern) (c : Cursor) (m : Match) : String :=
  if p.hasCapture then
    match m.group? with
    | some (first, last) => .ofList ((c.ahead.take last).drop first)
    | none => ""
  else c.take m.length

end Pattern
end DataGrammar
