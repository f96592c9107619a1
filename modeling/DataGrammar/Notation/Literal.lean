import DataGrammar.Value
/-!
# Literals of the notation

A literal is what a run of the notation's grammar finds in a text: a tree of objects and arrays
with words, numbers and regular expressions at its leaves. `Literal.ofValue?` reads it off the
result of the run.
-/

namespace DataGrammar.Notation

/-- The text that a quoted text stands for. A backslash before any character but those for line
feed, tab, return, backslash, quotes and slash stays. -/
def unescape : List Char → List Char
  | [] => []
  | ['\\'] => ['\\']
  | '\\' :: c :: rest =>
    let here := match c with
      | 'n' => ['\n']
      | 't' => ['\t']
      | 'r' => ['\r']
      | '\\' | '"' | '\'' | '/' => [c]
      | _ => ['\\', c]
    here ++ unescape rest
  | c :: rest => c :: unescape rest

/-- The text that a quoted text or a bare word stands for. -/
def unescaped (raw : String) : String := .ofList (unescape raw.toList)

/-- A value of the notation. -/
inductive Literal where
  /-- A quoted text. -/
  | string (content : String)
  /-- A regular expression, as it stands between its slashes. -/
  | regex (body : String)
  | number (spelling : String)
  | boolean (spelling : String)
  /-- One of the words for nothing. -/
  | null (spelling : String)
  /-- A bare word. -/
  | word (content : String)
  | object (properties : List (String × Literal))
  | array (items : List Literal)
  deriving Repr, Inhabited

namespace Literal

mutual

/-- Read a literal off a map with one entry, whose key is the kind of the literal. -/
def ofValue? : Value → Option Literal
  | .map [("String", .text raw)] => some (.string (unescaped raw))
  | .map [("Regex", .text body)] => some (.regex body)
  | .map [("Number", .text spelling)] => some (.number spelling)
  | .map [("Boolean", .text spelling)] => some (.boolean spelling)
  | .map [("Null", .text spelling)] => some (.null spelling)
  | .map [("Identifier", .text content)] => some (.word content)
  | .map [("Object", .list entries)] => (properties? entries).map .object
  | .map [("Array", .list entries)] => (items? entries).map .array
  | _ => none

/-- Read properties off maps of a name and a value. -/
def properties? : List Value → Option (List (String × Literal))
  | [] => some []
  | .map [("Name", .text name), ("Value", value)] :: rest =>
    match ofValue? value, properties? rest with
    | some literal, some literals => some ((unescaped name, literal) :: literals)
    | _, _ => none
  | _ :: _ => none

/-- Read literals in order. -/
def items? : List Value → Option (List Literal)
  | [] => some []
  | value :: rest =>
    match ofValue? value, items? rest with
    | some literal, some literals => some (literal :: literals)
    | _, _ => none

end

end Literal
end DataGrammar.Notation
