import DataGrammar.Json.Fault
/-!
# Steps of a JSON reader

A reader passes over a text by a cursor. A fault lies either just before the cursor or at the next
byte, which then counts as read.
-/

namespace DataGrammar.Json

/-- A step of a reader. -/
abbrev Read (α : Type) := StateT Cursor (Except Error) α

namespace Read

/-- Stop with a fault after a number of bytes. -/
def failAt {α : Type} (fault : Fault) (offset : Nat) : Read α := throw ⟨fault, offset⟩

/-- The bytes passed. -/
def offset : Read Nat := return (← get).offset

/-- The characters left. -/
def ahead : Read (List Char) := return (← get).ahead

/-- The next character. -/
def next? : Read (Option Char) := return (← get).ahead.head?

/-- Pass characters. -/
def pass (n : Nat) : Read Unit := modify (Cursor.advance n)

/-- Stop with a fault before the cursor. -/
def fail {α : Type} (fault : Fault) : Read α := do failAt fault (← offset)

/-- The bytes passed and the next one, if there is one. -/
def nextOffset (c : Cursor) : Nat := if c.ahead.isEmpty then c.offset else c.offset + 1

/-- Stop with a fault of the next byte. -/
def failNext {α : Type} (fault : Fault) : Read α := do failAt fault (nextOffset (← get))

/-- Blanks between tokens. -/
def isBlank (c : Char) : Bool := c == ' ' || c == '\n' || c == '\t' || c == '\r'

/-- Pass blanks and look at the next character. -/
def token? : Read (Option Char) := do
  pass ((← ahead).takeWhile isBlank).length
  next?

end Read
end DataGrammar.Json
