import DataGrammar.Text.Cursor
import DataGrammar.Yaml.Character
/-!
# Steps of a YAML reader

A reader passes over a stream and keeps count of lines and columns. A step that fails says no more
than that.
-/

namespace DataGrammar.Yaml

/-- A place in a stream and what is ahead of it. -/
structure Input where
  /-- The bytes passed. -/
  offset : Nat
  /-- The line breaks passed. -/
  line : Nat
  /-- The characters passed in the line. -/
  column : Nat
  ahead : List Char
  deriving Repr

namespace Input

/-- The start of a stream, if it holds only characters that may be there. A mark of the byte order
takes up a column. -/
def start? (text : String) : Option Input :=
  let chars := text.toList
  if chars.all isAllowed then
    match unifyBreaks chars with
    | '\ufeff' :: rest => some ⟨3, 0, 1, rest⟩
    | chars => some ⟨0, 0, 0, chars⟩
  else none

/-- A line starts here with three hyphens or three dots that stand alone. -/
def atMarker (i : Input) (c : Char) : Bool :=
  i.column == 0 && i.ahead.take 3 == [c, c, c] && atGap (i.ahead.drop 3)

/-- The start of a document or the end of one is marked here. -/
def atAnyMarker (i : Input) : Bool := i.atMarker '-' || i.atMarker '.'

/-- Pass characters that are no line breaks. -/
def pass (n : Nat) (i : Input) : Input :=
  { i with
    offset := i.offset + utf8Length (i.ahead.take n)
    column := i.column + n
    ahead := i.ahead.drop n }

/-- Pass a line break. -/
def passBreak (i : Input) : Input :=
  { i with
    offset := i.offset + utf8Length (i.ahead.take 1)
    line := i.line + 1
    column := 0
    ahead := i.ahead.drop 1 }

end Input

/-- A step of a reader. -/
abbrev Scan (α : Type) := StateT Input Option α

namespace Scan

/-- The characters ahead. -/
def ahead : Scan (List Char) := return (← get).ahead

/-- The next character. -/
def next? : Scan (Option Char) := return (← get).ahead.head?

/-- Pass characters that are no line breaks. -/
def pass (n : Nat) : Scan Unit := modify (Input.pass n)

/-- Pass a line break. -/
def passBreak : Scan Unit := modify Input.passBreak

/-- Pass the next characters that `p` holds of, none of them a line break. -/
def takeWhile (p : Char → Bool) : Scan (List Char) := do
  let chars := (← ahead).takeWhile p
  pass chars.length
  return chars

/-- Pass the given character, which must be next. -/
def expect (c : Char) : Scan Unit := do
  guard ((← next?) == some c)
  pass 1

/-- Pass the rest of a line, which may hold blanks and a comment, and the line break. -/
def endLine : Scan Unit := do
  let _ ← takeWhile isBlank
  if (← next?) = some '#' then
    let _ ← takeWhile fun c => !isBreak c
  match ← next? with
  | none => return ()
  | some c => do
    guard (isBreak c)
    passBreak

end Scan
end DataGrammar.Yaml
