import DataGrammar.Text.Cursor
/-!
# Lines and columns

A position names a byte of a text by its line, counted from 1, and the bytes of the line up to and
including it. So column 0 is where a line starts, before its first byte.

* `Position.ofOffset` is the position after the first bytes of a text.
* `Position.offset` is the byte that a position names.
-/

namespace DataGrammar

/-- A line and a column in bytes. -/
structure Position where
  line : Nat
  column : Nat
  deriving DecidableEq, Repr

namespace Position

/-- Pass characters up to the byte `index`; `offset` bytes were passed before, and the line began
at the byte `start`. -/
def after (index : Nat) : (line start offset : Nat) → List Char → Position
  | line, start, _, [] => ⟨line, index - start⟩
  | line, start, offset, c :: rest =>
    if index ≤ offset then ⟨line, index - start⟩
    else
      let offset := offset + c.utf8Size
      if c = '\n' then after index (line + 1) offset offset rest
      else after index line start offset rest

/-- The position after the first `index` bytes of a text. -/
def ofOffset (text : String) (index : Nat) : Position := after index 1 0 0 text.toList

/-- The byte after the first `breaks` line feeds, or the end of the text. -/
def lineStart : (breaks : Nat) → List Char → Nat
  | 0, _ => 0
  | _ + 1, [] => 0
  | breaks + 1, c :: rest =>
    c.utf8Size + lineStart (if c = '\n' then breaks else breaks + 1) rest

/-- The byte that a position names, or the end of the text. -/
def offset (p : Position) (text : String) : Nat :=
  min (lineStart (p.line - 1) text.toList + (p.column - 1)) (utf8Length text.toList)

end Position
end DataGrammar
