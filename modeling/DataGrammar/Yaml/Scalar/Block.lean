import DataGrammar.Yaml.Scan
/-!
# Block scalars

A block scalar is the text of the lines after its header, without their indentation. The header
tells whether lines are folded, what becomes of the line breaks at the end, and how deep the lines
are indented; if it does not tell, the first line that is not blank does.
-/

namespace DataGrammar.Yaml

/-- What becomes of the line breaks at the end of a block scalar. -/
inductive Chomping where
  /-- None is kept. -/
  | strip
  /-- One is kept. -/
  | clip
  /-- All are kept. -/
  | keep
  deriving DecidableEq, Repr

/-- What the header of a block scalar says. -/
structure BlockHeader where
  folded : Bool
  chomping : Chomping
  /-- How much deeper than the block around them the lines are indented. -/
  indentation : Option Nat
  deriving DecidableEq, Repr

/-- A line of a block scalar and the blank lines after it. -/
structure BlockLine where
  /-- The text after the indentation. -/
  text : List Char
  /-- Its line break; the last line of a stream has none. -/
  ending : List Char
  /-- The line breaks of the blank lines. -/
  blankLines : List Char
  deriving DecidableEq, Repr

namespace BlockLine

/-- The line goes on with a blank after its indentation. -/
def isSpaced (l : BlockLine) : Bool := l.text.head?.any isBlank

/-- What stands between a line and the next one. -/
def separator (folded : Bool) (l next : BlockLine) : List Char :=
  if folded && l.ending == ['\n'] && !l.isSpaced && !next.isSpaced then
    if l.blankLines.isEmpty then [' '] else l.blankLines
  else l.ending ++ l.blankLines

/-- The text of lines. -/
def join (folded : Bool) (chomping : Chomping) : List BlockLine → List Char
  | [] => []
  | [l] =>
    l.text ++ match chomping with
      | .strip => []
      | .clip => l.ending
      | .keep => l.ending ++ l.blankLines
  | l :: next :: rest =>
    l.text ++ l.separator folded next ++ join folded chomping (next :: rest)

end BlockLine

namespace Scan

/-- Read the mark of chomping, if there is one. -/
def readChomping? : Scan (Option Chomping) := do
  match ← next? with
  | some '+' => do pass 1; return some .keep
  | some '-' => do pass 1; return some .strip
  | _ => return none

/-- Read a digit that tells the indentation, if there is one. -/
def readIndentation? : Scan (Option Nat) := do
  match (← next?).filter Char.isDigit with
  | some c => do
    guard (c ≠ '0')
    pass 1
    return some (c.toNat - 0x30)
  | none => return none

/-- Read the header of a block scalar. The two marks may come in either order. -/
def readBlockHeader : Scan BlockHeader := do
  let folded := (← next?) == some '>'
  pass 1
  let before ← readChomping?
  let indentation ← readIndentation?
  let after ← if before.isSome then pure none else readChomping?
  endLine
  return ⟨folded, (before <|> after).getD .clip, indentation⟩

/-- Read blank lines and the indentation of the next line, up to `indentation` columns or as much
as there is. Returns the line breaks and the greatest column. -/
def readBlankLines (indentation : Option Nat) : (fuel : Nat) → Scan (List Char × Nat)
  | 0 => failure
  | fuel + 1 => do
    let i ← get
    let spaces := (i.ahead.takeWhile (· == ' ')).length
    pass ((indentation.map fun n => min spaces (n - i.column)).getD spaces)
    let column := (← get).column
    match ← next? with
    | none => return ([], column)
    | some c =>
      guard (c ≠ '\t' || indentation.any (· ≤ column))
      if isBreak c then
        passBreak
        let (breaks, greatest) ← readBlankLines indentation fuel
        return (c :: breaks, max column greatest)
      else return ([], column)

/-- Read blank lines and the indentation of the next line. -/
def passBlankLines (indentation : Option Nat) : Scan (List Char × Nat) := do
  readBlankLines indentation ((← ahead).length + 1)

/-- Read the lines that have an indentation. -/
def readBlockLines (indentation : Nat) : (fuel : Nat) → Scan (List BlockLine)
  | 0 => return []
  | fuel + 1 => do
    if (← get).column ≠ indentation || (← ahead).isEmpty then return []
    else
      let text ← takeWhile fun c => !isBreak c
      let ending := (← next?).toList
      if !ending.isEmpty then passBreak
      let (blankLines, _) ← passBlankLines (some indentation)
      return ⟨text, ending, blankLines⟩ :: (← readBlockLines indentation fuel)

/-- Read a block scalar in a block whose content is indented by `margin` columns or more. -/
def readBlock (margin : Nat) : Scan (List Char) := do
  let header ← readBlockHeader
  let given := header.indentation.map (margin - 1 + ·)
  let (breaks, column) ← passBlankLines given
  let indentation := given.getD (max column (max margin 1))
  let lines ← readBlockLines indentation (← ahead).length
  let kept := !lines.isEmpty || header.chomping == .keep
  return (if kept then breaks else []) ++ BlockLine.join header.folded header.chomping lines

end Scan
end DataGrammar.Yaml
