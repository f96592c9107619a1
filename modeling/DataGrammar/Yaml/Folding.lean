import DataGrammar.Yaml.Scan
/-!
# Line folding

Between two words of a scalar there are blanks, or line breaks with blanks around them. A single
line feed there stands for a space; of several line feeds the first one stands for nothing.
-/

namespace DataGrammar.Yaml

/-- What separates two words of a scalar. -/
inductive Gap where
  | blanks (text : List Char)
  /-- A line break and the line breaks after it. -/
  | breaks (first : Char) (more : List Char)
  deriving DecidableEq, Repr

namespace Gap

/-- The text that a gap stands for. -/
def fold : Gap → List Char
  | .blanks text => text
  | .breaks '\n' [] => [' ']
  | .breaks '\n' more => more
  | .breaks first more => first :: more

/-- The gap goes beyond the line. -/
def endsLine : Gap → Bool
  | .blanks _ => false
  | .breaks .. => true

end Gap

namespace Scan

/-- Pass the blanks at the start of a line; no tab may come before the column `margin`. -/
def passIndentation (margin : Nat) : Scan Unit := do
  let _ ← takeWhile (· == ' ')
  guard ((← next?) ≠ some '\t' || margin ≤ (← get).column)
  let _ ← takeWhile isBlank

/-- Read line breaks with the blanks before them and after the last one; `fuel` exceeds what is
left of the stream. -/
def readBreaks (margin : Nat) : (fuel : Nat) → Scan (List Char)
  | 0 => failure
  | fuel + 1 => do
    passIndentation margin
    match (← next?).filter isBreak with
    | some c => do
      passBreak
      return c :: (← readBreaks margin fuel)
    | none => return []

/-- Read the line breaks that follow a first one. -/
def readMoreBreaks (margin : Nat) : Scan (List Char) := do
  readBreaks margin ((← ahead).length + 1)

/-- Read the gap between two words. -/
def readGap (margin : Nat) : Scan Gap := do
  let blanks ← takeWhile isBlank
  match (← next?).filter isBreak with
  | some c => do
    passBreak
    return .breaks c (← readMoreBreaks margin)
  | none => return .blanks blanks

end Scan
end DataGrammar.Yaml
