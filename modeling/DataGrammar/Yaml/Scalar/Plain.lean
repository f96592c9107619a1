import DataGrammar.Yaml.Folding
/-!
# Plain scalars

A plain scalar is a run of words without quotes. It ends before a comment, before a colon that a
gap follows, at a marker, in a flow collection at an indicator, and in a block where a line has
less indentation than the block.
-/

namespace DataGrammar.Yaml.Scan

/-- The word that a stream starts with. In a flow collection a colon in it must not be followed by
an indicator or a question mark. -/
def word? (inFlow : Bool) : List Char → Option (List Char)
  | [] => some []
  | c :: rest =>
    if isGap c then some []
    else if c = ':' && inFlow && rest.head?.any fun d => isFlowIndicator d || d == '?' then none
    else if (c = ':' && atGap rest) || (inFlow && isFlowIndicator c) then some []
    else (word? inFlow rest).map (c :: ·)

/-- Read the rest of a plain scalar after the gap `gap`, of which nothing counts if no word
follows. Tells whether the scalar ends with the lines of a last gap. -/
def readWords (inFlow : Bool) (margin : Nat) :
    (gap : Gap) → (fuel : Nat) → Scan (List Char × Bool)
  | _, 0 => failure
  | gap, fuel + 1 => do
    let i ← get
    if i.atAnyMarker || i.ahead.head? == some '#' || (!inFlow && gap.endsLine && i.column < margin)
    then return ([], gap.endsLine)
    else
      let word ← word? inFlow i.ahead
      if word.isEmpty then return ([], gap.endsLine)
      else
        pass word.length
        if (← next?).any isGap then
          let next ← readGap margin
          let (text, endsLine) ← readWords inFlow margin next fuel
          return (gap.fold ++ word ++ text, endsLine)
        else return (gap.fold ++ word, false)

/-- Read a plain scalar. Tells whether line breaks after it have been passed. -/
def readPlain (inFlow : Bool) (margin : Nat) : Scan (List Char × Bool) := do
  readWords inFlow margin (.blanks []) ((← ahead).length + 1)

end DataGrammar.Yaml.Scan
