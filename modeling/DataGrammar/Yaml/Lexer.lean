import DataGrammar.Yaml.Property
import DataGrammar.Yaml.Scalar.Block
import DataGrammar.Yaml.Scalar.Plain
import DataGrammar.Yaml.Scalar.Quoted
/-!
# Reading YAML as tokens

`Token.ofText?` reads a stream. Two things need care, since the text leaves them open.

* Blocks: a block starts where something stands deeper than the block around it, and it ends where
  a line has less indentation.
* Simple keys: whether a token starts a key shows only at the colon after it. So each place where a
  key may start is remembered; at the colon, the mark of a key is put in before what stands there.
  The key must be on one line and no longer than 1024 bytes.
-/

namespace DataGrammar.Yaml

/-- A place where a simple key may start. -/
structure KeyStart where
  /-- The tokens before it. -/
  index : Nat
  offset : Nat
  line : Nat
  column : Nat
  /-- In the block around it nothing but a key can stand there. -/
  required : Bool
  deriving Repr

namespace KeyStart

/-- The key cannot go on up to here. -/
def isStale (k : KeyStart) (i : Input) : Bool := k.line < i.line || k.offset + 1024 < i.offset

/-- Give up a key, unless it is required. -/
def giveUp : Option KeyStart → Option Unit
  | some k => guard (!k.required)
  | none => some ()

/-- Give up a key if it cannot go on. -/
def refresh (i : Input) : Option KeyStart → Option (Option KeyStart)
  | some k => if k.isStale i then (giveUp (some k)).map fun _ => none else some (some k)
  | none => some none

end KeyStart

/-- Where the lexer is and what it knows. -/
structure Lexer where
  input : Input
  tokens : Array Token
  /-- The columns of the blocks around, from the inside. -/
  blocks : List Nat
  /-- A simple key may start here. -/
  keyAllowed : Bool
  /-- Where the key of the collection around may have started. -/
  keyStart : Option KeyStart
  /-- The same for the collections around each flow collection, from the inside. -/
  outerKeys : List (Option KeyStart)

/-- A step of the lexer. -/
abbrev Lex (α : Type) := StateT Lexer Option α

namespace Lexer

/-- Inside a flow collection. -/
def inFlow (l : Lexer) : Bool := !l.outerKeys.isEmpty

/-- The least column of the content of the block around. -/
def margin (l : Lexer) : Nat :=
  match l.blocks with
  | [] => 0
  | column :: _ => column + 1

end Lexer

namespace Lex

/-- Make a step of a reader. -/
def scan {α : Type} (step : Scan α) : Lex α := fun l =>
  (step l.input).map fun (a, input) => (a, { l with input })

/-- Put a token at the end. -/
def push (t : Token) : Lex Unit := modify fun l => { l with tokens := l.tokens.push t }

/-- Whether a simple key may start from here on. -/
def allowKey (allowed : Bool) : Lex Unit := modify fun l => { l with keyAllowed := allowed }

/-- Give up the key that may have started. -/
def dropKey : Lex Unit := do
  KeyStart.giveUp (← get).keyStart
  modify fun l => { l with keyStart := none }

/-- A key may start here, if it is allowed. -/
def markKey : Lex Unit := do
  let l ← get
  if l.keyAllowed then
    dropKey
    let required := !l.inFlow && l.blocks.head? == some l.input.column
    set { l with
      keyStart := some ⟨l.tokens.size, l.input.offset, l.input.line, l.input.column, required⟩ }

/-- Give up the keys that cannot go on. -/
def dropStale : Lex Unit := do
  let l ← get
  let keyStart ← KeyStart.refresh l.input l.keyStart
  let outerKeys ← (l.outerKeys.mapM (KeyStart.refresh l.input) : Option (List (Option KeyStart)))
  set { l with keyStart, outerKeys }

/-- End the blocks at the column `margin` and beyond. -/
def endBlocks (margin : Nat) : Lex Unit := modify fun l =>
  if l.inFlow then l
  else
    let ended := (l.blocks.takeWhile (margin ≤ ·)).length
    { l with
      blocks := l.blocks.drop ended
      tokens := l.tokens ++ Array.replicate ended Token.blockEnd }

/-- Start a block at a column, before the token `index`, if it is deeper than the block around. -/
def startBlock (t : Token) (column index : Nat) : Lex Unit := modify fun l =>
  if l.inFlow || column < l.margin then l
  else
    { l with
      blocks := column :: l.blocks
      tokens := l.tokens.insertIdxIfInBounds index t }

/-- Start a block here, where a simple key must be allowed. -/
def startBlockHere (t : Token) : Lex Unit := do
  let l ← get
  guard (l.inFlow || l.keyAllowed)
  startBlock t l.input.column l.tokens.size

/-- Pass gaps and comments up to the next token. A tab may not come where a simple key could start
in a block. -/
def passGaps : (fuel : Nat) → Lex Unit
  | 0 => return ()
  | fuel + 1 => do
    let l ← get
    let _ ← scan (Scan.takeWhile fun c => c == ' ' || (c == '\t' && (l.inFlow || !l.keyAllowed)))
    if (← scan Scan.next?) = some '#' then
      let _ ← scan (Scan.takeWhile fun c => !isBreak c)
    if (← scan Scan.next?).any isBreak then
      scan Scan.passBreak
      if !l.inFlow then allowKey true
      passGaps fuel

/-- Read a token that is a mark of `n` characters. -/
def mark (n : Nat) (t : Token) : Lex Unit := do
  scan (Scan.pass n)
  push t

/-- Read a token that no simple key goes beyond, outside all blocks. -/
def outermost (t : Scan Token) : Lex Unit := do
  endBlocks 0
  dropKey
  allowKey false
  push (← scan t)

/-- Read the start of a flow collection. -/
def flowStart (t : Token) : Lex Unit := do
  markKey
  modify fun l => { l with keyStart := none, outerKeys := l.keyStart :: l.outerKeys }
  allowKey true
  mark 1 t

/-- Read the end of a flow collection. -/
def flowEnd (t : Token) : Lex Unit := do
  dropKey
  modify fun l =>
    match l.outerKeys with
    | keyStart :: outerKeys => { l with keyStart, outerKeys }
    | [] => l
  allowKey false
  mark 1 t

/-- Read a comma. -/
def comma : Lex Unit := do
  dropKey
  allowKey true
  mark 1 .comma

/-- Read the hyphen of an item. -/
def item : Lex Unit := do
  startBlockHere .blockSequence
  dropKey
  allowKey true
  mark 1 .item

/-- Read the question mark of a key. -/
def key : Lex Unit := do
  startBlockHere .blockMapping
  dropKey
  allowKey (!(← get).inFlow)
  mark 1 .key

/-- Read the colon of a value. -/
def value : Lex Unit := do
  match (← get).keyStart with
  | some k => do
    modify fun l =>
      { l with keyStart := none, tokens := l.tokens.insertIdxIfInBounds k.index .key }
    startBlock .blockMapping k.column k.index
    allowKey false
  | none => do
    startBlockHere .blockMapping
    allowKey (!(← get).inFlow)
  mark 1 .value

/-- Read a token that a simple key may start with. -/
def content (t : Scan Token) : Lex Unit := do
  markKey
  allowKey false
  push (← scan t)

/-- Read a block scalar. -/
def block : Lex Unit := do
  dropKey
  allowKey true
  let margin := (← get).margin
  push (.scalar .marked (← scan (Scan.readBlock margin)))

/-- Read a plain scalar. -/
def plain : Lex Unit := do
  markKey
  allowKey false
  let l ← get
  let (text, endsLine) ← scan (Scan.readPlain l.inFlow l.margin)
  push (.scalar .plain text)
  if endsLine then allowKey true

/-- Read a token; `first` is its first character and `rest` what follows. -/
def token (first : Char) (rest : List Char) : Lex Unit := do
  let l ← get
  if l.input.column = 0 && first = '%' then outermost (.directive <$> Scan.readDirective)
  else if l.input.atMarker '-' then outermost do Scan.pass 3; return .documentStart
  else if l.input.atMarker '.' then outermost do Scan.pass 3; return .documentEnd
  else
    match first with
    | '[' => flowStart .flowSequence
    | '{' => flowStart .flowMapping
    | ']' => flowEnd .flowSequenceEnd
    | '}' => flowEnd .flowMappingEnd
    | ',' => comma
    | '*' => content (.reference <$> Scan.readAnchor)
    | '&' => content (.anchor <$> Scan.readAnchor)
    | '!' => content (.tag <$> Scan.readTag l.inFlow)
    | '\'' | '"' => content (.scalar .marked <$> Scan.readQuotedScalar first)
    | _ =>
      if first = '-' && atGap rest then item
      else if first = '?' && (l.inFlow || atGap rest) then key
      else if first = ':' && (l.inFlow || atGap rest) then value
      else if (first = '|' || first = '>') && !l.inFlow then block
      else if !isIndicator first && !isBlank first || ['-', '?', ':'].contains first then plain
      else failure

/-- Read tokens up to the end of the stream; `fuel` exceeds what is left of it. -/
def tokens : (fuel : Nat) → Lex Unit
  | 0 => failure
  | fuel + 1 => do
    passGaps ((← scan Scan.ahead).length + 1)
    dropStale
    let l ← get
    endBlocks (l.input.column + 1)
    match l.input.ahead with
    | first :: rest => do
      token first rest
      tokens fuel
    | [] => do
      endBlocks 0
      dropKey

end Lex

/-- The tokens of a stream. -/
def Token.ofText? (text : String) : Option (List Token) := do
  let input ← Input.start? text
  let (_, l) ← Lex.tokens (input.ahead.length + 1) ⟨input, #[], [], true, none, []⟩
  return l.tokens.toList

end DataGrammar.Yaml
