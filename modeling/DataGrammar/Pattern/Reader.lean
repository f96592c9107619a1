import DataGrammar.Pattern.Tree
import DataGrammar.Text.Cursor
import DataGrammar.Text.Hexadecimal
import DataGrammar.Unicode.Query
/-!
# Reading patterns

`Tree.ofText` reads a pattern. The reader passes over the characters once, from left to right, and
the first fault on the way is the one that is reported. Parentheses and brackets are read by
recursion; the number of characters left bounds it, since every step passes one.
-/

namespace DataGrammar.Pattern

/-- Where the reader is and what it knows. -/
structure Reading where
  /-- The bytes passed. -/
  offset : Nat
  /-- The characters left. -/
  rest : List Char
  /-- Blanks and comments do not count here. -/
  ignoreSpace : Bool
  /-- The capture groups opened. -/
  groups : Nat
  /-- The names of capture groups. -/
  names : List String
  deriving Repr

/-- A step of the reader. -/
abbrev Read (α : Type) := StateT Reading (Except Refusal) α

namespace Read

/-- Stop with a fault. -/
def fail {α : Type} (fault : Fault) (start stop : Nat) : Read α :=
  throw (.fault fault ⟨start, stop⟩)

/-- The bytes passed. -/
def offset : Read Nat := return (← get).offset

/-- The next character. -/
def next? : Read (Option Char) := return (← get).rest.head?

/-- Where the next character ends. -/
def nextEnd : Read Nat :=
  return (← get).offset + ((← get).rest.head?.elim 0 Char.utf8Size)

/-- Stop with a fault of the next character. -/
def failNext {α : Type} (fault : Fault) : Read α := do fail fault (← offset) (← nextEnd)

/-- Stop with a fault at this place. -/
def failHere {α : Type} (fault : Fault) : Read α := do fail fault (← offset) (← offset)

/-- Whether nothing is left. -/
def atEnd : Read Bool := return (← get).rest.isEmpty

/-- Pass a character; tells whether another one follows. -/
def bump : Read Bool := do
  match (← get).rest with
  | [] => return false
  | c :: rest =>
    modify fun r => { r with offset := r.offset + c.utf8Size, rest }
    return !rest.isEmpty

/-- The blanks and comments that `chars` starts with; a comment ends with its line. -/
def blanks : (inComment : Bool) → (chars : List Char) → Nat
  | _, [] => 0
  | true, c :: rest => blanks (c != '\n') rest + 1
  | false, c :: rest =>
    if Unicode.isSpace c then blanks false rest + 1
    else if c = '#' then blanks true rest + 1
    else 0

/-- Pass blanks and comments where they do not count. -/
def bumpSpace : Read Unit := do
  if (← get).ignoreSpace then
    modify fun r =>
      let n := blanks false r.rest
      { r with offset := r.offset + utf8Length (r.rest.take n), rest := r.rest.drop n }

/-- Pass a character and what does not count after it; tells whether another one follows. -/
def bumpAndSpace : Read Bool := do
  if ← bump then
    bumpSpace
    return !(← atEnd)
  else return false

/-- Pass `text` if it comes next. -/
def bumpIf (text : String) : Read Bool := do
  let chars := text.toList
  if chars.isPrefixOf (← get).rest then
    modify fun r => { r with
      offset := r.offset + utf8Length chars, rest := r.rest.drop chars.length }
    return true
  else return false

/-- Pass the first of some texts that comes next. -/
def bumpIfAny : List String → Read Bool
  | [] => return false
  | text :: texts => do
    if ← bumpIf text then return true
    else bumpIfAny texts

/-- The character after the next one. -/
def peek : Read (Option Char) := return (← get).rest[1]?

/-- Where blanks do not count, the first character after the next one that is not blank, once a
`#` has been passed over; if there is none, the character after the next one. -/
def peekSpace : Read (Option Char) := do
  if !(← get).ignoreSpace then peek
  else
    let after := (← get).rest.drop 1
    let shown := after.dropWhile Unicode.isSpace
    let found := match shown with
      | '#' :: rest => (rest.dropWhile Unicode.isSpace).head?
      | _ => shown.head?
    return found.or after.head?

end Read

open Read

/-- Characters that mean something of their own in patterns. -/
def isMeta (c : Char) : Bool :=
  c ∈ ['\\', '.', '+', '*', '?', '(', ')', '|', '[', ']', '{', '}', '^', '$', '#', '&', '-', '~']

/-- Characters that a backslash may precede without need. -/
def isEscapable (c : Char) : Bool :=
  isMeta c || (c.toNat < 0x80 && !c.isAlphanum && c != '<' && c != '>')

/-- What a backslash and the characters after it stand for. -/
inductive Primitive where
  | literal (l : Literal)
  | anchor (span : Span) (kind : Anchor)
  | perl (span : Span) (kind : PerlClass) (negated : Bool)
  | property (span : Span) (name : PropertyName) (negated : Bool)

namespace Primitive

/-- Where it stands. -/
def span : Primitive → Span
  | .literal l => l.span
  | .anchor span _ | .perl span .. | .property span .. => span

/-- As a part of a pattern. -/
def toTree : Primitive → Tree
  | .literal l => .literal l
  | .anchor span kind => .anchor span kind
  | .perl span kind negated => .perl span kind negated
  | .property span name negated => .property span name negated

/-- As an item of a character class; assertions are none. -/
def toItem : Primitive → Read ClassTree
  | .literal l => return .literal l
  | .perl span kind negated => return .perl span kind negated
  | .property span name negated => return .property span name negated
  | .anchor span _ => fail .classEscapeInvalid span.start span.stop

/-- As an end of a range, which only characters are. -/
def toBound : Primitive → Read Literal
  | .literal l => return l
  | p => fail .classRangeLiteral p.span.start p.span.stop

end Primitive

/-- The digits of a hexadecimal escape of `count` digits, the first of which comes next. -/
def readHexDigits : (count : Nat) → (value : Nat) → Read Nat
  | 0, value => return value
  | n + 1, value => do
    match (← next?).bind hexDigit? with
    | none => failNext .escapeHexInvalidDigit
    | some d =>
      let more ← bumpAndSpace
      if n != 0 && !more then failHere .escapeUnexpectedEnd
      else readHexDigits n (value * 16 + d)

/-- The digits of a hexadecimal escape up to its closing brace, each after one `bumpAndSpace`.
Values beyond the code points are kept at a value beyond them. -/
def readHexBraced (brace : Nat) : (fuel : Nat) → (digits value : Nat) → Read (Nat × Nat)
  | 0, _, _ => do fail .escapeUnexpectedEnd brace (← offset)
  | fuel + 1, digits, value => do
    if !(← bumpAndSpace) then fail .escapeUnexpectedEnd brace (← offset)
    else match ← next? with
      | some '}' => return (digits, value)
      | c =>
        match c.bind hexDigit? with
        | none => failNext .escapeHexInvalidDigit
        | some d => readHexBraced brace fuel (digits + 1) (min (value * 16 + d) 0x110000)

/-- A hexadecimal escape, from its letter on; `start` is where its backslash stands. -/
def readHex (start : Nat) : Read Primitive := do
  let letter ← next?
  let count := if letter = some 'x' then 2 else if letter = some 'u' then 4 else 8
  if !(← bumpAndSpace) then failHere .escapeUnexpectedEnd
  else if (← next?) = some '{' then
    let brace ← offset
    let first ← nextEnd
    let (digits, value) ← readHexBraced brace (← get).rest.length 0 0
    let stop ← offset
    let _ ← bumpAndSpace
    if digits = 0 then fail .escapeHexEmpty brace (← offset)
    else match charOfCode? value with
      | none => fail .escapeHexInvalid first stop
      | some c => return .literal ⟨⟨start, ← offset⟩, c, false⟩
  else
    let first ← offset
    let value ← readHexDigits count 0
    match charOfCode? value with
    | none => fail .escapeHexInvalid first (← offset)
    | some c => return .literal ⟨⟨start, ← offset⟩, c, letter = some 'x'⟩

/-- The characters up to a closing brace, each after one `bumpAndSpace`. -/
def readBracedName : (fuel : Nat) → (read : List Char) → Read (List Char)
  | 0, _ => failHere .escapeUnexpectedEnd
  | fuel + 1, read => do
    if !(← bumpAndSpace) then failHere .escapeUnexpectedEnd
    else match ← next? with
      | some '}' => return read.reverse
      | some c => readBracedName fuel (c :: read)
      | none => failHere .escapeUnexpectedEnd

/-- Cut a list at the first place where `mark` stands. -/
def splitAtFirst? (mark : List Char) : List Char → Option (List Char × List Char)
  | [] => none
  | c :: rest =>
    if mark.isPrefixOf (c :: rest) then some ([], (c :: rest).drop mark.length)
    else (splitAtFirst? mark rest).map fun (before, after) => (c :: before, after)

/-- What the text between the braces of `\p{...}` names, and whether `!=` negates it. -/
def PropertyName.ofText (text : List Char) : PropertyName × Bool :=
  match splitAtFirst? ['!', '='] text with
  | some (p, v) => (.valued (.ofList p) (.ofList v), true)
  | none =>
    match (splitAtFirst? [':'] text).or (splitAtFirst? ['='] text) with
    | some (p, v) => (.valued (.ofList p) (.ofList v), false)
    | none => (.named (.ofList text), false)

/-- A class by property, from its letter on. -/
def readProperty (start : Nat) : Read Primitive := do
  let negated := (← next?) = some 'P'
  if !(← bumpAndSpace) then failHere .escapeUnexpectedEnd
  else match ← next? with
    | some '{' =>
      let text ← readBracedName (← get).rest.length []
      let _ ← bump
      let (name, unequal) := PropertyName.ofText text
      return .property ⟨start, ← offset⟩ name (negated != unequal)
    | some '\\' => failNext .propertyNameInvalid
    | c =>
      let _ ← bumpAndSpace
      return .property ⟨start, ← offset⟩ (.named (.ofList c.toList)) negated

/-- Characters of the names of special word boundaries. -/
def isBoundaryNameChar (c : Char) : Bool := c.isAlpha || c = '-'

/-- The name of a special word boundary. -/
def readBoundaryName : (fuel : Nat) → (read : List Char) → Read (List Char)
  | 0, read => return read.reverse
  | fuel + 1, read => do
    match ← next? with
    | some c =>
      if isBoundaryNameChar c then
        let _ ← bumpAndSpace
        readBoundaryName fuel (c :: read)
      else return read.reverse
    | none => return read.reverse

/-- After `\b`, whose backslash stands at `start`, a special word boundary such as `{start}`;
`none` if the brace opens a repetition. -/
def readSpecialBoundary? (start : Nat) : Read (Option Anchor) := do
  let before ← get
  if !(← bumpAndSpace) then
    fail .specialBoundaryOrRepetitionUnexpectedEnd start (← offset)
  else
    let first ← offset
    if !((← next?).any isBoundaryNameChar) then
      set before
      return none
    else
      let name ← readBoundaryName (← get).rest.length []
      if (← next?) != some '}' then fail .specialBoundaryUnclosed before.offset (← offset)
      else
        let stop ← offset
        let _ ← bump
        match String.ofList name with
        | "start" => return some .wordStart
        | "end" => return some .wordEnd
        | "start-half" => return some .wordStartHalf
        | "end-half" => return some .wordEndHalf
        | _ => fail .specialBoundaryUnrecognized first stop

/-- The characters that a backslash and a letter stand for. -/
def controlOf? (c : Char) : Option Char :=
  match c with
  | 'a' => some '\x07'
  | 'f' => some '\x0C'
  | 't' => some '\t'
  | 'n' => some '\n'
  | 'r' => some '\r'
  | 'v' => some '\x0B'
  | _ => none

/-- The assertions that a backslash and a character stand for. -/
def anchorOf? (c : Char) : Option Anchor :=
  match c with
  | 'A' => some .startText
  | 'z' => some .endText
  | 'B' => some .notWordBoundary
  | '<' => some .wordStart
  | '>' => some .wordEnd
  | _ => none

/-- The classes that a backslash and a letter stand for. -/
def perlClassOf? (c : Char) : Option (PerlClass × Bool) :=
  match c with
  | 'd' => some (.digit, false)
  | 's' => some (.space, false)
  | 'w' => some (.word, false)
  | 'D' => some (.digit, true)
  | 'S' => some (.space, true)
  | 'W' => some (.word, true)
  | _ => none

/-- An escape, from its backslash on. -/
def readEscape : Read Primitive := do
  let start ← offset
  if !(← bump) then fail .escapeUnexpectedEnd start (← offset)
  else
    let c := (← next?).getD '\\'
    if c.isDigit then fail .backreference start (← nextEnd)
    else if c = 'x' ∨ c = 'u' ∨ c = 'U' then readHex start
    else if c = 'p' ∨ c = 'P' then readProperty start
    else
      let _ ← bump
      let span : Span := ⟨start, ← offset⟩
      match perlClassOf? c with
      | some (kind, negated) => return .perl span kind negated
      | none =>
        if isEscapable c then return .literal ⟨span, c, false⟩
        else match controlOf? c, anchorOf? c with
          | some control, _ => return .literal ⟨span, control, false⟩
          | none, some kind => return .anchor span kind
          | none, none =>
            if c = 'b' then
              if (← next?) = some '{' then
                match ← readSpecialBoundary? start with
                | some kind => return .anchor ⟨start, ← offset⟩ kind
                | none => return .anchor span .wordBoundary
              else return .anchor span .wordBoundary
            else fail .escapeUnrecognized span.start span.stop

/-- A part that is neither a class in brackets, a group nor an operator. -/
def readPrimitive : Read Tree := do
  match ← next? with
  | some '\\' => return (← readEscape).toTree
  | c =>
    let span : Span := ⟨← offset, ← nextEnd⟩
    let _ ← bump
    match c with
    | some '.' => return .dot span
    | some '^' => return .anchor span .startLine
    | some '$' => return .anchor span .endLine
    | some c => return .literal ⟨span, c, false⟩
    | none => return .empty span

/-- A decimal number; blanks may stand around it and, where they do not count, inside. -/
def readDigits : (fuel : Nat) → (read : List Char) → Read (List Char)
  | 0, read => return read.reverse
  | fuel + 1, read => do
    match ← next? with
    | some c =>
      if c.isDigit then
        let _ ← bumpAndSpace
        readDigits fuel (c :: read)
      else return read.reverse
    | none => return read.reverse

/-- Pass white space. -/
def skipSpaces : (fuel : Nat) → Read Unit
  | 0 => return ()
  | fuel + 1 => do
    if (← next?).any Unicode.isSpace then
      let _ ← bump
      skipSpaces fuel

/-- A bound of a counted repetition, or the fault of it, which is raised only where the bound is
needed. -/
def readBound : Read (Except Refusal Nat) := do
  skipSpaces (← get).rest.length
  let start ← offset
  let digits ← readDigits (← get).rest.length []
  let stop ← offset
  skipSpaces (← get).rest.length
  let value := digits.foldl (fun n c => n * 10 + (c.toNat - 0x30)) 0
  if digits.isEmpty then return .error (.fault .repetitionCountEmpty ⟨start, stop⟩)
  else if Nat.pow 2 32 ≤ value then return .error (.fault .decimalInvalid ⟨start, stop⟩)
  else return .ok value

/-- The part that a repetition operator repeats: the last one read. -/
def lastRepeatable (done : List Tree) : Read (Tree × List Tree) := do
  match done with
  | [] => failHere .repetitionMissing
  | item :: before =>
    if item.isRepeatable then return (item, before) else failHere .repetitionMissing

/-- The mark of a lazy operator, after its last character is passed by `pass`. -/
def readGreed (pass : Read Bool) : Read Bool := do
  if (← pass) && (← next?) = some '?' then
    let _ ← bump
    return false
  else return true

/-- An operator `?`, `*` or `+`. -/
def readOperator (least : Nat) (most : Option Nat) (done : List Tree) : Read (List Tree) := do
  let (item, before) ← lastRepeatable done
  let greedy ← readGreed bump
  return .repetition ⟨item.span.start, ← offset⟩ least most greedy item :: before

/-- The bounds of a counted repetition after its brace at `start`. -/
def readCounts (start : Nat) : Read (Nat × Option Nat) := do
  let unclosed {α : Type} : Read α := do fail .repetitionCountUnclosed start (← offset)
  if !(← bumpAndSpace) then unclosed
  else
    let least ← readBound
    match ← next? with
    | none => unclosed
    | some ',' =>
      if !(← bumpAndSpace) then unclosed
      else if (← next?) = some '}' then
        return (← least, none)
      else
        let least ← least
        let most ← readBound
        return (least, some (← most))
    | some _ =>
      let least ← least
      return (least, some least)

/-- A counted repetition. -/
def readCounted (done : List Tree) : Read (List Tree) := do
  let start ← offset
  let (item, before) ← lastRepeatable done
  let (least, most) ← readCounts start
  if (← next?) != some '}' then fail .repetitionCountUnclosed start (← offset)
  else
    let greedy ← readGreed bumpAndSpace
    let stop ← offset
    if most.any (· < least) then fail .repetitionCountInvalid start stop
    else return .repetition ⟨item.span.start, stop⟩ least most greedy item :: before

/-! ### Character classes -/

/-- The class of a name between `[:` and `:]`. -/
def AsciiClass.ofName? (name : List Char) : Option AsciiClass :=
  match String.ofList name with
  | "alnum" => some .alnum
  | "alpha" => some .alpha
  | "ascii" => some .ascii
  | "blank" => some .blank
  | "cntrl" => some .cntrl
  | "digit" => some .digit
  | "graph" => some .graph
  | "lower" => some .lower
  | "print" => some .print
  | "punct" => some .punct
  | "space" => some .space
  | "upper" => some .upper
  | "word" => some .word
  | "xdigit" => some .xdigit
  | _ => none

/-- A class such as `[:alpha:]` at the next character, if one stands there. -/
def readAscii? : Read (Option ClassTree) := do
  let before ← get
  match before.rest with
  | '[' :: ':' :: rest =>
    let (negated, rest) := match rest with
      | '^' :: rest => (true, rest)
      | rest => (false, rest)
    let name := rest.takeWhile (· != ':')
    match AsciiClass.ofName? name, rest.drop name.length with
    | some kind, ':' :: ']' :: rest =>
      let passed := before.rest.take (before.rest.length - rest.length)
      let stop := before.offset + utf8Length passed
      set { before with offset := stop, rest }
      return some (.ascii ⟨before.offset, stop⟩ kind negated)
    | _, _ => return none
  | _ => return none

/-- A character or an escape inside a class. -/
def readClassPrimitive : Read Primitive := do
  match ← next? with
  | some '\\' => readEscape
  | c =>
    let span : Span := ⟨← offset, ← nextEnd⟩
    let _ ← bump
    return .literal ⟨span, c.getD '\x00', false⟩

/-- An item of a class, or a range; `opened` is the span of the innermost open bracket. -/
def readClassItem (opened : Span) : Read ClassTree := do
  let unclosed {α : Type} : Read α := fail .classUnclosed opened.start opened.stop
  let first ← readClassPrimitive
  bumpSpace
  if ← atEnd then unclosed
  else
    let after ← peekSpace
    if (← next?) != some '-' || after = some ']' || after = some '-' then first.toItem
    else if !(← bumpAndSpace) then unclosed
    else
      let last ← readClassPrimitive
      let lo ← first.toBound
      let hi ← last.toBound
      if hi.char < lo.char then fail .classRangeInvalid first.span.start last.span.stop
      else return .range ⟨first.span.start, last.span.stop⟩ lo hi

/-- The hyphens that stand as themselves at the start of a class. -/
def readHyphens (start : Nat) : (fuel : Nat) → (items : List ClassTree) → Read (List ClassTree)
  | 0, items => return items
  | fuel + 1, items => do
    if (← next?) = some '-' then
      let hyphen : Literal := ⟨⟨← offset, ← nextEnd⟩, '-', false⟩
      if !(← bumpAndSpace) then fail .classUnclosed start start
      else readHyphens start fuel (.literal hyphen :: items)
    else return items

/-- The opening of a class: its bracket, `^`, hyphens, and a `]` that stands for itself. Gives the
span read, whether the class is negated, and the items, last one first. -/
def readClassOpening : Read (Span × Bool × List ClassTree) := do
  let start ← offset
  let unclosed {α : Type} : Read α := do fail .classUnclosed start (← offset)
  if !(← bumpAndSpace) then unclosed
  else
    let negated := (← next?) = some '^'
    let more ← if negated then bumpAndSpace else pure true
    if !more then unclosed
    else
      let items ← readHyphens start (← get).rest.length []
      if items.isEmpty && (← next?) = some ']' then
        let bracket : Literal := ⟨⟨← offset, ← nextEnd⟩, ']', false⟩
        if !(← bumpAndSpace) then unclosed
        else return (⟨start, ← offset⟩, negated, [.literal bracket])
      else return (⟨start, ← offset⟩, negated, items)

/-- Items gathered last one first, as one item; `here` is the place of an empty gathering. -/
def gatherItems (here : Nat) (items : List ClassTree) : ClassTree :=
  let span : Span := match items.getLast?, items.head? with
    | some first, some last => ⟨first.span.start, last.span.stop⟩
    | _, _ => ⟨here, here⟩
  .ofItems span items.reverse

/-- What is left of an operator joined with what is right of it. -/
def joinOperands (left : Option (ClassOp × ClassTree)) (right : ClassTree) : ClassTree :=
  match left with
  | none => right
  | some (op, left) => .binary ⟨left.span.start, right.span.stop⟩ op left right

/-- The operator at the next characters. -/
def readClassOp? : Read (Option ClassOp) := do
  if ← bumpIf "&&" then return some .intersection
  else if ← bumpIf "--" then return some .difference
  else if ← bumpIf "~~" then return some .symmetricDifference
  else return none

/-- The rest of a class after its opening, up to and with its closing bracket. `left` is the
operator that waits for its right operand, `items` are the items of that operand, last one first,
and `here` is where they start. -/
def readClassBody (opened : Span) (negated : Bool) :
    (fuel : Nat) → (left : Option (ClassOp × ClassTree)) → (here : Nat) →
      (items : List ClassTree) → Read ClassTree
  | 0, _, _, _ => fail .classUnclosed opened.start opened.stop
  | fuel + 1, left, here, items => do
    bumpSpace
    match ← next? with
    | none => fail .classUnclosed opened.start opened.stop
    | some '[' =>
      match ← readAscii? with
      | some item => readClassBody opened negated fuel left here (item :: items)
      | none =>
        let (opened', negated', items') ← readClassOpening
        let item ← readClassBody opened' negated' fuel none opened'.stop items'
        readClassBody opened negated fuel left here (item :: items)
    | some ']' =>
      let _ ← bump
      return .bracketed ⟨opened.start, ← offset⟩ negated
        (joinOperands left (gatherItems here items))
    | some _ =>
      match ← readClassOp? with
      | some op =>
        let operand := joinOperands left (gatherItems here items)
        readClassBody opened negated fuel (some (op, operand)) (← offset) []
      | none =>
        let item ← readClassItem opened
        readClassBody opened negated fuel left here (item :: items)

/-- A class in brackets. -/
def readClass : Read Tree := do
  let (opened, negated, items) ← readClassOpening
  match ← readClassBody opened negated ((← get).rest.length + 1) none opened.stop items with
  | .bracketed span negated body => return .bracketed span negated body
  | item => return .bracketed item.span false item

/-! ### Groups -/

/-- Characters of the names of groups. -/
def isGroupNameChar (first : Bool) (c : Char) : Bool :=
  if c.toNat < 0x80 then
    c = '_' || c.isAlpha || (!first && (c.isDigit || c = '.' || c = '[' || c = ']'))
  else Unicode.Property.alphabetic.members.contains c ||
    (!first && (Unicode.Category.union Unicode.Category.numbers).contains c)

/-- The name of a group, up to its closing bracket. -/
def readGroupName : (fuel : Nat) → (read : List Char) → Read (List Char)
  | 0, _ => failHere .groupNameUnexpectedEnd
  | fuel + 1, read => do
    match ← next? with
    | none => failHere .groupNameUnexpectedEnd
    | some '>' => return read.reverse
    | some c =>
      if !isGroupNameChar read.isEmpty c then failNext .groupNameInvalid
      else
        let _ ← bump
        readGroupName fuel (c :: read)

/-- Take the name of a group, which no group before may have. -/
def readNewGroupName : Read Unit := do
  let start ← offset
  let name ← readGroupName ((← get).rest.length + 1) []
  let stop ← offset
  let _ ← bump
  if name.isEmpty then fail .groupNameEmpty start start
  else if (← get).names.contains (.ofList name) then fail .groupNameDuplicate start stop
  else modify fun r => { r with names := .ofList name :: r.names }

/-- The flag of a letter. -/
def Flag.ofLetter? (c : Char) : Option Flag :=
  match c with
  | 'i' => some .caseInsensitive
  | 'm' => some .multiLine
  | 's' => some .dotMatchesNewline
  | 'U' => some .swapGreed
  | 'u' => some .unicode
  | 'R' => some .crlf
  | 'x' => some .ignoreSpace
  | _ => none

/-- Flags up to `:` or `)`. `negatedAt` is where the hyphen stands, `dangling` whether it is the
last character read; `flags` are the flags so far, last one first. -/
def readFlags : (fuel : Nat) → (negatedAt : Option Nat) → (dangling : Bool) →
    (flags : List (Flag × Bool)) → Read (List (Flag × Bool))
  | 0, _, _, _ => failHere .flagUnexpectedEnd
  | fuel + 1, negatedAt, dangling, flags => do
    match ← next? with
    | none => failHere .flagUnexpectedEnd
    | some c =>
      if c = ':' ∨ c = ')' then
        match dangling, negatedAt with
        | true, some place => fail .flagDanglingNegation place (place + 1)
        | _, _ => return flags.reverse
      else if c = '-' then
        if negatedAt.isSome then failNext .flagRepeatedNegation
        else
          let here ← offset
          if !(← bump) then failHere .flagUnexpectedEnd
          else readFlags fuel (some here) true flags
      else match Flag.ofLetter? c with
        | none => failNext .flagUnrecognized
        | some flag =>
          if flags.any (·.1 = flag) then failNext .flagDuplicate
          else if !(← bump) then failHere .flagUnexpectedEnd
          else readFlags fuel negatedAt false ((flag, negatedAt.isNone) :: flags)

/-- The setting of a flag by directives, if they have one. -/
def Flag.setting? (flag : Flag) (flags : List (Flag × Bool)) : Option Bool :=
  (flags.find? (·.1 = flag)).map Prod.snd

/-- The opening of a group: a directive, or what its parentheses do. -/
def readGroupOpening : Read (Tree ⊕ GroupKind) := do
  let opening ← offset
  let _ ← bump
  bumpSpace
  if ← bumpIfAny ["?=", "?!", "?<=", "?<!"] then
    fail .lookAround opening (← offset)
  else
    let inner ← offset
    if ← bumpIfAny ["?P<", "?<"] then
      modify fun r => { r with groups := r.groups + 1 }
      let index := (← get).groups
      readNewGroupName
      return .inr (.capture index)
    else if ← bumpIf "?" then
      if ← atEnd then fail .groupUnclosed opening (opening + 1)
      else
        let flags ← readFlags ((← get).rest.length + 1) none false []
        let last ← next?
        let _ ← bump
        if last = some ')' then
          if flags.isEmpty then fail .repetitionMissing inner inner
          else return .inl (.flags ⟨opening, ← offset⟩ flags)
        else return .inr (.plain flags)
    else
      modify fun r => { r with groups := r.groups + 1 }
      return .inr (.capture (← get).groups)

/-- The branches of an alternation before the present one, the last one first, and where the
first one starts. -/
abbrev Branches := Option (Nat × List Tree)

/-- The tree of the parts read, last one first, and of the branches before them. -/
def finishBranches (start stop : Nat) (done : List Tree) (branches : Branches) : Tree :=
  let last := Tree.ofItems ⟨start, stop⟩ done.reverse
  match branches with
  | none => last
  | some (first, before) => .alternation ⟨first, stop⟩ (last :: before).reverse

/-- Parts and branches up to the end of the group whose opening parenthesis stands at `group`, or
of the pattern. `start` is where the present branch starts, `done` are its parts, last one first. -/
def readBranches (group : Option Nat) :
    (fuel : Nat) → (start : Nat) → (done : List Tree) → (branches : Branches) → Read Tree
  | 0, start, done, branches => do return finishBranches start (← offset) done branches
  | fuel + 1, start, done, branches => do
    bumpSpace
    match ← next? with
    | none =>
      match group with
      | some opening => fail .groupUnclosed opening (opening + 1)
      | none => return finishBranches start (← offset) done branches
    | some '(' =>
      let opening ← offset
      let outer := (← get).ignoreSpace
      match ← readGroupOpening with
      | .inl directive =>
        if let .flags _ flags := directive then
          modify fun r => { r with
            ignoreSpace := (Flag.ignoreSpace.setting? flags).getD r.ignoreSpace }
        readBranches group fuel start (directive :: done) branches
      | .inr kind =>
        if let .plain flags := kind then
          modify fun r => { r with
            ignoreSpace := (Flag.ignoreSpace.setting? flags).getD r.ignoreSpace }
        let body ← readBranches (some opening) fuel (← offset) [] none
        modify fun r => { r with ignoreSpace := outer }
        let _ ← bump
        readBranches group fuel start (.group ⟨opening, ← offset⟩ kind body :: done) branches
    | some ')' =>
      match group with
      | none => failNext .groupUnopened
      | some _ => return finishBranches start (← offset) done branches
    | some '|' =>
      let stop ← offset
      let branch := Tree.ofItems ⟨start, stop⟩ done.reverse
      let _ ← bump
      let branches := match branches with
        | none => (start, [branch])
        | some (first, before) => (first, branch :: before)
      readBranches group fuel (← offset) [] (some branches)
    | some '[' => do readBranches group fuel start ((← readClass) :: done) branches
    | some '?' => do readBranches group fuel start (← readOperator 0 (some 1) done) branches
    | some '*' => do readBranches group fuel start (← readOperator 0 none done) branches
    | some '+' => do readBranches group fuel start (← readOperator 1 none done) branches
    | some '{' => do readBranches group fuel start (← readCounted done) branches
    | some _ => do readBranches group fuel start ((← readPrimitive) :: done) branches

/-- Read a pattern. -/
def Tree.ofText (text : String) : Except Refusal Tree := do
  let chars := text.toList
  let start : Reading := ⟨0, chars, false, 0, []⟩
  let (tree, _) ← (readBranches none (chars.length + 1) 0 [] none).run start
  tree.checkNesting 0
  return tree

end DataGrammar.Pattern
