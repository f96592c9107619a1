import DataGrammar.Pattern.Expression
import DataGrammar.Pattern.Reader
import DataGrammar.Unicode.Folding
/-!
# The meaning of patterns

`Tree.meaning` turns a pattern as it is written into a regular expression. Flags hold from where
they stand to the end of the group around them; a capture or plain group restores them. With the
flag `u` off, classes are ASCII classes, and one that would hold more is refused, since the text
it matches might not be valid.
-/

namespace DataGrammar.Pattern

/-- The flags in force. -/
structure Flags where
  caseInsensitive : Bool
  multiLine : Bool
  dotMatchesNewline : Bool
  swapGreed : Bool
  unicode : Bool
  crlf : Bool
  deriving DecidableEq, Repr

namespace Flags

/-- The flags at the start of a pattern. -/
def initial : Flags := ⟨false, false, false, false, true, false⟩

/-- Set or clear one flag. -/
def set (flags : Flags) : Flag × Bool → Flags
  | (.caseInsensitive, b) => { flags with caseInsensitive := b }
  | (.multiLine, b) => { flags with multiLine := b }
  | (.dotMatchesNewline, b) => { flags with dotMatchesNewline := b }
  | (.swapGreed, b) => { flags with swapGreed := b }
  | (.unicode, b) => { flags with unicode := b }
  | (.crlf, b) => { flags with crlf := b }
  | (.ignoreSpace, _) => flags

end Flags

/-- Refuse a part of a pattern. -/
def refuse {α : Type} (fault : Fault) (span : Span) : Except Refusal α :=
  .error (.fault fault span)

/-- The ASCII class of a name. -/
def AsciiClass.members : AsciiClass → CharSet
  | .alnum => ⟨[(0x30, 0x39), (0x41, 0x5A), (0x61, 0x7A)]⟩
  | .alpha => ⟨[(0x41, 0x5A), (0x61, 0x7A)]⟩
  | .ascii => ⟨[(0x00, 0x7F)]⟩
  | .blank => ⟨[(0x09, 0x09), (0x20, 0x20)]⟩
  | .cntrl => ⟨[(0x00, 0x1F), (0x7F, 0x7F)]⟩
  | .digit => ⟨[(0x30, 0x39)]⟩
  | .graph => ⟨[(0x21, 0x7E)]⟩
  | .lower => ⟨[(0x61, 0x7A)]⟩
  | .print => ⟨[(0x20, 0x7E)]⟩
  | .punct => ⟨[(0x21, 0x2F), (0x3A, 0x40), (0x5B, 0x60), (0x7B, 0x7E)]⟩
  | .space => ⟨[(0x09, 0x0D), (0x20, 0x20)]⟩
  | .upper => ⟨[(0x41, 0x5A)]⟩
  | .word => ⟨[(0x30, 0x39), (0x41, 0x5A), (0x5F, 0x5F), (0x61, 0x7A)]⟩
  | .xdigit => ⟨[(0x30, 0x39), (0x41, 0x46), (0x61, 0x66)]⟩

/-- The members of `\d`, `\s` or `\w`. -/
def PerlClass.members (unicode : Bool) : PerlClass → CharSet
  | .digit => if unicode then Unicode.digit else AsciiClass.digit.members
  | .space => if unicode then Unicode.space else AsciiClass.space.members
  | .word => if unicode then Unicode.word else AsciiClass.word.members

namespace Flags

/-- Close a class under case, if case does not count. -/
def closeCase (flags : Flags) (s : CharSet) : CharSet :=
  if !flags.caseInsensitive then s
  else if flags.unicode then Unicode.Folding.close s
  else Unicode.Folding.closeAscii s

/-- A class that must be ASCII where `u` is off. -/
def checked (flags : Flags) (span : Span) (s : CharSet) : Except Refusal CharSet :=
  if flags.unicode || s.isAscii then .ok s else refuse .invalidText span

/-- A class closed under case, then negated. -/
def foldAndNegate (flags : Flags) (span : Span) (negated : Bool) (s : CharSet) :
    Except Refusal CharSet :=
  flags.checked span ((flags.closeCase s).complIf negated)

/-- One of the classes `\d`, `\s` and `\w`, which are closed under case. -/
def perlClass (flags : Flags) (span : Span) (kind : PerlClass) (negated : Bool) :
    Except Refusal CharSet :=
  flags.checked span ((kind.members flags.unicode).complIf negated)

/-- A class by property. -/
def propertyClass (flags : Flags) (span : Span) (name : PropertyName) (negated : Bool) :
    Except Refusal CharSet :=
  if !flags.unicode then refuse .unicodeNotAllowed span
  else
    let found := match name with
      | .named name => Unicode.Query.named name
      | .valued property value => Unicode.Query.valued property value
    match found with
    | .ok s => flags.foldAndNegate span negated s
    | .error .unknownProperty => refuse .propertyNotFound span
    | .error .unknownValue => refuse .propertyValueNotFound span

/-- A character outside a class. -/
def literal (flags : Flags) (l : Literal) : Except Refusal CharSet :=
  if !flags.unicode && l.asByte && 0x80 ≤ l.char.toNat then refuse .invalidText l.span
  else if !flags.unicode && 0x80 ≤ l.char.toNat then .ok (.singleton l.char)
  else .ok (flags.closeCase (.singleton l.char))

/-- A character inside a class. -/
def classLiteral (flags : Flags) (l : Literal) : Except Refusal Nat :=
  if flags.unicode || l.char.toNat < 0x80 then .ok l.char.toNat
  else if l.asByte then refuse .invalidText l.span
  else refuse .unicodeNotAllowed l.span

/-- What the dot matches. -/
def dot (flags : Flags) (span : Span) : Except Refusal CharSet :=
  if !flags.unicode then refuse .invalidText span
  else if flags.dotMatchesNewline then .ok .all
  else if flags.crlf then .ok (CharSet.compl ⟨[(0x0A, 0x0A), (0x0D, 0x0D)]⟩)
  else .ok (CharSet.compl ⟨[(0x0A, 0x0A)]⟩)

/-- The condition of an assertion. -/
def look (flags : Flags) : Anchor → Look
  | .startLine =>
    if !flags.multiLine then .textStart else if flags.crlf then .crlfLineStart else .lineStart
  | .endLine =>
    if !flags.multiLine then .textEnd else if flags.crlf then .crlfLineEnd else .lineEnd
  | .startText => .textStart
  | .endText => .textEnd
  | .wordBoundary => .wordBoundary flags.unicode
  | .notWordBoundary => .notWordBoundary flags.unicode
  | .wordStart => .wordStart flags.unicode
  | .wordEnd => .wordEnd flags.unicode
  | .wordStartHalf => .wordStartHalf flags.unicode
  | .wordEndHalf => .wordEndHalf flags.unicode

end Flags

/-- An operation on classes. -/
def ClassOp.apply : ClassOp → CharSet → CharSet → CharSet
  | .intersection => .inter
  | .difference => .diff
  | .symmetricDifference => .symmDiff

mutual

/-- The members of a class. -/
def ClassTree.members (flags : Flags) : ClassTree → Except Refusal CharSet
  | .literal l => do
    let code ← flags.classLiteral l
    return .interval code code
  | .range _ first last => do
    let lo ← flags.classLiteral first
    let hi ← flags.classLiteral last
    return .interval lo hi
  | .ascii span kind negated => flags.foldAndNegate span negated kind.members
  | .perl span kind negated => flags.perlClass span kind negated
  | .property span name negated => flags.propertyClass span name negated
  | .bracketed span negated body => do flags.foldAndNegate span negated (← body.members flags)
  | .union _ items => unionMembers flags items
  | .binary _ op left right => do
    let l ← left.members flags
    let r ← right.members flags
    return op.apply (flags.closeCase l) (flags.closeCase r)

/-- The members of any of some classes. -/
def ClassTree.unionMembers (flags : Flags) : List ClassTree → Except Refusal CharSet
  | [] => .ok .empty
  | item :: items => do
    let s ← item.members flags
    return s.union (← unionMembers flags items)

end

mutual

/-- The meaning of a part under the flags before it, with the flags after it. -/
def Tree.meaning (flags : Flags) : Tree → Except Refusal (Expression × Flags)
  | .empty _ => .ok (.empty, flags)
  | .flags _ directives => .ok (.empty, directives.foldl Flags.set flags)
  | .literal l => do return (.chars (← flags.literal l), flags)
  | .dot span => do return (.chars (← flags.dot span), flags)
  | .anchor _ kind => .ok (.look (flags.look kind), flags)
  | .perl span kind negated => do return (.chars (← flags.perlClass span kind negated), flags)
  | .property span name negated => do
    return (.chars (← flags.propertyClass span name negated), flags)
  | .bracketed span negated body => do
    return (.chars (← flags.foldAndNegate span negated (← body.members flags)), flags)
  | .repetition _ least most greedy item => do
    let (e, after) ← item.meaning flags
    return (.repeated least most (greedy != after.swapGreed) e, after)
  | .group _ (.capture index) body => do
    let (e, _) ← body.meaning flags
    return (.capture index e, flags)
  | .group _ (.plain directives) body => do
    let (e, _) ← body.meaning (directives.foldl Flags.set flags)
    return (e, flags)
  | .concat _ items => do
    let (es, after) ← meanings flags items
    return (.sequence es, after)
  | .alternation _ branches => do
    let (es, after) ← meanings flags branches
    return (.alternation es, after)

/-- The meanings of parts in order. -/
def Tree.meanings (flags : Flags) : List Tree → Except Refusal (List Expression × Flags)
  | [] => .ok ([], flags)
  | item :: items => do
    let (e, between) ← item.meaning flags
    let (es, after) ← meanings between items
    return (e :: es, after)

end

end DataGrammar.Pattern
