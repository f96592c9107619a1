import DataGrammar.Pattern.Fault
/-!
# Pattern trees

The form of a pattern as it is written, with the spans that faults point to. Flags are kept as
directives; what they mean for the rest of the pattern is the business of
`DataGrammar.Pattern.Meaning`.
-/

namespace DataGrammar.Pattern

/-- A flag of a group such as `(?i)`. -/
inductive Flag where
  | caseInsensitive
  | multiLine
  | dotMatchesNewline
  | swapGreed
  | unicode
  | crlf
  | ignoreSpace
  deriving DecidableEq, Repr

/-- The place of an assertion, before flags decide about its lines and words. -/
inductive Anchor where
  | startLine
  | endLine
  | startText
  | endText
  | wordBoundary
  | notWordBoundary
  | wordStart
  | wordEnd
  | wordStartHalf
  | wordEndHalf
  deriving DecidableEq, Repr

/-- A character; `asByte` if it is written as an escape of two hexadecimal digits. -/
structure Literal where
  span : Span
  char : Char
  asByte : Bool
  deriving DecidableEq, Repr

/-- The classes `\d`, `\s` and `\w`. -/
inductive PerlClass where
  | digit
  | space
  | word
  deriving DecidableEq, Repr

/-- The classes such as `[:alpha:]`. -/
inductive AsciiClass where
  | alnum
  | alpha
  | ascii
  | blank
  | cntrl
  | digit
  | graph
  | lower
  | print
  | punct
  | space
  | upper
  | word
  | xdigit
  deriving DecidableEq, Repr

/-- The class named by `\p`, before its name is looked up. -/
inductive PropertyName where
  /-- A property, category or script by its name. -/
  | named (name : String)
  /-- A property and its value. -/
  | valued (property value : String)
  deriving DecidableEq, Repr

/-- An operation on two character classes. -/
inductive ClassOp where
  | intersection
  | difference
  | symmetricDifference
  deriving DecidableEq, Repr

/-- What stands between the brackets of a character class. -/
inductive ClassTree where
  | literal (l : Literal)
  | range (span : Span) (first last : Literal)
  | ascii (span : Span) (kind : AsciiClass) (negated : Bool)
  | perl (span : Span) (kind : PerlClass) (negated : Bool)
  | property (span : Span) (name : PropertyName) (negated : Bool)
  | bracketed (span : Span) (negated : Bool) (body : ClassTree)
  | union (span : Span) (items : List ClassTree)
  | binary (span : Span) (op : ClassOp) (left right : ClassTree)
  deriving Repr, Inhabited

/-- Where a class item stands. -/
def ClassTree.span : ClassTree → Span
  | .literal l => l.span
  | .range span .. | .ascii span .. | .perl span .. | .property span .. => span
  | .bracketed span .. | .union span _ | .binary span .. => span

/-- Items side by side; one alone is itself. -/
def ClassTree.ofItems (span : Span) : List ClassTree → ClassTree
  | [item] => item
  | items => .union span items

/-- What a pair of parentheses does. -/
inductive GroupKind where
  /-- Captures, under its number. -/
  | capture (index : Nat)
  /-- Groups only, with flags set or cleared inside. -/
  | plain (flags : List (Flag × Bool))
  deriving DecidableEq, Repr

/-- A pattern as it is written. -/
inductive Tree where
  | empty (span : Span)
  | flags (span : Span) (flags : List (Flag × Bool))
  | literal (l : Literal)
  | dot (span : Span)
  | anchor (span : Span) (kind : Anchor)
  | perl (span : Span) (kind : PerlClass) (negated : Bool)
  | property (span : Span) (name : PropertyName) (negated : Bool)
  | bracketed (span : Span) (negated : Bool) (body : ClassTree)
  | repetition (span : Span) (least : Nat) (most : Option Nat) (greedy : Bool) (item : Tree)
  | group (span : Span) (kind : GroupKind) (body : Tree)
  | concat (span : Span) (items : List Tree)
  | alternation (span : Span) (branches : List Tree)
  deriving Repr, Inhabited

namespace Tree

/-- Where a part stands. -/
def span : Tree → Span
  | .literal l => l.span
  | .empty span | .flags span _ | .dot span | .anchor span _ => span
  | .perl span .. | .property span .. | .bracketed span .. | .repetition span .. => span
  | .group span .. | .concat span _ | .alternation span _ => span

/-- Parts one after the other; one alone is itself. -/
def ofItems (span : Span) : List Tree → Tree
  | [] => .empty span
  | [item] => item
  | items => .concat span items

/-- A part that repetition operators may follow. -/
def isRepeatable : Tree → Bool
  | .empty _ | .flags .. => false
  | _ => true

end Tree

/-- How deep parts may be nested. -/
def nestLimit : Nat := 250

/-- The fault of a part that is nested too deep: it and what encloses it count `depth`. -/
def nestFault (depth : Nat) (span : Span) : Except Refusal Unit :=
  if nestLimit < depth then .error (.fault (.nestLimitExceeded nestLimit) span) else .ok ()

mutual

/-- Check that a class item is not nested too deep. -/
def ClassTree.checkNesting (depth : Nat) : ClassTree → Except Refusal Unit
  | .literal _ | .range .. | .ascii .. | .perl .. | .property .. => .ok ()
  | .bracketed span _ body => do
    nestFault (depth + 1) span
    body.checkNesting (depth + 1)
  | .union _ [] => .ok ()
  | .union span (item :: items) => do
    nestFault (depth + 1) span
    item.checkNesting (depth + 1)
    checkItems (depth + 1) items
  | .binary span _ left right => do
    nestFault (depth + 1) span
    left.checkNesting (depth + 1)
    right.checkNesting (depth + 1)

/-- Check items in order. -/
def ClassTree.checkItems (depth : Nat) : List ClassTree → Except Refusal Unit
  | [] => .ok ()
  | item :: items => do
    item.checkNesting depth
    checkItems depth items

end

mutual

/-- Check that no part is nested too deep; the first one in reading order is blamed. -/
def Tree.checkNesting (depth : Nat) : Tree → Except Refusal Unit
  | .empty _ | .flags .. | .literal _ | .dot _ | .anchor .. | .perl .. | .property .. => .ok ()
  | .bracketed span _ body => do
    nestFault (depth + 1) span
    body.checkNesting (depth + 1)
  | .repetition span _ _ _ item => do
    nestFault (depth + 1) span
    item.checkNesting (depth + 1)
  | .group span _ body => do
    nestFault (depth + 1) span
    body.checkNesting (depth + 1)
  | .concat span items => do
    nestFault (depth + 1) span
    checkItems (depth + 1) items
  | .alternation span branches => do
    nestFault (depth + 1) span
    checkItems (depth + 1) branches

/-- Check parts in order. -/
def Tree.checkItems (depth : Nat) : List Tree → Except Refusal Unit
  | [] => .ok ()
  | item :: items => do
    item.checkNesting depth
    checkItems depth items

end

end DataGrammar.Pattern
