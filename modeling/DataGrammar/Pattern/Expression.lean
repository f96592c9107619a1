import DataGrammar.CharSet
/-!
# Regular expressions

What a pattern means, with flags resolved: sets of characters, assertions, repetitions, captures,
sequences and ordered alternatives.

* `Expression.repeated` repeats an expression, with the identities that decide which captures
  a pattern keeps: what is repeated zero times is gone, and what has no width is matched at most
  once.
* `Expression.canBeEmpty` and `Expression.isZeroWidth` are the lengths that matter.
-/

namespace DataGrammar.Pattern

/-- A condition on the characters on both sides of a place. -/
inductive Look where
  | textStart
  | textEnd
  | lineStart
  | lineEnd
  | crlfLineStart
  | crlfLineEnd
  | wordBoundary (unicode : Bool)
  | notWordBoundary (unicode : Bool)
  | wordStart (unicode : Bool)
  | wordEnd (unicode : Bool)
  | wordStartHalf (unicode : Bool)
  | wordEndHalf (unicode : Bool)
  deriving DecidableEq, Repr

/-- A regular expression. -/
inductive Expression where
  /-- The empty text. -/
  | empty
  /-- One character of a set. -/
  | chars (set : CharSet)
  /-- The empty text where a condition holds. -/
  | look (condition : Look)
  /-- Between `least` and `most` times; a greedy one prefers more. -/
  | repetition (least : Nat) (most : Option Nat) (greedy : Bool) (item : Expression)
  /-- A numbered capture group. -/
  | capture (index : Nat) (item : Expression)
  /-- One after the other. -/
  | concat (items : List Expression)
  /-- The first that leads to a match. -/
  | alternation (branches : List Expression)
  deriving Repr, Inhabited

namespace Expression

mutual

/-- Whether the empty text can match. -/
def canBeEmpty : Expression → Bool
  | .empty => true
  | .chars _ => false
  | .look _ => true
  | .repetition least _ _ item => least == 0 || item.canBeEmpty
  | .capture _ item => item.canBeEmpty
  | .concat items => allCanBeEmpty items
  | .alternation branches => anyCanBeEmpty branches

/-- Whether the empty text can match every item. -/
def allCanBeEmpty : List Expression → Bool
  | [] => true
  | item :: items => item.canBeEmpty && allCanBeEmpty items

/-- Whether the empty text can match some branch. -/
def anyCanBeEmpty : List Expression → Bool
  | [] => false
  | branch :: branches => branch.canBeEmpty || anyCanBeEmpty branches

end

mutual

/-- Whether only the empty text can match. -/
def isZeroWidth : Expression → Bool
  | .empty => true
  | .chars _ => false
  | .look _ => true
  | .repetition _ most _ item => most.isSome && item.isZeroWidth
  | .capture _ item => item.isZeroWidth
  | .concat items => allZeroWidth items
  | .alternation branches => allZeroWidth branches

/-- Whether only the empty text can match any of some expressions. -/
def allZeroWidth : List Expression → Bool
  | [] => true
  | item :: items => item.isZeroWidth && allZeroWidth items

end

mutual

/-- Whether there is a capture group. -/
def hasCapture : Expression → Bool
  | .empty | .chars _ | .look _ => false
  | .repetition _ _ _ item => item.hasCapture
  | .capture .. => true
  | .concat items => anyHasCapture items
  | .alternation branches => anyHasCapture branches

/-- Whether some expression has a capture group. -/
def anyHasCapture : List Expression → Bool
  | [] => false
  | item :: items => item.hasCapture || anyHasCapture items

end

/-- Repeat an expression. -/
def repeated (least : Nat) (most : Option Nat) (greedy : Bool) (item : Expression) : Expression :=
  let (least, most) :=
    if item.isZeroWidth then (min least 1, some (most.elim 1 (min · 1))) else (least, most)
  if least = 0 ∧ most = some 0 then .empty
  else if least = 1 ∧ most = some 1 then item
  else .repetition least most greedy item

/-- Expressions one after the other. -/
def sequence : List Expression → Expression
  | [] => .empty
  | [item] => item
  | items => .concat items

end Expression
end DataGrammar.Pattern
