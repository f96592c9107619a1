/-!
# Sets of characters

A set of characters is a list of intervals of code points, ascending and apart from each other.
Surrogates may lie inside an interval: no character has such a code point.

* `CharSet.contains` decides membership.
* `CharSet.union`, `CharSet.compl`, `CharSet.inter`, `CharSet.diff` and `CharSet.symmDiff` are the
  operations of sets.
* `CharSet.ofText` reads a set from the form in which tables are written.
-/

namespace DataGrammar

/-- A set of characters as intervals of code points, both ends included. -/
structure CharSet where
  intervals : List (Nat × Nat)
  deriving DecidableEq, Repr, Inhabited

namespace CharSet

/-- The greatest code point. -/
def maxCode : Nat := 0x10FFFF

/-- No character. -/
def empty : CharSet := ⟨[]⟩

/-- Every character. -/
def all : CharSet := ⟨[(0, maxCode)]⟩

/-- Whether a code point lies in one of ascending intervals. -/
def memberOf (code : Nat) : List (Nat × Nat) → Bool
  | [] => false
  | (lo, hi) :: rest => if code < lo then false else if code ≤ hi then true else memberOf code rest

/-- Membership. -/
def contains (s : CharSet) (c : Char) : Bool := memberOf c.toNat s.intervals

/-- Put the interval from `lo` to `hi` in its place, joining what it touches. -/
def insertInterval (lo hi : Nat) : List (Nat × Nat) → List (Nat × Nat)
  | [] => [(lo, hi)]
  | (a, b) :: rest =>
    if hi + 1 < a then (lo, hi) :: (a, b) :: rest
    else if b + 1 < lo then (a, b) :: insertInterval lo hi rest
    else insertInterval (min lo a) (max hi b) rest

/-- The characters from `lo` to `hi`. -/
def interval (lo hi : Nat) : CharSet := ⟨[(lo, hi)]⟩

/-- One character. -/
def singleton (c : Char) : CharSet := interval c.toNat c.toNat

/-- The union. -/
def union (a b : CharSet) : CharSet :=
  ⟨b.intervals.foldl (fun r i => insertInterval i.1 i.2 r) a.intervals⟩

/-- Intervals in any order. -/
def ofIntervals (intervals : List (Nat × Nat)) : CharSet := union empty ⟨intervals⟩

/-- What ascending intervals leave out, from `lo` on. -/
def gaps (lo : Nat) : List (Nat × Nat) → List (Nat × Nat)
  | [] => if lo ≤ maxCode then [(lo, maxCode)] else []
  | (a, b) :: rest => if lo < a then (lo, a - 1) :: gaps (b + 1) rest else gaps (b + 1) rest

/-- The complement. -/
def compl (s : CharSet) : CharSet := ⟨gaps 0 s.intervals⟩

/-- The intersection. -/
def inter (a b : CharSet) : CharSet := (a.compl.union b.compl).compl

/-- The difference. -/
def diff (a b : CharSet) : CharSet := a.inter b.compl

/-- The symmetric difference. -/
def symmDiff (a b : CharSet) : CharSet := (a.union b).diff (a.inter b)

/-- The complement if `negated`. -/
def complIf (negated : Bool) (s : CharSet) : CharSet := if negated then s.compl else s

/-- Whether all characters are ASCII. -/
def isAscii (s : CharSet) : Bool := s.intervals.all fun i => i.2 < 0x80

/-- Whether any code point of the interval from `lo` to `hi` is in the set. -/
def meets (s : CharSet) (lo hi : Nat) : Bool := s.intervals.any fun i => i.1 ≤ hi && lo ≤ i.2

/-- The value of a hexadecimal number in capitals. -/
def hexValue (digits : List Char) : Nat :=
  digits.foldl (fun n c => n * 16 + (c.toNat - (if c.toNat < 0x3A then 0x30 else 0x37))) 0

/-- The part of a list before and after the first `c`. -/
def cutAt (c : Char) (l : List Char) : List Char × List Char :=
  (l.takeWhile (· != c), (l.dropWhile (· != c)).drop 1)

/-- The words of a text that are apart by one blank. -/
def wordsOf (text : String) : List (List Char) :=
  (text.toList.foldr
    (fun c (word, done) => if c = ' ' then ([], word :: done) else (c :: word, done))
    (([], []) : List Char × List (List Char))) |> fun (word, done) => word :: done

/-- One item of a table: `41` for a code point, `41-5A` for an interval, `100-12E/2` for every
other code point from the first to the last. -/
def readItem (item : List Char) : List (Nat × Nat) :=
  let (first, rest) := cutAt '-' item
  let (last, step) := cutAt '/' rest
  let lo := hexValue first
  if rest.isEmpty then [(lo, lo)]
  else if step.isEmpty then [(lo, hexValue last)]
  else (List.range ((hexValue last - lo) / 2 + 1)).map fun i => (lo + 2 * i, lo + 2 * i)

/-- Read lines of a table, whose items are in ascending order. -/
def ofText (lines : List String) : CharSet :=
  ⟨lines.flatMap fun line => (wordsOf line).flatMap readItem⟩

end CharSet
end DataGrammar
