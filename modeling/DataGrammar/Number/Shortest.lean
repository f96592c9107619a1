import DataGrammar.Number.Binary
/-!
# Shortest decimals

Of the decimals that a binary format rounds to a given number, the shortest is the one with the
fewest digits, and of those the one nearest to the number. `Binary.Format.shortest` looks for it
among the two neighbours of the number on the grid of decimals with one digit, two digits, and so
on. Two neighbours that are equally near are told apart by a `Tie`.

Two notations are built on it: `Format.display` writes all places out, and `Format.compact` writes
numbers that are very large or very small with an exponent.
-/

namespace DataGrammar.Binary

/-- A decimal `digits * 10 ^ exponent`. -/
structure Decimal where
  digits : Nat
  exponent : Int
  deriving DecidableEq, Repr

/-- Which of two decimals that are equally near to a number is taken. -/
inductive Tie where
  /-- The greater one. -/
  | up
  /-- The one whose last digit is even. -/
  | toEven
  deriving DecidableEq, Repr

/-- The fractions between which all numbers round to one number, and whether they do so
themselves. They have one denominator. -/
structure Neighbourhood where
  low : Nat
  value : Nat
  high : Nat
  den : Nat
  closed : Bool

namespace Neighbourhood

/-- Whether `num / den` lies inside. -/
def contains (n : Neighbourhood) (num den : Nat) : Bool :=
  let x := num * n.den
  if n.closed then n.low * den ≤ x && x ≤ n.high * den
  else n.low * den < x && x < n.high * den

/-- The decimals of the grid `10 ^ exponent` next to the value, the nearer one first. -/
def neighbours (n : Neighbourhood) (tie : Tie) (exponent : Int) : List Decimal :=
  let (num, den) :=
    if 0 ≤ exponent then (n.value, n.den * Nat.pow 10 exponent.toNat)
    else (n.value * Nat.pow 10 (-exponent).toNat, n.den)
  let q := num / den
  let below : Decimal := ⟨q, exponent⟩
  let above : Decimal := ⟨q + 1, exponent⟩
  let twice := 2 * (num % den)
  let isBelow := twice < den ∨ (twice = den ∧ tie = .toEven ∧ q % 2 = 0)
  if isBelow then [below, above] else [above, below]

/-- Whether a decimal lies inside. -/
def containsDecimal (n : Neighbourhood) (d : Decimal) : Bool :=
  if 0 ≤ d.exponent then n.contains (d.digits * Nat.pow 10 d.exponent.toNat) 1
  else n.contains d.digits (Nat.pow 10 (-d.exponent).toNat)

/-- The first decimal inside on ever finer grids. -/
def search (n : Neighbourhood) (tie : Tie) : (tries : Nat) → (exponent : Int) → Option Decimal
  | 0, _ => none
  | tries + 1, exponent =>
    ((n.neighbours tie exponent).find? n.containsDecimal).or (n.search tie tries (exponent - 1))

end Neighbourhood

/-- The numbers that round to `significand * 2 ^ (scale - bottom)`. -/
def Format.neighbourhood (f : Format) (significand scale : Nat) : Neighbourhood :=
  let unit := Nat.pow 2 scale
  let lowGap := if significand = Nat.pow 2 (f.precision - 1) ∧ 0 < scale then unit else 2 * unit
  let value := 4 * significand * unit
  ⟨value - lowGap, value, value + 2 * unit, Nat.pow 2 (f.bottom + 2), significand % 2 = 0⟩

/-- The shortest decimal of a positive number; its digits do not end in zero. -/
def Format.shortest (f : Format) (tie : Tie) (significand scale : Nat) : Decimal :=
  let n := f.neighbourhood significand scale
  let top : Int := (((Nat.log2 n.value : Int) - Nat.log2 n.den) * 30103) / 100000 + 1
  (n.search tie 40 top).getD ⟨0, 0⟩

/-- A decimal in positional notation. -/
def Decimal.positional (d : Decimal) : String :=
  let digits := Nat.toDigits 10 d.digits
  if 0 ≤ d.exponent then
    if d.digits = 0 then "0" else .ofList (digits ++ List.replicate d.exponent.toNat '0')
  else
    let places := (-d.exponent).toNat
    let padded := List.replicate (places + 1 - digits.length) '0' ++ digits
    let whole := padded.length - places
    .ofList (padded.take whole ++ '.' :: padded.drop whole)

/-- The text of a number in positional notation, with the fewest digits that read back. -/
def Format.display (f : Format) (negative : Bool) (m : Magnitude) : String :=
  let sign := if negative then "-" else ""
  match m with
  | .finite 0 _ => sign ++ "0"
  | .finite significand scale => sign ++ (f.shortest .up significand scale).positional
  | .infinite => sign ++ "inf"
  | .nan => "NaN"

/-- A decimal with one digit before the point and an exponent. -/
def Decimal.scientific (d : Decimal) : String :=
  let digits := Nat.toDigits 10 d.digits
  let exponent := toString (d.exponent + (digits.length - 1))
  match digits with
  | first :: [] => s!"{first}e{exponent}"
  | first :: places => s!"{first}.{String.ofList places}e{exponent}"
  | [] => "0"

/-- A decimal in compact notation: positional from `1e-5` to `1e16`, where a whole number keeps one
place, and with an exponent outside of that. -/
def Decimal.compact (d : Decimal) : String :=
  let point := (Nat.toDigits 10 d.digits).length + d.exponent
  if point ≤ -5 ∨ 16 < point then d.scientific
  else if 0 ≤ d.exponent then d.positional ++ ".0"
  else d.positional

/-- The text of a finite number in compact notation, with the fewest digits that read back. -/
def Format.compact (f : Format) (negative : Bool) (m : Magnitude) : String :=
  let sign := if negative then "-" else ""
  match m with
  | .finite 0 _ => sign ++ "0.0"
  | .finite significand scale => sign ++ (f.shortest .toEven significand scale).compact
  | .infinite => sign ++ "inf"
  | .nan => "NaN"

end DataGrammar.Binary
