/-!
# Binary floating point

A binary format holds numbers `m * 2 ^ e` with a significand of limited length and an exponent
of limited range. `Binary.Format.round` gives the number of a format that is nearest to a
fraction, the one with the even significand if two are; `Binary.Magnitude.bits` is the
interchange encoding without its sign.
-/

namespace DataGrammar.Binary

/-- A binary format. -/
structure Format where
  /-- The bits of a significand. -/
  precision : Nat
  /-- The bits of the exponent in the encoding. -/
  exponentBits : Nat
  /-- The exponent of the least number is `-bottom`. -/
  bottom : Nat
  deriving DecidableEq, Repr

/-- Numbers of 64 bits. -/
def double : Format := ⟨53, 11, 1074⟩

/-- Numbers of 32 bits. -/
def single : Format := ⟨24, 8, 149⟩

/-- A number without its sign. -/
inductive Magnitude where
  /-- The number `significand * 2 ^ (scale - bottom)`. -/
  | finite (significand scale : Nat)
  | infinite
  | nan
  deriving DecidableEq, Repr, Inhabited

/-- The quotient rounded to nearest, a half to the even neighbour. -/
def roundDiv (num den : Nat) : Nat :=
  let q := num / den
  let twice := 2 * (num % den)
  if twice < den ∨ (twice = den ∧ q % 2 = 0) then q else q + 1

namespace Format

variable (f : Format)

/-- The encoding of infinity. -/
def infinityBits : Nat := (Nat.pow 2 f.exponentBits - 1) * Nat.pow 2 (f.precision - 1)

/-- The encoding of a number without its sign. -/
def bits : Magnitude → Nat
  | .finite m scale => scale * Nat.pow 2 (f.precision - 1) + m
  | .infinite => f.infinityBits
  | .nan => f.infinityBits + Nat.pow 2 (f.precision - 2)

/-- The number of the format nearest to `num / den`. -/
def round (num den : Nat) : Magnitude :=
  let num := num * Nat.pow 2 f.bottom
  let scale := Nat.log2 num - Nat.log2 den - f.precision
  let scale := if num / (den * Nat.pow 2 scale) < Nat.pow 2 f.precision then scale else scale + 1
  let m := roundDiv num (den * Nat.pow 2 scale)
  let (m, scale) := if m = Nat.pow 2 f.precision then (m / 2, scale + 1) else (m, scale)
  if f.infinityBits ≤ f.bits (.finite m scale) then .infinite else .finite m scale

/-- The number of the format nearest to `digits * 10 ^ exponent`. Exponents that are far outside
the range of the format are told by the length of the number. -/
def roundDecimal (digits : Nat) (exponent : Int) : Magnitude :=
  let length : Int := (Nat.toDigits 10 digits).length
  if digits = 0 then .finite 0 0
  else if 400 < length + exponent then .infinite
  else if length + exponent < -400 then .finite 0 0
  else if 0 ≤ exponent then f.round (digits * Nat.pow 10 exponent.toNat) 1
  else f.round digits (Nat.pow 10 (-exponent).toNat)

/-- The number as a fraction; zero if it is not finite. -/
def fraction : Magnitude → Nat × Nat
  | .finite m scale =>
    if f.bottom ≤ scale then (m * Nat.pow 2 (scale - f.bottom), 1)
    else (m, Nat.pow 2 (f.bottom - scale))
  | _ => (0, 1)

/-- The product of two numbers, rounded. -/
def mul (a b : Magnitude) : Magnitude :=
  match a, b with
  | .finite .., .finite .. =>
    let (n, d) := f.fraction a
    let (n', d') := f.fraction b
    f.round (n * n') (d * d')
  | .nan, _ | _, .nan => .nan
  | _, _ => .infinite

/-- The quotient of a number by a positive one, rounded. -/
def div (a b : Magnitude) : Magnitude :=
  match a, b with
  | .finite .., .finite .. =>
    let (n, d) := f.fraction a
    let (n', d') := f.fraction b
    f.round (n * d') (d * n')
  | .infinite, .finite .. => .infinite
  | .finite .., .infinite => .finite 0 0
  | _, _ => .nan

/-- The whole part; infinity has none. -/
def floor? : Magnitude → Option Nat
  | .finite m scale => let (n, d) := f.fraction (.finite m scale); some (n / d)
  | _ => none

end Format
end DataGrammar.Binary
