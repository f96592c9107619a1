import DataGrammar.Number.Binary
/-!
# Numbers in text

The forms in which numbers are written: an optional sign, then digits with an optional point and
exponent, or the name of a number that is not finite.
-/

namespace DataGrammar.Number

/-- The digits that a text starts with, and what follows. -/
def spanDigits (text : List Char) : List Char × List Char :=
  (text.takeWhile Char.isDigit, text.dropWhile Char.isDigit)

/-- The value of digits. -/
def digitsValue (digits : List Char) : Nat :=
  digits.foldl (fun n c => n * 10 + (c.toNat - 0x30)) 0

/-- An optional sign, and what follows; true for a minus. -/
def splitSign : List Char → Bool × List Char
  | '-' :: rest => (true, rest)
  | '+' :: rest => (false, rest)
  | text => (false, text)

/-- Whether a type of integers has a number. -/
def fits (signed : Bool) (bits : Nat) (n : Int) : Bool :=
  if signed then -(Nat.pow 2 (bits - 1) : Int) ≤ n && n < (Nat.pow 2 (bits - 1) : Int)
  else 0 ≤ n && n < (Nat.pow 2 bits : Int)

/-- Append digits to a number, downwards if it is `negative`. Nothing is left of it once it, or ten
times it, does not fit, or at a character that is no digit. -/
def appendDigits (fits : Int → Bool) (negative : Bool) : Int → List Char → Option Int
  | n, [] => some n
  | n, c :: rest =>
    let tens := n * 10
    let digit : Int := (c.toNat - 0x30 : Nat)
    let next := if negative then tens - digit else tens + digit
    if c.isDigit && fits tens && fits next then appendDigits fits negative next rest else none

/-- An integer of a type: an optional sign and ASCII digits. A minus is allowed only if `signed`. -/
def integer? (signed : Bool) (bits : Nat) (text : String) : Option Int :=
  let (negative, digits) := splitSign text.toList
  if digits.isEmpty || (negative && !signed) then none
  else appendDigits (fits signed bits) negative 0 digits

/-- The exponent of a number, which may be absent. -/
def exponent? : List Char → Option Int
  | [] => some 0
  | c :: rest =>
    if c = 'e' ∨ c = 'E' then
      let (negative, digits) := splitSign rest
      if digits.isEmpty || !digits.all Char.isDigit then none
      else
        let n : Int := digitsValue digits
        some (if negative then -n else n)
    else none

/-- A decimal number without its sign, as `digits * 10 ^ exponent`. Digits may be missing before
the point or after it, but not on both sides. -/
def decimal? (text : List Char) : Option (Nat × Int) :=
  let (whole, rest) := spanDigits text
  let (places, rest) := match rest with
    | '.' :: rest => spanDigits rest
    | rest => ([], rest)
  if whole.isEmpty && places.isEmpty then none
  else (exponent? rest).map fun e => (digitsValue (whole ++ places), e - places.length)

/-- A floating point number: its sign and the nearest number of a format. -/
def float? (f : Binary.Format) (text : String) : Option (Bool × Binary.Magnitude) :=
  let (negative, rest) := splitSign text.toList
  let name := String.ofList (rest.map Char.toLower)
  if name = "inf" ∨ name = "infinity" then some (negative, .infinite)
  else if name = "nan" then some (negative, .nan)
  else (decimal? rest).map fun (digits, e) => (negative, f.roundDecimal digits e)

end DataGrammar.Number
