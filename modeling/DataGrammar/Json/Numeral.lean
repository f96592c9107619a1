import DataGrammar.Json.Read
import DataGrammar.Json.Tree
/-!
# Numbers in JSON

A number without point and exponent is exact if it has up to 64 bits. Any other number is a
significand of up to 64 bits, from which the last digits are left out where there are too many,
multiplied or divided by a power of ten in floating point.
-/

namespace DataGrammar.Json.Numeral

open Read

/-- The greatest significand. -/
def greatest : Nat := Nat.pow 2 64 - 1

/-- The greatest exponent. -/
def greatestExponent : Nat := Nat.pow 2 31 - 1

/-- The value of a digit. -/
def digitValue (c : Char) : Nat := c.toNat - 0x30

/-- Append digits to a number as long as it does not exceed `limit`; returns the digits that are
left as well. -/
def append (limit : Nat) : Nat → List Char → Nat × List Char
  | n, [] => (n, [])
  | n, c :: rest =>
    if n * 10 + digitValue c ≤ limit then append limit (n * 10 + digitValue c) rest
    else (n, c :: rest)

/-- Pass digits. -/
def digits : Read (List Char) := do
  let ds := (← ahead).takeWhile Char.isDigit
  pass ds.length
  return ds

/-- A power of ten in floating point. -/
def powerOfTen (n : Nat) : Binary.Magnitude := Binary.double.round (Nat.pow 10 n) 1

/-- Scale a number by a power of ten, 308 places at most at a time; nothing if the result is not
finite. -/
def scale (f : Binary.Magnitude) : (steps : Nat) → (exponent : Int) → Option Binary.Magnitude
  | 0, _ => some f
  | steps + 1, exponent =>
    if exponent.natAbs ≤ 308 then
      if 0 ≤ exponent then
        match Binary.double.mul f (powerOfTen exponent.natAbs) with
        | .infinite => none
        | m => some m
      else some (Binary.double.div f (powerOfTen exponent.natAbs))
    else if f = .finite 0 0 then some f
    else if 0 ≤ exponent then none
    else scale (Binary.double.div f (powerOfTen 308)) steps (exponent + 308)

/-- The number of a significand and an exponent. A number that is divided by more than `10 ^ 308`
twice is zero, so four steps are enough. -/
def assemble (negative : Bool) (significand : Nat) (exponent : Int) : Read Json := do
  match scale (Binary.double.round significand 1) 4 exponent with
  | some m => return .float negative m
  | none => fail .numberOutOfRange

/-- Read an exponent, whose mark is next. -/
def readExponent (negative : Bool) (significand : Nat) (exponent : Int) : Read Json := do
  pass 1
  let negativeExponent ← match ← next? with
    | some '+' => do pass 1; pure false
    | some '-' => do pass 1; pure true
    | _ => pure false
  match ← next? with
  | none => fail .endInValue
  | some c =>
    if !c.isDigit then failAt .invalidNumber ((← offset) + 1)
    else
      let start ← offset
      let ds ← digits
      match append greatestExponent 0 ds with
      | (n, []) =>
        assemble negative significand (if negativeExponent then exponent - n else exponent + n)
      | (_, left) =>
        if significand ≠ 0 ∧ negativeExponent = false then
          failAt .numberOutOfRange (start + (ds.length - left.length) + 1)
        else return .float negative (.finite 0 0)

/-- Read the places after a point, which is next. -/
def readPlaces (negative : Bool) (significand : Nat) (exponent : Int) : Read Json := do
  pass 1
  let ds ← digits
  if ds.isEmpty then
    failNext (if (← next?).isNone then .endInValue else .invalidNumber)
  else
    let (significand, left) := append greatest significand ds
    let exponent := exponent - (ds.length - left.length : Nat)
    match ← next? with
    | some 'e' | some 'E' => readExponent negative significand exponent
    | _ => assemble negative significand exponent

/-- The number with a whole part only. A negative number beyond 64 bits, and minus zero, are
floating point. -/
def whole (negative : Bool) (n : Nat) : Json :=
  if !negative then .integer n
  else if n = 0 ∨ Nat.pow 2 63 < n then .float true (Binary.double.round n 1)
  else .integer (-n)

/-- Read a number after its sign. -/
def read (negative : Bool) : Read Json := do
  match ← next? with
  | none => fail .endInValue
  | some c =>
    if !c.isDigit then failAt .invalidNumber ((← offset) + 1)
    else
      let ds ← if c = '0' then do pass 1; pure [c] else digits
      if c = '0' then
        if let some d ← next? then
          if d.isDigit then failNext .invalidNumber
      let (significand, left) := append greatest 0 ds
      match ← next? with
      | some '.' => readPlaces negative significand left.length
      | some 'e' | some 'E' => readExponent negative significand left.length
      | _ =>
        if left.isEmpty then return whole negative significand
        else assemble negative significand left.length

end DataGrammar.Json.Numeral
