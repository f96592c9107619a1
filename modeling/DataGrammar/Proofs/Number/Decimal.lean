import DataGrammar.Number.Literal
import Mathlib.Tactic.Common

/-!
# Integers in decimal digits

What the digits of an integer stand for, and that reading them digit by digit finds just that. A
number that is being read only grows away from zero, so it never leaves its type on the way unless
it does so in the end.

* `IntegerText`: an optional sign and digits, and the integer that they stand for.
* `InRange`: the numbers of a type of integers.
* `integer?_eq_some_iff`: an integer is read if it is written and in range, and no other one.
* `integerText_toString`: how the standard library writes an integer.
-/

namespace DataGrammar.Number

/-! ### Digits -/

/-- Decimal digits, at least one. -/
def Digits (text : List Char) : Prop := text ≠ [] ∧ ∀ c ∈ text, c.isDigit = true

/-- The value of digits is the one that the standard library gives them. -/
theorem digitsValue_eq_ofDigitChars (digits : List Char) :
    digitsValue digits = Nat.ofDigitChars 10 digits 0 := by
  rw [digitsValue, Nat.ofDigitChars_eq_foldl]
  congr
  funext n c
  rw [Nat.mul_comm]
  rfl

theorem digits_toDigits (n : Nat) : Digits (Nat.toDigits 10 n) :=
  ⟨Nat.toDigits_ne_nil, fun _ h => Nat.isDigit_of_mem_toDigits (by decide) (by decide) h⟩

/-- Digits only add to a number. -/
theorem le_ofDigitChars (digits : List Char) (m : Nat) : m ≤ Nat.ofDigitChars 10 digits m := by
  induction digits generalizing m with
  | nil => exact Nat.le_refl m
  | cons c digits ih =>
    rw [Nat.ofDigitChars_cons]
    exact Nat.le_trans (by omega) (ih _)

/-! ### Types of integers -/

/-- The numbers of a type of integers. -/
def InRange (signed : Bool) (bits : Nat) (n : Int) : Prop :=
  match signed with
  | true => -(Nat.pow 2 (bits - 1) : Int) ≤ n ∧ n < Nat.pow 2 (bits - 1)
  | false => 0 ≤ n ∧ n < Nat.pow 2 bits

section

variable {signed negative : Bool} {bits : Nat} {n : Int} {m k : Nat}

theorem fits_iff : fits signed bits n = true ↔ InRange signed bits n := by
  cases signed <;> simp [fits, InRange]

instance : Decidable (InRange signed bits n) := decidable_of_iff _ fits_iff

theorem inRange_zero : InRange signed bits 0 := by
  have hpow : ∀ e : Nat, (0 : Int) < Nat.pow 2 e := fun e =>
    Int.natCast_pos.2 (Nat.two_pow_pos e)
  cases signed
  · exact ⟨Int.le_refl 0, hpow bits⟩
  · exact ⟨by have := hpow (bits - 1); omega, hpow (bits - 1)⟩

/-- A number by its sign and its magnitude. -/
def withSign (negative : Bool) (m : Nat) : Int := if negative then -m else m

/-- What lies between zero and a number of the type is of the type. -/
theorem inRange_withSign_of_le (h : m ≤ k) (hk : InRange signed bits (withSign negative k)) :
    InRange signed bits (withSign negative m) := by
  have hzero : InRange signed bits 0 := inRange_zero
  cases signed <;> cases negative <;> simp only [InRange, withSign] at hk hzero ⊢ <;> grind

/-- Appending a digit adds to the magnitude. -/
theorem withSign_append (negative : Bool) (m d : Nat) :
    (if negative then withSign negative m * 10 - d else withSign negative m * 10 + d) =
      withSign negative (10 * m + d) := by
  cases negative <;> simp only [withSign] <;> grind

/-- **Digits are appended** if all of them are digits and the number that they make is in range,
and under no other condition. -/
theorem appendDigits_eq_some_iff {digits : List Char}
    (hm : InRange signed bits (withSign negative m)) :
    appendDigits (fits signed bits) negative (withSign negative m) digits = some n ↔
      (∀ c ∈ digits, c.isDigit = true) ∧
        n = withSign negative (Nat.ofDigitChars 10 digits m) ∧ InRange signed bits n := by
  induction digits generalizing m with
  | nil =>
    simp only [appendDigits, Option.some.injEq, List.not_mem_nil, false_implies, implies_true,
      Nat.ofDigitChars_nil, true_and]
    exact ⟨fun h => ⟨h.symm, h ▸ hm⟩, fun h => h.1.symm⟩
  | cons c digits ih =>
    have htens : withSign negative m * 10 = withSign negative (10 * m) := by
      have := withSign_append negative m 0
      cases negative <;> simpa using this
    have hvalue : Nat.ofDigitChars 10 (c :: digits) m =
        Nat.ofDigitChars 10 digits (10 * m + (c.toNat - 0x30)) := Nat.ofDigitChars_cons
    have hgrows := le_ofDigitChars digits (10 * m + (c.toNat - 0x30))
    simp only [appendDigits, withSign_append, List.forall_mem_cons, hvalue]
    constructor
    · intro h
      split at h
      · next hc =>
        simp only [Bool.and_eq_true, fits_iff] at hc
        obtain ⟨hdigits, rfl, hn⟩ := (ih hc.2).1 h
        exact ⟨⟨hc.1.1, hdigits⟩, rfl, hn⟩
      · cases h
    · rintro ⟨⟨hc, hdigits⟩, rfl, hn⟩
      -- The number on the way lies between zero and the one in the end.
      have hnext := inRange_withSign_of_le hgrows hn
      have hten : InRange signed bits (withSign negative m * 10) :=
        htens ▸ inRange_withSign_of_le (by omega) hnext
      rw [if_pos (by simp only [hc, fits_iff.2 hten, fits_iff.2 hnext, Bool.and_self])]
      exact (ih hnext).2 ⟨hdigits, rfl, hn⟩

end

/-! ### Integers -/

/-- An optional sign and digits, and the integer that they stand for. Only a signed type takes a
minus. -/
inductive IntegerText (signed : Bool) : List Char → Int → Prop
  | bare {digits : List Char} (h : Digits digits) :
    IntegerText signed digits (Nat.ofDigitChars 10 digits 0)
  | plus {digits : List Char} (h : Digits digits) :
    IntegerText signed ('+' :: digits) (Nat.ofDigitChars 10 digits 0)
  | minus {digits : List Char} (hs : signed = true) (h : Digits digits) :
    IntegerText signed ('-' :: digits) (-Nat.ofDigitChars 10 digits 0)

section

variable {signed : Bool} {bits : Nat} {n : Int} {text : List Char}

theorem splitSign_digits (h : Digits text) : splitSign text = (false, text) := by
  unfold splitSign
  split
  · exact absurd (h.2 '-' (List.mem_cons_self ..)) (by decide)
  · exact absurd (h.2 '+' (List.mem_cons_self ..)) (by decide)
  · rfl

theorem integerText_iff : IntegerText signed text n ↔
    Digits (splitSign text).2 ∧ ((splitSign text).1 = true → signed = true) ∧
      n = withSign (splitSign text).1 (Nat.ofDigitChars 10 (splitSign text).2 0) := by
  constructor
  · rintro (h | h | ⟨hs, h⟩)
    · rw [splitSign_digits h]
      exact ⟨h, nofun, rfl⟩
    · exact ⟨h, nofun, rfl⟩
    · exact ⟨h, fun _ => hs, rfl⟩
  · rintro ⟨h, hs, rfl⟩
    unfold splitSign at h hs ⊢
    split at h
    · exact .minus (hs rfl) h
    · exact .plus h
    · exact .bare h

/-- **An integer is read** if it is written and in range, and no other one. -/
theorem integer?_eq_some_iff {text : String} : integer? signed bits text = some n ↔
    IntegerText signed text.toList n ∧ InRange signed bits n := by
  have happend := @appendDigits_eq_some_iff signed (splitSign text.toList).1 bits n 0
    (splitSign text.toList).2
  have hzero : withSign (splitSign text.toList).1 0 = 0 := by simp [withSign]
  rw [hzero] at happend
  rw [integerText_iff, Digits]
  simp only [integer?]
  split
  · next h =>
    simp only [Bool.or_eq_true, List.isEmpty_iff, Bool.and_eq_true, Bool.not_eq_true'] at h
    constructor
    · exact nofun
    · rintro ⟨⟨⟨hne, -⟩, hs, -⟩, -⟩
      rcases h with h | ⟨hn, hu⟩
      · exact absurd h hne
      · exact absurd (hs hn) (by simp [hu])
  · next h =>
    simp only [Bool.or_eq_true, List.isEmpty_iff, Bool.and_eq_true, Bool.not_eq_true', not_or,
      not_and, Bool.not_eq_false] at h
    rw [happend inRange_zero]
    exact ⟨fun ⟨hd, hn, hr⟩ => ⟨⟨⟨h.1, hd⟩, h.2, hn⟩, hr⟩,
      fun ⟨⟨⟨_, hd⟩, _, hn⟩, hr⟩ => ⟨hd, hn, hr⟩⟩

/-- The decimal text of an integer. A minus needs a signed type, as its number does. -/
theorem integerText_toString (h : InRange signed bits n) :
    IntegerText signed (toString n).toList n := by
  have hvalue : ∀ m : Nat, Nat.ofDigitChars 10 (Nat.toDigits 10 m) 0 = m := fun m =>
    Nat.ofDigitChars_toDigits (by decide) (by decide)
  rw [Int.toString_eq_repr, Int.repr_eq_if]
  split
  · next hn =>
    have htext : IntegerText signed _ _ := .bare (digits_toDigits n.toNat)
    rwa [hvalue, Int.toNat_of_nonneg hn, ← Nat.toList_repr] at htext
  · next hn =>
    have hs : signed = true := by
      cases signed
      · exact absurd h.1 hn
      · rfl
    have htext := IntegerText.minus hs (digits_toDigits (-n).toNat)
    rw [hvalue, Int.toNat_of_nonneg (by omega), Int.neg_neg, ← Nat.toList_repr] at htext
    rwa [String.toList_append]

end

end DataGrammar.Number
