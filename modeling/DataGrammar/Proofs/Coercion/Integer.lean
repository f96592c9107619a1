import DataGrammar.Coercion
import DataGrammar.Proofs.Number.Decimal
import DataGrammar.Proofs.Text.Trim

/-!
# Coercion into integers

A text that has the digits of an integer, with white space around them, is coerced into that
integer if the type has it. Anything else gives zero: there is no nearest number and no remainder.

* `Coercion.Reads`: the value is the text of an integer of the type.
* `Value.coerce_integer`: coercion into integers is exact or gives zero.
-/

namespace DataGrammar

open Number

namespace Number

variable {signed : Bool} {bits : Nat} {n : Int} {core : List Char}

theorem contains_space_of_isDigit {c : Char} (h : c.isDigit = true) :
    Unicode.space.contains c = false := by
  have hrange : 48 ≤ c.toNat ∧ c.toNat ≤ 57 := by
    simpa [Char.isDigit, UInt32.le_iff_toNat_le] using h
  simp only [Unicode.space, CharSet.contains, CharSet.memberOf]
  grind

theorem Digits.bare (h : Digits core) : Bare core :=
  ⟨fun c hc => contains_space_of_isDigit (h.2 c (List.mem_of_mem_head? hc)),
    fun c hc => contains_space_of_isDigit (h.2 c (List.mem_of_mem_getLast? hc))⟩

/-- A sign is no white space, and the digits behind it go on to the end. -/
theorem Digits.bare_cons {sign : Char} (h : Digits core)
    (hsign : Unicode.space.contains sign = false) : Bare (sign :: core) := by
  refine ⟨fun c hc => ?_, ?_⟩
  · obtain rfl : sign = c := by simpa using hc
    exact hsign
  · rw [List.getLast?_cons_of_ne_nil h.1]
    exact h.bare.2

theorem IntegerText.bare_ne_nil (h : IntegerText signed core n) : Bare core ∧ core ≠ [] := by
  cases h with
  | bare h => exact ⟨h.bare, h.1⟩
  | plus h => exact ⟨h.bare_cons (by decide), List.cons_ne_nil _ _⟩
  | minus _ h => exact ⟨h.bare_cons (by decide), List.cons_ne_nil _ _⟩

end Number

namespace Coercion

/-- The value is a text that has an integer of the type, with white space around it. -/
def Reads (signed : Bool) (bits : Nat) (v : Value) (n : Int) : Prop :=
  ∃ content core, v = .text content ∧ Padded content.toList core ∧ IntegerText signed core n ∧
    InRange signed bits n

variable {signed : Bool} {bits : Nat} {v : Value} {n : Int}

/-- What is trimmed and then read is what is written between the white space. -/
theorem reads_iff : Reads signed bits v n ↔
    (v.text?.bind fun t => integer? signed bits (trim t)) = some n := by
  constructor
  · rintro ⟨content, core, rfl, hpadded, htext, hrange⟩
    obtain ⟨hbare, hne⟩ := htext.bare_ne_nil
    rw [Value.text?, Option.bind_some, trim_of_padded hpadded hbare hne, integer?_eq_some_iff,
      String.toList_ofList]
    exact ⟨htext, hrange⟩
  · intro h
    obtain ⟨content, hcontent, hread⟩ := Option.bind_eq_some_iff.1 h
    obtain ⟨htext, hrange⟩ := integer?_eq_some_iff.1 hread
    cases v with
    | text s =>
      cases hcontent
      exact ⟨content, _, rfl, padded_trim content, htext, hrange⟩
    | null | list _ | map _ => cases hcontent

theorem integer_of_reads (h : Reads signed bits v n) : integer signed bits v = n := by
  rw [integer, reads_iff.1 h, Option.getD_some]

theorem integer_of_not_reads (h : ∀ n, ¬ Reads signed bits v n) : integer signed bits v = 0 := by
  have hnone := Option.eq_none_iff_forall_ne_some.2 fun n hn => h n (reads_iff.2 hn)
  rw [integer, hnone, Option.getD_none]

/-- The decimal text of a number of the type. -/
theorem reads_toString (h : InRange signed bits n) :
    Reads signed bits (.text (toString n)) n :=
  ⟨_, _, rfl, ⟨[], [], blank_nil, blank_nil, by simp⟩, integerText_toString h, h⟩

end Coercion

open Coercion

/-- **Coercion into integers is exact or gives zero.** A text with white space around an optional
sign and digits, which make a number of the type, gives this number. Every other value gives zero,
however close its digits come to the type. In particular the decimal text of a number of the type
gives the number. -/
theorem Value.coerce_integer (signed : Bool) (bits : Nat) (v : Value) :
    (∀ n, Reads signed bits v n → v.coerce (.integer signed bits) = .ok (.integer n)) ∧
      ((∀ n, ¬ Reads signed bits v n) → v.coerce (.integer signed bits) = .ok (.integer 0)) ∧
      ∀ n, InRange signed bits n →
        (Value.text (toString n)).coerce (.integer signed bits) = .ok (.integer n) := by
  have hcoerce : ∀ w : Value,
      w.coerce (.integer signed bits) = .ok (.integer (Coercion.integer signed bits w)) :=
    fun w => by rw [Value.coerce, Target.coerce]
  refine ⟨fun n h => ?_, fun h => ?_, fun n h => ?_⟩
  · rw [hcoerce, integer_of_reads h]
  · rw [hcoerce, integer_of_not_reads h]
  · rw [hcoerce, integer_of_reads (reads_toString h)]

/-- The least number of eight bits, and the number below it. -/
theorem Value.coerce_integer_least :
    (Reads true 8 (.text "\u2003-00128\n") (-128) ∧
      (Value.text "\u2003-00128\n").coerce (.integer true 8) = .ok (.integer (-128))) ∧
    ((∀ n, ¬ Reads true 8 (.text "-129") n) ∧
      (Value.text "-129").coerce (.integer true 8) = .ok (.integer 0)) ∧
    (InRange false 64 18446744073709551615 ∧
      (Value.text (toString (18446744073709551615 : Int))).coerce (.integer false 64) =
        .ok (.integer 18446744073709551615)) := by
  have hread : Reads true 8 (.text "\u2003-00128\n") (-128) := reads_iff.2 (by decide +kernel)
  have hbelow : ∀ n, ¬ Reads true 8 (.text "-129") n := by
    intro n h
    have hnone : integer? true 8 (trim "-129") = none := by decide +kernel
    exact Option.some_ne_none n ((reads_iff.1 h).symm.trans hnone)
  have hgreatest : InRange false 64 18446744073709551615 := by decide
  exact ⟨⟨hread, (coerce_integer true 8 _).1 _ hread⟩,
    ⟨hbelow, (coerce_integer true 8 _).2.1 hbelow⟩,
    hgreatest, (coerce_integer false 64 .null).2.2 _ hgreatest⟩

end DataGrammar
