import DataGrammar.Number.Literal
import Mathlib.Data.List.TakeWhile
import Mathlib.Data.Nat.Digits.Defs
import Mathlib.Data.Nat.Log
import Mathlib.Tactic.Ring

/-!
# Whole numbers in floating point

A whole number is read as the nearest number of a format. If it has more bits than a significand,
that is a multiple of a unit greater than one; otherwise it is the number itself.

* `Format.nearest`: the nearest multiple of the unit, and `Format.nearest_eq_self_iff`: where this
  is the number itself.
* `Format.round_whole`: rounding gives a number with that value.
* `Format.floor?_of_eq`: the whole part of such a number.
* `float?_digits`: digits read as a floating point number.
-/

namespace DataGrammar.Binary

theorem roundDiv_of_dvd {num den : Nat} (hd : 0 < den) (h : den ∣ num) :
    roundDiv num den = num / den := by
  simp [roundDiv, Nat.mod_eq_zero_of_dvd h, hd]

/-- A common factor does not count. -/
theorem roundDiv_mul_right {num den k : Nat} (hk : 0 < k) :
    roundDiv (num * k) (den * k) = roundDiv num den := by
  have hlt : 2 * (num % den * k) < den * k ↔ 2 * (num % den) < den := by
    rw [← Nat.mul_assoc]
    exact Nat.mul_lt_mul_right hk
  have heq : 2 * (num % den * k) = den * k ↔ 2 * (num % den) = den := by
    rw [← Nat.mul_assoc]
    exact Nat.mul_left_inj hk.ne'
  simp only [roundDiv, Nat.mul_div_mul_right num den hk, Nat.mul_mod_mul_right, hlt, heq]

theorem roundDiv_le (num den : Nat) : roundDiv num den ≤ num / den + 1 := by
  simp only [roundDiv]
  split <;> omega

namespace Format

variable {f : Format} {m scale n : Nat}

/-- The whole part of a number that is whole. -/
theorem floor?_of_eq (h : m * 2 ^ scale = n * 2 ^ f.bottom) :
    f.floor? (.finite m scale) = some n := by
  have hpos : ∀ k, 0 < 2 ^ k := fun k => Nat.two_pow_pos k
  simp only [floor?, fraction]
  split
  · next hle =>
    obtain ⟨k, rfl⟩ := Nat.exists_eq_add_of_le hle
    have hn : m * 2 ^ k = n := by
      refine Nat.eq_of_mul_eq_mul_right (hpos f.bottom) ?_
      rw [← h, pow_add]
      ring
    simp [hn]
  · next hle =>
    obtain ⟨k, hk⟩ := Nat.exists_eq_add_of_lt (Nat.lt_of_not_le hle)
    have hm : m = n * 2 ^ (k + 1) := by
      refine Nat.eq_of_mul_eq_mul_right (hpos scale) ?_
      rw [h, hk, Nat.add_assoc, pow_add]
      ring
    have hsub : f.bottom - scale = k + 1 := by omega
    simp [hsub, hm]

theorem log2_mul_two_pow (hn : n ≠ 0) (k : Nat) : Nat.log2 (n * 2 ^ k) = Nat.log2 n + k := by
  simp only [Nat.log2_eq_log_two]
  induction k with
  | zero => rw [pow_zero, Nat.mul_one, Nat.add_zero]
  | succ k ih =>
    have hpos : n * 2 ^ k ≠ 0 := Nat.mul_ne_zero hn (Nat.two_pow_pos k).ne'
    rw [pow_succ, ← Nat.mul_assoc, Nat.log_mul_base Nat.one_lt_two hpos, ih, Nat.add_assoc]

/-- The scale at which a whole number is held with all bits of a significand. -/
def wholeScale (f : Format) (n : Nat) : Nat := Nat.log2 n + f.bottom + 1 - f.precision

/-- How many bits a whole number has more than a significand. -/
def excess (f : Format) (n : Nat) : Nat := Nat.log2 n + 1 - f.precision

/-- The nearest whole number that has a significand. -/
def nearest (f : Format) (n : Nat) : Nat := roundDiv n (2 ^ f.excess n) * 2 ^ f.excess n

/-- It is at most half a unit away. -/
theorem nearest_bounds (f : Format) (n : Nat) :
    2 * f.nearest n ≤ 2 * n + 2 ^ f.excess n ∧ 2 * n ≤ 2 * f.nearest n + 2 ^ f.excess n := by
  have hpos := Nat.two_pow_pos (f.excess n)
  unfold nearest
  generalize 2 ^ f.excess n = unit at hpos ⊢
  have hdiv := Nat.div_add_mod' n unit
  have hmod := Nat.mod_lt n hpos
  simp only [roundDiv]
  split
  · next h =>
    have hhalf : 2 * (n % unit) ≤ unit := by omega
    omega
  · next h =>
    have hhalf : unit ≤ 2 * (n % unit) := by omega
    rw [Nat.add_mul, Nat.one_mul]
    omega

/-- **A whole number is the nearest one** if and only if it is a multiple of the unit. -/
theorem nearest_eq_self_iff : f.nearest n = n ↔ 2 ^ f.excess n ∣ n := by
  constructor
  · intro h
    exact ⟨roundDiv n (2 ^ f.excess n), by rw [Nat.mul_comm]; exact h.symm⟩
  · intro h
    rw [nearest, roundDiv_of_dvd (Nat.two_pow_pos _) h, Nat.div_mul_cancel h]

theorem excess_of_le (hn : n ≠ 0) (h : n < 2 ^ f.precision) : f.excess n = 0 := by
  have hlog := (Nat.log2_lt hn).2 h
  unfold excess
  omega

/-- A whole number of no more bits than a significand has is the nearest one. -/
theorem nearest_of_le (hp : 0 < f.precision) (hn : n ≤ 2 ^ f.precision) : f.nearest n = n := by
  rw [nearest_eq_self_iff]
  by_cases h0 : n = 0
  · rw [h0]
    exact Nat.dvd_zero _
  · rcases Nat.lt_or_ge n (2 ^ f.precision) with hlt | hge
    · rw [excess_of_le h0 hlt]
      exact Nat.one_dvd n
    · -- the least number of one bit more
      obtain rfl := Nat.le_antisymm hn hge
      refine Nat.pow_dvd_pow 2 ?_
      unfold excess
      rw [Nat.log2_two_pow]
      omega

/-- The encoding of a number with a scale in the range of the format is not that of infinity. -/
theorem not_infinityBits_le (hp : 0 < f.precision) (hm : m < 2 ^ f.precision)
    (hs : scale + 2 ≤ 2 ^ f.exponentBits - 1) : ¬ f.infinityBits ≤ f.bits (.finite m scale) := by
  have hdouble : 2 ^ f.precision = 2 * 2 ^ (f.precision - 1) := by
    rw [← pow_succ', Nat.sub_add_cancel hp]
  have hmul := Nat.mul_le_mul_right (2 ^ (f.precision - 1)) hs
  simp only [infinityBits, bits, Nat.pow_eq]
  rw [Nat.add_mul] at hmul
  omega

section Whole

variable (hb : f.precision ≤ f.bottom) (hn : n ≠ 0)

include hb hn

/-- The significand has all of its bits. -/
theorem significand_bounds : 2 ^ f.precision * 2 ^ (f.wholeScale n - 1) ≤ n * 2 ^ f.bottom ∧
    n * 2 ^ f.bottom < 2 ^ f.precision * 2 ^ f.wholeScale n := by
  have hscale : f.precision + f.wholeScale n = Nat.log2 n + 1 + f.bottom := by
    simp only [wholeScale]
    omega
  have hpred : f.precision + (f.wholeScale n - 1) = Nat.log2 n + f.bottom := by
    simp only [wholeScale] at hscale ⊢
    omega
  rw [← pow_add, ← pow_add, hscale, hpred, pow_add, pow_add]
  exact ⟨Nat.mul_le_mul_right _ (Nat.log2_self_le hn),
    Nat.mul_lt_mul_of_pos_right Nat.lt_log2_self (Nat.two_pow_pos _)⟩

/-- The significand times its unit is the nearest whole number. -/
theorem roundDiv_wholeScale : roundDiv (n * 2 ^ f.bottom) (2 ^ f.wholeScale n) *
    2 ^ f.wholeScale n = f.nearest n * 2 ^ f.bottom := by
  rcases Nat.lt_or_ge (Nat.log2 n + 1) f.precision with hlt | hge
  · have hexact : f.nearest n = n := by
      rw [nearest_eq_self_iff, excess_of_le hn ((Nat.log2_lt hn).1 (by omega))]
      exact Nat.one_dvd n
    have hdvd : 2 ^ f.wholeScale n ∣ n * 2 ^ f.bottom := by
      refine Dvd.dvd.mul_left (Nat.pow_dvd_pow 2 ?_) n
      unfold wholeScale
      omega
    rw [roundDiv_of_dvd (Nat.two_pow_pos _) hdvd, Nat.div_mul_cancel hdvd, hexact]
  · have hscale : f.wholeScale n = f.excess n + f.bottom := by
      unfold wholeScale excess
      omega
    rw [hscale, pow_add, roundDiv_mul_right (Nat.two_pow_pos _), nearest, Nat.mul_assoc]

/-- Rounding a whole number: the significand at its scale, or half of it at the next one. -/
theorem round_eq : f.round n 1 =
    (let m := roundDiv (n * 2 ^ f.bottom) (2 ^ f.wholeScale n)
     let (m, scale) := if m = 2 ^ f.precision then (m / 2, f.wholeScale n + 1)
       else (m, f.wholeScale n)
     if f.infinityBits ≤ f.bits (.finite m scale) then .infinite else .finite m scale) := by
  have hlow := (significand_bounds hb hn).1
  have hscale : Nat.log2 (n * 2 ^ f.bottom) - Nat.log2 1 - f.precision = f.wholeScale n - 1 ∧
      f.wholeScale n - 1 + 1 = f.wholeScale n := by
    have hone : Nat.log2 1 = 0 := rfl
    rw [log2_mul_two_pow hn, hone]
    simp only [wholeScale]
    omega
  have hfull : ¬ n * 2 ^ f.bottom / 2 ^ (f.wholeScale n - 1) < 2 ^ f.precision := by
    rw [Nat.div_lt_iff_lt_mul (Nat.two_pow_pos _)]
    exact Nat.not_lt.2 hlow
  simp only [round, Nat.pow_eq, Nat.one_mul, hscale.1, if_neg hfull, hscale.2]

/-- **A whole number is rounded to the nearest one**, if that is not too large for the format. -/
theorem round_whole (hp : 0 < f.precision)
    (he : Nat.log2 n + f.bottom + 5 ≤ 2 ^ f.exponentBits + f.precision) :
    ∃ m scale, f.round n 1 = .finite m scale ∧ m * 2 ^ scale = f.nearest n * 2 ^ f.bottom := by
  have hhigh := (significand_bounds hb hn).2
  have hround := roundDiv_wholeScale hb hn
  have hle : roundDiv (n * 2 ^ f.bottom) (2 ^ f.wholeScale n) ≤ 2 ^ f.precision := by
    have hdiv : n * 2 ^ f.bottom / 2 ^ f.wholeScale n < 2 ^ f.precision := by
      rwa [Nat.div_lt_iff_lt_mul (Nat.two_pow_pos _)]
    exact (roundDiv_le ..).trans hdiv
  have hscale : f.wholeScale n + 1 + 2 ≤ 2 ^ f.exponentBits - 1 := by
    simp only [wholeScale]
    omega
  rw [round_eq hb hn]
  generalize roundDiv (n * 2 ^ f.bottom) (2 ^ f.wholeScale n) = m at hround hle ⊢
  by_cases hm : m = 2 ^ f.precision
  · -- the significand has one bit more, the last of which is zero
    have hhalf : m / 2 < 2 ^ f.precision ∧ m / 2 * 2 = m := by
      have hpos := Nat.two_pow_pos f.precision
      have hdouble : 2 ^ f.precision = 2 * 2 ^ (f.precision - 1) := by
        rw [← pow_succ', Nat.sub_add_cancel hp]
      omega
    refine ⟨m / 2, f.wholeScale n + 1, ?_, ?_⟩
    · simp only [if_pos hm, if_neg (not_infinityBits_le hp hhalf.1 hscale)]
    · rw [← hround, pow_succ', ← Nat.mul_assoc, hhalf.2]
  · have hlt : m < 2 ^ f.precision := Nat.lt_of_le_of_ne hle hm
    refine ⟨m, f.wholeScale n, ?_, hround⟩
    simp only [if_neg hm, if_neg (not_infinityBits_le hp hlt (Nat.le_of_succ_le hscale))]

end Whole

/-- The whole part of what a whole number is read as. -/
theorem floor?_roundDecimal (hn : n < 2 ^ 64) :
    double.floor? (double.roundDecimal n 0) = some (double.nearest n) := by
  have hlength : (Nat.toDigits 10 n).length ≤ 20 :=
    Nat.toDigits_length 10 n 20 (by decide) (hn.trans (by decide))
  simp only [roundDecimal]
  split
  · next hzero =>
    have hnearest : double.nearest 0 = 0 := nearest_of_le (by decide) (Nat.zero_le _)
    rw [hzero, hnearest]
    exact floor?_of_eq (by simp)
  · next hne =>
    have hlog : Nat.log2 n < 64 := (Nat.log2_lt hne).2 hn
    obtain ⟨m, scale, hround, heq⟩ := round_whole (f := double) (n := n) (by decide) hne
      (by decide) (by simp only [double]; omega)
    rw [if_neg (by omega), if_neg (by omega), if_pos (by decide)]
    rw [Int.toNat_zero, Nat.pow_eq, pow_zero, Nat.mul_one, hround]
    exact floor?_of_eq heq

end Format
end DataGrammar.Binary

namespace DataGrammar.Number

open Binary

/-- Digits are a decimal without places. -/
theorem decimal?_digits {digits : List Char} (hne : digits ≠ [])
    (h : ∀ c ∈ digits, c.isDigit = true) : decimal? digits = some (digitsValue digits, 0) := by
  have hspan : spanDigits digits = (digits, []) := by
    rw [spanDigits, List.takeWhile_eq_self_iff.2 h, List.dropWhile_eq_nil_iff.2 h]
  have hempty : digits.isEmpty = false := List.isEmpty_eq_false_iff.2 hne
  simp [decimal?, hspan, hempty, exponent?]

/-- Digits are no name of a number. -/
theorem float?_digits {f : Format} {spelling : String} (hne : spelling ≠ "")
    (h : ∀ c ∈ spelling.toList, c.isDigit = true) :
    float? f spelling = some (false, f.roundDecimal (digitsValue spelling.toList) 0) := by
  obtain ⟨c, cs, hcs⟩ : ∃ c cs, spelling.toList = c :: cs :=
    List.exists_cons_of_ne_nil (by simpa using hne)
  have hc := h c (by simp [hcs])
  have hsign : splitSign spelling.toList = (false, spelling.toList) := by
    rw [hcs]
    unfold splitSign
    split <;> simp_all [Char.isDigit]
  have hname : ∀ name : String, (∀ d ∈ name.toList.head?, d.isDigit = false) →
      String.ofList (spelling.toList.map Char.toLower) ≠ name := by
    rintro _ hd rfl
    have hlower : c.toLower = c := by
      have hle : c.toNat ≤ 57 := by
        have := hc
        simp only [Char.isDigit, Bool.and_eq_true, decide_eq_true_eq,
          UInt32.le_iff_toNat_le] at this
        exact this.2
      exact dif_neg fun hupper => absurd (UInt32.le_iff_toNat_le.1 hupper.1)
        (Nat.not_le.2 (Nat.lt_of_le_of_lt hle (by decide)))
    have := hd c.toLower (by simp [hcs])
    rw [hlower, hc] at this
    cases this
  simp only [float?, hsign]
  rw [if_neg, if_neg, decimal?_digits (by simpa using hne) h]
  · rfl
  · exact hname _ (by simp)
  · exact not_or.2 ⟨hname _ (by simp), hname _ (by simp)⟩

end DataGrammar.Number
