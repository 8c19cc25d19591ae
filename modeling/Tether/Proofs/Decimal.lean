import Mathlib.Algebra.Order.Field.Power
import Mathlib.Data.Rat.Floor
import Mathlib.Tactic.Positivity
import Tether.Decimal.Binary64

/-!
# `Tether.Proofs.Decimal` — rounding makes finite doubles

A quotient is rounded in units of a power of two, which is chosen so that the whole part has 53 binary
digits at most. Rounding up may bring in one more, which is carried into the exponent; and an exponent
that is too great is refused. So what comes out is a finite double, and so is what products, quotients and
the reading of decimal numerals make of it.

* `Binary64.unitQuotient_lt` — the unit leaves room for 53 digits;
* `Binary64.isFinite_of_round` — **what is rounded is a finite double**;
* `Binary64.isFinite_of_scale10` — and so is a whole number times a power of ten.
-/

namespace Tether.Binary64

variable {num den : Nat} {x y z : Binary64}

theorem isFinite_iff : x.isFinite = true ↔ x.significand < 2 * hidden ∧ x.exponent ≤ 971 := by
  simp [isFinite]

theorem isFinite_zero (negative : Bool) : (zero negative).isFinite = true := rfl

/-! ## The unit of a quotient -/

/-- Rounding goes up by one at most. -/
theorem roundQuotient_le (num den : Nat) : roundQuotient num den ≤ num / den + 1 := by
  unfold roundQuotient
  dsimp only
  split
  · exact Nat.le_succ _
  split
  · exact le_rfl
  split
  · exact Nat.le_succ _
  · exact le_rfl

/-- A quotient in other units is the quotient of the same numbers, scaled. -/
theorem inUnits_ratio (num den : Nat) (exponent : Int) :
    ((inUnits num den exponent).1 : ℚ) / (inUnits num den exponent).2 =
      num / den * 2 ^ (-exponent) := by
  unfold inUnits
  split
  · obtain ⟨n, rfl⟩ := Int.eq_ofNat_of_zero_le ‹0 ≤ exponent›
    simp [Nat.shiftLeft_eq, div_eq_mul_inv, mul_assoc, mul_comm]
  · obtain ⟨n, hn⟩ := Int.eq_ofNat_of_zero_le (show 0 ≤ -exponent by omega)
    rw [hn]
    simp [Nat.shiftLeft_eq, div_eq_mul_inv, mul_right_comm]

/-- The whole part of a quotient is below a number just when the quotient is. -/
theorem div_lt_iff_ratio_lt {n : Nat} : num / den < n ↔ (num : ℚ) / den < n := by
  rw [← Rat.natFloor_natCast_div_natCast, Nat.floor_lt (by positivity)]

/-- The binary digits of two numbers bound their quotient. -/
theorem ratio_lt_two_zpow (num den : Nat) :
    (num : ℚ) / den < 2 ^ ((num.log2 : ℤ) + 1 - den.log2) := by
  by_cases hden : den = 0
  · subst hden
    rw [Nat.cast_zero, div_zero]
    positivity
  have hnum : (num : ℚ) < 2 ^ (num.log2 + 1) := by exact_mod_cast Nat.lt_log2_self
  have hleast : (2 : ℚ) ^ den.log2 ≤ den := by exact_mod_cast Nat.log2_self_le hden
  have hpos : (0 : ℚ) < 2 ^ den.log2 := by positivity
  rw [zpow_sub₀ two_ne_zero, zpow_natCast]
  calc (num : ℚ) / den ≤ num / 2 ^ den.log2 := div_le_div_of_nonneg_left (by positivity) hpos hleast
    _ < 2 ^ ((num.log2 : ℤ) + 1) / 2 ^ den.log2 := div_lt_div_of_pos_right (by exact_mod_cast hnum) hpos

/-- A quotient has so many binary digits in a unit just when it is below that power of two. -/
theorem quotient_lt_two_pow_iff (num den : Nat) (exponent : Int) (digits : Nat) :
    (inUnits num den exponent).1 / (inUnits num den exponent).2 < 2 ^ digits ↔
      (num : ℚ) / den < 2 ^ ((digits : ℤ) + exponent) := by
  have hpos : (0 : ℚ) < 2 ^ exponent := by positivity
  rw [div_lt_iff_ratio_lt, inUnits_ratio, zpow_neg, ← div_eq_mul_inv, div_lt_iff₀ hpos,
    zpow_add₀ two_ne_zero, zpow_natCast, Nat.cast_pow, Nat.cast_ofNat]

/-- **The unit leaves room for 53 binary digits** of the whole part. -/
theorem unitQuotient_lt (num den : Nat) :
    (inUnits num den (unitExponent num den)).1 / (inUnits num den (unitExponent num den)).2 <
      2 * hidden := by
  have hbound := ratio_lt_two_zpow num den
  rw [show 2 * hidden = 2 ^ 53 from rfl, quotient_lt_two_pow_iff]
  unfold unitExponent
  dsimp only
  -- the first guess leaves room, and the next finer unit does where the guess fills 52 digits only
  split
  · rename_i hsmall
    rw [show hidden = 2 ^ 52 from rfl, quotient_lt_two_pow_iff] at hsmall
    exact hsmall.trans_le (zpow_le_zpow_right₀ one_le_two (by omega))
  · exact hbound.trans_le (zpow_le_zpow_right₀ one_le_two (by omega))

/-! ## Results -/

/-- **What is rounded is a finite double.** -/
theorem isFinite_of_round {negative : Bool} (h : round negative num den = some x) :
    x.isFinite = true := by
  have hquotient := unitQuotient_lt num den
  have hrounded := roundQuotient_le (inUnits num den (unitExponent num den)).1
    (inUnits num den (unitExponent num den)).2
  unfold round at h
  split at h
  · cases h
    exact isFinite_zero negative
  · dsimp only at h
    split at h
    · -- rounding up brought in one digit too many, which is carried into the exponent
      split at h
      · cases h
      · rename_i hexponent
        cases h
        exact isFinite_iff.mpr ⟨show hidden < 2 * hidden by decide, Int.not_lt.mp hexponent⟩
    · rename_i hcarry
      split at h
      · cases h
      · rename_i hexponent
        cases h
        exact isFinite_iff.mpr
          ⟨Nat.lt_of_le_of_ne (hrounded.trans hquotient) hcarry, Int.not_lt.mp hexponent⟩

theorem isFinite_of_mul (h : x.mul y = some z) : z.isFinite = true := isFinite_of_round h

theorem isFinite_of_div (h : x.div y = some z) : z.isFinite = true := by
  unfold div at h
  dsimp only at h
  split at h
  · cases h
  · exact isFinite_of_round h

theorem isFinite_of_shrink10 {fuel n : Nat} (hx : x.isFinite = true) (h : shrink10 fuel x n = some z) :
    z.isFinite = true := by
  induction fuel generalizing x n with
  | zero =>
    cases h
    exact isFinite_zero _
  | succ fuel ih =>
    rw [shrink10] at h
    split at h
    · obtain ⟨_, -, hdiv⟩ := Option.bind_eq_some_iff.mp h
      exact isFinite_of_div hdiv
    · split at h
      · cases h
        exact hx
      · obtain ⟨_, -, hrest⟩ := Option.bind_eq_some_iff.mp h
        obtain ⟨y, hdiv, hrest⟩ := Option.bind_eq_some_iff.mp hrest
        exact ih (isFinite_of_div hdiv) hrest

/-- **A whole number times a power of ten is a finite double**, if it is read at all. -/
theorem isFinite_of_scale10 {negative : Bool} {whole : Nat} {exponent : Int}
    (h : scale10 negative whole exponent = some z) : z.isFinite = true := by
  obtain ⟨x, hwhole, h⟩ := Option.bind_eq_some_iff.mp h
  have hx : x.isFinite = true := isFinite_of_round hwhole
  -- the sign plays no part
  have hsigned : ∀ y : Binary64, y.isFinite = true → some { y with negative } = some z →
      z.isFinite = true := by
    rintro y hy ⟨⟩
    exact hy
  dsimp only at h
  split at h
  · obtain ⟨y, hy, h⟩ := Option.bind_eq_some_iff.mp h
    split at hy
    · cases hy
      exact hsigned _ hx h
    · cases hy
  · split at h
    · obtain ⟨_, -, h⟩ := Option.bind_eq_some_iff.mp h
      obtain ⟨y, hmul, h⟩ := Option.bind_eq_some_iff.mp h
      exact hsigned y (isFinite_of_mul hmul) h
    · obtain ⟨y, hshrink, h⟩ := Option.bind_eq_some_iff.mp h
      exact hsigned y (isFinite_of_shrink10 hx hshrink) h

end Tether.Binary64
