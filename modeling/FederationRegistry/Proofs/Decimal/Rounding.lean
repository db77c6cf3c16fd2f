import FederationRegistry.Decimal.Binary64
import Mathlib.Algebra.Order.Field.Power
import Mathlib.Data.Int.Log
import Mathlib.Data.Rat.Floor
import Mathlib.Tactic.NormNum
import Mathlib.Tactic.Positivity
import Mathlib.Tactic.Ring

/-!
# Rounding depends on the number alone

A number is rounded from a ratio of natural numbers, and many ratios are the same number. The
exponent that rounding chooses comes from the binary logarithm of the number
(`targetExponent_eq`), and rounding to the nearest integer does not see a common factor, so equal
numbers round alike (`ofRatio?_congr`).

**Doubles are fixed.** The exponent chosen for a double is its own, and scaled by it the double is
the integer that its significand is. So a ratio that is a double rounds to it
(`ofRatio?_of_magnitude`).
-/

namespace FederationRegistry.Binary64

/-! ## Powers of two -/

theorem ofBinary_eq (significand : Nat) (exponent : Int) :
    ofBinary significand exponent = (significand : ℚ) * 2 ^ exponent := by
  unfold ofBinary
  split
  · rename_i h
    lift exponent to Nat using h
    simp
  · rename_i h
    obtain ⟨n, rfl⟩ : ∃ n : Nat, exponent = -(n : Int) := ⟨(-exponent).toNat, by omega⟩
    simp [Rat.mkRat_eq_div, div_eq_mul_inv]

/-- There is one zero of each sign. -/
theorem eq_zero_of_isZero {x : Binary64} (h : x.isZero = true) : x = zero x.negative := by
  obtain ⟨negative, significand, exponent, hcanonical⟩ := x
  have hsignificand : significand = 0 := of_decide_eq_true h
  have hexponent : exponent = -1074 := by
    obtain ⟨-, -, -, hfull⟩ := hcanonical
    unfold significandLimit at hfull
    omega
  subst hsignificand hexponent
  rfl

/-- The number without its sign. -/
def magnitude (x : Binary64) : ℚ := ofBinary x.significand x.exponent

theorem magnitude_eq (x : Binary64) : x.magnitude = (x.significand : ℚ) * 2 ^ x.exponent :=
  ofBinary_eq _ _

theorem scaled_pos {den : Nat} (h : 0 < den) (num : Nat) (e : Int) : 0 < (scaled num den e).2 := by
  unfold scaled
  split
  · exact Nat.mul_pos h (Nat.pow_pos (by decide))
  · exact h

theorem scaled_div (num den : Nat) (e : Int) :
    ((scaled num den e).1 : ℚ) / (scaled num den e).2 = (num : ℚ) / den * 2 ^ (-e) := by
  unfold scaled
  split
  · rename_i h
    lift e to Nat using h
    simp [div_eq_mul_inv, mul_assoc, mul_comm]
  · rename_i h
    obtain ⟨n, rfl⟩ : ∃ n : Nat, e = -(n : Int) := ⟨(-e).toNat, by omega⟩
    simp [mul_div_right_comm]

/-! ## The nearest integer -/

theorem roundDiv_mul {c : Nat} (hc : 0 < c) (num den : Nat) :
    roundDiv (num * c) (den * c) = roundDiv num den := by
  have hmod : 2 * (num * c % (den * c)) = 2 * (num % den) * c := by
    rw [Nat.mul_mod_mul_right, mul_assoc]
  unfold roundDiv
  dsimp only
  rw [Nat.mul_div_mul_right num den hc, hmod]
  simp only [Nat.mul_lt_mul_right hc]

theorem roundDiv_congr {num den num' den' : Nat} (hden : 0 < den) (hden' : 0 < den')
    (h : (num : ℚ) / den = num' / den') : roundDiv num den = roundDiv num' den' := by
  have hcross : num * den' = num' * den := by
    have hq : (den : ℚ) ≠ 0 := by exact_mod_cast hden.ne'
    have hq' : (den' : ℚ) ≠ 0 := by exact_mod_cast hden'.ne'
    rw [div_eq_div_iff hq hq'] at h
    exact_mod_cast h
  rw [← roundDiv_mul hden' num den, hcross, mul_comm den den', roundDiv_mul hden]

theorem roundDiv_natCast {num den m : Nat} (hden : 0 < den) (h : (num : ℚ) / den = m) :
    roundDiv num den = m := by
  have hone : (num : ℚ) / den = (m : Nat) / (1 : Nat) := by simpa using h
  rw [roundDiv_congr hden Nat.one_pos hone]
  simp [roundDiv, Nat.mod_one]

/-! ## The exponent of a number -/

theorem one_le_scaled_iff {num den : Nat} (hden : 0 < den) (k : Int) :
    (scaled num den k).2 ≤ (scaled num den k).1 ↔ (2 : ℚ) ^ k ≤ (num : ℚ) / den := by
  have hpos : (0 : ℚ) < (scaled num den k).2 := by exact_mod_cast scaled_pos hden num k
  have hpow : (0 : ℚ) < 2 ^ k := by positivity
  rw [← Nat.cast_le (α := ℚ), ← one_le_div hpos, scaled_div, zpow_neg, ← div_eq_mul_inv,
    one_le_div hpow]

/-- The logarithms of numerator and denominator give that of the number up to one. -/
theorem log_two_bounds {num den : Nat} (hnum : 0 < num) (hden : 0 < den) :
    (2 : ℚ) ^ ((num.log2 : Int) - den.log2 - 1) < (num : ℚ) / den ∧
      (num : ℚ) / den < 2 ^ ((num.log2 : Int) - den.log2 + 1) := by
  -- both numbers lie between the power of their logarithm and the next power
  have hnum_le : ((2 : ℚ) ^ (num.log2 : Int)) ≤ num := by
    exact_mod_cast Nat.log2_self_le hnum.ne'
  have hnum_lt : (num : ℚ) < 2 ^ ((num.log2 : Int) + 1) := by
    exact_mod_cast Nat.lt_log2_self (n := num)
  have hden_le : ((2 : ℚ) ^ (den.log2 : Int)) ≤ den := by
    exact_mod_cast Nat.log2_self_le hden.ne'
  have hden_lt : (den : ℚ) < 2 ^ ((den.log2 : Int) + 1) := by
    exact_mod_cast Nat.lt_log2_self (n := den)
  have hpos : (0 : ℚ) < den := by exact_mod_cast hden
  constructor
  · rw [lt_div_iff₀ hpos]
    calc (2 : ℚ) ^ ((num.log2 : Int) - den.log2 - 1) * den
        < 2 ^ ((num.log2 : Int) - den.log2 - 1) * 2 ^ ((den.log2 : Int) + 1) := by
          exact mul_lt_mul_of_pos_left hden_lt (by positivity)
      _ = 2 ^ (num.log2 : Int) := by
          rw [← zpow_add₀ (by norm_num)]
          congr 1
          ring
      _ ≤ num := hnum_le
  · rw [div_lt_iff₀ hpos]
    calc (num : ℚ) < 2 ^ ((num.log2 : Int) + 1) := hnum_lt
      _ = 2 ^ ((num.log2 : Int) - den.log2 + 1) * 2 ^ (den.log2 : Int) := by
          rw [← zpow_add₀ (by norm_num)]
          congr 1
          ring
      _ ≤ 2 ^ ((num.log2 : Int) - den.log2 + 1) * den := by
          exact mul_le_mul_of_nonneg_left hden_le (by positivity)

theorem targetExponent_eq {num den : Nat} (hnum : 0 < num) (hden : 0 < den) :
    targetExponent num den = max (Int.log 2 ((num : ℚ) / den) - 52) (-1074) := by
  have hpos : (0 : ℚ) < (num : ℚ) / den := by positivity
  have hlog (k : Int) : (2 : ℚ) ^ k ≤ (num : ℚ) / den ↔ k ≤ Int.log 2 ((num : ℚ) / den) :=
    Int.zpow_le_iff_le_log (by decide) hpos
  obtain ⟨hlow, hhigh⟩ := log_two_bounds hnum hden
  have hge := (hlog _).mp hlow.le
  have hlt := (hlog _).not.mp hhigh.not_ge
  unfold targetExponent
  rw [if_neg hnum.ne']
  dsimp only
  congr 2
  split
  · rename_i hk
    rw [one_le_scaled_iff hden, hlog] at hk
    omega
  · rename_i hk
    rw [one_le_scaled_iff hden, hlog] at hk
    omega

theorem targetExponent_congr {num den num' den' : Nat} (hden : 0 < den) (hden' : 0 < den')
    (h : (num : ℚ) / den = num' / den') : targetExponent num den = targetExponent num' den' := by
  by_cases hnum : num = 0
  · have hnum' : num' = 0 := by
      subst hnum
      have hq' : (den' : ℚ) ≠ 0 := by exact_mod_cast hden'.ne'
      simpa [hq', eq_comm] using h
    rw [hnum, hnum']
    rfl
  · have hnum' : num' ≠ 0 := by
      rintro rfl
      have hq : (den : ℚ) ≠ 0 := by exact_mod_cast hden.ne'
      simp [hq, hnum] at h
    rw [targetExponent_eq (Nat.pos_of_ne_zero hnum) hden,
      targetExponent_eq (Nat.pos_of_ne_zero hnum') hden', h]

/-! ## Rounding -/

/-- **Equal numbers round alike**, whatever the ratio. -/
theorem ofRatio?_congr {num den num' den' : Nat} (hden : 0 < den) (hden' : 0 < den')
    (h : (num : ℚ) / den = num' / den') (negative : Bool) :
    ofRatio? negative num den = ofRatio? negative num' den' := by
  have hround : roundRatio num den = roundRatio num' den' := by
    unfold roundRatio
    dsimp only
    rw [targetExponent_congr hden hden' h]
    rw [roundDiv_congr (scaled_pos hden num _) (scaled_pos hden' num' _)
      (by rw [scaled_div, scaled_div, h])]
  rw [ofRatio?, ofRatio?, hround]

/-- The exponent of a double other than zero comes from its binary logarithm. -/
theorem exponent_eq (x : Binary64) (hx : x.significand ≠ 0) :
    x.exponent = max (Int.log 2 x.magnitude - 52) (-1074) := by
  obtain ⟨hlimit, hleast, -, hfull⟩ := x.canonical
  have hsig : (0 : ℚ) < x.significand := by exact_mod_cast Nat.pos_of_ne_zero hx
  have hpow : (0 : ℚ) < 2 ^ x.exponent := by positivity
  have hpos : 0 < x.magnitude := by
    rw [magnitude_eq]
    positivity
  have hlog (k : Int) : (2 : ℚ) ^ k ≤ x.magnitude ↔ k ≤ Int.log 2 x.magnitude :=
    Int.zpow_le_iff_le_log (by decide) hpos
  -- a significand has at most 53 bits
  have hlt : x.magnitude < 2 ^ (53 + x.exponent) := by
    have hcast : (x.significand : ℚ) < 2 ^ (53 : Int) := by exact_mod_cast hlimit
    rw [magnitude_eq, zpow_add₀ (by norm_num)]
    exact mul_lt_mul_of_pos_right hcast hpow
  have hbelow := (hlog _).not.mp hlt.not_ge
  rcases hfull with hfull | hfull
  · -- it has exactly 53, so that the logarithm tells the exponent
    have hge : (2 : ℚ) ^ (52 + x.exponent) ≤ x.magnitude := by
      have hnat : 2 ^ 52 ≤ x.significand := by
        unfold significandLimit at hfull
        omega
      have hcast : (2 : ℚ) ^ (52 : Int) ≤ x.significand := by exact_mod_cast hnat
      rw [magnitude_eq, zpow_add₀ (by norm_num)]
      exact mul_le_mul_of_nonneg_right hcast hpow.le
    have habove := (hlog _).mp hge
    omega
  · -- it may have fewer, since the exponent is the least
    omega

/-- **Doubles are fixed.** A ratio that is a double rounds to it. -/
theorem ofRatio?_of_magnitude {x : Binary64} {num den : Nat} (hden : 0 < den)
    (h : (num : ℚ) / den = x.magnitude) : ofRatio? x.negative num den = some x := by
  obtain ⟨hlimit, -, -, hfull⟩ := x.canonical
  have hq : (den : ℚ) ≠ 0 := by exact_mod_cast hden.ne'
  -- the exponent that the ratio is rounded to is that of the double
  have htarget : targetExponent num den = x.exponent := by
    by_cases hx : x.significand = 0
    · have hnum : num = 0 := by
        rw [magnitude_eq, hx, Nat.cast_zero, zero_mul, div_eq_zero_iff] at h
        exact_mod_cast h.resolve_right hq
      have hleast : x.exponent = -1074 := by
        unfold significandLimit at hfull
        omega
      rw [hnum, hleast]
      rfl
    · have hnum : num ≠ 0 := by
        rintro rfl
        rw [magnitude_eq, Nat.cast_zero, zero_div] at h
        have hpow : (2 : ℚ) ^ x.exponent ≠ 0 := by positivity
        exact hx (by exact_mod_cast (mul_eq_zero.mp h.symm).resolve_right hpow)
      rw [targetExponent_eq (Nat.pos_of_ne_zero hnum) hden, h, ← exponent_eq x hx]
  -- scaled by it, the ratio is the significand itself, and nothing is rounded
  have hsignificand : roundDiv (scaled num den x.exponent).1 (scaled num den x.exponent).2 =
      x.significand := by
    apply roundDiv_natCast (scaled_pos hden num _)
    rw [scaled_div, h, magnitude_eq, mul_assoc, ← zpow_add₀ (by norm_num), add_neg_cancel,
      zpow_zero, mul_one]
  unfold ofRatio? roundRatio
  dsimp only
  rw [htarget, hsignificand, if_neg hlimit.ne, ofParts?, dif_pos x.canonical]

end FederationRegistry.Binary64
