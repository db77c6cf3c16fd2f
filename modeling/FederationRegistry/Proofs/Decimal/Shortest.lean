import FederationRegistry.Proofs.Decimal.Rounding
import FederationRegistry.Decimal.Shortest
import Mathlib.Tactic.FieldSimp

/-!
# The shortest decimal stands for one double

The shortest decimal of a double reads back to it (`readsBackTo_shortest`). The search takes no
decimal that does not, and what stands behind the search is the exact expansion, which is the
double. Zeros are trimmed at the end, which does not change the number.

Two doubles of one sign with equal shortest decimals are therefore one (`eq_of_value_shortest`).
Nothing is said about how short the decimal is.
-/

namespace FederationRegistry.Decimal

/-! ## Decimals as numbers -/

namespace Scientific

variable {s t : Scientific} {x : Binary64}

/-- The number that the decimal is. -/
def value (s : Scientific) : ℚ := s.digits * 10 ^ s.exponent

theorem ratio_pos (s : Scientific) : 0 < s.ratio.2 := by
  unfold ratio
  split
  · exact Nat.one_pos
  · exact Nat.pow_pos (by decide)

theorem ratio_div (s : Scientific) : (s.ratio.1 : ℚ) / s.ratio.2 = s.value := by
  obtain ⟨digits, exponent⟩ := s
  unfold ratio value
  dsimp only
  split
  · rename_i h
    lift exponent to Nat using h
    simp
  · rename_i h
    obtain ⟨n, rfl⟩ : ∃ n : Nat, exponent = -(n : Int) := ⟨(-exponent).toNat, by omega⟩
    simp [div_eq_mul_inv]

theorem readsBackTo_congr (h : s.value = t.value) : s.readsBackTo x = t.readsBackTo x := by
  have hround := Binary64.ofRatio?_congr s.ratio_pos t.ratio_pos
    (by rw [ratio_div, ratio_div, h]) x.negative
  rw [readsBackTo, readsBackTo, hround]

/-- A decimal that is the double itself reads back to it. -/
theorem readsBackTo_of_value (h : s.value = x.magnitude) : s.readsBackTo x = true := by
  have hround := Binary64.ofRatio?_of_magnitude s.ratio_pos (s.ratio_div.trans h)
  rw [readsBackTo, hround]
  simp

/-- A decimal reads back to one double of each sign. -/
theorem eq_of_readsBackTo {y : Binary64} (hx : s.readsBackTo x = true)
    (hy : s.readsBackTo y = true) (hsign : x.negative = y.negative) : x = y := by
  simp only [readsBackTo, decide_eq_true_eq] at hx hy
  rw [hsign, hy] at hx
  exact (Option.some.inj hx).symm

theorem value_trimmed (fuel : Nat) (s : Scientific) : (s.trimmed fuel).value = s.value := by
  induction fuel generalizing s with
  | zero => rfl
  | succ fuel ih =>
    rw [trimmed]
    split
    · rename_i h
      obtain ⟨n, hn⟩ := Nat.dvd_of_mod_eq_zero h.2
      rw [ih, value, value, hn, Nat.mul_div_cancel_left n (by decide), zpow_add_one₀ (by norm_num)]
      push_cast
      ring
    · rfl

end Scientific

/-! ## The search -/

theorem value_exact (x : Binary64) : (exact x).value = x.magnitude := by
  rw [Binary64.magnitude_eq]
  unfold exact
  split
  · rename_i h
    obtain ⟨n, hn⟩ := Int.eq_ofNat_of_zero_le h
    simp [Scientific.value, hn]
  · rename_i h
    obtain ⟨n, hn⟩ : ∃ n : Nat, x.exponent = -(n : Int) := ⟨(-x.exponent).toNat, by omega⟩
    have hten : (10 : ℚ) ^ n = 5 ^ n * 2 ^ n := by
      rw [← mul_pow]
      norm_num
    simp only [Scientific.value, hn, neg_neg, Int.toNat_natCast, Nat.pow_eq, Nat.cast_mul,
      Nat.cast_pow, Nat.cast_ofNat, zpow_neg, zpow_natCast, hten]
    field_simp

/-- **The shortest decimal reads back.** -/
theorem readsBackTo_shortest (x : Binary64) : (shortest x).readsBackTo x = true := by
  unfold shortest
  dsimp only
  rw [Scientific.readsBackTo_congr (Scientific.value_trimmed 1100 _)]
  cases hfind : List.find? _ _ with
  | none => exact Scientific.readsBackTo_of_value (value_exact x)
  | some s =>
    have hs := List.find?_some hfind
    exact hs

/-- **One decimal, one double** of each sign. -/
theorem eq_of_value_shortest {x y : Binary64} (h : (shortest x).value = (shortest y).value)
    (hsign : x.negative = y.negative) : x = y := by
  have hx := readsBackTo_shortest x
  rw [Scientific.readsBackTo_congr h] at hx
  exact Scientific.eq_of_readsBackTo hx (readsBackTo_shortest y) hsign

theorem isZero_of_value_shortest {x : Binary64} (h : (shortest x).value = 0) :
    x.isZero = true := by
  have hzero : (Scientific.mk 0 0).value = (Binary64.zero x.negative).magnitude := by
    simp [Scientific.value, Binary64.magnitude_eq, Binary64.zero]
  have hx := readsBackTo_shortest x
  rw [Scientific.readsBackTo_congr (t := ⟨0, 0⟩) (by rw [h]; simp [Scientific.value])] at hx
  rw [Scientific.eq_of_readsBackTo hx (Scientific.readsBackTo_of_value hzero) rfl]
  rfl

/-- The decimal that a double is written for: a zero is written as it stands. -/
def written (x : Binary64) : ℚ := if x.isZero then 0 else (shortest x).value

theorem eq_of_written {x y : Binary64} (h : written x = written y)
    (hsign : x.negative = y.negative) : x = y := by
  by_cases hx : x.isZero
  · have hy : y.isZero = true := by
      by_contra hy
      rw [written, written, if_pos hx, if_neg hy] at h
      exact hy (isZero_of_value_shortest h.symm)
    rw [Binary64.eq_zero_of_isZero hx, Binary64.eq_zero_of_isZero hy, hsign]
  · have hy : ¬y.isZero = true := by
      intro hy
      rw [written, written, if_neg hx, if_pos hy] at h
      exact hx (isZero_of_value_shortest h)
    rw [written, written, if_neg hx, if_neg hy] at h
    exact eq_of_value_shortest h hsign

end FederationRegistry.Decimal
