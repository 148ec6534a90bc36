/-
# Whole numbers of 53 significant bits

A whole number up to `2 ^ 53` is a number of 53 significant bits, so it is not rounded, and neither
is the sum of two if it is not larger. The whole number after `2 ^ 53` is the first that is rounded.

| whole number `n` | mantissa | exponent |
| --- | --- | --- |
| `2 ^ k ≤ n < 2 ^ (k + 1)`, `k ≤ 52` | `n * 2 ^ (52 - k)` | `k - 52` |
| `2 ^ 53` | `2 ^ 52` | `1` |
-/

import StatusRelay.Binary64
import Mathlib.Algebra.GroupWithZero.Nat
import Mathlib.Algebra.Order.Ring.Nat

namespace StatusRelay
namespace Binary64

theorem roundHalfEven_mul (n : Nat) {d : Nat} (hd : 0 < d) : roundHalfEven (n * d) d = n := by
  unfold roundHalfEven
  simp only [Nat.mul_div_cancel n hd, Nat.mul_mod_left]
  rw [if_neg]
  omega

theorem log2_mul_pow {n : Nat} (hn : n ≠ 0) (j : Nat) : (n * 2 ^ j).log2 = n.log2 + j := by
  induction j with
  | zero => rw [Nat.pow_zero, Nat.mul_one, Nat.add_zero]
  | succ j ih =>
    have hne : n * 2 ^ j ≠ 0 := Nat.mul_ne_zero hn (Nat.pow_pos (by decide)).ne'
    rw [Nat.pow_succ, ← Nat.mul_assoc, Nat.mul_comm _ 2, Nat.log2_two_mul hne, ih, Nat.add_assoc]

/-- The mantissa of a whole number below `2 ^ 53`. -/
theorem mantissa_bounds {n : Nat} (hn : n ≠ 0) (hlt : n < 2 ^ 53) :
    n.log2 ≤ 52 ∧ 2 ^ 52 ≤ n * 2 ^ (52 - n.log2) ∧ n * 2 ^ (52 - n.log2) < 2 ^ 53 := by
  have hlog : n.log2 ≤ 52 := by
    have := (Nat.log2_lt hn).2 hlt
    omega
  refine ⟨hlog, ?_, ?_⟩
  · calc 2 ^ 52 = 2 ^ n.log2 * 2 ^ (52 - n.log2) := by rw [← Nat.pow_add]; congr 1; omega
      _ ≤ n * 2 ^ (52 - n.log2) := Nat.mul_le_mul_right _ (Nat.log2_self_le hn)
  · calc n * 2 ^ (52 - n.log2) < 2 ^ (n.log2 + 1) * 2 ^ (52 - n.log2) :=
        Nat.mul_lt_mul_of_pos_right Nat.lt_log2_self (Nat.pow_pos (by decide))
      _ = 2 ^ 53 := by rw [← Nat.pow_add]; congr 1; omega

/-- **A whole number below `2 ^ 53` is not rounded,** whatever power of two is in its fraction. -/
theorem ofFraction_mul_pow {n : Nat} (hn : n ≠ 0) (hlt : n < 2 ^ 53) (j : Nat) :
    ofFraction (n * 2 ^ j) (2 ^ j) = ⟨n * 2 ^ (52 - n.log2), n.log2 - 52⟩ := by
  obtain ⟨hlog, hlow, hhigh⟩ := mantissa_bounds hn hlt
  have hpow : 0 < 2 ^ j := Nat.pow_pos (by decide)
  have hnum : n * 2 ^ j ≠ 0 := Nat.mul_ne_zero hn hpow.ne'
  have hguess : ((n * 2 ^ j).log2 : Int) - (2 ^ j : Nat).log2 - 52 = n.log2 - 52 := by
    rw [log2_mul_pow hn, Nat.log2_two_pow]
    omega
  have hscaled : scaled 2 (n * 2 ^ j) (2 ^ j) (-((n.log2 : Int) - 52)) =
      (n * 2 ^ (52 - n.log2) * 2 ^ j, 2 ^ j) := by
    have hexp : (-((n.log2 : Int) - 52)).toNat = 52 - n.log2 := by omega
    unfold scaled
    rw [if_pos (by omega), hexp, Nat.pow_eq, Nat.mul_right_comm]
  unfold ofFraction
  rw [if_neg hnum]
  simp only [hguess, hscaled, Nat.pow_eq, Nat.mul_div_cancel _ hpow, if_pos hlow,
    roundHalfEven_mul _ hpow, if_neg hhigh.ne]

theorem ofFraction_top (j : Nat) :
    ofFraction (2 ^ 53 * 2 ^ j) (2 ^ j) = ⟨2 ^ 52, 1⟩ := by
  have hpow : 0 < 2 ^ j := Nat.pow_pos (by decide)
  have hnum : 2 ^ 53 * 2 ^ j ≠ 0 := Nat.mul_ne_zero (by decide) hpow.ne'
  have hguess : ((2 ^ 53 * 2 ^ j).log2 : Int) - (2 ^ j : Nat).log2 - 52 = 1 := by
    rw [log2_mul_pow (by decide), Nat.log2_two_pow, Nat.log2_two_pow]
    omega
  have hscaled : scaled 2 (2 ^ 53 * 2 ^ j) (2 ^ j) (-1) = (2 ^ 52 * (2 ^ j * 2), 2 ^ j * 2) := by
    unfold scaled
    rw [if_neg (by decide)]
    refine Prod.ext ?_ rfl
    show 2 ^ 53 * 2 ^ j = 2 ^ 52 * (2 ^ j * 2)
    omega
  have hpos : 0 < 2 ^ j * 2 := by omega
  unfold ofFraction
  rw [if_neg hnum]
  simp only [hguess, hscaled, Nat.pow_eq, Nat.mul_div_cancel _ hpos, le_refl, if_true,
    roundHalfEven_mul _ hpos]
  rfl

theorem ofFraction_eq_ofNat {n : Nat} (hn : n ≤ 2 ^ 53) (j : Nat) :
    ofFraction (n * 2 ^ j) (2 ^ j) = ofNat n := by
  have hone := Nat.mul_one n
  unfold ofNat
  rcases Nat.eq_zero_or_pos n with rfl | hpos
  · simp [ofFraction]
  · rcases Nat.lt_or_eq_of_le hn with hlt | rfl
    · rw [ofFraction_mul_pow hpos.ne' hlt, ← ofFraction_mul_pow hpos.ne' hlt 0, Nat.pow_zero, hone]
    · rw [ofFraction_top, ← ofFraction_top 0, Nat.pow_zero, hone]

/-- **The fraction of a whole number up to `2 ^ 53`** is that number. -/
theorem toFraction_ofNat {n : Nat} (hn : n ≤ 2 ^ 53) :
    ∃ j, (ofNat n).toFraction = (n * 2 ^ j, 2 ^ j) := by
  rcases Nat.eq_zero_or_pos n with rfl | hpos
  · exact ⟨0, rfl⟩
  · rcases Nat.lt_or_eq_of_le hn with hlt | rfl
    · obtain ⟨hlog, -, -⟩ := mantissa_bounds hpos.ne' hlt
      have hof : ofNat n = ⟨n * 2 ^ (52 - n.log2), n.log2 - 52⟩ := by
        rw [← ofFraction_eq_ofNat hn 0, ofFraction_mul_pow hpos.ne' hlt]
      refine ⟨52 - n.log2, ?_⟩
      rw [hof]
      unfold toFraction scaled
      by_cases htop : n.log2 = 52
      · simp [htop]
      · have hexp : (-((n.log2 : Int) - 52)).toNat = 52 - n.log2 := by omega
        rw [if_neg (by simp only; omega), hexp, Nat.pow_eq, Nat.one_mul]
    · refine ⟨0, ?_⟩
      rw [← ofFraction_eq_ofNat le_rfl 0, ofFraction_top]
      rfl

/-- **Sums up to `2 ^ 53` are exact.** -/
theorem ofNat_add {a b : Nat} (h : a + b ≤ 2 ^ 53) : ofNat a + ofNat b = ofNat (a + b) := by
  obtain ⟨i, ha⟩ := toFraction_ofNat (n := a) (by omega)
  obtain ⟨k, hb⟩ := toFraction_ofNat (n := b) (by omega)
  have hsum : a * 2 ^ i * 2 ^ k + b * 2 ^ k * 2 ^ i = (a + b) * 2 ^ (i + k) := by
    rw [Nat.pow_add, Nat.add_mul, Nat.mul_assoc, Nat.mul_assoc b, Nat.mul_comm (2 ^ k)]
  calc ofNat a + ofNat b
      = ofFraction (a * 2 ^ i * 2 ^ k + b * 2 ^ k * 2 ^ i) (2 ^ i * 2 ^ k) := by
        show add (ofNat a) (ofNat b) = _
        unfold add
        rw [ha, hb]
    _ = ofFraction ((a + b) * 2 ^ (i + k)) (2 ^ (i + k)) := by rw [hsum, Nat.pow_add 2 i k]
    _ = ofNat (a + b) := ofFraction_eq_ofNat h (i + k)

/-- The whole number after `2 ^ 53` is rounded. -/
example : ofNat (2 ^ 53) + ofNat 1 = ofNat (2 ^ 53) := by decide +kernel

end Binary64
end StatusRelay
