import AcceptanceBench.Number.Numeral
import Mathlib.Data.Rat.Cast.Order
import Mathlib.Tactic.Linarith

/-!
Whole numbers as floating-point numbers. Those below 2^53 are held exactly, and larger ones are
rounded to numbers that are no smaller than that; so a whole number and its value have the same
sign, and agree where the value is small.
-/

namespace AcceptanceBench

theorem nearestEven_one (n : Nat) : nearestEven n 1 = n := by
  simp [nearestEven, Nat.mod_one]

theorem div_le_nearestEven (num den : Nat) : num / den ≤ nearestEven num den := by
  unfold nearestEven
  dsimp only
  split
  · exact Nat.le_refl _
  · exact Nat.le_succ _

namespace Binary64

variable {n : Nat}

/-- The leading bit of a whole number becomes that of the mantissa. -/
theorem exponentFor_one (nonzero : n ≠ 0) : exponentFor n 1 = (n.log2 : Int) - 52 := by
  have least : 2 ^ n.log2 ≤ n := Nat.log2_self_le nonzero
  have unit : Nat.log2 1 = 0 := by decide
  unfold exponentFor
  simp only [unit, Nat.cast_zero, sub_zero, Nat.one_mul, Nat.pow_eq]
  split
  · next above =>
    have bits : ((n.log2 : Int) - 52).toNat + 52 = n.log2 := by omega
    rw [bits, decide_eq_true least, if_pos rfl]
    omega
  · next below =>
    have bits : 52 = n.log2 + (-((n.log2 : Int) - 52)).toNat := by omega
    have large : 2 ^ 52 ≤ n * 2 ^ (-((n.log2 : Int) - 52)).toNat := by
      calc 2 ^ 52 = 2 ^ n.log2 * 2 ^ (-((n.log2 : Int) - 52)).toNat := by rw [← pow_add, ← bits]
        _ ≤ n * 2 ^ (-((n.log2 : Int) - 52)).toNat := Nat.mul_le_mul_right _ least
    rw [decide_eq_true large, if_pos rfl]
    omega

theorem scaled_left (n k : Nat) : scaled n 1 (-(k : Int)) = n * 2 ^ k := by
  unfold scaled
  split
  · next none =>
    obtain rfl : k = 0 := by omega
    simp [nearestEven_one]
  · rw [neg_neg, Int.toNat_natCast, nearestEven_one]
    rfl

theorem le_scaled_right (n k : Nat) : n / 2 ^ k ≤ scaled n 1 (k : Int) := by
  unfold scaled
  rw [if_pos (Int.natCast_nonneg k), Int.toNat_natCast, Nat.one_mul]
  exact div_le_nearestEven n (2 ^ k)

theorem value_left (negative : Bool) (n k : Nat) :
    (finite negative (n * 2 ^ k) (-(k : Int))).value = if negative then -(n : Rat) else n := by
  have size : (if (0 : Int) ≤ -(k : Int) then
      mkRat ((n * 2 ^ k : Nat) * Nat.pow 2 (-(k : Int)).toNat) 1
      else mkRat (n * 2 ^ k : Nat) (Nat.pow 2 (- -(k : Int)).toNat)) = (n : Rat) := by
    split
    · next none =>
      obtain rfl : k = 0 := by omega
      simp [Rat.mkRat_eq_div]
    · rw [neg_neg, Int.toNat_natCast, Nat.pow_eq, Rat.mkRat_eq_div]
      push_cast
      exact mul_div_cancel_right₀ _ (pow_ne_zero k two_ne_zero)
  unfold value
  dsimp only
  rw [size]

theorem value_right (negative : Bool) (m k : Nat) :
    (finite negative m (k : Int)).value
      = if negative then -((m : Rat) * 2 ^ k) else (m : Rat) * 2 ^ k := by
  have size : mkRat (m * Nat.pow 2 (k : Int).toNat) 1 = (m : Rat) * 2 ^ k := by
    rw [Int.toNat_natCast, Nat.pow_eq, Rat.mkRat_eq_div]
    push_cast
    exact div_one _
  unfold value
  dsimp only
  rw [if_pos (Int.natCast_nonneg k), size]

/-- A whole number with at most 53 bits is the mantissa, shifted. -/
theorem value_of_small (negative : Bool) (nonzero : n ≠ 0) (small : n < 2 ^ 53) :
    (ofQuotient negative n 1).value = if negative then -(n : Rat) else n := by
  have bits : n.log2 < 53 := (Nat.log2_lt nonzero).mpr small
  obtain ⟨k, exponent⟩ : ∃ k : Nat, (n.log2 : Int) - 52 = -(k : Int) :=
    ⟨52 - n.log2, by omega⟩
  have fits : n * 2 ^ k < Nat.pow 2 53 := by
    calc n * 2 ^ k < 2 ^ (n.log2 + 1) * 2 ^ k :=
          Nat.mul_lt_mul_of_pos_right Nat.lt_log2_self (Nat.two_pow_pos k)
      _ = 2 ^ 53 := by rw [← pow_add, show n.log2 + 1 + k = 53 by omega]
  unfold ofQuotient
  rw [if_neg nonzero]
  simp only [exponentFor_one nonzero, exponent, scaled_left, if_neg fits.ne]
  rw [if_neg (by omega)]
  exact value_left negative n k

/-- A whole number with more bits keeps as many as fit. -/
theorem value_of_large (negative : Bool) (large : 2 ^ 53 ≤ n) :
    ∃ size : Rat, 2 ^ 53 ≤ size
      ∧ (ofQuotient negative n 1).value = if negative then -size else size := by
  have nonzero : n ≠ 0 := by omega
  have bits : 53 ≤ n.log2 := (Nat.le_log2 nonzero).mpr large
  obtain ⟨k, exponent⟩ : ∃ k : Nat, (n.log2 : Int) - 52 = ((k + 1 : Nat) : Int) :=
    ⟨n.log2 - 53, by omega⟩
  have filled : 2 ^ 52 ≤ scaled n 1 ((k + 1 : Nat) : Int) := by
    refine le_trans ?_ (le_scaled_right n (k + 1))
    rw [Nat.le_div_iff_mul_le (Nat.two_pow_pos _), ← pow_add, show 52 + (k + 1) = n.log2 by omega]
    exact Nat.log2_self_le nonzero
  have held (m k : Nat) (filled : 2 ^ 52 ≤ m) : ∃ size : Rat, 2 ^ 53 ≤ size
      ∧ (if ((k + 1 : Nat) : Int) > 971 then infinite negative
          else finite negative m ((k + 1 : Nat) : Int)).value
        = if negative then -size else size := by
    split
    · exact ⟨mkRat (Nat.pow 2 1024) 1, by decide +kernel, rfl⟩
    · refine ⟨(m : Rat) * 2 ^ (k + 1), ?_, value_right negative m (k + 1)⟩
      have filled : (2 : Rat) ^ 52 ≤ m := by exact_mod_cast filled
      calc (2 : Rat) ^ 53 = 2 ^ 52 * 2 ^ 1 := by norm_num
        _ ≤ (m : Rat) * 2 ^ (k + 1) :=
          mul_le_mul filled (pow_le_pow_right₀ one_le_two (Nat.le_add_left 1 k)) (by norm_num)
            (Nat.cast_nonneg m)
  unfold ofQuotient
  rw [if_neg nonzero]
  simp only [exponentFor_one nonzero, exponent]
  split
  · exact held (Nat.pow 2 52) (k + 1) (le_refl _)
  · exact held _ k filled

end Binary64

namespace Numeral

open Binary64

/-- A whole number is its own value, or both lie beyond 2^53 on one side. -/
theorem value_whole (w : Whole) :
    (whole w).value = w.toInt ∨ 2 ^ 53 ≤ w.toInt ∧ 2 ^ 53 ≤ (whole w).value
      ∨ w.toInt ≤ -2 ^ 53 ∧ (whole w).value ≤ -2 ^ 53 := by
  change (ofInt w.toInt).value = w.toInt ∨ _ ∧ _ ≤ (ofInt w.toInt).value
    ∨ _ ∧ (ofInt w.toInt).value ≤ _
  generalize w.toInt = n
  unfold ofInt
  have sign (size : Rat) : (if decide (n < 0) = true then -size else size)
      = if n < 0 then -size else size := by
    simp only [decide_eq_true_eq]
  by_cases small : n.natAbs < 2 ^ 53
  · left
    by_cases zero : n = 0
    · subst zero
      decide +kernel
    · rw [value_of_small _ (Int.natAbs_ne_zero.mpr zero) small, sign]
      split
      · next negative =>
        rw [Nat.cast_natAbs, abs_of_neg negative]
        push_cast
        exact neg_neg _
      · next positive => rw [Nat.cast_natAbs, abs_of_nonneg (not_lt.mp positive)]
  · right
    obtain ⟨size, large, same⟩ := value_of_large (decide (n < 0)) (not_lt.mp small)
    rw [same, sign]
    split
    · exact Or.inr ⟨by omega, neg_le_neg large⟩
    · exact Or.inl ⟨by omega, large⟩

theorem value_whole_nonpos_iff (w : Whole) : (whole w).value ≤ 0 ↔ w.toInt ≤ 0 := by
  rcases value_whole w with same | ⟨large, above⟩ | ⟨large, below⟩
  · rw [same]
    exact Int.cast_nonpos
  · exact iff_of_false (by linarith) (by omega)
  · exact iff_of_true (by linarith) (by omega)

theorem value_whole_eq_iff (w : Whole) {k : Int} (small : k.natAbs < 2 ^ 53) :
    (whole w).value = k ↔ w.toInt = k := by
  rcases value_whole w with same | ⟨large, above⟩ | ⟨large, below⟩
  · rw [same]
    exact Int.cast_inj
  · have : (k : Rat) < 2 ^ 53 := by exact_mod_cast (by omega : k < 2 ^ 53)
    exact iff_of_false (by linarith) (by omega)
  · have : (-2 ^ 53 : Rat) < k := by exact_mod_cast (by omega : -2 ^ 53 < k)
    exact iff_of_false (by linarith) (by omega)

end Numeral

end AcceptanceBench
