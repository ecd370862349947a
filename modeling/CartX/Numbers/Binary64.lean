import Mathlib.Algebra.BigOperators.Group.List.Lemmas
import Mathlib.Algebra.Order.Field.Power
import Mathlib.Data.Int.Log
import Mathlib.Data.Rat.Floor

/-!
# Binary64 arithmetic on whole numbers

The values of a binary64 number are rationals here. Rounding is to the nearest
multiple of the unit in the last place, ties to even; infinities are left out, so the
exponent has no upper bound. Whole numbers up to `2 ^ 53` are not rounded, and sums
and products that stay among them are exact.
-/

namespace Binary64

/-- The unit in the last place of a value. -/
def ulp (x : ℚ) : ℚ := 2 ^ (max (Int.log 2 |x|) (-1022) - 52)

/-- The nearest whole number, ties to even. -/
def roundEven (x : ℚ) : ℤ :=
  if x - ⌊x⌋ < 1 / 2 then ⌊x⌋
  else if 1 / 2 < x - ⌊x⌋ then ⌊x⌋ + 1
  else if Even ⌊x⌋ then ⌊x⌋ else ⌊x⌋ + 1

def round (x : ℚ) : ℚ := roundEven (x / ulp x) * ulp x

def add (x y : ℚ) : ℚ := round (x + y)

def mul (x y : ℚ) : ℚ := round (x * y)

theorem roundEven_int (n : ℤ) : roundEven n = n := by
  simp [roundEven]

theorem ulp_ne_zero (x : ℚ) : ulp x ≠ 0 := by
  unfold ulp
  positivity

/-- A multiple of its unit in the last place is not rounded. -/
theorem round_of_multiple {x : ℚ} (n : ℤ) (multiple : x = n * ulp x) : round x = x := by
  have quotient : x / ulp x = n := by
    rw [div_eq_iff (ulp_ne_zero x)]
    exact multiple
  rw [round, quotient, roundEven_int, ← multiple]

theorem ulp_int (n : ℤ) : ulp n = 2 ^ ((Nat.log 2 n.natAbs : ℤ) - 52) := by
  have size : |(n : ℚ)| = (n.natAbs : ℚ) := by rw [Nat.cast_natAbs, Int.cast_abs]
  have normal : max (Nat.log 2 n.natAbs : ℤ) (-1022) = Nat.log 2 n.natAbs := by omega
  rw [ulp, size, Int.log_natCast, normal]

/-- Whole numbers up to `2 ^ 53` are binary64 values. -/
theorem round_int {n : ℤ} (small : n.natAbs ≤ 2 ^ 53) : round n = n := by
  by_cases digits : Nat.log 2 n.natAbs ≤ 52
  -- 53 binary digits are enough
  · refine round_of_multiple (n * 2 ^ (52 - Nat.log 2 n.natAbs)) ?_
    obtain ⟨rest, sum⟩ := Nat.exists_eq_add_of_le digits
    have exponent : (Nat.log 2 n.natAbs : ℤ) - 52 = -(rest : ℤ) := by omega
    have left : 52 - Nat.log 2 n.natAbs = rest := by omega
    rw [ulp_int, exponent, left, zpow_neg, zpow_natCast]
    push_cast
    field_simp
  -- there is one more whole number, and it is even
  · have large : 2 ^ 53 ≤ n.natAbs := by
      have nonzero : n.natAbs ≠ 0 := fun zero => by simp [zero] at digits
      exact (Nat.pow_le_pow_right (by omega) (by omega)).trans (Nat.pow_log_le_self 2 nonzero)
    have size : n.natAbs = 2 ^ 53 := le_antisymm small large
    have ulp_two : ulp n = 2 := by
      rw [ulp_int, size, Nat.log_pow (by omega)]
      norm_num
    refine round_of_multiple (n / 2) ?_
    rw [ulp_two]
    have even : n = n / 2 * 2 := by omega
    exact_mod_cast even

-- the next whole number is between two values, and the one below is even
example : round (2 ^ 53 + 1) = 2 ^ 53 := by decide +kernel

theorem mul_int {m n : ℤ} (small : (m * n).natAbs ≤ 2 ^ 53) : mul m n = ((m * n : ℤ) : ℚ) := by
  rw [mul, ← Int.cast_mul, round_int small]

/-- Adding up whole numbers is exact as long as their sizes add up to `2 ^ 53` at most. -/
theorem foldl_add {α : Type*} (value : α → ℤ) (terms : List α) (start : ℤ)
    (small : start.natAbs + (terms.map fun term => (value term).natAbs).sum ≤ 2 ^ 53) :
    terms.foldl (fun total term => add total (value term)) (start : ℚ) =
      terms.foldl (fun total term => total + (value term : ℚ)) (start : ℚ) := by
  induction terms generalizing start with
  | nil => rfl
  | cons term rest ih =>
    rw [List.map_cons, List.sum_cons] at small
    have grown := Int.natAbs_add_le start (value term)
    have exact_sum : add start (value term) = ((start + value term : ℤ) : ℚ) := by
      rw [add, ← Int.cast_add, round_int (by omega)]
    rw [List.foldl_cons, List.foldl_cons, exact_sum, ih _ (by omega), Int.cast_add]

end Binary64
