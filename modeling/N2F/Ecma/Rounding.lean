import N2F.Ecma.Number

set_option autoImplicit false

namespace Ecma

theorem round_even_mono (p q : ℚ) (le : p ≤ q) : roundEven p ≤ roundEven q := by
  rcases (Int.floor_mono le).lt_or_eq with below | same
  · have upper := (round_even_bounds p).2
    have lower := (round_even_bounds q).1
    omega
  · simp only [roundEven, same]
    split_ifs <;> first | omega | linarith

theorem exponent_mono (p q : ℚ) (positive : 0 < p) (le : p ≤ q) : exponent p ≤ exponent q := by
  have positive' : 0 < q := positive.trans_le le
  rw [exponent, exponent, abs_of_pos positive, abs_of_pos positive']
  have log : Int.log 2 p ≤ Int.log 2 q := Int.log_mono_right positive le
  exact max_le_max_right (-1074) (by omega)

theorem nearest_high (q : ℚ) : nearest q ≤ 2 ^ 53 * 2 ^ exponent q := by
  have bound := (abs_le.mp (round_even_abs _ _ (scaled_small q))).2
  rw [nearest]
  exact mul_le_mul_of_nonneg_right (by exact_mod_cast bound) (two_zpow_pos _).le

theorem nearest_low (q : ℚ) (positive : 0 < q) (normal : -1074 < exponent q) : 2 ^ 52 * 2 ^ exponent q ≤ nearest q := by
  have lead : exponent q = Int.log 2 q - 52 := by
    rw [exponent, abs_of_pos positive] at normal ⊢
    omega
  have scale := two_zpow_pos (exponent q)
  have binade : 2 ^ 52 * 2 ^ exponent q ≤ q :=
    calc (2 : ℚ) ^ 52 * 2 ^ exponent q = 2 ^ Int.log 2 q := by
          rw [← zpow_natCast, ← zpow_add₀ (by norm_num), lead]
          congr 1
          push_cast
          ring
      _ ≤ q := by exact_mod_cast Int.zpow_log_le_self (b := 2) (by norm_num) positive
  have scaled : ((2 ^ 52 : ℤ) : ℚ) ≤ q / 2 ^ exponent q := by
    rw [le_div_iff₀ scale]
    push_cast
    exact binade
  have whole : (2 ^ 52 : ℤ) ≤ roundEven (q / 2 ^ exponent q) := (Int.le_floor.mpr scaled).trans (round_even_bounds _).1
  rw [nearest]
  exact mul_le_mul_of_nonneg_right (by exact_mod_cast whole) scale.le

theorem nearest_mono (p q : ℚ) (positive : 0 < p) (le : p ≤ q) : nearest p ≤ nearest q := by
  rcases (exponent_mono p q positive le).lt_or_eq with lower | same
  · -- In a higher binade the significand of q starts where that of p ends.
    have lowest : -1074 ≤ exponent p := le_max_right _ _
    have step : (2 : ℚ) ^ (exponent p + 1) ≤ 2 ^ exponent q := zpow_le_zpow_right₀ (by norm_num) lower
    calc nearest p ≤ 2 ^ 53 * 2 ^ exponent p := nearest_high p
      _ = 2 ^ 52 * 2 ^ (exponent p + 1) := by
          rw [zpow_add_one₀ (by norm_num)]
          ring
      _ ≤ 2 ^ 52 * 2 ^ exponent q := mul_le_mul_of_nonneg_left step (by norm_num)
      _ ≤ nearest q := nearest_low q (positive.trans_le le) (lowest.trans_lt lower)
  · have scale := two_zpow_pos (exponent q)
    have scaled : p / 2 ^ exponent q ≤ q / 2 ^ exponent q := div_le_div_of_nonneg_right le scale.le
    rw [nearest, nearest, same]
    exact mul_le_mul_of_nonneg_right (by exact_mod_cast round_even_mono _ _ scaled) scale.le

theorem number_of_nat (n : ℕ) : numberOf (n : ℚ) = Number.ofInt n := by
  rw [Number.ofInt]
  push_cast
  rfl

theorem nearest_large (n : ℕ) (large : 2 ^ 53 ≤ n) : (2 ^ 53 : ℚ) ≤ nearest n := by
  have double : IsDouble (2 ^ 53) := by
    have exact := small_int_double (2 ^ 53) (by norm_num)
    exact_mod_cast exact
  calc (2 ^ 53 : ℚ) = nearest (2 ^ 53) := (nearest_double _ double).symm
    _ ≤ nearest n := nearest_mono _ _ (by norm_num) (by exact_mod_cast large)

theorem number_of_nat_safe (n : ℕ) : (numberOf (n : ℚ)).isSafeInteger = true ↔ n ≤ 9007199254740991 := by
  constructor
  · intro safe
    obtain ⟨m, value, bound⟩ := (safe_rational _).mp safe
    by_contra beyond
    have rounded := nearest_large n (by omega)
    rw [numberOf] at value
    split_ifs at value with bounded
    · have same : nearest n = m := Option.some.inj value
      rw [same] at rounded
      have large : (2 ^ 53 : ℤ) ≤ m := by exact_mod_cast rounded
      have small := (abs_le.mp bound).2
      omega
    · cases value
  · intro small
    rw [number_of_nat]
    have least : |(n : ℤ)| ≤ 9007199254740991 := by
      rw [Nat.abs_cast]
      exact_mod_cast small
    exact (safe_rational _).mpr ⟨n, of_int_rational n (by omega), least⟩

theorem negate_safe (x : Number) : x.negate.isSafeInteger = x.isSafeInteger := by
  cases x with
  | nan | infinity negative => rfl
  | negZero => rfl
  | finite d =>
      rw [Number.negate]
      split_ifs with zero
      · simp [Number.isSafeInteger, Number.rational, zero]
      · simp [Number.isSafeInteger, Number.rational]

end Ecma
