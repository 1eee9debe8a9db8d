import N2F.Ecma.Properties
import N2F.Ecma.Radix

set_option autoImplicit false

namespace Ecma

theorem double_even (m : ℕ) (small : m ≤ 2 ^ 53) : IsDouble ((2 * m : ℕ) : ℚ) := by
  obtain ⟨bound, n, e, mantissa, lowest, value⟩ := small_int_double m (by simpa using small)
  have doubled : ((2 * m : ℕ) : ℚ) = n * 2 ^ (e + 1) := by
    rw [zpow_add_one₀ (by norm_num), ← mul_assoc, ← value]
    push_cast
    ring
  refine ⟨?_, n, e + 1, mantissa, by omega, doubled⟩
  have large : ((2 * m : ℕ) : ℚ) ≤ 2 ^ 54 := by exact_mod_cast (by omega : 2 * m ≤ 2 ^ 54)
  rw [abs_of_nonneg (Nat.cast_nonneg (2 * m))]
  have wide : (2 : ℚ) ^ 54 < 2 ^ 1024 := pow_lt_pow_right₀ (by norm_num) (by norm_num)
  exact large.trans_lt wide

theorem nearest_natural (n : ℕ) (small : n ≤ 2 ^ 53) : nearest (n : ℚ) = n := by
  have double := small_int_double n (by simpa using small)
  exact nearest_double n (by simpa using double)

theorem decimals_at_natural (n k : ℕ) (few : k ≤ Nat.log 10 n + 1) (d : Decimal) :
    let s := Nat.log 10 n + 1 - k
    d ∈ decimalsAt n k ↔ d = ⟨n / 10 ^ s, s⟩ ∨ d = ⟨n / 10 ^ s + 1, s⟩ := by
  intro s
  have scale : Int.log 10 (n : ℚ) + 1 - k = (s : ℤ) := by
    rw [Int.log_natCast]
    omega
  have low : ⌊(n : ℚ) / 10 ^ (s : ℤ)⌋.toNat = n / 10 ^ s := by
    have quotient : (n : ℚ) / 10 ^ (s : ℤ) = (n : ℚ) / ((10 ^ s : ℕ) : ℚ) := by
      rw [zpow_natCast]
      push_cast
      rfl
    rw [quotient, Rat.floor_natCast_div_natCast]
    rfl
  rw [decimalsAt, scale]
  simp only [low]
  split_ifs
  · exact List.mem_pair
  · rw [List.mem_pair]
    exact Or.comm

-- Whatever a candidate comes to, it is a double: it has at most the digits of n,
-- and is even where it has fewer.
theorem candidate_double (n s m : ℕ) (positive : 0 < n) (small : n < 2 ^ 53) (short : s ≤ Nat.log 10 n) (near : m ≤ n / 10 ^ s + 1) :
    nearest ((m * 10 ^ s : ℕ) : ℚ) = (m * 10 ^ s : ℕ) := by
  cases s with
  | zero =>
      rw [pow_zero, Nat.div_one] at near
      exact nearest_natural (m * 10 ^ 0) (by omega)
  | succ s =>
      have power : 10 ^ (s + 1) ≤ n := (Nat.pow_le_pow_right (by omega) short).trans (Nat.pow_log_le_self 10 positive.ne')
      have bound : m * 10 ^ (s + 1) ≤ 2 * n :=
        calc m * 10 ^ (s + 1) ≤ (n / 10 ^ (s + 1) + 1) * 10 ^ (s + 1) := Nat.mul_le_mul_right _ near
          _ = n / 10 ^ (s + 1) * 10 ^ (s + 1) + 10 ^ (s + 1) := Nat.succ_mul _ _
          _ ≤ n + n := Nat.add_le_add (Nat.div_mul_le_self n _) power
          _ = 2 * n := (Nat.two_mul n).symm
      have even : m * 10 ^ (s + 1) = 2 * (m * 5 * 10 ^ s) := by
        rw [pow_succ]
        ring
      rw [even] at bound ⊢
      exact nearest_double _ (double_even _ (by omega))

theorem search_natural (n : ℕ) (positive : 0 < n) (small : n < 2 ^ 53) (fuel k : ℕ) (least : 1 ≤ k) (few : k ≤ Nat.log 10 n + 1)
    (enough : Nat.log 10 n + 1 < k + fuel) :
    ∃ m s : ℕ, searchDecimal n fuel k = ⟨m, s⟩ ∧ m * 10 ^ s = n := by
  induction fuel generalizing k with
  | zero => omega
  | succ fuel ih =>
      rw [searchDecimal]
      split
      · rename_i d found
        have rounds : nearest d.value = n := by simpa using List.find?_some found
        have listed := (decimals_at_natural n k few d).mp (List.mem_of_find?_eq_some found)
        obtain ⟨m, near, rfl⟩ : ∃ m, m ≤ n / 10 ^ (Nat.log 10 n + 1 - k) + 1 ∧ d = ⟨m, (Nat.log 10 n + 1 - k : ℕ)⟩ := by
          rcases listed with same | same
          · exact ⟨_, Nat.le_succ _, same⟩
          · exact ⟨_, Nat.le_refl _, same⟩
        refine ⟨m, _, rfl, ?_⟩
        have value : Decimal.value ⟨m, (Nat.log 10 n + 1 - k : ℕ)⟩ = ((m * 10 ^ (Nat.log 10 n + 1 - k) : ℕ) : ℚ) := by
          rw [Decimal.value, zpow_natCast]
          push_cast
          rfl
        rw [value, candidate_double n _ m positive small (by omega) near] at rounds
        exact_mod_cast rounds
      · rename_i missed
        have more : k ≤ Nat.log 10 n := by
          by_contra last
          have own : k = Nat.log 10 n + 1 := by omega
          have listed := (decimals_at_natural n k few ⟨n, 0⟩).mpr (.inl (by simp [own]))
          have refused := List.find?_eq_none.mp missed _ listed
          apply refused
          have value : Decimal.value ⟨n, 0⟩ = n := by simp [Decimal.value]
          rw [value, nearest_natural n small.le, decide_eq_true rfl]
        exact ih (k + 1) (by omega) (by omega) (by omega)

theorem shortest_natural (n : ℕ) (positive : 0 < n) (small : n < 2 ^ 53) : ∃ m s : ℕ, shortest n = ⟨m, s⟩ ∧ m * 10 ^ s = n := by
  have few : Nat.log 10 n < 16 := Nat.log_lt_of_lt_pow positive.ne' (small.trans (by norm_num))
  exact search_natural n positive small 17 1 (by omega) (by omega) (by omega)

theorem to_digits_shift (m s : ℕ) (positive : 0 < m) : Nat.toDigits 10 (m * 10 ^ s) = Nat.toDigits 10 m ++ List.replicate s '0' := by
  induction s with
  | zero => simp
  | succ s ih =>
      have large : 10 ≤ m * 10 ^ s * 10 := by
        have := Nat.mul_pos positive (Nat.pow_pos (n := s) (by omega : 0 < 10))
        omega
      rw [pow_succ, ← mul_assoc, Nat.toDigits_of_base_le (by norm_num) large, Nat.mul_div_cancel _ (by norm_num), Nat.mul_mod_left, ih,
        List.append_assoc, List.replicate_succ']
      rfl

theorem magnitude_text_natural (n : ℕ) (positive : 0 < n) (small : n < 2 ^ 53) : magnitudeText n = Nat.toDigits 10 n := by
  obtain ⟨m, s, found, value⟩ := shortest_natural n positive small
  have digits : 0 < m := Nat.pos_of_mul_pos_right (value ▸ positive)
  obtain ⟨k, split⟩ := significant_split ⟨m, s⟩
  have whole : Nat.toDigits 10 n = (Decimal.significant ⟨m, s⟩) ++ List.replicate (k + s) '0' := by
    rw [← value, to_digits_shift m s digits, split, List.append_assoc, List.replicate_append_replicate]
  have point : Decimal.point ⟨m, s⟩ = (Decimal.significant ⟨m, s⟩).length + (k + s : ℕ) := by
    rw [Decimal.point, split, List.length_append, List.length_replicate]
    push_cast
    ring
  have short : (Nat.toDigits 10 n).length ≤ 16 :=
    (Nat.length_toDigits_le_iff (by norm_num) (by norm_num)).mpr (small.trans (by norm_num))
  rw [magnitudeText, found, layout, point, if_pos, if_pos, whole]
  · congr 2
    omega
  · omega
  · rw [whole, List.length_append, List.length_replicate] at short
    omega

theorem digits_value_snoc (s : Str) (d : ℕ) (small : d < 10) : digitsValue (s ++ [digitUnit d]) = 10 * digitsValue s + d := by
  have digit : (digitUnit d).toNat - 0x30 = d := by interval_cases d <;> rfl
  rw [digitsValue, List.foldl_append, List.foldl_cons, List.foldl_nil, digit]
  rfl

theorem digits_value_radix (n : ℕ) : digitsValue (radixText 10 n) = n := by
  induction n using Nat.strongRecOn with
  | ind n ih =>
      by_cases below : n < 10
      · rw [radix_below 10 n (by omega) below]
        exact (digits_value_snoc [] n below).trans (Nat.zero_add n)
      · rw [radix_above 10 n (by omega) (by omega) (by omega), digits_value_snoc _ _ (Nat.mod_lt n (by omega)), ih (n / 10) (by omega)]
        exact Nat.div_add_mod n 10

theorem radix_leading (n : ℕ) (positive : 0 < n) :
    ∃ u rest, radixText 10 n = u :: rest ∧ inRange '1' '9' u = true ∧ ∀ v ∈ rest, inRange '0' '9' v = true := by
  have fits : n < 10 ^ (n + 1) := (Nat.lt_pow_self (by norm_num)).trans (Nat.pow_lt_pow_right (by norm_num) (Nat.lt_succ_self n))
  obtain ⟨first, rest, whole, ⟨u, rfl, lead⟩, _, _, digits⟩ := numeral_accepts n n positive fits
  exact ⟨u, rest, whole, lead, digits⟩

end Ecma
