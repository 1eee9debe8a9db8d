import Mathlib.Data.List.DropRight
import N2F.Ecma.Number

set_option autoImplicit false

namespace Ecma

structure Decimal where
  digits : ℕ
  scale : ℤ

def Decimal.value (d : Decimal) : ℚ := d.digits * 10 ^ d.scale

-- The two decimals with k significant digits around a positive x, nearer first, and
-- where both are as near the one with the even digits.
def decimalsAt (x : ℚ) (k : ℕ) : List Decimal :=
  let scale := Int.log 10 x + 1 - k
  let low := ⌊x / 10 ^ scale⌋.toNat
  if roundEven (x / 10 ^ scale) = low then [⟨low, scale⟩, ⟨low + 1, scale⟩] else [⟨low + 1, scale⟩, ⟨low, scale⟩]

def exactDecimal (x : ℚ) : Decimal := ⟨(x * 2 ^ 1074).num.toNat * 5 ^ 1074, -1074⟩

-- Number::toString takes the least k for which a decimal of k digits rounds to
-- x. Seventeen digits always do; the exact expansion only closes the recursion.
def searchDecimal (x : ℚ) : ℕ → ℕ → Decimal
  | 0, _ => exactDecimal x
  | fuel + 1, k =>
      match (decimalsAt x k).find? (fun d => nearest d.value = x) with
      | some d => d
      | none => searchDecimal x fuel (k + 1)

def shortest (x : ℚ) : Decimal := searchDecimal x 17 1

theorem scaled_decimal (x : ℚ) (n : ℕ) (whole : ((x * 2 ^ n).num.toNat : ℚ) = x * 2 ^ n) :
    Decimal.value ⟨(x * 2 ^ n).num.toNat * 5 ^ n, -n⟩ = x := by
  have ten : (10 : ℚ) ^ n = 2 ^ n * 5 ^ n := by rw [← mul_pow]; norm_num
  simp only [Decimal.value, zpow_neg, zpow_natCast]
  push_cast
  rw [whole, ten]
  field_simp

theorem scaled_integral (m e : ℤ) (n : ℕ) (lowest : -n ≤ e) :
    (m * 2 ^ e * 2 ^ n : ℚ) = ((m * 2 ^ (e + n).toNat : ℤ) : ℚ) := by
  have lift : ((e + n).toNat : ℤ) = e + n := by omega
  have power : (2 : ℚ) ^ (e + n).toNat = 2 ^ e * 2 ^ n := by
    rw [← zpow_natCast, lift, zpow_add₀ (by norm_num), zpow_natCast]
  push_cast
  rw [power]
  ring

theorem exact_decimal_value (x : ℚ) (positive : 0 < x) (double : IsDouble x) : (exactDecimal x).value = x := by
  obtain ⟨_, m, e, _, lowest, value⟩ := double
  have integral := scaled_integral m e 1074 lowest
  rw [← value] at integral
  refine scaled_decimal x 1074 ?_
  have scaled : 0 < x * 2 ^ 1074 := mul_pos positive (pow_pos (by norm_num) _)
  rw [integral] at scaled ⊢
  rw [Rat.num_intCast, ← Int.cast_natCast, Int.toNat_of_nonneg (by exact_mod_cast scaled.le)]

theorem search_decimal_rounds (x : ℚ) (positive : 0 < x) (double : IsDouble x) (fuel k : ℕ) :
    nearest (searchDecimal x fuel k).value = x := by
  induction fuel generalizing k with
  | zero =>
      rw [searchDecimal, exact_decimal_value x positive double]
      exact nearest_double x double
  | succ fuel ih =>
      rw [searchDecimal]
      split
      · rename_i d found
        simpa using List.find?_some found
      · exact ih (k + 1)

theorem shortest_rounds (x : ℚ) (positive : 0 < x) (double : IsDouble x) : nearest (shortest x).value = x :=
  search_decimal_rounds x positive double 17 1

-- A tie.
example : (decimalsAt (3 / 2 ^ 24) 17).map Decimal.digits = [17881393432617188, 17881393432617187] := by decide +kernel

theorem nearest_zero : nearest 0 = 0 := nearest_double 0 double_zero

theorem shortest_positive (x : ℚ) (positive : 0 < x) (double : IsDouble x) : 0 < (shortest x).digits := by
  by_contra zero
  have same := shortest_rounds x positive double
  have value : (shortest x).value = 0 := by
    have : (shortest x).digits = 0 := by omega
    simp [Decimal.value, this]
  rw [value, nearest_zero] at same
  exact positive.ne same

def Decimal.significant (d : Decimal) : List Char := (Nat.toDigits 10 d.digits).rdropWhile (· = '0')

def Decimal.point (d : Decimal) : ℤ := (Nat.toDigits 10 d.digits).length + d.scale

end Ecma
