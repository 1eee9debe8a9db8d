import Mathlib.Data.Int.Log
import Mathlib.Data.Rat.Floor
import Mathlib.Tactic.Linarith
import Mathlib.Tactic.Positivity
import Mathlib.Tactic.Ring
import Mathlib.Tactic.FieldSimp

set_option autoImplicit false

namespace Ecma

-- The finite binary64 values, as exact rationals. Zero is one of them; the
-- negative zero of the Number type is a constructor of its own below.
def IsDouble (q : ℚ) : Prop :=
  |q| < 2 ^ 1024 ∧ ∃ m e : ℤ, |m| < 2 ^ 53 ∧ -1074 ≤ e ∧ q = m * 2 ^ e

structure Double where
  value : ℚ
  isDouble : IsDouble value
deriving DecidableEq

inductive Number where
  | nan
  | infinity (negative : Bool)
  | negZero
  | finite (d : Double)
deriving DecidableEq

theorem two_zpow_pos (e : ℤ) : (0 : ℚ) < 2 ^ e := zpow_pos (by norm_num) e

theorem double_zero : IsDouble 0 := ⟨by norm_num, 0, 0, by norm_num, by norm_num, by norm_num⟩

def roundEven (q : ℚ) : ℤ :=
  let low := ⌊q⌋
  if q - low < 1 / 2 then low
  else if 1 / 2 < q - low then low + 1
  else if low % 2 = 0 then low else low + 1

theorem round_even_int (n : ℤ) : roundEven n = n := by
  simp [roundEven]

theorem round_even_bounds (q : ℚ) : ⌊q⌋ ≤ roundEven q ∧ roundEven q ≤ ⌊q⌋ + 1 := by
  simp only [roundEven]
  split_ifs <;> omega

theorem round_even_abs (q : ℚ) (bound : ℤ) (small : |q| < bound) : |roundEven q| ≤ bound := by
  obtain ⟨lower, upper⟩ := abs_lt.mp small
  obtain ⟨low, high⟩ := round_even_bounds q
  have floorLower : -bound ≤ ⌊q⌋ := Int.le_floor.mpr (by push_cast; linarith)
  have floorUpper : ⌊q⌋ < bound := Int.floor_lt.mpr upper
  exact abs_le.mpr ⟨by omega, by omega⟩

def exponent (q : ℚ) : ℤ := max (Int.log 2 |q| - 52) (-1074)

def nearest (q : ℚ) : ℚ := roundEven (q / 2 ^ exponent q) * 2 ^ exponent q

theorem scaled_small (q : ℚ) : |q / 2 ^ exponent q| < (2 ^ 53 : ℤ) := by
  have scale := two_zpow_pos (exponent q)
  have upper := Int.lt_zpow_succ_log_self (b := 2) (by norm_num) |q|
  have exponentBound : Int.log 2 |q| + 1 ≤ 53 + exponent q := by
    have := le_max_left (Int.log 2 |q| - 52) (-1074)
    simp only [exponent]
    omega
  have step : |q| < 2 ^ (53 + exponent q) :=
    lt_of_lt_of_le upper (by exact_mod_cast zpow_le_zpow_right₀ (by norm_num : (1 : ℚ) ≤ 2) exponentBound)
  rw [abs_div, abs_of_pos scale, div_lt_iff₀ scale]
  calc |q| < 2 ^ (53 + exponent q) := step
    _ = ((2 ^ 53 : ℤ) : ℚ) * 2 ^ exponent q := by rw [zpow_add₀ (by norm_num)]; norm_num

theorem nearest_dyadic (q : ℚ) : ∃ m e : ℤ, |m| < 2 ^ 53 ∧ -1074 ≤ e ∧ nearest q = m * 2 ^ e := by
  have lowest : -1074 ≤ exponent q := le_max_right _ _
  rcases lt_or_eq_of_le (round_even_abs _ _ (scaled_small q)) with small | carry
  · exact ⟨_, _, small, lowest, rfl⟩
  · -- Rounding up to 2^53 moves to the next binade, where the significand is even.
    have half : roundEven (q / 2 ^ exponent q) = 2 ^ 52 * 2 ∨ roundEven (q / 2 ^ exponent q) = -2 ^ 52 * 2 := by
      rcases abs_choice (roundEven (q / 2 ^ exponent q)) with same | flipped
      · exact .inl (by rw [← same, carry]; norm_num)
      · exact .inr (by rw [flipped] at carry; omega)
    rcases half with value | value
    · refine ⟨2 ^ 52, exponent q + 1, by norm_num, by omega, ?_⟩
      rw [nearest, value, zpow_add_one₀ (by norm_num)]
      push_cast
      ring
    · refine ⟨-2 ^ 52, exponent q + 1, by norm_num, by omega, ?_⟩
      rw [nearest, value, zpow_add_one₀ (by norm_num)]
      push_cast
      ring

theorem nearest_double (q : ℚ) (double : IsDouble q) : nearest q = q := by
  obtain ⟨_, m, e, small, lowest, value⟩ := double
  rcases eq_or_ne m 0 with zero | nonzero
  · have qZero : q = 0 := by rw [value, zero]; norm_num
    simp [nearest, qZero, roundEven]
  · have positive : 0 < |q| := by
      rw [value]
      exact abs_pos.mpr (mul_ne_zero (by exact_mod_cast nonzero) (two_zpow_pos e).ne')
    have below : |q| < (2 : ℕ) ^ (53 + e) := by
      rw [value, abs_mul, abs_of_pos (two_zpow_pos e), Nat.cast_ofNat, zpow_add₀ (by norm_num)]
      refine mul_lt_mul_of_pos_right ?_ (two_zpow_pos e)
      exact_mod_cast small
    have logBound := (Int.lt_zpow_iff_log_lt (by norm_num) positive).mp below
    have exponentBound : exponent q ≤ e := max_le (by omega) lowest
    have exact : q / 2 ^ exponent q = ((m * 2 ^ (e - exponent q).toNat : ℤ) : ℚ) := by
      have lift : ((e - exponent q).toNat : ℤ) = e - exponent q := by omega
      have power : (2 : ℚ) ^ (e - exponent q).toNat = 2 ^ e / 2 ^ exponent q := by
        rw [← zpow_natCast, lift, zpow_sub₀ (by norm_num)]
      push_cast
      rw [power, value]
      ring
    rw [nearest, exact, round_even_int, ← exact]
    exact div_mul_cancel₀ q (two_zpow_pos _).ne'

-- The Number value of an exact rational: nearest, ties to even, and infinity
-- from 2^1024 on.
def numberOf (q : ℚ) : Number :=
  if bounded : |nearest q| < 2 ^ 1024 then .finite ⟨nearest q, bounded, nearest_dyadic q⟩
  else .infinity (decide (q < 0))

theorem number_of_double (d : Double) : numberOf d.value = .finite d := by
  have same := nearest_double d.value d.isDouble
  simp only [numberOf, same, dif_pos d.isDouble.1]

theorem small_int_double (n : ℤ) (small : |n| ≤ 2 ^ 53) : IsDouble n := by
  have bound : |(n : ℚ)| < 2 ^ 1024 := by
    have : |(n : ℚ)| ≤ 2 ^ 53 := by exact_mod_cast small
    exact lt_of_le_of_lt this (pow_lt_pow_right₀ (by norm_num) (by norm_num))
  refine ⟨bound, ?_⟩
  rcases lt_or_eq_of_le small with less | top
  · exact ⟨n, 0, less, by norm_num, by simp⟩
  · rcases abs_choice n with same | flipped
    · exact ⟨2 ^ 52, 1, by norm_num, by norm_num, by rw [← same, top]; norm_num⟩
    · exact ⟨-2 ^ 52, 1, by norm_num, by norm_num, by
        have : n = -2 ^ 53 := by omega
        rw [this]; norm_num⟩

theorem double_neg (d : Double) : IsDouble (-d.value) := by
  obtain ⟨bound, m, e, small, lowest, value⟩ := d.isDouble
  exact ⟨by rwa [abs_neg], -m, e, by rwa [abs_neg], lowest, by rw [value]; push_cast; ring⟩

namespace Number

def zero : Number := .finite ⟨0, double_zero⟩

def ofInt (n : ℤ) : Number := numberOf n

def negate : Number → Number
  | .nan => .nan
  | .infinity negative => .infinity !negative
  | .negZero => zero
  | .finite d => if d.value = 0 then .negZero else .finite ⟨-d.value, double_neg d⟩

def rational : Number → Option ℚ
  | .nan | .infinity _ => none
  | .negZero => some 0
  | .finite d => some d.value

-- x === y. NaN equals nothing and the two zeros are equal.
def strictEquals (x y : Number) : Bool :=
  match x, y with
  | .nan, _ | _, .nan => false
  | .infinity a, .infinity b => a = b
  | x, y => x.rational.isSome && x.rational = y.rational

def below (x : Number) (bound : ℚ) : Bool :=
  match x with
  | .nan => false
  | .infinity negative => negative
  | .negZero => 0 < bound
  | .finite d => d.value < bound

def above (x : Number) (bound : ℚ) : Bool :=
  match x with
  | .nan => false
  | .infinity negative => !negative
  | .negZero => bound < 0
  | .finite d => bound < d.value

def less (x y : Number) : Bool :=
  match y with
  | .nan => false
  | .infinity true => false
  | .infinity false => x ≠ .nan && x ≠ .infinity false
  | .negZero => x.below 0
  | .finite d => x.below d.value

def isInteger (x : Number) : Bool :=
  match x.rational with
  | none => false
  | some q => q.den = 1

def isSafeInteger (x : Number) : Bool :=
  match x.rational with
  | none => false
  | some q => q.den = 1 ∧ |q| ≤ 9007199254740991

def increment : Number → Number
  | .nan => .nan
  | .infinity negative => .infinity negative
  | .negZero => ofInt 1
  | .finite d => numberOf (d.value + 1)

-- A JSON numeral is a magnitude behind an optional minus sign; the sign is
-- applied to the rounded magnitude, so "-0" is the negative zero.
def ofNumeral (negative : Bool) (magnitude : ℚ) : Number :=
  if negative then (numberOf magnitude).negate else numberOf magnitude

theorem of_int_small (n : ℤ) (small : |n| ≤ 2 ^ 53) : ofInt n = .finite ⟨n, small_int_double n small⟩ :=
  number_of_double ⟨n, small_int_double n small⟩

end Number

theorem below_rational (x : Number) (q bound : ℚ) (value : x.rational = some q) : x.below bound = decide (q < bound) := by
  cases x with
  | nan => cases value
  | infinity negative => cases value
  | negZero =>
      obtain rfl : (0 : ℚ) = q := Option.some.inj value
      rfl
  | finite d =>
      obtain rfl : d.value = q := Option.some.inj value
      rfl

theorem above_rational (x : Number) (q bound : ℚ) (value : x.rational = some q) : x.above bound = decide (bound < q) := by
  cases x with
  | nan => cases value
  | infinity negative => cases value
  | negZero =>
      obtain rfl : (0 : ℚ) = q := Option.some.inj value
      rfl
  | finite d =>
      obtain rfl : d.value = q := Option.some.inj value
      rfl

theorem integer_rational (x : Number) (integer : x.isInteger = true) : ∃ q, x.rational = some q ∧ q.den = 1 := by
  cases value : x.rational with
  | none => simp [Number.isInteger, value] at integer
  | some q => exact ⟨q, rfl, by simpa [Number.isInteger, value] using integer⟩

theorem less_rational (x y : Number) (p q : ℚ) (left : x.rational = some p) (right : y.rational = some q) :
    x.less y = decide (p < q) := by
  cases y with
  | nan => cases right
  | infinity negative => cases right
  | negZero =>
      obtain rfl : (0 : ℚ) = q := Option.some.inj right
      exact below_rational x p 0 left
  | finite d =>
      obtain rfl : d.value = q := Option.some.inj right
      exact below_rational x p d.value left

theorem safe_rational (x : Number) : x.isSafeInteger = true ↔ ∃ n : ℤ, x.rational = some (n : ℚ) ∧ |n| ≤ 9007199254740991 := by
  constructor
  · intro safe
    cases value : x.rational with
    | none => simp [Number.isSafeInteger, value] at safe
    | some q =>
        simp only [Number.isSafeInteger, value, decide_eq_true_eq] at safe
        have whole : ((q.num : ℤ) : ℚ) = q := Rat.coe_int_num_of_den_eq_one safe.1
        refine ⟨q.num, by rw [whole], ?_⟩
        rw [← whole] at safe
        exact_mod_cast safe.2
  · rintro ⟨n, value, small⟩
    simp only [Number.isSafeInteger, value, decide_eq_true_eq]
    exact ⟨rfl, by exact_mod_cast small⟩

theorem equal_rational (x y : Number) (q : ℚ) (value : y.rational = some q) : x.strictEquals y = true ↔ x.rational = some q := by
  cases y with
  | nan => cases value
  | infinity negative => cases value
  | negZero => cases x <;> simp_all [Number.strictEquals, Number.rational]
  | finite d => cases x <;> simp_all [Number.strictEquals, Number.rational]

theorem of_int_rational (n : ℤ) (small : |n| ≤ 2 ^ 53) : (Number.ofInt n).rational = some (n : ℚ) := by
  rw [Number.of_int_small n small]
  rfl

theorem increment_int (x : Number) (n : ℤ) (value : x.rational = some (n : ℚ)) : x.increment = Number.ofInt (n + 1) := by
  cases x with
  | nan => cases value
  | infinity negative => cases value
  | negZero =>
      have zero : (0 : ℚ) = n := Option.some.inj value
      have zero : n = 0 := by exact_mod_cast zero.symm
      rw [zero]
      rfl
  | finite d =>
      have same : d.value = n := Option.some.inj value
      rw [Number.increment, same, Number.ofInt]
      push_cast
      rfl

end Ecma
