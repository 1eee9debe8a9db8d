import N2F.Ecma.Pattern
import Mathlib.Data.List.Induction
import Mathlib.Data.List.TakeWhile

set_option autoImplicit false

namespace Ecma

def digits (base : ℕ) : ℕ → ℕ → List ℕ
  | 0, _ => []
  | width + 1, n => digits base width (n / base) ++ [n % base]

def positional (base : ℕ) (ds : List ℕ) : ℕ := ds.foldl (fun n d => n * base + d) 0

theorem digits_length (base width n : ℕ) : (digits base width n).length = width := by
  induction width generalizing n with
  | zero => rfl
  | succ width ih => simp [digits, ih]

theorem digits_below (base width n : ℕ) (positive : 0 < base) : ∀ d ∈ digits base width n, d < base := by
  induction width generalizing n with
  | zero => simp [digits]
  | succ width ih =>
      intro d member
      rcases List.mem_append.mp member with high | low
      · exact ih (n / base) d high
      · rw [List.mem_singleton.mp low]
        exact Nat.mod_lt n positive

theorem digits_append (base high low n : ℕ) :
    digits base (high + low) n = digits base high (n / base ^ low) ++ digits base low n := by
  induction low generalizing n with
  | zero => simp [digits]
  | succ low ih =>
      have split : n / base / base ^ low = n / base ^ (low + 1) := by rw [Nat.div_div_eq_div_mul, pow_succ']
      rw [← Nat.add_assoc, digits, ih, split, digits, List.append_assoc]

theorem digits_zero (base width : ℕ) : digits base width 0 = List.replicate width 0 := by
  induction width with
  | zero => rfl
  | succ width ih => rw [digits, Nat.zero_div, ih, Nat.zero_mod, List.replicate_succ']

theorem digits_mod (base width n : ℕ) : digits base width n = digits base width (n % base ^ width) := by
  induction width generalizing n with
  | zero => rfl
  | succ width ih =>
      have high : n % base ^ (width + 1) / base = n / base % base ^ width := by
        rw [pow_succ', Nat.mod_mul_right_div_self]
      have low : n % base ^ (width + 1) % base = n % base := Nat.mod_mod_of_dvd n (Dvd.intro_left _ (pow_succ base width).symm)
      rw [digits, digits, high, low, ← ih]

theorem positional_append (base : ℕ) (ds : List ℕ) (d : ℕ) : positional base (ds ++ [d]) = positional base ds * base + d := by
  simp [positional]

theorem positional_digits (base width n : ℕ) (fits : n < base ^ width) : positional base (digits base width n) = n := by
  induction width generalizing n with
  | zero =>
      have zero : n = 0 := by simpa using fits
      simp [digits, positional, zero]
  | succ width ih =>
      rw [digits, positional_append, ih (n / base) (Nat.div_lt_of_lt_mul (by rwa [pow_succ'] at fits))]
      exact Nat.div_add_mod' n base

section order

variable {α : Type} [LT α]

theorem field_less (first second : List α) (a b : List α) (width : first.length = second.length) (less : first < second) :
    first ++ a < second ++ b := by
  induction less with
  | nil => simp at width
  | rel here => exact .rel here
  | cons _ ih => exact .cons (ih (by simpa using width))

theorem less_map {β : Type} [LT β] (f : α → β) (first second : List α)
    (mono : ∀ a ∈ first, ∀ b ∈ second, a < b → f a < f b) (less : first < second) : first.map f < second.map f := by
  induction less with
  | nil => exact .nil
  | rel here => exact .rel (mono _ (by simp) _ (by simp) here)
  | cons _ ih => exact .cons (ih fun a left b right => mono a (by simp [left]) b (by simp [right]))

end order

theorem digits_less (base width a b : ℕ) (less : a < b) (fits : b < base ^ width) :
    digits base width a < digits base width b := by
  induction width generalizing a b with
  | zero =>
      simp only [pow_zero] at fits
      omega
  | succ width ih =>
      have high : b / base < base ^ width := Nat.div_lt_of_lt_mul (by rwa [pow_succ'] at fits)
      rcases lt_or_eq_of_le (Nat.div_le_div_right (c := base) less.le) with below | same
      · apply field_less
        · rw [digits_length, digits_length]
        · exact ih _ _ below high
      · rw [digits, digits, same]
        apply List.append_left_lt
        have whole := Nat.div_add_mod a base
        have whole' := Nat.div_add_mod b base
        rw [same] at whole
        exact .rel (by omega)

def digitUnit (d : ℕ) : UInt16 := UInt16.ofNat (Nat.digitChar d).toNat

-- n.toString(base)
def radixText (base n : ℕ) : Str := (Nat.toDigits base n).flatMap unitsOf

-- s.padStart(width, fill)
def padStart (width : ℕ) (fill : UInt16) (s : Str) : Str := s.leftpad width fill

def unitValue (u : UInt16) : Option ℕ := hexValue (Char.ofNat u.toNat)

-- Number.parseInt(s, 16) on a text without blanks, sign or 0x before its digits;
-- none is NaN.
def parseHex (s : Str) : Option ℕ :=
  match (s.takeWhile fun u => (unitValue u).isSome).filterMap unitValue with
  | [] => none
  | ds => some (positional 16 ds)

theorem digit_units (d : ℕ) (small : d < 16) : unitsOf (Nat.digitChar d) = [digitUnit d] := by
  interval_cases d <;> rfl

theorem unit_value_digit (d : ℕ) (small : d < 16) : unitValue (digitUnit d) = some d := by
  interval_cases d <;> rfl

theorem digit_unit_less (a b : ℕ) (small : b < 16) (less : a < b) : digitUnit a < digitUnit b := by
  interval_cases b <;> interval_cases a <;> decide

theorem radix_below (base n : ℕ) (small : base ≤ 16) (below : n < base) : radixText base n = [digitUnit n] := by
  simp [radixText, Nat.toDigits_of_lt_base below, digit_units n (by omega)]

theorem radix_above (base n : ℕ) (large : 1 < base) (small : base ≤ 16) (above : base ≤ n) :
    radixText base n = radixText base (n / base) ++ [digitUnit (n % base)] := by
  have low : n % base < 16 := lt_of_lt_of_le (Nat.mod_lt n (by omega)) small
  simp [radixText, Nat.toDigits_of_base_le large above, digit_units _ low]

theorem radix_padded (base width n : ℕ) (large : 1 < base) (small : base ≤ 16) (fits : n < base ^ (width + 1)) :
    padStart (width + 1) (digitUnit 0) (radixText base n) = (digits base (width + 1) n).map digitUnit := by
  induction width generalizing n with
  | zero =>
      have below : n < base := by simpa using fits
      rw [radix_below base n small below]
      simp [padStart, digits, Nat.mod_eq_of_lt below]
  | succ width ih =>
      by_cases below : n < base
      · rw [radix_below base n small below]
        simp [padStart, digits.eq_def base (width + 2), Nat.div_eq_of_lt below, Nat.mod_eq_of_lt below, digits_zero]
      · have high : n / base < base ^ (width + 1) := Nat.div_lt_of_lt_mul (by rwa [pow_succ'] at fits)
        rw [radix_above base n large small (by omega), digits, List.map_append, ← ih (n / base) high]
        simp [padStart]

theorem unit_values (ds : List ℕ) (small : ∀ d ∈ ds, d < 16) : (ds.map digitUnit).filterMap unitValue = ds := by
  induction ds with
  | nil => rfl
  | cons d rest ih =>
      have later := ih fun e member => small e (by simp [member])
      rw [List.map_cons, List.filterMap_cons, unit_value_digit d (small d (by simp)), later]

theorem parse_hex_digits (ds : List ℕ) (small : ∀ d ∈ ds, d < 16) (nonempty : ds ≠ []) :
    parseHex (ds.map digitUnit) = some (positional 16 ds) := by
  have whole : (ds.map digitUnit).takeWhile (fun u => (unitValue u).isSome) = ds.map digitUnit := by
    apply List.takeWhile_eq_self_iff.mpr
    intro u member
    obtain ⟨d, inside, rfl⟩ := List.mem_map.mp member
    simp [unit_value_digit d (small d inside)]
  rw [parseHex, whole, unit_values ds small]
  cases ds with
  | nil => exact absurd rfl nonempty
  | cons d rest => rfl

-- [1-9][0-9]{0,more}
def numeralPattern (more : ℕ) : Pattern := .seq (.unit (inRange '1' '9')) (.run (inRange '0' '9') 0 more)

theorem digit_unit_range (u : UInt16) : inRange '0' '9' u = true ↔ ∃ d, d < 10 ∧ u = digitUnit d := by
  constructor
  · intro inside
    simp only [inRange, Bool.and_eq_true, decide_eq_true_eq] at inside
    have low : 48 ≤ u.toNat := inside.1
    have high : u.toNat ≤ 57 := inside.2
    refine ⟨u.toNat - 48, by omega, UInt16.toNat_inj.mp ?_⟩
    generalize digit : u.toNat - 48 = d
    have small : d < 10 := by omega
    have value : u.toNat = d + 48 := by omega
    rw [value]
    interval_cases d <;> rfl
  · rintro ⟨d, small, rfl⟩
    interval_cases d <;> rfl

theorem leading_unit_range (u : UInt16) : inRange '1' '9' u = true ↔ ∃ d, 0 < d ∧ d < 10 ∧ u = digitUnit d := by
  constructor
  · intro inside
    simp only [inRange, Bool.and_eq_true, decide_eq_true_eq] at inside
    have low : 49 ≤ u.toNat := inside.1
    have high : u.toNat ≤ 57 := inside.2
    have digit : inRange '0' '9' u = true := by
      simp only [inRange, Bool.and_eq_true, decide_eq_true_eq]
      exact ⟨show 48 ≤ u.toNat by omega, high⟩
    obtain ⟨d, small, rfl⟩ := (digit_unit_range u).mp digit
    refine ⟨d, Nat.pos_of_ne_zero fun zero => ?_, small, rfl⟩
    subst zero
    exact absurd low (by decide)
  · rintro ⟨d, positive, small, rfl⟩
    interval_cases d <;> rfl

theorem radix_digits (n : ℕ) : ∀ u ∈ radixText 10 n, inRange '0' '9' u = true := by
  induction n using Nat.strongRecOn with
  | ind n ih =>
      intro u member
      by_cases below : n < 10
      · rw [radix_below 10 n (by omega) below, List.mem_singleton] at member
        exact (digit_unit_range u).mpr ⟨n, below, member⟩
      · rw [radix_above 10 n (by omega) (by omega) (by omega), List.mem_append, List.mem_singleton] at member
        rcases member with high | low
        · exact ih (n / 10) (by omega) u high
        · exact (digit_unit_range u).mpr ⟨n % 10, by omega, low⟩

theorem numeral_snoc (more : ℕ) (s : Str) (d : ℕ) (small : d < 10) (accepted : (numeralPattern more).Accepts s) :
    (numeralPattern (more + 1)).Accepts (s ++ [digitUnit d]) := by
  obtain ⟨first, rest, rfl, lead, _, short, digits⟩ := accepted
  refine ⟨first, rest ++ [digitUnit d], List.append_assoc .., lead, Nat.zero_le _, ?_, ?_⟩
  · rw [List.length_append]
    exact Nat.succ_le_succ short
  · intro u member
    rcases List.mem_append.mp member with old | new
    · exact digits u old
    · exact (digit_unit_range u).mpr ⟨d, small, List.mem_singleton.mp new⟩

theorem numeral_single (more n : ℕ) (positive : 0 < n) (below : n < 10) : (numeralPattern more).Accepts (radixText 10 n) := by
  rw [radix_below 10 n (by omega) below]
  have lead : inRange '1' '9' (digitUnit n) = true := (leading_unit_range _).mpr ⟨n, positive, below, rfl⟩
  refine ⟨[digitUnit n], [], rfl, ⟨digitUnit n, rfl, lead⟩, Nat.zero_le _, Nat.zero_le _, ?_⟩
  intro u member
  cases member

theorem numeral_accepts (more n : ℕ) (positive : 0 < n) (fits : n < 10 ^ (more + 1)) :
    (numeralPattern more).Accepts (radixText 10 n) := by
  induction more generalizing n with
  | zero => exact numeral_single 0 n positive (by simpa using fits)
  | succ more ih =>
      by_cases below : n < 10
      · exact numeral_single (more + 1) n positive below
      · have high : n / 10 < 10 ^ (more + 1) := Nat.div_lt_of_lt_mul (by rwa [pow_succ'] at fits)
        rw [radix_above 10 n (by omega) (by omega) (by omega)]
        exact numeral_snoc more _ (n % 10) (by omega) (ih (n / 10) (by omega) high)

theorem numeral_of_digits (rest : Str) (u : UInt16) (lead : inRange '1' '9' u = true) (digits : ∀ v ∈ rest, inRange '0' '9' v = true) :
    ∃ n, 0 < n ∧ n < 10 ^ (rest.length + 1) ∧ u :: rest = radixText 10 n := by
  induction rest using List.reverseRecOn with
  | nil =>
      obtain ⟨d, positive, below, rfl⟩ := (leading_unit_range u).mp lead
      exact ⟨d, positive, by simpa using below, (radix_below 10 d (by omega) below).symm⟩
  | append_singleton rest v ih =>
      obtain ⟨n, positive, fits, same⟩ := ih fun w member => digits w (List.mem_append_left _ member)
      obtain ⟨d, below, rfl⟩ := (digit_unit_range v).mp (digits v (by simp))
      refine ⟨n * 10 + d, by omega, ?_, ?_⟩
      · rw [List.length_append, List.length_singleton, pow_succ]
        omega
      · have high : (n * 10 + d) / 10 = n := by omega
        have low : (n * 10 + d) % 10 = d := by omega
        rw [radix_above 10 (n * 10 + d) (by omega) (by omega) (by omega), high, low, ← same]
        rfl

theorem numeral_accepts_iff (more : ℕ) (s : Str) :
    (numeralPattern more).Accepts s ↔ ∃ n, 0 < n ∧ n < 10 ^ (more + 1) ∧ s = radixText 10 n := by
  constructor
  · rintro ⟨first, rest, rfl, ⟨u, rfl, lead⟩, _, short, digits⟩
    obtain ⟨n, positive, fits, same⟩ := numeral_of_digits rest u lead digits
    exact ⟨n, positive, lt_of_lt_of_le fits (Nat.pow_le_pow_right (by omega) (by omega)), same⟩
  · rintro ⟨n, positive, fits, rfl⟩
    exact numeral_accepts more n positive fits

end Ecma
