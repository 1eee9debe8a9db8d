import N2F.Ecma.Json
import N2F.Ecma.Numeral

set_option autoImplicit false

namespace Ecma

def Printable (cs : List Char) : Prop := ∀ c ∈ cs, 0x20 ≤ c.toNat

def Visible (cs : List Char) : Prop := ∀ c ∈ cs, 0x20 ≤ c.toNat ∧ c.toNat ≤ 0x7E

instance (cs : List Char) : Decidable (Visible cs) :=
  decidable_of_iff (cs.all (fun c => decide (0x20 ≤ c.toNat ∧ c.toNat ≤ 0x7E)) = true) (by simp [Visible])

theorem visible_printable (cs : List Char) (visible : Visible cs) : Printable cs := fun c member => (visible c member).1

theorem printable_append (xs ys : List Char) (left : Printable xs) (right : Printable ys) : Printable (xs ++ ys) :=
  List.forall_mem_append.mpr ⟨left, right⟩

theorem printable_cons (c : Char) (cs : List Char) (head : 0x20 ≤ c.toNat) (tail : Printable cs) : Printable (c :: cs) :=
  List.forall_mem_cons.mpr ⟨head, tail⟩

theorem visible_append (xs ys : List Char) (left : Visible xs) (right : Visible ys) : Visible (xs ++ ys) :=
  List.forall_mem_append.mpr ⟨left, right⟩

theorem visible_cons (c : Char) (cs : List Char) (head : 0x20 ≤ c.toNat ∧ c.toNat ≤ 0x7E) (tail : Visible cs) : Visible (c :: cs) :=
  List.forall_mem_cons.mpr ⟨head, tail⟩

theorem visible_nil : Visible [] := fun _ none => absurd none List.not_mem_nil

theorem digit_char_visible (n : ℕ) (small : n < 16) : 0x20 ≤ n.digitChar.toNat ∧ n.digitChar.toNat ≤ 0x7E := by
  interval_cases n <;> decide

theorem to_digits_visible (base n : ℕ) (large : 1 < base) (most : base ≤ 16) : Visible (Nat.toDigits base n) := by
  induction n using Nat.strong_induction_on with
  | _ n ih =>
      rw [Nat.toDigits_eq_if large]
      split_ifs with below
      · exact visible_cons _ [] (digit_char_visible n (by omega)) visible_nil
      · have less : n / base < n := Nat.div_lt_self (by omega) large
        have digit : n % base < base := Nat.mod_lt n (by omega)
        exact visible_append _ _ (ih _ less) (visible_cons _ [] (digit_char_visible _ (by omega)) visible_nil)

theorem leftpad_visible (width : ℕ) (cs : List Char) (visible : Visible cs) : Visible (cs.leftpad width '0') := by
  refine visible_append _ _ (fun c member => ?_) visible
  rw [List.eq_of_mem_replicate member]
  decide

theorem hex_escape_visible (u : UInt16) : Visible (hexEscape u) := by
  have bound := u.toNat_lt
  exact visible_cons _ _ (by decide) (visible_cons _ _ (by decide)
    (visible_cons _ _ (digit_char_visible _ (by omega)) (visible_cons _ _ (digit_char_visible _ (by omega))
      (visible_cons _ _ (digit_char_visible _ (by omega)) (visible_cons _ _ (digit_char_visible _ (by omega)) visible_nil)))))

theorem quote_unit_printable (u : UInt16) : Printable (quoteUnit u) := by
  have short (c : Char) (visible : Visible ['\\', c]) : Printable ['\\', c] := visible_printable _ visible
  rw [quoteUnit]
  split_ifs with b t n f r q s special
  · exact short 'b' (by decide)
  · exact short 't' (by decide)
  · exact short 'n' (by decide)
  · exact short 'f' (by decide)
  · exact short 'r' (by decide)
  · exact short '"' (by decide)
  · exact short '\\' (by decide)
  · exact visible_printable _ (hex_escape_visible u)
  · simp only [Bool.or_eq_true, not_or, Bool.not_eq_true, decide_eq_false_iff_not, Nat.not_lt] at special
    obtain ⟨⟨large, notHigh⟩, notLow⟩ := special
    refine printable_cons _ [] ?_ (visible_printable _ visible_nil)
    rwa [unit_char_value u notHigh notLow]

theorem pair_char_printable (high low : UInt16) (first : isHigh high = true) (second : isLow low = true) :
    0x20 ≤ (pairChar high low).toNat := by
  simp only [isHigh, isLow, Bool.and_eq_true, decide_eq_true_eq] at first second
  have valid : (0x10000 + (high.toNat - 0xD800) * 0x400 + (low.toNat - 0xDC00)).isValidChar := by
    right
    omega
  rw [pairChar, char_of_valid _ valid]
  omega

theorem quote_units_printable (s : Str) : Printable (quoteUnits s) := by
  fun_induction quoteUnits s with
  | case1 => exact visible_printable _ visible_nil
  | case2 u => exact quote_unit_printable u
  | case3 u v rest pair ih =>
      obtain ⟨first, second⟩ := Bool.and_eq_true_iff.mp pair
      exact printable_cons _ _ (pair_char_printable u v first second) ih
  | case4 u v rest single ih => exact printable_append _ _ (quote_unit_printable u) ih

theorem quote_printable (s : Str) : Printable (quote s) :=
  printable_cons _ _ (by decide) (printable_append _ _ (quote_units_printable s) (visible_printable _ (by decide)))

theorem digits_visible (ds : List Char) (digits : AllDigits ds) : Visible ds := by
  intro c member
  have range := digits c member
  simp only [Char.isDigit, Bool.and_eq_true, decide_eq_true_eq, UInt32.le_iff_toNat_le] at range
  exact ⟨Nat.le_trans (by decide) range.1, Nat.le_trans range.2 (by decide)⟩

theorem zeros_visible (n : ℕ) : Visible (List.replicate n '0') := by
  intro c member
  rw [List.eq_of_mem_replicate member]
  decide

theorem power_text_visible (e : ℤ) : Visible (powerText e) := by
  refine visible_cons _ _ (by decide) (visible_cons _ _ ?_ (to_digits_visible 10 _ (by decide) (by decide)))
  split_ifs <;> decide

theorem layout_visible (ds : List Char) (n : ℤ) (visible : Visible ds) : Visible (layout ds n) := by
  have front (k : ℕ) : Visible (ds.take k) := fun c member => visible c (List.mem_of_mem_take member)
  have back (k : ℕ) : Visible (ds.drop k) := fun c member => visible c (List.mem_of_mem_drop member)
  have point : 0x20 ≤ '.'.toNat ∧ '.'.toNat ≤ 0x7E := by decide
  rw [layout]
  split_ifs
  · exact visible_append _ _ visible (zeros_visible _)
  · exact visible_append _ _ (front _) (visible_cons _ _ point (back _))
  · exact visible_cons _ _ (by decide) (visible_cons _ _ point (visible_append _ _ (zeros_visible _) visible))
  · exact visible_append _ _ visible (power_text_visible _)
  · exact visible_append _ _ (front 1) (visible_cons _ _ point (visible_append _ _ (back 1) (power_text_visible _)))

theorem magnitude_visible (x : ℚ) : Visible (magnitudeText x) := layout_visible _ _ (digits_visible _ (significant_digits _))

theorem number_text_visible (n : Number) : Visible n.text := by
  cases n with
  | nan => exact (by decide : Visible "NaN".toList)
  | infinity negative =>
      cases negative with
      | false => exact (by decide : Visible "Infinity".toList)
      | true => exact (by decide : Visible "-Infinity".toList)
  | negZero => exact (by decide : Visible ['0'])
  | finite d =>
      rw [Number.text]
      split_ifs
      · exact (by decide : Visible ['0'])
      · exact visible_cons _ _ (by decide) (magnitude_visible _)
      · exact magnitude_visible _

theorem number_json_printable (n : Number) : Printable (numberJson n) := by
  cases n with
  | nan | infinity negative => exact visible_printable _ (by decide : Visible "null".toList)
  | negZero => exact visible_printable _ (number_text_visible .negZero)
  | finite d => exact visible_printable _ (number_text_visible (.finite d))

mutual
theorem json_text_printable (v : Json) : Printable v.text := by
  match v with
  | .null => exact visible_printable _ (by decide : Visible "null".toList)
  | .bool true => exact visible_printable _ (by decide : Visible "true".toList)
  | .bool false => exact visible_printable _ (by decide : Visible "false".toList)
  | .num n => exact number_json_printable n
  | .str s => exact quote_printable s
  | .arr [] => exact visible_printable _ (by decide : Visible ['[', ']'])
  | .arr (v :: rest) =>
      rw [Json.text]
      exact printable_cons _ _ (by decide) (printable_append _ _ (json_text_printable v) (elements_text_printable rest))
  | .obj [] => exact visible_printable _ (by decide : Visible ['{', '}'])
  | .obj ((k, v) :: rest) =>
      rw [Json.text]
      exact printable_cons _ _ (by decide) (printable_append _ _ (quote_printable k)
        (printable_cons _ _ (by decide) (printable_append _ _ (json_text_printable v) (members_text_printable rest))))
theorem elements_text_printable (vs : List Json) : Printable (elementsText vs) := by
  match vs with
  | [] => exact visible_printable _ (by decide : Visible [']'])
  | v :: rest =>
      rw [elementsText]
      exact printable_cons _ _ (by decide) (printable_append _ _ (json_text_printable v) (elements_text_printable rest))
theorem members_text_printable (ms : List (Str × Json)) : Printable (membersText ms) := by
  match ms with
  | [] => exact visible_printable _ (by decide : Visible ['}'])
  | (k, v) :: rest =>
      rw [membersText]
      exact printable_cons _ _ (by decide) (printable_append _ _ (quote_printable k)
        (printable_cons _ _ (by decide) (printable_append _ _ (json_text_printable v) (members_text_printable rest))))
end

end Ecma
