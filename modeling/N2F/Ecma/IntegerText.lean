import Mathlib.Computability.Language
import Mathlib.Data.Nat.Digits.Defs
import N2F.Ecma.Rounding
import N2F.Ecma.SafeInteger

set_option autoImplicit false

namespace Ecma

def unitClass (p : UInt16 → Bool) : Language UInt16 := {s | ∃ u, s = [u] ∧ p u = true}

-- 0|[1-9][0-9]*
def naturalTexts : Language UInt16 := {[0x30]} + unitClass (inRange '1' '9') * KStar.kstar (unitClass (inRange '0' '9'))

-- -?(0|[1-9][0-9]*)
def integerTexts : Language UInt16 := (1 + {[0x2D]}) * naturalTexts

def exactNatural (s : Str) : ℕ := Nat.ofDigits 10 (s.reverse.map fun u => u.toNat - 0x30)

def exactInteger (s : Str) : ℤ := if s.head? = some 0x2D then -(exactNatural s.tail : ℤ) else exactNatural s

theorem class_star (p : UInt16 → Bool) (s : Str) : s ∈ KStar.kstar (unitClass p) ↔ ∀ u ∈ s, p u = true := by
  constructor
  · intro repeated u member
    obtain ⟨words, rfl, each⟩ := Language.mem_kstar.mp repeated
    obtain ⟨word, listed, inside⟩ := List.mem_flatten.mp member
    obtain ⟨v, rfl, accepted⟩ := each word listed
    rwa [List.mem_singleton.mp inside]
  · intro accepted
    apply Language.mem_kstar.mpr
    refine ⟨s.map (fun u => [u]), ?_, ?_⟩
    · induction s with
      | nil => rfl
      | cons u rest ih =>
          have tail := ih fun v member => accepted v (List.mem_cons_of_mem u member)
          rw [List.map_cons, List.flatten_cons, ← tail]
          rfl
    · intro word listed
      obtain ⟨u, member, rfl⟩ := List.mem_map.mp listed
      exact ⟨u, rfl, accepted u member⟩

theorem natural_texts_iff (s : Str) : s ∈ naturalTexts ↔ ∃ n, s = radixText 10 n := by
  constructor
  · intro accepted
    rcases (Language.mem_add _ _ _).mp accepted with zero | leading
    · exact ⟨0, zero⟩
    · obtain ⟨first, ⟨u, rfl, lead⟩, rest, digits, rfl⟩ := Language.mem_mul.mp leading
      obtain ⟨n, _, _, same⟩ := numeral_of_digits rest u lead ((class_star _ rest).mp digits)
      exact ⟨n, same⟩
  · intro written
    obtain ⟨n, rfl⟩ := written
    apply (Language.mem_add _ _ _).mpr
    by_cases zero : n = 0
    · left
      rw [zero]
      rfl
    · right
      obtain ⟨u, rest, text, lead, digits⟩ := radix_leading n (Nat.pos_of_ne_zero zero)
      rw [text]
      exact Language.mem_mul.mpr ⟨[u], ⟨u, rfl, lead⟩, rest, (class_star _ rest).mpr digits, rfl⟩

theorem radix_unsigned (n : ℕ) : (radixText 10 n).head? ≠ some 0x2D := by
  intro minus
  have listed := List.mem_of_head? minus
  exact absurd (radix_digits n _ listed) (by decide)

theorem exact_natural_digits (s : Str) : exactNatural s = digitsValue s := by
  induction s using List.reverseRecOn with
  | nil => rfl
  | append_singleton s u ih =>
      have snoc : digitsValue (s ++ [u]) = 10 * digitsValue s + (u.toNat - 0x30) := by
        rw [digitsValue, List.foldl_append]
        rfl
      rw [snoc, ← ih, exactNatural, List.reverse_append, List.reverse_singleton, List.singleton_append, List.map_cons, Nat.ofDigits_cons,
        Nat.add_comm]
      rfl

theorem exact_natural_radix (n : ℕ) : exactNatural (radixText 10 n) = n := by
  rw [exact_natural_digits, digits_value_radix]

def signedText (negative : Bool) (n : ℕ) : Str := (if negative then [0x2D] else []) ++ radixText 10 n

theorem integer_texts_iff (s : Str) : s ∈ integerTexts ↔ ∃ negative n, s = signedText negative n := by
  constructor
  · intro accepted
    obtain ⟨sign, either, digits, natural, rfl⟩ := Language.mem_mul.mp accepted
    obtain ⟨n, rfl⟩ := (natural_texts_iff digits).mp natural
    rcases (Language.mem_add _ _ _).mp either with empty | minus
    · obtain rfl := (Language.mem_one sign).mp empty
      exact ⟨false, n, rfl⟩
    · obtain rfl := Set.mem_singleton_iff.mp minus
      exact ⟨true, n, rfl⟩
  · intro written
    obtain ⟨negative, n, rfl⟩ := written
    have natural := (natural_texts_iff _).mpr ⟨n, rfl⟩
    apply Language.append_mem_mul _ natural
    apply (Language.mem_add _ _ _).mpr
    cases negative with
    | false => exact .inl rfl
    | true => exact .inr rfl

theorem exact_signed (negative : Bool) (n : ℕ) : exactInteger (signedText negative n) = if negative then -(n : ℤ) else n := by
  cases negative with
  | false =>
      have unsigned : (signedText false n).head? ≠ some 0x2D := radix_unsigned n
      rw [exactInteger, if_neg unsigned]
      exact congrArg Nat.cast (exact_natural_radix n)
  | true =>
      rw [exactInteger, if_pos rfl]
      exact congrArg (fun m : ℕ => -(m : ℤ)) (exact_natural_radix n)

theorem exact_signed_abs (negative : Bool) (n : ℕ) : |exactInteger (signedText negative n)| = n := by
  rw [exact_signed]
  cases negative with
  | false => exact Nat.abs_cast n
  | true => exact (abs_neg _).trans (Nat.abs_cast n)

theorem of_numeral_signed (negative : Bool) (n : ℕ) (small : n < 2 ^ 53) :
    (Number.ofNumeral negative n).rational = some (exactInteger (signedText negative n) : ℚ) := by
  rw [exact_signed, Number.ofNumeral, number_of_nat, Number.of_int_small n (by simpa using small.le)]
  cases negative with
  | false => rfl
  | true =>
      rw [if_pos rfl, if_pos rfl, Number.negate]
      split_ifs with zero
      · have zero' : n = 0 := by simpa using zero
        rw [zero']
        rfl
      · simp [Number.rational]

theorem of_numeral_safe (negative : Bool) (n : ℕ) : (Number.ofNumeral negative n).isSafeInteger = true ↔ n ≤ 9007199254740991 := by
  cases negative with
  | false => exact number_of_nat_safe n
  | true =>
      rw [Number.ofNumeral, if_pos rfl, negate_safe]
      exact number_of_nat_safe n

theorem of_numeral_neg_zero (negative : Bool) (n : ℕ) (small : n < 2 ^ 53) :
    Number.ofNumeral negative n = .negZero ↔ signedText negative n = str "-0" := by
  have least : |(n : ℤ)| ≤ 2 ^ 53 := by
    rw [Nat.abs_cast]
    exact_mod_cast small.le
  rw [Number.ofNumeral, number_of_nat, Number.of_int_small n least]
  cases negative with
  | false =>
      have unsigned : signedText false n ≠ str "-0" := by
        intro same
        have minus : (radixText 10 n).head? = some 0x2D := congrArg List.head? same
        exact radix_unsigned n minus
      simp [unsigned]
  | true =>
      rw [if_pos rfl, Number.negate]
      by_cases zero : n = 0
      · subst zero
        exact iff_of_true rfl rfl
      · have nonzero : ((n : ℤ) : ℚ) ≠ 0 := by exact_mod_cast zero
        have other : signedText true n ≠ str "-0" := by
          intro same
          have value : (n : ℤ) = (0 : ℕ) := by
            rw [← exact_signed_abs true n, same]
            exact exact_signed_abs true 0
          exact zero (by exact_mod_cast value)
        rw [if_neg nonzero]
        exact iff_of_false (fun same => by cases same) other

end Ecma
