import N2F.Env.Reader
import N2F.Ecma.IntegerText

set_option autoImplicit false

namespace N2F.Env

open Ecma

theorem is_natural_radix (n : ℕ) : isNatural (radixText 10 n) = true := by
  by_cases zero : n = 0
  · subst zero
    rfl
  · obtain ⟨u, rest, text, lead, digits⟩ := radix_leading n (Nat.pos_of_ne_zero zero)
    have all : rest.all isDigitUnit = true := List.all_eq_true.mpr digits
    rw [text]
    simp only [isNatural, lead, all, Bool.and_self, Bool.or_true]

theorem is_natural_iff (digits : Str) : isNatural digits = true ↔ ∃ n, digits = radixText 10 n := by
  constructor
  · intro natural
    cases digits with
    | nil => cases natural
    | cons u rest =>
        simp only [isNatural, Bool.or_eq_true, Bool.and_eq_true, decide_eq_true_eq, List.isEmpty_iff, List.all_eq_true] at natural
        rcases natural with ⟨rfl, rfl⟩ | ⟨lead, digits⟩
        · exact ⟨0, rfl⟩
        · obtain ⟨n, _, _, same⟩ := numeral_of_digits rest u lead digits
          exact ⟨n, same⟩
  · intro written
    obtain ⟨n, rfl⟩ := written
    exact is_natural_radix n

theorem integer_signed (negative : Bool) (n : ℕ) :
    integer (signedText negative n) = if n ≤ 9007199254740991 then some (Number.ofNumeral negative n) else none := by
  have unsigned := radix_unsigned n
  have safe := of_numeral_safe negative n
  cases negative with
  | false => simp [integer, signedText, unsigned, is_natural_radix, digits_value_radix, safe]
  | true => simp [integer, signedText, is_natural_radix, digits_value_radix, safe]

theorem integer_other (text : Str) (other : text ∉ integerTexts) : integer text = none := by
  have refused (digits : Str) (negative : Bool) (same : text = (if negative then [0x2D] else []) ++ digits) : ¬ isNatural digits = true := by
    intro natural
    obtain ⟨n, written⟩ := (is_natural_iff digits).mp natural
    exact other ((integer_texts_iff text).mpr ⟨negative, n, by rw [same, written]; rfl⟩)
  by_cases minus : text.head? = some 0x2D
  · have split : text = 0x2D :: text.tail := (List.cons_head?_tail minus).symm
    simp [integer, minus, refused text.tail true split]
  · simp [integer, minus, refused text false rfl]

theorem natural_text (n : ℕ) (positive : 0 < n) (small : n < 2 ^ 53) : (magnitudeText n).flatMap unitsOf = radixText 10 n := by
  rw [magnitude_text_natural n positive small]
  rfl

theorem number_text (v : Number) (m : ℤ) (value : v.rational = some (m : ℚ)) (small : m.natAbs < 2 ^ 53) :
    numberText v = signedText (decide (m < 0)) m.natAbs := by
  cases v with
  | nan => cases value
  | infinity negative => cases value
  | negZero =>
      have zero : m = 0 := by simpa [Number.rational] using value.symm
      subst zero
      rfl
  | finite d =>
      have same : d.value = m := by simpa [Number.rational] using value
      rcases lt_trichotomy m 0 with negative | rfl | positive
      · have below : (m : ℚ) < 0 := by exact_mod_cast negative
        have flipped : -(m : ℚ) = (m.natAbs : ℕ) := by
          rw [Nat.cast_natAbs, abs_of_neg negative]
          push_cast
          rfl
        rw [numberText, Number.text, same, if_neg below.ne, if_pos below, flipped, List.flatMap_cons,
          natural_text m.natAbs (by omega) small, decide_eq_true negative]
        rfl
      · rw [numberText, Number.text, same, if_pos Int.cast_zero]
        rfl
      · have above : (0 : ℚ) < m := by exact_mod_cast positive
        have same' : (m : ℚ) = (m.natAbs : ℕ) := by
          rw [Nat.cast_natAbs, abs_of_pos positive]
        rw [numberText, Number.text, same, if_neg above.ne', if_neg above.not_gt, same', natural_text m.natAbs (by omega) small,
          decide_eq_false (by omega)]
        rfl

theorem integer_text (v : Number) (safe : v.isSafeInteger = true) :
    ∃ again, integer (numberText v) = some again ∧ again.strictEquals v = true ∧ numberText again = numberText v := by
  obtain ⟨m, value, bound⟩ := (safe_rational v).mp safe
  have small : m.natAbs < 2 ^ 53 := by
    rw [Int.abs_eq_natAbs] at bound
    omega
  have value' := of_numeral_signed (decide (m < 0)) m.natAbs small
  have back : (if decide (m < 0) = true then -(m.natAbs : ℤ) else m.natAbs) = m := by
    by_cases negative : m < 0
    · rw [if_pos (decide_eq_true negative)]
      omega
    · rw [if_neg (by simpa using negative)]
      omega
  rw [exact_signed, back] at value'
  have text := number_text v m value small
  refine ⟨Number.ofNumeral (decide (m < 0)) m.natAbs, ?_, (equal_rational _ v m value).mpr value', ?_⟩
  · rw [text, integer_signed, if_pos (by omega)]
  · rw [text]
    exact number_text _ m value' small

theorem integer_exact (text : Str) :
    ((∃ v, integer text = some v) ↔ text ∈ integerTexts ∧ |exactInteger text| ≤ 9007199254740991) ∧
    ∀ v, integer text = some v → v.rational = some (exactInteger text : ℚ) ∧ (v = .negZero ↔ text = str "-0") := by
  by_cases accepted : text ∈ integerTexts
  · obtain ⟨negative, n, rfl⟩ := (integer_texts_iff text).mp accepted
    rw [integer_signed, exact_signed_abs]
    by_cases small : n ≤ 9007199254740991
    · rw [if_pos small]
      refine ⟨⟨fun _ => ⟨accepted, by exact_mod_cast small⟩, fun _ => ⟨_, rfl⟩⟩, fun v parsed => ?_⟩
      rw [← Option.some.inj parsed]
      exact ⟨of_numeral_signed negative n (by omega), of_numeral_neg_zero negative n (by omega)⟩
    · rw [if_neg small]
      refine ⟨⟨fun found => ?_, fun bounded => ?_⟩, fun v parsed => ?_⟩
      · obtain ⟨v, parsed⟩ := found
        cases parsed
      · exact absurd (by exact_mod_cast bounded.2) small
      · cases parsed
  · rw [integer_other text accepted]
    refine ⟨⟨fun found => ?_, fun bounded => absurd bounded.1 accepted⟩, fun v parsed => ?_⟩
    · obtain ⟨v, parsed⟩ := found
      cases parsed
    · cases parsed

example : ["", " 2", "2 ", "+2", "02", "1e2", "1.5", "9007199254740992"].all (fun s => integer (str s) = none) = true := by decide +kernel

theorem safe_bound (x : Number) (m : ℤ) (safe : x.isSafeInteger = true) (value : x.rational = some (m : ℚ)) : |m| ≤ 9007199254740991 := by
  obtain ⟨k, same, bound⟩ := (safe_rational x).mp safe
  rw [value] at same
  have whole : m = k := by exact_mod_cast Option.some.inj same
  rw [whole]
  exact bound

theorem defined_int (fallback min max : Number) (defined : ¬ refusesInt fallback min max = true) :
    fallback.isSafeInteger = true ∧ min.isSafeInteger = true ∧ max.isSafeInteger = true := by
  simp only [refusesInt, Bool.or_eq_true, Bool.not_eq_true', not_or, Bool.not_eq_false] at defined
  exact ⟨defined.1.1.1.1.1, defined.1.1.1.1.2, defined.1.1.1.2⟩

theorem int_refused (lookup : Lookup) (r r' : Reader) (key text : Str) (fallback min max : Number) (defined : refusesInt fallback min max = false)
    (read : r.read lookup key = (r', some (some text))) (parsed : integer text = none) :
    r.int lookup key fallback min max = (r'.problem key "invalid_integer", Number.zero) := by
  simp [Reader.int, defined, read, parsed]

theorem int_parsed (lookup : Lookup) (r r' : Reader) (key text : Str) (fallback min max v : Number) (defined : refusesInt fallback min max = false)
    (read : r.read lookup key = (r', some (some text))) (parsed : integer text = some v) :
    r.int lookup key fallback min max =
      if (v.less min || max.less v) = true then (r'.problem key "out_of_range", Number.zero)
      else (r'.record key (numberText v) true false, v) := by
  simp [Reader.int, defined, read, parsed]

theorem int_exact (lookup : Lookup) (r r' : Reader) (key text : Str) (fallback min max : Number) (lo hi : ℤ)
    (defined : refusesInt fallback min max = false) (least : min.rational = some (lo : ℚ)) (most : max.rational = some (hi : ℚ))
    (read : r.read lookup key = (r', some (some text))) (accepted : text ∈ integerTexts) :
    (lo ≤ exactInteger text ∧ exactInteger text ≤ hi →
      ∃ v, v.rational = some (exactInteger text : ℚ) ∧ r.int lookup key fallback min max = (r'.record key (numberText v) true false, v)) ∧
    (|exactInteger text| ≤ 9007199254740991 → ¬ (lo ≤ exactInteger text ∧ exactInteger text ≤ hi) →
      r.int lookup key fallback min max = (r'.problem key "out_of_range", Number.zero)) ∧
    (¬ |exactInteger text| ≤ 9007199254740991 →
      r.int lookup key fallback min max = (r'.problem key "invalid_integer", Number.zero)) := by
  obtain ⟨negative, n, rfl⟩ := (integer_texts_iff text).mp accepted
  have safe := (defined_int fallback min max (by simp [defined])).2
  have parsed := integer_signed negative n
  have least_small := safe_bound min lo safe.1 least
  have most_small := safe_bound max hi safe.2 most
  have size := exact_signed_abs negative n
  rw [size]
  by_cases small : n ≤ 9007199254740991
  · rw [if_pos small] at parsed
    rw [int_parsed lookup r r' key _ fallback min max _ defined read parsed]
    have value := of_numeral_signed negative n (by omega)
    have below := less_rational _ min _ _ value least
    have above := less_rational max _ _ _ most value
    rw [below, above]
    refine ⟨fun inside => ?_, fun _ outside => ?_, fun large => absurd (by exact_mod_cast small) large⟩
    · refine ⟨_, value, if_neg ?_⟩
      simp only [Bool.or_eq_true, decide_eq_true_eq, Int.cast_lt]
      omega
    · rw [if_pos]
      simp only [Bool.or_eq_true, decide_eq_true_eq, Int.cast_lt]
      omega
  · rw [if_neg small] at parsed
    rw [int_refused lookup r r' key _ fallback min max defined read parsed]
    refine ⟨fun inside => ?_, fun bounded => absurd (by exact_mod_cast bounded) small, fun _ => rfl⟩
    have bounded : |exactInteger (signedText negative n)| ≤ 9007199254740991 :=
      abs_le.mpr ⟨(abs_le.mp least_small).1.trans inside.1, inside.2.trans (abs_le.mp most_small).2⟩
    rw [size] at bounded
    exact absurd (by exact_mod_cast bounded) small

end N2F.Env
