import N2F.Ecma.Decimal

set_option autoImplicit false

namespace Ecma

def powerText (e : ℤ) : List Char := 'e' :: (if 0 ≤ e then '+' else '-') :: Nat.toDigits 10 e.natAbs

-- Number::toString of a positive value with the significant digits ds and the
-- decimal point at n: plain notation for -6 < n ≤ 21, an exponent otherwise.
def layout (ds : List Char) (n : ℤ) : List Char :=
  if -6 < n ∧ n ≤ 21 then
    if ds.length ≤ n then ds ++ List.replicate (n - ds.length).toNat '0'
    else if 0 < n then ds.take n.toNat ++ '.' :: ds.drop n.toNat
    else '0' :: '.' :: (List.replicate (-n).toNat '0' ++ ds)
  else
    if ds.length = 1 then ds ++ powerText (n - 1)
    else ds.take 1 ++ '.' :: (ds.drop 1 ++ powerText (n - 1))

def digitsOf (cs : List Char) : List Char := cs.takeWhile Char.isDigit

def afterDigits (cs : List Char) : List Char := cs.dropWhile Char.isDigit

def scanInteger : List Char → Option (List Char × List Char)
  | [] => none
  | c :: rest =>
      if c = '0' then some ([c], rest)
      else if c.isDigit then some (c :: digitsOf rest, afterDigits rest)
      else none

def scanFraction : List Char → Option (List Char × List Char)
  | [] => some ([], [])
  | c :: rest =>
      if c = '.' then
        if digitsOf rest = [] then none else some (digitsOf rest, afterDigits rest)
      else some ([], c :: rest)

def scanDigits (cs : List Char) : Option (ℕ × List Char) :=
  if digitsOf cs = [] then none else some (Nat.ofDigitChars 10 (digitsOf cs) 0, afterDigits cs)

def scanPower : List Char → Option (ℤ × List Char)
  | [] => some (0, [])
  | c :: rest =>
      if c = 'e' ∨ c = 'E' then
        match rest with
        | [] => none
        | sign :: tail =>
            if sign = '+' then (scanDigits tail).map (fun (n, after) => ((n : ℤ), after))
            else if sign = '-' then (scanDigits tail).map (fun (n, after) => (-(n : ℤ), after))
            else (scanDigits rest).map (fun (n, after) => ((n : ℤ), after))
      else some (0, c :: rest)

def scanMagnitude (cs : List Char) : Option (ℚ × List Char) :=
  (scanInteger cs).bind fun (whole, afterWhole) =>
    (scanFraction afterWhole).bind fun (fraction, afterFraction) =>
      (scanPower afterFraction).map fun (power, rest) =>
        ((Nat.ofDigitChars 10 (whole ++ fraction) 0 : ℚ) * 10 ^ (power - fraction.length), rest)

def scanNumeral : List Char → Option ((Bool × ℚ) × List Char)
  | [] => none
  | c :: rest =>
      if c = '-' then (scanMagnitude rest).map (fun (q, after) => ((true, q), after))
      else (scanMagnitude (c :: rest)).map (fun (q, after) => ((false, q), after))

def AllDigits (ds : List Char) : Prop := ∀ c ∈ ds, c.isDigit = true

def NoDigit : List Char → Prop
  | [] => True
  | c :: _ => c.isDigit = false

def Follows : List Char → Prop
  | [] => True
  | c :: _ => c.isDigit = false ∧ c ≠ '.' ∧ c ≠ 'e' ∧ c ≠ 'E'

theorem follows_no_digit (rest : List Char) (follows : Follows rest) : NoDigit rest := by
  cases rest with
  | nil => trivial
  | cons c tail => exact follows.1

theorem digits_of_append (ds rest : List Char) (digits : AllDigits ds) (stop : NoDigit rest) :
    digitsOf (ds ++ rest) = ds := by
  rw [digitsOf, List.takeWhile_append_of_pos digits]
  cases rest with
  | nil => simp
  | cons c tail => simpa [NoDigit] using stop

theorem after_digits_append (ds rest : List Char) (digits : AllDigits ds) (stop : NoDigit rest) :
    afterDigits (ds ++ rest) = rest := by
  rw [afterDigits, List.dropWhile_append_of_pos digits]
  cases rest with
  | nil => simp
  | cons c tail => simpa [NoDigit] using stop

theorem scan_integer_run (ds rest : List Char) (digits : AllDigits ds) (stop : NoDigit rest)
    (leading : ∃ c tail, ds = c :: tail ∧ c ≠ '0') : scanInteger (ds ++ rest) = some (ds, rest) := by
  obtain ⟨c, tail, rfl, nonzero⟩ := leading
  have tailDigits : AllDigits tail := fun d member => digits d (by simp [member])
  have head : c.isDigit = true := digits c (by simp)
  simp only [List.cons_append, scanInteger, if_neg nonzero, head, if_true,
    digits_of_append tail rest tailDigits stop, after_digits_append tail rest tailDigits stop]

theorem scan_fraction_run (ds rest : List Char) (digits : AllDigits ds) (nonempty : ds ≠ []) (stop : NoDigit rest) :
    scanFraction ('.' :: (ds ++ rest)) = some (ds, rest) := by
  simp only [scanFraction, if_true, digits_of_append ds rest digits stop,
    after_digits_append ds rest digits stop, if_neg nonempty]

theorem scan_fraction_none (rest : List Char) (follows : Follows rest) : scanFraction rest = some ([], rest) := by
  cases rest with
  | nil => rfl
  | cons c tail => simp only [scanFraction, if_neg follows.2.1]

theorem scan_fraction_power (e : ℤ) (rest : List Char) :
    scanFraction (powerText e ++ rest) = some ([], powerText e ++ rest) := by
  simp [scanFraction, powerText]

theorem scan_power_none (rest : List Char) (follows : Follows rest) : scanPower rest = some (0, rest) := by
  cases rest with
  | nil => rfl
  | cons c tail => simp only [scanPower, follows.2.2.1, follows.2.2.2, or_self, if_false]

theorem to_digits_all (n : ℕ) : AllDigits (Nat.toDigits 10 n) := fun _ member =>
  Nat.isDigit_of_mem_toDigits (by norm_num) (by norm_num) member

theorem scan_digits_nat (n : ℕ) (rest : List Char) (stop : NoDigit rest) :
    scanDigits (Nat.toDigits 10 n ++ rest) = some (n, rest) := by
  simp only [scanDigits, digits_of_append _ rest (to_digits_all n) stop,
    after_digits_append _ rest (to_digits_all n) stop, Nat.ofDigitChars_toDigits (by norm_num : 1 < 10) (le_refl 10),
    if_neg Nat.toDigits_ne_nil]

theorem scan_power_int (e : ℤ) (rest : List Char) (stop : NoDigit rest) :
    scanPower (powerText e ++ rest) = some (e, rest) := by
  rw [powerText, List.cons_append, List.cons_append]
  by_cases sign : 0 ≤ e
  · simp only [scanPower, true_or, if_true, if_pos sign, scan_digits_nat e.natAbs rest stop, Option.map_some]
    simp [abs_of_nonneg sign]
  · simp only [scanPower, true_or, if_true, if_neg sign, scan_digits_nat e.natAbs rest stop, Option.map_some]
    simp [abs_of_neg (not_le.mp sign)]

theorem scan_magnitude_parts (whole fraction rest : List Char) (power : ℤ)
    (cs afterWhole afterFraction : List Char) (first : scanInteger cs = some (whole, afterWhole))
    (second : scanFraction afterWhole = some (fraction, afterFraction))
    (third : scanPower afterFraction = some (power, rest)) :
    scanMagnitude cs =
      some ((Nat.ofDigitChars 10 (whole ++ fraction) 0 : ℚ) * 10 ^ (power - fraction.length), rest) := by
  simp only [scanMagnitude, first, second, third, Option.bind_some, Option.map_some]

theorem point_stops (tail : List Char) : NoDigit ('.' :: tail) := rfl

theorem power_stops (e : ℤ) (tail : List Char) : NoDigit (powerText e ++ tail) := rfl

theorem zeros_all (n : ℕ) : AllDigits (List.replicate n '0') := by
  intro c member
  rw [(List.mem_replicate.mp member).2]
  rfl

theorem append_all (a b : List Char) (left : AllDigits a) (right : AllDigits b) : AllDigits (a ++ b) := by
  intro c member
  exact (List.mem_append.mp member).elim (left c) (right c)

theorem scan_layout (ds rest : List Char) (n : ℤ) (digits : AllDigits ds)
    (leading : ∃ c tail, ds = c :: tail ∧ c ≠ '0') (follows : Follows rest) :
    scanMagnitude (layout ds n ++ rest) =
      some ((Nat.ofDigitChars 10 ds 0 : ℚ) * 10 ^ (n - ds.length), rest) := by
  have stop := follows_no_digit rest follows
  obtain ⟨first, tail, split, nonzero⟩ := leading
  have nonempty : 0 < ds.length := by simp [split]
  rw [layout]
  split_ifs with plain integral point single
  · -- ds followed by zeros up to the decimal point
    have run : AllDigits (ds ++ List.replicate (n - ds.length).toNat '0') :=
      append_all _ _ digits (zeros_all _)
    have parts := scan_magnitude_parts _ [] rest 0 (ds ++ List.replicate (n - ds.length).toNat '0' ++ rest) rest rest
      (scan_integer_run _ rest run stop ⟨first, _, by rw [split, List.cons_append], nonzero⟩)
      (scan_fraction_none rest follows) (scan_power_none rest follows)
    have power : ((n - ds.length).toNat : ℤ) = n - ds.length := by omega
    rw [parts, List.append_nil, Nat.ofDigitChars_append, Nat.ofDigitChars_replicate_zero, ← power, zpow_natCast]
    simp [mul_comm]
  · -- the decimal point falls inside ds
    have lengths : ((ds.drop n.toNat).length : ℤ) = ds.length - n := by simp; omega
    have wholeDigits : AllDigits (ds.take n.toNat) := fun c member => digits c (List.mem_of_mem_take member)
    have fractionDigits : AllDigits (ds.drop n.toNat) := fun c member => digits c (List.mem_of_mem_drop member)
    have leadingWhole : ∃ c tail, ds.take n.toNat = c :: tail ∧ c ≠ '0' :=
      ⟨first, tail.take (n.toNat - 1), by
        rw [split, show n.toNat = (n.toNat - 1) + 1 by omega, List.take_succ_cons]
        rfl, nonzero⟩
    have fractionNonempty : ds.drop n.toNat ≠ [] := by
      rw [Ne, List.drop_eq_nil_iff]
      omega
    have parts := scan_magnitude_parts (ds.take n.toNat) (ds.drop n.toNat) rest 0
      (ds.take n.toNat ++ '.' :: (ds.drop n.toNat ++ rest)) _ rest
      (scan_integer_run _ _ wholeDigits (point_stops _) leadingWhole)
      (scan_fraction_run _ rest fractionDigits fractionNonempty stop) (scan_power_none rest follows)
    rw [List.append_assoc, List.cons_append, parts, List.take_append_drop, lengths]
    congr 4
    ring
  · -- the decimal point is left of ds
    have fractionDigits : AllDigits (List.replicate (-n).toNat '0' ++ ds) := append_all _ _ (zeros_all _) digits
    have fractionNonempty : List.replicate (-n).toNat '0' ++ ds ≠ [] := by simp [split]
    have lengths : ((List.replicate (-n).toNat '0' ++ ds).length : ℤ) = -n + ds.length := by simp; omega
    have parts := scan_magnitude_parts ['0'] (List.replicate (-n).toNat '0' ++ ds) rest 0
      ('0' :: '.' :: (List.replicate (-n).toNat '0' ++ ds ++ rest)) _ rest rfl
      (scan_fraction_run _ rest fractionDigits fractionNonempty stop) (scan_power_none rest follows)
    have leadingZeros : Nat.ofDigitChars 10 (['0'] ++ (List.replicate (-n).toNat '0' ++ ds)) 0 =
        Nat.ofDigitChars 10 ds 0 := by
      rw [← List.append_assoc, Nat.ofDigitChars_append, Nat.ofDigitChars_append, Nat.ofDigitChars_replicate_zero]
      simp [Nat.ofDigitChars_cons]
    rw [List.cons_append, List.cons_append, parts, leadingZeros, lengths]
    congr 4
    ring
  · -- one digit and an exponent
    have parts := scan_magnitude_parts ds [] rest (n - 1) (ds ++ (powerText (n - 1) ++ rest)) _ _
      (scan_integer_run ds _ digits (power_stops _ _) ⟨first, tail, split, nonzero⟩)
      (scan_fraction_power _ rest) (scan_power_int (n - 1) rest stop)
    rw [List.append_assoc, parts, single, List.append_nil]
    simp
  · -- a fraction after the first digit, and an exponent
    have wholeDigits : AllDigits (ds.take 1) := fun c member => digits c (List.mem_of_mem_take member)
    have fractionDigits : AllDigits (ds.drop 1) := fun c member => digits c (List.mem_of_mem_drop member)
    have fractionNonempty : ds.drop 1 ≠ [] := by
      rw [Ne, List.drop_eq_nil_iff]
      omega
    have lengths : ((ds.drop 1).length : ℤ) = ds.length - 1 := by simp; omega
    have parts := scan_magnitude_parts (ds.take 1) (ds.drop 1) rest (n - 1)
      (ds.take 1 ++ '.' :: (ds.drop 1 ++ (powerText (n - 1) ++ rest))) _ _
      (scan_integer_run _ _ wholeDigits (point_stops _) ⟨first, [], by simp [split], nonzero⟩)
      (scan_fraction_run _ _ fractionDigits fractionNonempty (power_stops _ _)) (scan_power_int (n - 1) rest stop)
    simp only [List.append_assoc, List.cons_append]
    rw [parts, List.take_append_drop, lengths]
    congr 4
    ring

theorem to_digits_leading (n : ℕ) (positive : 0 < n) : ∃ c tail, Nat.toDigits 10 n = c :: tail ∧ c ≠ '0' := by
  induction n using Nat.strongRecOn with
  | ind n ih =>
      by_cases small : n < 10
      · refine ⟨n.digitChar, [], Nat.toDigits_of_lt_base small, ?_⟩
        intro zero
        have value := Nat.toNat_digitChar_sub_48_of_lt_ten small
        rw [zero] at value
        exact positive.ne value
      · obtain ⟨c, tail, split, nonzero⟩ := ih (n / 10) (by omega) (by omega)
        refine ⟨c, tail ++ [(n % 10).digitChar], ?_, nonzero⟩
        rw [Nat.toDigits_of_base_le (by norm_num) (not_lt.mp small), split, List.cons_append]

theorem significant_split (d : Decimal) : ∃ k : ℕ, Nat.toDigits 10 d.digits = d.significant ++ List.replicate k '0' := by
  refine ⟨((Nat.toDigits 10 d.digits).rtakeWhile (· = '0')).length, ?_⟩
  have zeros : (Nat.toDigits 10 d.digits).rtakeWhile (· = '0') =
      List.replicate ((Nat.toDigits 10 d.digits).rtakeWhile (· = '0')).length '0' := by
    refine List.eq_replicate_iff.mpr ⟨rfl, fun c member => ?_⟩
    simpa using List.mem_rtakeWhile_imp member
  rw [← zeros]
  exact List.rdropWhile_append_rtakeWhile.symm

theorem significant_digits (d : Decimal) : AllDigits d.significant := by
  obtain ⟨k, split⟩ := significant_split d
  intro c member
  exact to_digits_all d.digits c (by rw [split]; simp [member])

theorem significant_leading (d : Decimal) (positive : 0 < d.digits) :
    ∃ c tail, d.significant = c :: tail ∧ c ≠ '0' := by
  obtain ⟨k, split⟩ := significant_split d
  obtain ⟨c, tail, digits, nonzero⟩ := to_digits_leading d.digits positive
  rw [split] at digits
  cases parts : d.significant with
  | nil =>
      rw [parts, List.nil_append] at digits
      have member : c ∈ List.replicate k '0' := by rw [digits]; simp
      exact absurd (List.mem_replicate.mp member).2 nonzero
  | cons a rest =>
      rw [parts, List.cons_append] at digits
      exact ⟨a, rest, rfl, by rwa [(List.cons.inj digits).1]⟩

theorem significant_value (d : Decimal) :
    (Nat.ofDigitChars 10 d.significant 0 : ℚ) * 10 ^ (d.point - d.significant.length) = d.value := by
  obtain ⟨k, split⟩ := significant_split d
  have digits : d.digits = 10 ^ k * Nat.ofDigitChars 10 d.significant 0 := by
    rw [← Nat.ofDigitChars_replicate_zero, ← Nat.ofDigitChars_append, ← split]
    exact (Nat.ofDigitChars_toDigits (by norm_num) (le_refl 10)).symm
  have position : d.point - d.significant.length = k + d.scale := by
    rw [Decimal.point, split]
    simp
    ring
  rw [position, zpow_add₀ (by norm_num), zpow_natCast, Decimal.value, digits]
  push_cast
  ring

def magnitudeText (x : ℚ) : List Char := layout (shortest x).significant (shortest x).point

-- Number::toString.
def Number.text : Number → List Char
  | .nan => "NaN".toList
  | .infinity negative => if negative then "-Infinity".toList else "Infinity".toList
  | .negZero => ['0']
  | .finite d =>
      if d.value = 0 then ['0']
      else if d.value < 0 then '-' :: magnitudeText (-d.value)
      else magnitudeText d.value

theorem scan_magnitude_text (d : Double) (positive : 0 < d.value) (rest : List Char) (follows : Follows rest) :
    scanMagnitude (magnitudeText d.value ++ rest) = some ((shortest d.value).value, rest) := by
  have digits := shortest_positive d.value positive d.isDouble
  rw [magnitudeText, scan_layout _ rest _ (significant_digits _) (significant_leading _ digits) follows,
    significant_value]

def denotes (d : Double) : Bool × ℚ :=
  if d.value = 0 then (false, 0)
  else if d.value < 0 then (true, (shortest (-d.value)).value)
  else (false, (shortest d.value).value)

theorem magnitude_text_head (d : Double) (positive : 0 < d.value) :
    ∃ c tail, magnitudeText d.value = c :: tail ∧ c.isDigit = true := by
  have scanned := scan_magnitude_text d positive [] trivial
  cases text : magnitudeText d.value with
  | nil => simp [text, scanMagnitude, scanInteger] at scanned
  | cons c tail =>
      refine ⟨c, tail, rfl, ?_⟩
      by_contra other
      have notZero : c ≠ '0' := fun same => other (by rw [same]; rfl)
      simp [text, scanMagnitude, scanInteger, notZero, other] at scanned

theorem scan_number_text (d : Double) (rest : List Char) (follows : Follows rest) :
    scanNumeral ((Number.finite d).text ++ rest) = some (denotes d, rest) := by
  by_cases zero : d.value = 0
  · simp only [Number.text, denotes, if_pos zero]
    have parts := scan_magnitude_parts ['0'] [] rest 0 ('0' :: rest) rest rest rfl
      (scan_fraction_none rest follows) (scan_power_none rest follows)
    rw [List.cons_append, List.nil_append, scanNumeral, if_neg (by decide), parts]
    simp [Nat.ofDigitChars_cons]
  · by_cases negative : d.value < 0
    · simp only [Number.text, denotes, if_neg zero, if_pos negative]
      have scanned := scan_magnitude_text ⟨-d.value, double_neg d⟩ (by simpa using negative) rest follows
      rw [List.cons_append, scanNumeral, if_pos rfl, scanned, Option.map_some]
    · simp only [Number.text, denotes, if_neg zero, if_neg negative]
      have positive : 0 < d.value := lt_of_le_of_ne (not_lt.mp negative) (Ne.symm zero)
      have scanned := scan_magnitude_text d positive rest follows
      obtain ⟨c, tail, text, digit⟩ := magnitude_text_head d positive
      rw [text, List.cons_append] at scanned ⊢
      have unsigned : c ≠ '-' := fun same => by rw [same] at digit; exact absurd digit (by decide)
      rw [scanNumeral, if_neg unsigned, scanned, Option.map_some]

theorem of_numeral_denotes (d : Double) : Number.ofNumeral (denotes d).1 (denotes d).2 = .finite d := by
  by_cases zero : d.value = 0
  · rw [denotes, if_pos zero, ← number_of_double d, zero]
    rfl
  · by_cases negative : d.value < 0
    · have rounds := shortest_rounds (-d.value) (by linarith) (double_neg d)
      rw [denotes, if_neg zero, if_pos negative, Number.ofNumeral, if_pos rfl, numberOf]
      simp only [rounds, abs_neg, dif_pos d.isDouble.1, Number.negate, neg_eq_zero, if_neg zero, neg_neg]
    · have positive : 0 < d.value := lt_of_le_of_ne (not_lt.mp negative) (Ne.symm zero)
      have rounds := shortest_rounds d.value positive d.isDouble
      rw [denotes, if_neg zero, if_neg negative, Number.ofNumeral, if_neg Bool.false_ne_true, numberOf]
      simp only [rounds, dif_pos d.isDouble.1]

def exact (d : Double) : ℚ := if (denotes d).1 then -(denotes d).2 else (denotes d).2

theorem shortest_value_positive (x : ℚ) (positive : 0 < x) (double : IsDouble x) : 0 < (shortest x).value := by
  have digits : (0 : ℚ) < (shortest x).digits := by exact_mod_cast shortest_positive x positive double
  exact mul_pos digits (zpow_pos (by norm_num) _)

theorem exact_zero (d : Double) (zero : d.value = 0) : exact d = 0 := by simp [exact, denotes, zero]

theorem exact_negative (d : Double) (negative : d.value < 0) : exact d = -(shortest (-d.value)).value := by
  simp [exact, denotes, negative.ne, negative]

theorem exact_positive (d : Double) (positive : 0 < d.value) : exact d = (shortest d.value).value := by
  simp [exact, denotes, positive.ne', not_lt.mpr positive.le]

theorem exact_below (d : Double) (negative : d.value < 0) : exact d < 0 := by
  rw [exact_negative d negative]
  exact neg_neg_of_pos (shortest_value_positive _ (by linarith) (double_neg d))

theorem exact_above (d : Double) (positive : 0 < d.value) : 0 < exact d := by
  rw [exact_positive d positive]
  exact shortest_value_positive _ positive d.isDouble

theorem exact_injective (d e : Double) (same : exact d = exact e) : d.value = e.value := by
  rcases lt_trichotomy d.value 0 with negative | zero | positive
  · have below := exact_below d negative
    rcases lt_trichotomy e.value 0 with negative' | zero' | positive'
    · rw [exact_negative d negative, exact_negative e negative', neg_inj] at same
      have rounded := congrArg nearest same
      rw [shortest_rounds _ (by linarith) (double_neg d), shortest_rounds _ (by linarith) (double_neg e)] at rounded
      linarith
    · rw [same, exact_zero e zero'] at below
      exact absurd below (lt_irrefl 0)
    · have above := exact_above e positive'
      linarith
  · rw [exact_zero d zero] at same
    rcases lt_trichotomy e.value 0 with negative' | zero' | positive'
    · have below := exact_below e negative'
      linarith
    · rw [zero, zero']
    · have above := exact_above e positive'
      linarith
  · have above := exact_above d positive
    rcases lt_trichotomy e.value 0 with negative' | zero' | positive'
    · have below := exact_below e negative'
      linarith
    · rw [same, exact_zero e zero'] at above
      exact absurd above (lt_irrefl 0)
    · rw [exact_positive d positive, exact_positive e positive'] at same
      have rounded := congrArg nearest same
      rwa [shortest_rounds _ positive d.isDouble, shortest_rounds _ positive' e.isDouble] at rounded

end Ecma
