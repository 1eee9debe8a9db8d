import Mathlib.Data.List.Basic
import Mathlib.Tactic.IntervalCases

set_option autoImplicit false

namespace Ecma

-- A string value is any sequence of UTF-16 code units, paired or not. Decoded
-- documents hold scalar values only and are kept as characters.
abbrev Str := List UInt16

def isHigh (u : UInt16) : Bool := 0xD800 ≤ u.toNat && u.toNat ≤ 0xDBFF

def isLow (u : UInt16) : Bool := 0xDC00 ≤ u.toNat && u.toNat ≤ 0xDFFF

def unitsOf (c : Char) : List UInt16 :=
  if c.toNat < 0x10000 then [UInt16.ofNat c.toNat]
  else [UInt16.ofNat (0xD800 + (c.toNat - 0x10000) / 0x400), UInt16.ofNat (0xDC00 + (c.toNat - 0x10000) % 0x400)]

def str (s : String) : Str := s.toList.flatMap unitsOf

def pairChar (high low : UInt16) : Char :=
  Char.ofNat (0x10000 + (high.toNat - 0xD800) * 0x400 + (low.toNat - 0xDC00))

theorem char_of_valid (n : ℕ) (valid : n.isValidChar) : (Char.ofNat n).toNat = n := by
  rw [Char.ofNat, dif_pos valid]
  rfl

theorem units_of_pair (high low : UInt16) (first : isHigh high = true) (second : isLow low = true) :
    unitsOf (pairChar high low) = [high, low] := by
  simp only [isHigh, isLow, Bool.and_eq_true, decide_eq_true_eq] at first second
  have valid : (0x10000 + (high.toNat - 0xD800) * 0x400 + (low.toNat - 0xDC00)).isValidChar := by
    right
    omega
  have value : (pairChar high low).toNat = 0x10000 + (high.toNat - 0xD800) * 0x400 + (low.toNat - 0xDC00) :=
    char_of_valid _ valid
  have large : ¬ 0x10000 + (high.toNat - 0xD800) * 0x400 + (low.toNat - 0xDC00) < 0x10000 := by omega
  rw [unitsOf, value, if_neg large]
  have upper : 0xD800 + (0x10000 + (high.toNat - 0xD800) * 0x400 + (low.toNat - 0xDC00) - 0x10000) / 0x400 = high.toNat := by
    omega
  have lower : 0xDC00 + (0x10000 + (high.toNat - 0xD800) * 0x400 + (low.toNat - 0xDC00) - 0x10000) % 0x400 = low.toNat := by
    omega
  rw [upper, lower, UInt16.ofNat_toNat, UInt16.ofNat_toNat]

theorem unit_char_value (u : UInt16) (notHigh : isHigh u = false) (notLow : isLow u = false) :
    (Char.ofNat u.toNat).toNat = u.toNat := by
  simp only [isHigh, isLow, Bool.and_eq_false_iff, decide_eq_false_iff_not, not_le] at notHigh notLow
  have bound := u.toNat_lt
  have valid : u.toNat.isValidChar := by
    rcases Nat.lt_or_ge u.toNat 0xD800 with below | above
    · exact .inl below
    · exact .inr ⟨by omega, by omega⟩
  exact char_of_valid _ valid

theorem units_of_unit (u : UInt16) (notHigh : isHigh u = false) (notLow : isLow u = false) :
    unitsOf (Char.ofNat u.toNat) = [u] := by
  have bound := u.toNat_lt
  rw [unitsOf, unit_char_value u notHigh notLow, if_pos (by omega), UInt16.ofNat_toNat]

-- String.prototype.trim: white space and line terminators.
def isBlank (c : Char) : Bool :=
  [9, 10, 11, 12, 13, 32, 160, 5760, 8232, 8233, 8239, 8287, 12288, 65279].contains c.toNat ||
    (8192 ≤ c.toNat && c.toNat ≤ 8202)

def trim (cs : List Char) : List Char := ((cs.dropWhile isBlank).reverse.dropWhile isBlank).reverse

def hexDigit (n : ℕ) : Char := Nat.digitChar n

def hexValue (c : Char) : Option ℕ :=
  if 48 ≤ c.toNat ∧ c.toNat ≤ 57 then some (c.toNat - 48)
  else if 97 ≤ c.toNat ∧ c.toNat ≤ 102 then some (c.toNat - 87)
  else if 65 ≤ c.toNat ∧ c.toNat ≤ 70 then some (c.toNat - 55)
  else none

theorem hex_value_digit (n : ℕ) (bound : n < 16) : hexValue (hexDigit n) = some n := by
  interval_cases n <;> rfl

def hexEscape (u : UInt16) : List Char :=
  ['\\', 'u', hexDigit (u.toNat / 4096), hexDigit (u.toNat / 256 % 16), hexDigit (u.toNat / 16 % 16),
    hexDigit (u.toNat % 16)]

def hexUnit (a b c d : Char) : Option UInt16 :=
  (hexValue a).bind fun a => (hexValue b).bind fun b => (hexValue c).bind fun c => (hexValue d).map fun d =>
    UInt16.ofNat (a * 4096 + b * 256 + c * 16 + d)

theorem hex_unit_escape (u : UInt16) :
    hexUnit (hexDigit (u.toNat / 4096)) (hexDigit (u.toNat / 256 % 16)) (hexDigit (u.toNat / 16 % 16))
      (hexDigit (u.toNat % 16)) = some u := by
  have bound := u.toNat_lt
  have value : u.toNat / 4096 * 4096 + u.toNat / 256 % 16 * 256 + u.toNat / 16 % 16 * 16 + u.toNat % 16 = u.toNat := by
    omega
  simp only [hexUnit, hex_value_digit (u.toNat / 4096) (by omega), hex_value_digit (u.toNat / 256 % 16) (by omega),
    hex_value_digit (u.toNat / 16 % 16) (by omega), hex_value_digit (u.toNat % 16) (by omega), Option.bind_some,
    Option.map_some, value, UInt16.ofNat_toNat]

-- QuoteJSONString on a unit that is not half of a pair.
def quoteUnit (u : UInt16) : List Char :=
  if u = 0x08 then ['\\', 'b']
  else if u = 0x09 then ['\\', 't']
  else if u = 0x0A then ['\\', 'n']
  else if u = 0x0C then ['\\', 'f']
  else if u = 0x0D then ['\\', 'r']
  else if u = 0x22 then ['\\', '"']
  else if u = 0x5C then ['\\', '\\']
  else if u.toNat < 0x20 || isHigh u || isLow u then hexEscape u
  else [Char.ofNat u.toNat]

def quoteUnits : Str → List Char
  | [] => []
  | [u] => quoteUnit u
  | u :: v :: rest =>
      if isHigh u && isLow v then pairChar u v :: quoteUnits rest
      else quoteUnit u ++ quoteUnits (v :: rest)

def quote (s : Str) : List Char := '"' :: (quoteUnits s ++ ['"'])

def escaped (c : Char) : Option UInt16 :=
  if c = '"' then some 0x22
  else if c = '\\' then some 0x5C
  else if c = '/' then some 0x2F
  else if c = 'b' then some 0x08
  else if c = 'f' then some 0x0C
  else if c = 'n' then some 0x0A
  else if c = 'r' then some 0x0D
  else if c = 't' then some 0x09
  else none

def scanString : List Char → Option (Str × List Char)
  | [] => none
  | c :: rest =>
      if c = '"' then some ([], rest)
      else if c = '\\' then
        match rest with
        | [] => none
        | 'u' :: w :: x :: y :: z :: tail =>
            (hexUnit w x y z).bind fun u => (scanString tail).map fun (s, after) => (u :: s, after)
        | e :: tail => (escaped e).bind fun u => (scanString tail).map fun (s, after) => (u :: s, after)
      else if c.toNat < 0x20 then none
      else (scanString rest).map fun (s, after) => (unitsOf c ++ s, after)

theorem quote_unit_plain (u : UInt16) (large : ¬ u.toNat < 0x20) (notHigh : isHigh u = false) (notLow : isLow u = false)
    (notQuote : u ≠ 0x22) (notSlash : u ≠ 0x5C) : quoteUnit u = [Char.ofNat u.toNat] := by
  have control (n : UInt16) (small : n.toNat < 0x20) : u ≠ n := fun same => large (by rw [same]; exact small)
  simp only [quoteUnit, if_neg (control 0x08 (by decide)), if_neg (control 0x09 (by decide)),
    if_neg (control 0x0A (by decide)), if_neg (control 0x0C (by decide)), if_neg (control 0x0D (by decide)),
    if_neg notQuote, if_neg notSlash, large, notHigh, notLow, decide_false, Bool.or_self, Bool.false_eq_true, if_false]

theorem scan_escape (u : UInt16) (tail : List Char) :
    scanString (hexEscape u ++ tail) = (scanString tail).map fun (s, after) => (u :: s, after) := by
  simp only [hexEscape, List.cons_append, List.nil_append]
  rw [scanString]
  simp only [if_neg (by decide : ('\\' : Char) ≠ '"'), if_true, hex_unit_escape, Option.bind_some]

theorem scan_quote_unit (u : UInt16) (tail : List Char) :
    scanString (quoteUnit u ++ tail) = (scanString tail).map fun (s, after) => (u :: s, after) := by
  rw [quoteUnit]
  split_ifs with back tab line feed carriage mark slash special
  · simp [scanString, escaped, back]
  · simp [scanString, escaped, tab]
  · simp [scanString, escaped, line]
  · simp [scanString, escaped, feed]
  · simp [scanString, escaped, carriage]
  · simp [scanString, escaped, mark]
  · simp [scanString, escaped, slash]
  · exact scan_escape u tail
  · simp only [Bool.or_eq_true, decide_eq_true_eq, not_or, Bool.not_eq_true] at special
    have value := unit_char_value u special.1.2 special.2
    have notMark : Char.ofNat u.toNat ≠ '"' := fun same => mark (UInt16.toNat_inj.mp (by rw [← value, same]; rfl))
    have notSlash : Char.ofNat u.toNat ≠ '\\' := fun same => slash (UInt16.toNat_inj.mp (by rw [← value, same]; rfl))
    rw [List.cons_append, List.nil_append, scanString.eq_def]
    simp only [if_neg notMark, if_neg notSlash, value, if_neg special.1.1, units_of_unit u special.1.2 special.2,
      List.cons_append, List.nil_append]

theorem scan_pair (high low : UInt16) (tail : List Char) (first : isHigh high = true) (second : isLow low = true) :
    scanString (pairChar high low :: tail) = (scanString tail).map fun (s, after) => (high :: low :: s, after) := by
  have units := units_of_pair high low first second
  have value : ¬ (pairChar high low).toNat < 0x10000 := by
    intro small
    rw [unitsOf, if_pos small] at units
    simp at units
  have notMark : pairChar high low ≠ '"' := fun same => value (by rw [same]; decide)
  have notSlash : pairChar high low ≠ '\\' := fun same => value (by rw [same]; decide)
  rw [scanString.eq_def]
  simp only [if_neg notMark, if_neg notSlash, if_neg (by omega : ¬ (pairChar high low).toNat < 0x20), units,
    List.cons_append, List.nil_append]

theorem scan_close (rest : List Char) : scanString ('"' :: rest) = some ([], rest) := by
  rw [scanString.eq_def]
  simp

-- The induction follows quoteUnits: a pair takes two units for one character.
theorem scan_quote_units (s : Str) (rest : List Char) :
    scanString (quoteUnits s ++ '"' :: rest) = some (s, rest) := by
  induction s using quoteUnits.induct with
  | case1 => simp [quoteUnits, scan_close]
  | case2 u => simp [quoteUnits, scan_quote_unit, scan_close]
  | case3 u v tail pair ih =>
      simp only [Bool.and_eq_true] at pair
      simp only [quoteUnits, pair, Bool.and_self, if_true, List.cons_append, scan_pair u v _ pair.1 pair.2, ih,
        Option.map_some]
  | case4 u v tail single ih =>
      rw [quoteUnits, if_neg single, List.append_assoc, scan_quote_unit, ih, Option.map_some]

end Ecma
