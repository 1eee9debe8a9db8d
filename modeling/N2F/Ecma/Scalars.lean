import N2F.Ecma.Utf8
import N2F.Ecma.JsonValue

set_option autoImplicit false

namespace Ecma

def characters : Str → Option (List Char)
  | [] => some []
  | [u] => if isHigh u || isLow u then none else some [Char.ofNat u.toNat]
  | u :: v :: rest =>
      if isHigh u && isLow v then (characters rest).map (pairChar u v :: ·)
      else if isHigh u || isLow u then none
      else (characters (v :: rest)).map (Char.ofNat u.toNat :: ·)

theorem characters_unit (u : UInt16) (s : Str) (notHigh : isHigh u = false) (notLow : isLow u = false) :
    characters (u :: s) = (characters s).map (Char.ofNat u.toNat :: ·) := by
  cases s with
  | nil => simp [characters, notHigh, notLow]
  | cons v rest => simp [characters, notHigh, notLow]

-- Buffer.byteLength on a well-formed string.
def byteLength (s : Str) : ℕ := (encodeUtf8 ((characters s).getD [])).size

def isControl (c : Char) : Bool := c.toNat < 32 || c.toNat = 127

def isQuoted (c : Char) : Bool := c = '"' || c = '\\'

def quoteChar (c : Char) : List Char := if isQuoted c then ['\\', c] else [c]

theorem pair_char_large (u v : UInt16) (high : isHigh u = true) (low : isLow v = true) : 65536 ≤ (pairChar u v).toNat := by
  simp only [isHigh, isLow, Bool.and_eq_true, decide_eq_true_eq] at high low
  rw [pairChar, char_of_valid _ (by right; omega)]
  omega

theorem pair_char_plain (u v : UInt16) (high : isHigh u = true) (low : isLow v = true) : isQuoted (pairChar u v) = false := by
  have large := pair_char_large u v high low
  simp only [isQuoted, Bool.or_eq_false_iff, decide_eq_false_iff_not]
  constructor
  · intro same
    simp [same] at large
  · intro same
    simp [same] at large

theorem quote_unit_char (u : UInt16) (notHigh : isHigh u = false) (notLow : isLow u = false)
    (plain : isControl (Char.ofNat u.toNat) = false) : quoteUnit u = quoteChar (Char.ofNat u.toNat) := by
  have value := unit_char_value u notHigh notLow
  simp only [isControl, value, Bool.or_eq_false_iff, decide_eq_false_iff_not] at plain
  by_cases mark : u = 0x22
  · subst mark
    decide
  by_cases slash : u = 0x5C
  · subst slash
    decide
  have unquoted : isQuoted (Char.ofNat u.toNat) = false := by
    simp only [isQuoted, Bool.or_eq_false_iff, decide_eq_false_iff_not]
    constructor
    · intro same
      rw [same] at value
      exact mark (UInt16.toNat.inj value.symm)
    · intro same
      rw [same] at value
      exact slash (UInt16.toNat.inj value.symm)
  rw [quoteChar, unquoted, quote_unit_plain u plain.1 notHigh notLow mark slash]
  rfl

theorem quote_units_characters (s : Str) (cs : List Char) (scalar : characters s = some cs)
    (plain : ∀ c ∈ cs, isControl c = false) : quoteUnits s = cs.flatMap quoteChar := by
  induction s using characters.induct generalizing cs with
  | case1 =>
      cases scalar
      rfl
  | case2 u lone => simp [characters, lone] at scalar
  | case3 u whole =>
      simp only [Bool.or_eq_true, not_or, Bool.not_eq_true] at whole
      simp only [characters, whole, Bool.or_self, Bool.false_eq_true, if_false, Option.some.injEq] at scalar
      subst scalar
      rw [quoteUnits, quote_unit_char u whole.1 whole.2 (plain _ (by simp))]
      simp
  | case4 u v rest pair ih =>
      simp only [characters, pair, if_true] at scalar
      obtain ⟨tail, inner, rfl⟩ := Option.map_eq_some_iff.mp scalar
      have both : isHigh u = true ∧ isLow v = true := by simpa using pair
      rw [quoteUnits, if_pos pair, ih tail inner fun c member => plain c (by simp [member]), List.flatMap_cons, quoteChar,
        pair_char_plain u v both.1 both.2]
      rfl
  | case5 u v rest single lone => simp [characters, single, lone] at scalar
  | case6 u v rest single whole ih =>
      simp only [characters, if_neg single, if_neg whole] at scalar
      obtain ⟨tail, inner, rfl⟩ := Option.map_eq_some_iff.mp scalar
      simp only [Bool.or_eq_true, not_or, Bool.not_eq_true] at whole
      rw [quoteUnits, if_neg single, quote_unit_char u whole.1 whole.2 (plain _ (by simp)),
        ih tail inner fun c member => plain c (by simp [member]), List.flatMap_cons]

def quotedCount (s : Str) : ℕ := ((characters s).getD []).countP isQuoted

theorem quoted_size (cs : List Char) : (encodeUtf8 (cs.flatMap quoteChar)).size = (encodeUtf8 cs).size + cs.countP isQuoted := by
  induction cs with
  | nil => rfl
  | cons c rest ih =>
      rw [List.flatMap_cons, encode_append_size, ih, encode_cons_size c rest, quoteChar]
      by_cases mark : isQuoted c = true
      · rw [if_pos mark, List.countP_cons_of_pos mark, encode_cons_size, encode_cons_size]
        have slash : ('\\' : Char).utf8Size = 1 := by decide
        have empty : (encodeUtf8 []).size = 0 := rfl
        omega
      · rw [if_neg mark, List.countP_cons_of_neg mark, encode_cons_size]
        have empty : (encodeUtf8 []).size = 0 := rfl
        omega

theorem quote_size (s : Str) (cs : List Char) (scalar : characters s = some cs) (plain : ∀ c ∈ cs, isControl c = false) :
    (encodeUtf8 (quote s)).size = byteLength s + quotedCount s + 2 := by
  have mark : ('"' : Char).utf8Size = 1 := by decide
  have empty : (encodeUtf8 []).size = 0 := rfl
  rw [quote, quote_units_characters s cs scalar plain, encode_cons_size, encode_append_size, quoted_size, encode_cons_size,
    byteLength, quotedCount, scalar]
  simp only [Option.getD_some]
  omega

end Ecma
