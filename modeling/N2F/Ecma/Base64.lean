import N2F.Ecma.Text

set_option autoImplicit false

namespace Ecma

def sextetUnit (n : ℕ) : UInt16 :=
  if n < 26 then UInt16.ofNat (n + 65)
  else if n < 52 then UInt16.ofNat (n + 71)
  else if n < 62 then UInt16.ofNat (n - 4)
  else if n = 62 then 45
  else 95

def sextetValue (u : UInt16) : Option ℕ :=
  let n := u.toNat
  if 65 ≤ n ∧ n ≤ 90 then some (n - 65)
  else if 97 ≤ n ∧ n ≤ 122 then some (n - 71)
  else if 48 ≤ n ∧ n ≤ 57 then some (n + 4)
  else if n = 45 then some 62
  else if n = 95 then some 63
  else none

def sextets : List UInt8 → List ℕ
  | [] => []
  | [a] => [a.toNat / 4, a.toNat % 4 * 16]
  | [a, b] => [a.toNat / 4, a.toNat % 4 * 16 + b.toNat / 16, b.toNat % 16 * 4]
  | a :: b :: c :: rest =>
      a.toNat / 4 :: (a.toNat % 4 * 16 + b.toNat / 16) :: (b.toNat % 16 * 4 + c.toNat / 64) :: c.toNat % 64 :: sextets rest

-- The bits left over behind the last whole byte are dropped.
def octets : List ℕ → List UInt8
  | [] => []
  | [_] => []
  | [w, x] => [UInt8.ofNat (w * 4 + x / 16)]
  | [w, x, y] => [UInt8.ofNat (w * 4 + x / 16), UInt8.ofNat (x % 16 * 16 + y / 4)]
  | w :: x :: y :: z :: rest =>
      UInt8.ofNat (w * 4 + x / 16) :: UInt8.ofNat (x % 16 * 16 + y / 4) :: UInt8.ofNat (y % 4 * 64 + z) :: octets rest

-- bytes.toString('base64url')
def base64Text (bytes : List UInt8) : Str := (sextets bytes).map sextetUnit

-- Buffer.from(text, 'base64url') on text without '=', where the decoder would end.
def base64Bytes (text : Str) : List UInt8 := octets (text.filterMap sextetValue)

theorem sextet_value_unit (n : ℕ) (small : n < 64) : sextetValue (sextetUnit n) = some n := by
  interval_cases n <;> rfl

theorem sextets_small (bytes : List UInt8) : ∀ n ∈ sextets bytes, n < 64 := by
  induction bytes using sextets.induct with
  | case1 => simp [sextets]
  | case2 a =>
      have small := a.toNat_lt
      simp only [sextets, List.mem_cons, List.not_mem_nil, or_false]
      omega
  | case3 a b =>
      have small := a.toNat_lt
      have small' := b.toNat_lt
      simp only [sextets, List.mem_cons, List.not_mem_nil, or_false]
      omega
  | case4 a b c rest ih =>
      have small := a.toNat_lt
      have small' := b.toNat_lt
      have small'' := c.toNat_lt
      simp only [sextets, List.mem_cons]
      rintro n (rfl | rfl | rfl | rfl | later)
      · omega
      · omega
      · omega
      · omega
      · exact ih n later

theorem octets_sextets (bytes : List UInt8) : octets (sextets bytes) = bytes := by
  have first (a r : ℕ) (low : r < 16) : a / 4 * 4 + (a % 4 * 16 + r) / 16 = a := by omega
  have second (h b r : ℕ) (byte : b < 256) (low : r < 4) : (h * 16 + b / 16) % 16 * 16 + (b % 16 * 4 + r) / 4 = b := by omega
  have third (h c : ℕ) (byte : c < 256) : (h * 4 + c / 64) % 4 * 64 + c % 64 = c := by omega
  induction bytes using sextets.induct with
  | case1 => rfl
  | case2 a =>
      have whole := first a.toNat 0 (by omega)
      rw [Nat.add_zero] at whole
      simp only [sextets, octets, whole, UInt8.ofNat_toNat]
  | case3 a b =>
      have byte : b.toNat < 256 := b.toNat_lt
      have whole := second (a.toNat % 4) b.toNat 0 byte (by omega)
      rw [Nat.add_zero] at whole
      simp only [sextets, octets, first a.toNat (b.toNat / 16) (by omega), whole, UInt8.ofNat_toNat]
  | case4 a b c rest ih =>
      have byte : b.toNat < 256 := b.toNat_lt
      have byte' : c.toNat < 256 := c.toNat_lt
      simp only [sextets, octets, first a.toNat (b.toNat / 16) (by omega),
        second (a.toNat % 4) b.toNat (c.toNat / 64) byte (by omega), third (b.toNat % 16) c.toNat byte', UInt8.ofNat_toNat, ih]

theorem values_units (unit : ℕ → UInt16) (value : UInt16 → Option ℕ) (read : ∀ n, n < 64 → value (unit n) = some n) (ns : List ℕ)
    (small : ∀ n ∈ ns, n < 64) : (ns.map unit).filterMap value = ns := by
  induction ns with
  | nil => rfl
  | cons n rest ih =>
      have later := ih fun m member => small m (List.mem_cons_of_mem n member)
      rw [List.map_cons, List.filterMap_cons, read n (small n List.mem_cons_self), later]

theorem base64_round_trip (bytes : List UInt8) : base64Bytes (base64Text bytes) = bytes := by
  rw [base64Bytes, base64Text, values_units sextetUnit sextetValue sextet_value_unit _ (sextets_small bytes), octets_sextets]

theorem base64_length (bytes : List UInt8) : (base64Text bytes).length = (4 * bytes.length + 2) / 3 := by
  have count (bytes : List UInt8) : (sextets bytes).length = (4 * bytes.length + 2) / 3 := by
    induction bytes using sextets.induct with
    | case1 => rfl
    | case2 a => simp [sextets]
    | case3 a b => simp [sextets]
    | case4 a b c rest ih =>
        simp only [sextets, List.length_cons, ih]
        omega
  rw [base64Text, List.length_map, count]

def standardUnit (n : ℕ) : UInt16 := if n = 62 then 43 else if n = 63 then 47 else sextetUnit n

def base64Value (u : UInt16) : Option ℕ := if u = 43 then some 62 else if u = 47 then some 63 else sextetValue u

def padding : UInt16 := 61

-- bytes.toString('base64')
def base64Standard (bytes : List UInt8) : Str :=
  (sextets bytes).map standardUnit ++ List.replicate ((3 - bytes.length % 3) % 3) padding

-- Buffer.from(text, 'base64') takes both alphabets, skips what belongs to neither
-- and ends at the padding.
def base64Decode (text : Str) : List UInt8 := octets ((text.takeWhile (· ≠ padding)).filterMap base64Value)

theorem base64_value_unit (n : ℕ) (small : n < 64) : base64Value (standardUnit n) = some n ∧ standardUnit n ≠ padding := by
  interval_cases n <;> decide

theorem base64_decode_standard (bytes : List UInt8) : base64Decode (base64Standard bytes) = bytes := by
  have pads (k : ℕ) : (List.replicate k padding).takeWhile (· ≠ padding) = [] := by
    cases k with
    | zero => rfl
    | succ k => rfl
  have whole : (base64Standard bytes).takeWhile (· ≠ padding) = (sextets bytes).map standardUnit := by
    rw [base64Standard, List.takeWhile_append_of_pos, pads, List.append_nil]
    intro u member
    obtain ⟨n, inside, rfl⟩ := List.mem_map.mp member
    exact decide_eq_true (base64_value_unit n (sextets_small bytes n inside)).2
  rw [base64Decode, whole, values_units standardUnit base64Value (fun n small => (base64_value_unit n small).1) _ (sextets_small bytes),
    octets_sextets]

end Ecma
