import N2F.Id
import N2F.Ecma.Radix
import N2F.Ecma.Properties

set_option autoImplicit false

namespace N2F

open Ecma

def dashUnit : UInt16 := 45

-- Number.parseInt(id[14], 16); none is NaN.
def version (id : Str) : Option ℕ := parseHex ((id.drop 14).take 1)

def unixMillis (id : Str) : Option ℕ :=
  if version id = some 7 then parseHex (id.take 8 ++ (id.drop 9).take 4) else none

-- The bytes behind the counter in hexadecimal; the first one carries the variant.
def suffixBytes (suffix : List UInt8) : List ℕ :=
  suffix.mapIdx fun i b => if i = 0 then (b.toNat &&& 0x3f) ||| 0x80 else b.toNat

def encodeV7 (ms counter : ℕ) (suffix : List UInt8) : Str :=
  let stamp := padStart 12 (digitUnit 0) (radixText 16 ms)
  let sequence := radixText 16 (0x7000 ||| counter)
  let tail := (suffixBytes suffix).flatMap fun b => padStart 2 (digitUnit 0) (radixText 16 b)
  stamp.take 8 ++ dashUnit :: (stamp.drop 8 ++ dashUnit :: (sequence ++ dashUnit :: (tail.take 4 ++ dashUnit :: tail.drop 4)))

-- The millisecond a reading stands for; both zeros are the first one.
def wallMillis (ms : Number) : Option ℕ :=
  if !ms.isSafeInteger || ms.below 0 || ms.above 281474976710655 then none
  else ms.rational.map fun q => q.num.toNat

structure V7 where
  last : Option ℕ
  counter : ℕ
deriving DecidableEq

def V7.new : V7 := ⟨none, 0⟩

abbrev Entropy := Vector UInt8 10

def seed (random : Entropy) : ℕ := (random[0].toNat <<< 8 ||| random[1].toNat) &&& 0x07ff

-- One call with the reading of its clock and what its entropy gives or throws.
def V7.newId (g : V7) (now : Number) (entropy : Option Entropy) : Result Str × V7 :=
  match wallMillis now with
  | none => (.error (failure .invalid "ID timestamp out of range" "id.time_range"), g)
  | some wall =>
      let fresh := g.last.all (· < wall)
      let ms := if fresh then wall else g.last.getD wall
      if !fresh && g.counter = 4095 then (.error (failure .unavailable "ID counter exhausted" "id.exhausted"), g)
      else
        match entropy with
        | none => (.error (failure .unavailable "ID entropy unavailable" "id.entropy"), g)
        | some random =>
            let counter := if fresh then seed random else g.counter + 1
            (.ok (encodeV7 ms counter (random.toList.drop 2)), ⟨some ms, counter⟩)

structure IdCall where
  now : Number
  entropy : Option Entropy

def V7.issued (g : V7) : List IdCall → List (Number × Str)
  | [] => []
  | call :: rest =>
      match g.newId call.now call.entropy with
      | (.ok id, next) => (call.now, id) :: next.issued rest
      | (.error _, next) => next.issued rest

def hexText (ds : List ℕ) : Str := ds.map digitUnit

def suffixDigits (suffix : List UInt8) : List ℕ := (suffixBytes suffix).flatMap (digits 16 2)

theorem variant_byte (b : UInt8) : (b.toNat &&& 0x3f) ||| 0x80 = 128 + b.toNat % 64 := by
  have masked : b.toNat &&& 0x3f = b.toNat % 64 := Nat.and_two_pow_sub_one_eq_mod b.toNat 6
  have small : b.toNat % 64 < 2 ^ 7 := by omega
  rw [masked, Nat.or_comm]
  exact (Nat.two_pow_add_eq_or_of_lt small 1).symm

theorem suffix_bytes_small (suffix : List UInt8) : ∀ b ∈ suffixBytes suffix, b < 256 := by
  intro b member
  obtain ⟨i, inside, rfl⟩ := List.mem_mapIdx.mp member
  have bound := suffix[i].toNat_lt
  split_ifs
  · rw [variant_byte]
    omega
  · exact bound

theorem version_digits (counter : ℕ) (small : counter < 4096) : 0x7000 ||| counter = 0x7000 + counter :=
  (Nat.shiftLeft_add_eq_or_of_lt (i := 12) (by simpa using small) 7).symm

theorem sequence_text (counter : ℕ) (small : counter < 4096) :
    radixText 16 (0x7000 ||| counter) = hexText (7 :: digits 16 3 counter) := by
  rw [version_digits counter small, radix_above 16 _ (by omega) le_rfl (by omega), radix_above 16 _ (by omega) le_rfl (by omega),
    radix_above 16 _ (by omega) le_rfl (by omega), radix_below 16 _ le_rfl (by omega)]
  have lead : (0x7000 + counter) / 16 / 16 / 16 = 7 := by omega
  have high : (0x7000 + counter) / 16 / 16 % 16 = counter / 16 / 16 % 16 := by omega
  have middle : (0x7000 + counter) / 16 % 16 = counter / 16 % 16 := by omega
  have low : (0x7000 + counter) % 16 = counter % 16 := by omega
  rw [lead, high, middle, low]
  rfl

theorem tail_text (suffix : List UInt8) :
    (suffixBytes suffix).flatMap (fun b => padStart 2 (digitUnit 0) (radixText 16 b)) = hexText (suffixDigits suffix) := by
  rw [suffixDigits, hexText, List.map_flatMap]
  apply List.flatMap_congr
  intro b member
  exact radix_padded 16 1 b (by omega) (by omega) (suffix_bytes_small suffix b member)

theorem stamp_text (ms : ℕ) (fits : ms < 16 ^ 12) :
    padStart 12 (digitUnit 0) (radixText 16 ms) = hexText (digits 16 8 (ms / 16 ^ 4)) ++ hexText (digits 16 4 ms) := by
  rw [hexText, hexText, ← List.map_append, ← digits_append 16 8 4 ms]
  exact radix_padded 16 11 ms (by omega) le_rfl fits

theorem hex_text_length (ds : List ℕ) : (hexText ds).length = ds.length := List.length_map ..

theorem encode_groups (ms counter : ℕ) (suffix : List UInt8) (fits : ms < 16 ^ 12) (small : counter < 4096) :
    encodeV7 ms counter suffix =
      hexText (digits 16 8 (ms / 16 ^ 4)) ++ dashUnit :: (hexText (digits 16 4 ms) ++ dashUnit ::
        (hexText (7 :: digits 16 3 counter) ++ dashUnit :: (hexText ((suffixDigits suffix).take 4) ++ dashUnit ::
          hexText ((suffixDigits suffix).drop 4)))) := by
  have width : (hexText (digits 16 8 (ms / 16 ^ 4))).length = 8 := by rw [hex_text_length, digits_length]
  simp only [encodeV7, stamp_text ms fits, sequence_text counter small, tail_text]
  rw [List.take_left' width, List.drop_left' width]
  simp only [hexText, List.map_take, List.map_drop]

theorem hex_less (width a b : ℕ) (less : a < b) (fits : b < 16 ^ width) :
    hexText (digits 16 width a) < hexText (digits 16 width b) := by
  apply less_map
  · intro d _ e member below
    exact digit_unit_less d e (digits_below 16 width b (by omega) e member) below
  · exact digits_less 16 width a b less fits

theorem encode_less (ms ms' counter counter' : ℕ) (suffix suffix' : List UInt8) (fits : ms' < 16 ^ 12)
    (small : counter < 4096) (small' : counter' < 4096) (later : ms < ms' ∨ ms = ms' ∧ counter < counter') :
    encodeV7 ms counter suffix < encodeV7 ms' counter' suffix' := by
  rw [encode_groups ms counter suffix (by omega) small, encode_groups ms' counter' suffix' fits small']
  have even (width a b : ℕ) : (hexText (digits 16 width a)).length = (hexText (digits 16 width b)).length := by
    simp only [hex_text_length, digits_length]
  rcases later with less | ⟨rfl, less⟩
  · rcases lt_or_eq_of_le (Nat.div_le_div_right (c := 16 ^ 4) less.le) with high | same
    · exact field_less _ _ _ _ (even ..) (hex_less 8 _ _ high (by omega))
    · rw [same]
      apply List.append_left_lt
      apply List.Lex.cons
      have low : ms % 16 ^ 4 < ms' % 16 ^ 4 := by omega
      rw [digits_mod 16 4 ms, digits_mod 16 4 ms']
      exact field_less _ _ _ _ (even ..) (hex_less 4 _ _ low (by omega))
  · apply List.append_left_lt
    apply List.Lex.cons
    apply List.append_left_lt
    apply List.Lex.cons
    apply List.Lex.cons
    exact field_less _ _ _ _ (even ..) (hex_less 3 _ _ less (by omega))

theorem suffix_digits_length (suffix : List UInt8) : (suffixDigits suffix).length = 2 * suffix.length := by
  have pairs (bytes : List ℕ) : (bytes.flatMap (digits 16 2)).length = 2 * bytes.length := by
    induction bytes with
    | nil => rfl
    | cons b rest ih =>
        simp only [List.flatMap_cons, List.length_append, digits_length, ih, List.length_cons]
        omega
  rw [suffixDigits, pairs, suffixBytes, List.length_mapIdx]

theorem suffix_digits_below (suffix : List UInt8) : ∀ d ∈ suffixDigits suffix, d < 16 := by
  intro d member
  obtain ⟨b, _, inside⟩ := List.mem_flatMap.mp member
  exact digits_below 16 2 b (by omega) d inside

theorem variant_digits (b : UInt8) (rest : List UInt8) :
    ∃ d tail, suffixDigits (b :: rest) = d :: tail ∧ 8 ≤ d ∧ d < 12 := by
  have lead : 8 ≤ (128 + b.toNat % 64) / 16 % 16 ∧ (128 + b.toNat % 64) / 16 % 16 < 12 := by omega
  refine ⟨(128 + b.toNat % 64) / 16 % 16, ?_, ?_, lead⟩
  rotate_left
  · simp only [suffixDigits, suffixBytes, List.mapIdx_cons, List.flatMap_cons, if_true, variant_byte, digits, List.nil_append,
      List.cons_append]
    rfl

theorem hex_digit_unit (d : ℕ) (small : d < 16) : hex (digitUnit d) = true ∧ lower (digitUnit d) = digitUnit d := by
  interval_cases d <;> decide

theorem hex_text_run (ds : List ℕ) (width : ℕ) (small : ∀ d ∈ ds, d < 16) (length : ds.length = width) :
    (Pattern.run hex width width).Accepts (hexText ds) := by
  refine ⟨by rw [hex_text_length, length], by rw [hex_text_length, length], fun u member => ?_⟩
  obtain ⟨d, inside, rfl⟩ := List.mem_map.mp member
  exact (hex_digit_unit d (small d inside)).1

theorem hex_text_lower (ds : List ℕ) (small : ∀ d ∈ ds, d < 16) : (hexText ds).map lower = hexText ds := by
  rw [hexText, List.map_map]
  exact List.map_congr_left fun d inside => (hex_digit_unit d (small d inside)).2

theorem dash_accepts : dash.Accepts [dashUnit] := ⟨dashUnit, rfl, by decide⟩

theorem digits_small (width n : ℕ) : ∀ d ∈ digits 16 width n, d < 16 := digits_below 16 width n (by omega)

theorem sequence_small (counter : ℕ) : ∀ d ∈ 7 :: digits 16 3 counter, d < 16 := by
  intro d member
  rcases List.mem_cons.mp member with rfl | inside
  · omega
  · exact digits_small 3 counter d inside

theorem encode_canonical (ms counter : ℕ) (suffix : List UInt8) (fits : ms < 16 ^ 12) (small : counter < 4096)
    (length : suffix.length = 8) : canonical.Accepts (encodeV7 ms counter suffix) := by
  obtain ⟨b, rest, rfl⟩ := List.exists_cons_of_length_eq_add_one length
  obtain ⟨d, tail, split, least, most⟩ := variant_digits b rest
  have width := suffix_digits_length (b :: rest)
  have below := suffix_digits_below (b :: rest)
  rw [split, length] at width
  rw [split] at below
  have long : tail.length = 15 := by simpa using width
  rw [encode_groups ms counter _ fits small, split]
  refine ⟨_, _, rfl, hex_text_run _ 8 (digits_small _ _) (digits_length ..), ?_⟩
  refine ⟨[dashUnit], _, rfl, dash_accepts, _, _, rfl, hex_text_run _ 4 (digits_small _ _) (digits_length ..), ?_⟩
  refine ⟨[dashUnit], _, rfl, dash_accepts, _, _, rfl, hex_text_run _ 4 (sequence_small counter) (by simp [digits_length]), ?_⟩
  refine ⟨[dashUnit], _, rfl, dash_accepts, [digitUnit d], hexText (tail.take 3) ++ dashUnit :: hexText (tail.drop 3), rfl, ?_, ?_⟩
  · refine ⟨digitUnit d, rfl, ?_⟩
    interval_cases d <;> decide
  · refine ⟨_, _, rfl, ?_, [dashUnit], _, rfl, dash_accepts, ?_⟩
    · apply hex_text_run
      · exact fun e inside => below e (List.mem_cons_of_mem _ (List.mem_of_mem_take inside))
      · simp [long]
    · apply hex_text_run
      · exact fun e inside => below e (List.mem_cons_of_mem _ (List.mem_of_mem_drop inside))
      · simp [long]

theorem encode_parses (ms counter : ℕ) (suffix : List UInt8) (fits : ms < 16 ^ 12) (small : counter < 4096)
    (length : suffix.length = 8) : parse (encodeV7 ms counter suffix) = .ok (encodeV7 ms counter suffix) := by
  apply (parse_ok_iff _ _).mpr
  refine ⟨?_, (test_iff _ _).mpr (encode_canonical ms counter suffix fits small length), ?_⟩
  · rw [encode_groups ms counter suffix fits small]
    simp [hex_text_length, digits_length, suffix_digits_length, length]
  · have dashes : lower dashUnit = dashUnit := by decide
    have tail := suffix_digits_below suffix
    simp only [encode_groups ms counter suffix fits small, List.map_append, List.map_cons, dashes,
      hex_text_lower _ (digits_small _ _), hex_text_lower _ (sequence_small counter),
      hex_text_lower _ fun d inside => tail d (List.mem_of_mem_take inside),
      hex_text_lower _ fun d inside => tail d (List.mem_of_mem_drop inside)]

theorem encode_version (ms counter : ℕ) (suffix : List UInt8) (fits : ms < 16 ^ 12) (small : counter < 4096) :
    version (encodeV7 ms counter suffix) = some 7 := by
  have place : encodeV7 ms counter suffix =
      (hexText (digits 16 8 (ms / 16 ^ 4)) ++ dashUnit :: (hexText (digits 16 4 ms) ++ [dashUnit])) ++
        digitUnit 7 :: (hexText (digits 16 3 counter) ++ dashUnit :: (hexText ((suffixDigits suffix).take 4) ++ dashUnit ::
          hexText ((suffixDigits suffix).drop 4))) := by
    rw [encode_groups ms counter suffix fits small]
    simp [hexText]
  rw [version, place, List.drop_left' (by simp [hex_text_length, digits_length])]
  exact parse_hex_digits [7] (by simp) (by simp)

theorem encode_millis (ms counter : ℕ) (suffix : List UInt8) (fits : ms < 16 ^ 12) (small : counter < 4096) :
    unixMillis (encodeV7 ms counter suffix) = some ms := by
  have high : (hexText (digits 16 8 (ms / 16 ^ 4))).length = 8 := by rw [hex_text_length, digits_length]
  have low : (hexText (digits 16 4 ms)).length = 4 := by rw [hex_text_length, digits_length]
  rw [unixMillis, if_pos (encode_version ms counter suffix fits small), encode_groups ms counter suffix fits small,
    List.take_left' high]
  rw [List.append_cons (hexText (digits 16 8 (ms / 16 ^ 4))), List.drop_left' (by rw [List.length_append, high]; rfl), List.take_left' low, hexText,
    hexText, ← List.map_append, ← digits_append 16 8 4 ms, parse_hex_digits _ (digits_small 12 ms) ?_,
    positional_digits 16 12 ms fits]
  intro empty
  have width := digits_length 16 12 ms
  simp [empty] at width

theorem in_range (q : ℚ) (whole : q.den = 1) (least : 0 ≤ q) (most : q ≤ 281474976710655) :
    q.num.toNat < 16 ^ 12 ∧ q = (q.num.toNat : ℚ) := by
  have value : q = (q.num : ℚ) := (Rat.den_eq_one_iff q).mp whole |>.symm
  have lower : 0 ≤ q.num := Rat.num_nonneg.mpr least
  have upper : q.num ≤ 281474976710655 := by
    rw [value] at most
    exact_mod_cast most
  refine ⟨by omega, ?_⟩
  have cast : ((q.num.toNat : ℤ) : ℚ) = (q.num : ℚ) := by rw [Int.toNat_of_nonneg lower]
  rw [value]
  exact_mod_cast cast.symm

theorem wall_millis_some (now : Number) (wall : ℕ) (accepted : wallMillis now = some wall) :
    wall < 16 ^ 12 ∧ now.rational = some (wall : ℚ) := by
  rw [wallMillis] at accepted
  split_ifs at accepted with refused
  simp only [Bool.or_eq_true, not_or, Bool.not_eq_true, Bool.not_eq_false'] at refused
  obtain ⟨⟨safe, low⟩, high⟩ := refused
  cases now with
  | nan => cases accepted
  | infinity negative => cases accepted
  | negZero =>
      obtain rfl : 0 = wall := by simpa [Number.rational] using accepted
      exact ⟨by omega, rfl⟩
  | finite d =>
      obtain rfl : d.value.num.toNat = wall := by simpa [Number.rational] using accepted
      simp only [Number.isSafeInteger, Number.rational, decide_eq_true_eq] at safe
      simp only [Number.below, decide_eq_false_iff_not, not_lt] at low
      simp only [Number.above, decide_eq_false_iff_not, not_lt] at high
      obtain ⟨bound, value⟩ := in_range d.value safe.1 low high
      exact ⟨bound, congrArg some value⟩

theorem seed_small (random : Entropy) : seed random < 4096 := by
  have masked : seed random = (random[0].toNat <<< 8 ||| random[1].toNat) % 2048 := Nat.and_two_pow_sub_one_eq_mod _ 11
  omega

structure V7.Bounded (g : V7) : Prop where
  last : ∀ ms, g.last = some ms → ms < 16 ^ 12
  counter : g.counter < 4096

def V7.Before (g : V7) (ms counter : ℕ) : Prop := ∀ last, g.last = some last → last < ms ∨ last = ms ∧ g.counter < counter

theorem suffix_length (random : Entropy) : (random.toList.drop 2).length = 8 := by simp

theorem new_id_ok (g next : V7) (now : Number) (entropy : Option Entropy) (id : Str) (bounded : g.Bounded)
    (issued : g.newId now entropy = (.ok id, next)) :
    ∃ wall ms, ∃ suffix : List UInt8, wallMillis now = some wall ∧ suffix.length = 8 ∧ id = encodeV7 ms next.counter suffix ∧
      next.last = some ms ∧ ms = max wall (g.last.getD wall) ∧ next.Bounded ∧ g.Before ms next.counter := by
  cases read : wallMillis now with
  | none => simp [V7.newId, read] at issued
  | some wall =>
      have inside := (wall_millis_some now wall read).1
      cases entropy with
      | none =>
          simp only [V7.newId, read] at issued
          split_ifs at issued <;> cases issued
      | some random =>
          simp only [V7.newId, read] at issued
          split_ifs at issued with exhausted fresh
          · cases issued
          · cases issued
            refine ⟨wall, wall, _, rfl, suffix_length random, rfl, rfl, ?_, ⟨?_, seed_small random⟩, ?_⟩
            · cases started : g.last with
              | none => simp
              | some last =>
                  have below : last < wall := by simpa [started] using fresh
                  simp [below.le]
            · intro ms same
              cases same
              exact inside
            · intro last started
              exact .inl (by simpa [started] using fresh)
          · cases issued
            obtain ⟨last, started, above⟩ : ∃ last, g.last = some last ∧ wall ≤ last := by
              cases started : g.last with
              | none => simp [started] at fresh
              | some last => exact ⟨last, rfl, by simpa [started] using fresh⟩
            have room : g.counter ≠ 4095 := by simpa [fresh] using exhausted
            have small := bounded.counter
            refine ⟨wall, last, _, rfl, suffix_length random, by rw [started]; rfl, by rw [started]; rfl, ?_, ⟨?_, ?_⟩, ?_⟩
            · simp [started, above]
            · intro ms same
              rw [started] at same
              exact bounded.last ms (started.trans same)
            · exact Nat.lt_of_le_of_ne small (by simpa using room)
            · intro last' started'
              rw [started] at started'
              cases started'
              exact .inr ⟨rfl, Nat.lt_succ_self _⟩

theorem new_id_error (g next : V7) (now : Number) (entropy : Option Entropy) (e : Failure)
    (refused : g.newId now entropy = (.error e, next)) : next = g := by
  cases read : wallMillis now with
  | none =>
      simp only [V7.newId, read] at refused
      cases refused
      rfl
  | some wall =>
      cases entropy with
      | none =>
          simp only [V7.newId, read] at refused
          split_ifs at refused <;> cases refused <;> rfl
      | some random =>
          simp only [V7.newId, read] at refused
          split_ifs at refused with exhausted fresh
          · cases refused
            rfl
          · cases refused
          · cases refused

theorem issued_cases (g : V7) (call : IdCall) (rest : List IdCall) :
    (g.issued (call :: rest) = g.issued rest) ∨
      ∃ next id, g.newId call.now call.entropy = (.ok id, next) ∧
        g.issued (call :: rest) = (call.now, id) :: next.issued rest := by
  rcases called : g.newId call.now call.entropy with ⟨answer, next⟩
  cases answer with
  | error e =>
      left
      rw [V7.issued, called, new_id_error g next _ _ e called]
  | ok id =>
      right
      refine ⟨next, id, rfl, ?_⟩
      rw [V7.issued, called]

def V7.Gives (g : V7) (id : Str) : Prop :=
  ∃ ms counter, ∃ suffix : List UInt8, id = encodeV7 ms counter suffix ∧ suffix.length = 8 ∧ ms < 16 ^ 12 ∧ counter < 4096 ∧
    g.Before ms counter

theorem gives_earlier (g next : V7) (ms : ℕ) (id : Str) (last : next.last = some ms) (before : g.Before ms next.counter)
    (gives : next.Gives id) : g.Gives id := by
  obtain ⟨ms', counter, suffix, same, length, fits, small, later⟩ := gives
  refine ⟨ms', counter, suffix, same, length, fits, small, fun last' started => ?_⟩
  rcases before last' started with less | ⟨rfl, less⟩
  · rcases later ms last with more | ⟨rfl, more⟩
    · exact .inl (less.trans more)
    · exact .inl less
  · rcases later last' last with more | ⟨rfl, more⟩
    · exact .inl more
    · exact .inr ⟨rfl, less.trans more⟩

theorem issued_gives (g : V7) (calls : List IdCall) (bounded : g.Bounded) : ∀ x ∈ g.issued calls, g.Gives x.2 := by
  induction calls generalizing g with
  | nil => simp [V7.issued]
  | cons call rest ih =>
      intro x member
      rcases issued_cases g call rest with same | ⟨next, id, called, same⟩
      · rw [same] at member
        exact ih g bounded x member
      · obtain ⟨wall, ms, suffix, _, length, encoded, last, _, bounded', before⟩ := new_id_ok g next _ _ id bounded called
        rw [same] at member
        rcases List.mem_cons.mp member with rfl | later
        · exact ⟨ms, next.counter, suffix, encoded, length, bounded'.last ms last, bounded'.counter, before⟩
        · exact gives_earlier g next ms x.2 last before (ih next bounded' x later)

theorem issued_increase (g : V7) (calls : List IdCall) (bounded : g.Bounded) :
    ((g.issued calls).map Prod.snd).Pairwise (· < ·) := by
  induction calls generalizing g with
  | nil => exact .nil
  | cons call rest ih =>
      rcases issued_cases g call rest with same | ⟨next, id, called, same⟩
      · rw [same]
        exact ih g bounded
      · obtain ⟨wall, ms, suffix, _, length, rfl, last, _, bounded', before⟩ := new_id_ok g next _ _ id bounded called
        rw [same, List.map_cons, List.pairwise_cons]
        refine ⟨fun other member => ?_, ih next bounded'⟩
        obtain ⟨x, inside, rfl⟩ := List.mem_map.mp member
        obtain ⟨ms', counter, suffix', encoded, _, fits, small, later⟩ := issued_gives next rest bounded' x inside
        rw [encoded]
        exact encode_less ms ms' next.counter counter suffix suffix' fits bounded'.counter small (later ms last)

def V7.Readings (g : V7) (calls : List (Number × Str)) : Set ℚ :=
  {q | (∃ last, g.last = some last ∧ q = last) ∨ ∃ y ∈ calls, y.1.rational = some q}

theorem readings_advance (g next : V7) (now : Number) (id : Str) (wall ms : ℕ) (calls : List (Number × Str)) (m : ℚ)
    (read : now.rational = some (wall : ℚ)) (last : next.last = some ms) (newest : ms = max wall (g.last.getD wall))
    (greatest : IsGreatest (next.Readings calls) m) : IsGreatest (g.Readings ((now, id) :: calls)) m := by
  have kept : (ms : ℚ) ≤ m := greatest.2 (.inl ⟨ms, last, rfl⟩)
  constructor
  · rcases greatest.1 with ⟨last', started, rfl⟩ | ⟨y, member, value⟩
    · obtain rfl : ms = last' := by simpa [last] using started
      rcases max_choice wall (g.last.getD wall) with this | this
      · exact .inr ⟨(now, id), by simp, by rw [newest, this]; exact read⟩
      · cases before : g.last with
        | none => exact .inr ⟨(now, id), by simp, by simpa [newest, before] using read⟩
        | some last => exact .inl ⟨last, before, by rw [newest, this, before]; rfl⟩
    · exact .inr ⟨y, List.mem_cons_of_mem _ member, value⟩
  · rintro q (⟨last', started, rfl⟩ | ⟨y, member, value⟩)
    · have less : last' ≤ ms := by simp [newest, started]
      exact le_trans (by exact_mod_cast less) kept
    · rcases List.mem_cons.mp member with rfl | inside
      · obtain rfl : (wall : ℚ) = q := Option.some.inj (read.symm.trans value)
        have less : wall ≤ ms := by simp [newest]
        exact le_trans (by exact_mod_cast less) kept
      · exact greatest.2 (.inr ⟨y, inside, value⟩)

theorem issued_millis (g : V7) (calls : List IdCall) (bounded : g.Bounded) (earlier : List (Number × Str)) (x : Number × Str)
    (later : List (Number × Str)) (split : g.issued calls = earlier ++ x :: later) :
    ∃ ms : ℕ, unixMillis x.2 = some ms ∧ IsGreatest (g.Readings (earlier ++ [x])) (ms : ℚ) := by
  induction calls generalizing g earlier with
  | nil => simp [V7.issued] at split
  | cons call rest ih =>
      rcases issued_cases g call rest with same | ⟨next, id, called, same⟩
      · rw [same] at split
        exact ih g bounded earlier split
      · obtain ⟨wall, ms, suffix, accepted, length, encoded, last, newest, bounded', before⟩ :=
          new_id_ok g next _ _ id bounded called
        have read := (wall_millis_some _ wall accepted).2
        rw [same] at split
        cases earlier with
        | nil =>
            obtain ⟨rfl, rfl⟩ := List.cons.inj split
            refine ⟨ms, by rw [encoded, encode_millis ms _ suffix (bounded'.last ms last) bounded'.counter], ?_⟩
            apply readings_advance g next call.now id wall ms [] ms read last newest
            exact ⟨.inl ⟨ms, last, rfl⟩, fun q inside => by simp_all [V7.Readings]⟩
        | cons y earlier =>
            obtain ⟨rfl, tail⟩ := List.cons.inj split
            obtain ⟨m, millis, greatest⟩ := ih next bounded' earlier tail
            exact ⟨m, millis, readings_advance g next call.now id wall ms _ m read last newest greatest⟩

theorem new_bounded : V7.new.Bounded := ⟨nofun, by decide⟩

theorem new_ids_increase (calls : List IdCall) :
    ((V7.new.issued calls).map Prod.snd).Pairwise (· < ·) ∧ ((V7.new.issued calls).map Prod.snd).Nodup ∧
    (∀ x ∈ V7.new.issued calls, parse x.2 = .ok x.2 ∧ version x.2 = some 7) ∧
    ∀ earlier x later, V7.new.issued calls = earlier ++ x :: later →
      ∃ ms : ℕ, unixMillis x.2 = some ms ∧ IsGreatest {q | ∃ y ∈ earlier ++ [x], y.1.rational = some q} (ms : ℚ) := by
  have increase := issued_increase V7.new calls new_bounded
  refine ⟨increase, increase.imp fun less same => ?_, fun x member => ?_, fun earlier x later split => ?_⟩
  · subst same
    exact List.lt_irrefl _ less
  · obtain ⟨ms, counter, suffix, encoded, length, fits, small, _⟩ := issued_gives V7.new calls new_bounded x member
    rw [encoded]
    exact ⟨encode_parses ms counter suffix fits small length, encode_version ms counter suffix fits small⟩
  · obtain ⟨ms, millis, greatest⟩ := issued_millis V7.new calls new_bounded earlier x later split
    refine ⟨ms, millis, ?_⟩
    simpa [V7.Readings, V7.new] using greatest

-- The clock runs back, reads no time and the entropy throws, in this order.
example :
    let random : Entropy := Vector.replicate 10 7
    (V7.new.issued [⟨.ofInt 5, some random⟩, ⟨.ofInt 3, some random⟩, ⟨.nan, some random⟩, ⟨.ofInt 8, none⟩, ⟨.ofInt 6, some random⟩]).map
      (fun x => (unixMillis x.2, (x.2.drop 15).take 3)) =
        [(some 5, str "707"), (some 5, str "708"), (some 6, str "707")] := by decide +kernel

end N2F
