import N2F.Errors
import N2F.Ecma.Base64
import N2F.Ecma.Pattern
import N2F.Ecma.Scalars
import N2F.Ecma.Equality

set_option autoImplicit false

namespace N2F

open Ecma

def invalidPagination : Failure := failure .invalid "invalid pagination" "pagination.invalid"

def validPart (value : Str) (max : ℕ) : Bool :=
  match characters value with
  | none => false
  | some cs => !value.isEmpty && byteLength value ≤ max && !cs.any isControl

def cursor (scope position : Str) : Json := .arr [.num (Number.ofInt 1), .str scope, .str position]

namespace Pagination

def encode (scope position : Str) : Result Str :=
  if validPart scope 128 && validPart position 256 then
    .ok (base64Text (encodeUtf8 (cursor scope position).text).data.toList)
  else .error invalidPagination

-- /^[A-Za-z0-9_-]+$/
def wireUnit (u : UInt16) : Bool := inRange 'A' 'Z' u || inRange 'a' 'z' u || inRange '0' '9' u || oneOf "_-" u

def validWire (wire : Str) : Bool := !wire.isEmpty && wire.length ≤ 1024 && wire.all wireUnit

def positionOf (value : Json) (scope : Str) : Option Str :=
  match value with
  | .arr [.num v, .str s, .str position] =>
      if v.strictEquals (Number.ofInt 1) && s = scope && validPart position 256 then some position else none
  | _ => none

def decode (wire scope : Str) : Result Str :=
  if !validWire wire || !validPart scope 128 then .error invalidPagination
  else
    let bytes := base64Bytes wire
    if base64Text bytes ≠ wire then .error invalidPagination
    else
      match ((decodeUtf8 ⟨bytes.toArray⟩).bind Ecma.parse).bind fun value => positionOf value scope with
      | some position => .ok position
      | none => .error invalidPagination

structure Page (T : Type) where
  items : List T
  hasMore : Bool
  nextCursor : Option Str

-- A page size the helper works with, as the integer it is.
def pageSize (limit : Number) : Option {n : ℕ // 0 < n} :=
  if !limit.isInteger || limit.below 1 || limit.above 100 then none
  else
    match limit.rational.map fun q => q.num.toNat with
    | some (n + 1) => some ⟨n + 1, n.succ_pos⟩
    | _ => none

variable {T : Type}

def lastOf (rows : List T) (size : {n : ℕ // 0 < n}) (more : size.1 < rows.length) : T :=
  (rows.take size.1).getLast (by
    have positive := size.2
    have long : (rows.take size.1).length = min size.1 rows.length := List.length_take ..
    intro empty
    rw [empty, List.length_nil] at long
    omega)

def window (rows : List T) (limit : Number) (scope : Str) (position : T → Str) : Result (Page T) :=
  match pageSize limit with
  | none => .error invalidPagination
  | some size =>
      if size.1 + 1 < rows.length then .error invalidPagination
      else
        let items := rows.take size.1
        if more : size.1 < rows.length then
          match encode scope (position (lastOf rows size more)) with
          | .ok next => .ok ⟨items, true, some next⟩
          | .error e => .error e
        else .ok ⟨items, false, none⟩

def Fits (scope position : Str) : Prop :=
  byteLength scope + quotedCount scope + (byteLength position + quotedCount position) ≤ 759

theorem valid_part_iff (value : Str) (max : ℕ) :
    validPart value max = true ↔
      ∃ cs, characters value = some cs ∧ value ≠ [] ∧ byteLength value ≤ max ∧ ∀ c ∈ cs, isControl c = false := by
  rw [validPart]
  cases scalar : characters value with
  | none => simp
  | some cs => simp [and_assoc]

theorem one_text : numberJson (Number.ofInt 1) = ['1'] := by
  decide +kernel

theorem cursor_text (scope position : Str) :
    (cursor scope position).text = '[' :: '1' :: ',' :: (quote scope ++ ',' :: (quote position ++ [']'])) := by
  simp [cursor, Json.text, elementsText, one_text]

theorem part_size (value : Str) (max : ℕ) (valid : validPart value max = true) :
    (encodeUtf8 (quote value)).size = byteLength value + quotedCount value + 2 := by
  obtain ⟨cs, scalar, _, _, plain⟩ := (valid_part_iff value max).mp valid
  exact quote_size value cs scalar plain

theorem cursor_size (scope position : Str) (max max' : ℕ) (valid : validPart scope max = true)
    (valid' : validPart position max' = true) :
    (encodeUtf8 (cursor scope position).text).size =
      byteLength scope + quotedCount scope + (byteLength position + quotedCount position) + 9 := by
  have narrow : ('[' : Char).utf8Size = 1 ∧ ('1' : Char).utf8Size = 1 ∧ (',' : Char).utf8Size = 1 ∧ (']' : Char).utf8Size = 1 := by
    decide
  have empty : (encodeUtf8 []).size = 0 := rfl
  rw [cursor_text]
  simp only [encode_cons_size, encode_append_size, part_size scope max valid, part_size position max' valid']
  omega

theorem encode_ok_iff (scope position wire : Str) :
    encode scope position = .ok wire ↔
      (validPart scope 128 = true ∧ validPart position 256 = true) ∧
        wire = base64Text (encodeUtf8 (cursor scope position).text).data.toList := by
  rw [encode]
  split_ifs with valid
  · simp only [Bool.and_eq_true] at valid
    simp [valid, eq_comm]
  · simp only [Bool.and_eq_true] at valid
    simp [valid]

theorem wire_units (bytes : List UInt8) : (base64Text bytes).all wireUnit = true := by
  rw [List.all_eq_true]
  intro u member
  obtain ⟨n, inside, rfl⟩ := List.mem_map.mp member
  have small := sextets_small bytes n inside
  interval_cases n <;> decide

theorem wire_valid_iff (scope position wire : Str) (encoded : encode scope position = .ok wire) :
    validWire wire = true ↔ Fits scope position := by
  obtain ⟨⟨valid, valid'⟩, rfl⟩ := (encode_ok_iff scope position wire).mp encoded
  have size := cursor_size scope position 128 256 valid valid'
  have length := base64_length (encodeUtf8 (cursor scope position).text).data.toList
  have bytes : (encodeUtf8 (cursor scope position).text).data.toList.length = (encodeUtf8 (cursor scope position).text).size := rfl
  have nonempty : base64Text (encodeUtf8 (cursor scope position).text).data.toList ≠ [] := by
    intro empty
    rw [empty, List.length_nil] at length
    omega
  simp only [validWire, wire_units, Bool.and_true, Bool.and_eq_true, Bool.not_eq_true', List.isEmpty_eq_false_iff, ne_eq, nonempty,
    not_false_eq_true, true_and, decide_eq_true_eq, Fits]
  omega

theorem position_of_cursor (scope position expected : Str) :
    positionOf (cursor scope position).settle expected =
      if scope = expected ∧ validPart position 256 = true then some position else none := by
  have one := unsigned_equal (Number.ofInt 1) of_int_one_finite
  simp [cursor, Json.settle, settleElements, settle_finite _ of_int_one_finite, positionOf, one]

theorem decode_cursor (scope position wire expected : Str) (encoded : encode scope position = .ok wire) :
    decode wire expected =
      if validWire wire = true ∧ expected = scope then .ok position else .error invalidPagination := by
  have accepted := (encode_ok_iff scope position wire).mp encoded
  obtain ⟨⟨valid, valid'⟩, same⟩ := accepted
  have canonical : (cursor scope position).Canonical := by simp [cursor, Json.Canonical, CanonicalElements]
  have text : decodeUtf8 (encodeUtf8 (cursor scope position).text) = some (cursor scope position).text := by
    rw [cursor_text]
    exact decode_encode '[' _ (by decide)
  have bytes : base64Bytes wire = (encodeUtf8 (cursor scope position).text).data.toList := by
    rw [same, base64_round_trip]
  have raw : (⟨(base64Bytes wire).toArray⟩ : ByteArray) = encodeUtf8 (cursor scope position).text := by rw [bytes]
  have again : base64Text (base64Bytes wire) = wire := by rw [bytes, same]
  have read : ((decodeUtf8 ⟨(base64Bytes wire).toArray⟩).bind Ecma.parse).bind (fun value => positionOf value expected) =
      if scope = expected then some position else none := by
    rw [raw, text, Option.bind_some, parse_text _ canonical, Option.bind_some, position_of_cursor]
    simp [valid']
  rw [decode]
  by_cases fits : validWire wire = true
  · by_cases here : expected = scope
    · subst here
      simp only [fits, valid, Bool.not_true, Bool.or_self, Bool.false_eq_true, if_false, again, ne_eq, not_true_eq_false, read,
        if_true, and_self]
    · have apart : ¬ scope = expected := fun own => here own.symm
      simp only [fits, here, and_false, if_false, again, ne_eq, not_true_eq_false, read, if_neg apart]
      split_ifs
      · rfl
      · rfl
  · simp [fits]

theorem window_ok (rows : List T) (limit : Number) (scope : Str) (position : T → Str) (page : Page T) (next : Str)
    (windowed : window rows limit scope position = .ok page) (more : page.nextCursor = some next) :
    ∃ last, page.items.getLast? = some last ∧ encode scope (position last) = .ok next := by
  rw [window] at windowed
  split at windowed
  · cases windowed
  · next size _ =>
      split_ifs at windowed with long here
      · split at windowed
        · next found encoded =>
            cases windowed
            cases more
            exact ⟨lastOf rows size here, List.getLast?_eq_some_getLast _, encoded⟩
        · cases windowed
      · cases windowed
        cases more

theorem decodes_own_iff (scope position wire : Str) (encoded : encode scope position = .ok wire) :
    decode wire scope = .ok position ↔ Fits scope position := by
  rw [decode_cursor scope position wire scope encoded, ← wire_valid_iff scope position wire encoded]
  by_cases fits : validWire wire = true
  · simp [fits]
  · simp [fits]

theorem decodes_foreign (scope position wire other : Str) (encoded : encode scope position = .ok wire) (apart : other ≠ scope) :
    decode wire other = .error invalidPagination := by
  rw [decode_cursor scope position wire other encoded, if_neg fun both => apart both.2]

theorem cursors_round_trip_iff (scope : Str) :
    (∀ position wire, encode scope position = .ok wire →
      ((decode wire scope = .ok position ∧ ∀ other, other ≠ scope → ∃ e, decode wire other = .error e) ↔ Fits scope position)) ∧
    ∀ (T : Type) (rows : List T) (limit : Number) (position : T → Str) (page : Page T) (next : Str),
      window rows limit scope position = .ok page → page.nextCursor = some next →
        ∃ last, page.items.getLast? = some last ∧ (decode next scope = .ok (position last) ↔ Fits scope (position last)) := by
  constructor
  · intro position wire encoded
    rw [← decodes_own_iff scope position wire encoded, and_iff_left_iff_imp]
    intro _ other apart
    exact ⟨_, decodes_foreign scope position wire other encoded apart⟩
  · intro T rows limit position page next windowed more
    obtain ⟨last, here, encoded⟩ := window_ok rows limit scope position page next windowed more
    exact ⟨last, here, decodes_own_iff scope (position last) next encoded⟩

def quotationMarks (n : ℕ) : Str := List.replicate n 0x22

theorem quotation_marks_characters (n : ℕ) : characters (quotationMarks n) = some (List.replicate n '"') := by
  induction n with
  | zero => rfl
  | succ n ih =>
      rw [quotationMarks, List.replicate_succ, characters_unit 0x22 _ (by decide) (by decide), ← quotationMarks, ih]
      rfl

theorem quotation_marks_length (n : ℕ) : byteLength (quotationMarks n) = n ∧ quotedCount (quotationMarks n) = n := by
  rw [byteLength, quotedCount, quotation_marks_characters, Option.getD_some]
  induction n with
  | zero => exact ⟨rfl, rfl⟩
  | succ n ih =>
      have mark : ('"' : Char).utf8Size = 1 := by decide
      rw [List.replicate_succ, encode_cons_size, ih.1, List.countP_cons_of_pos (by decide), ih.2]
      omega

theorem quotation_marks_valid (n max : ℕ) (positive : 0 < n) (small : n ≤ max) : validPart (quotationMarks n) max = true := by
  refine (valid_part_iff _ _).mpr ⟨_, quotation_marks_characters n, ?_, by rwa [(quotation_marks_length n).1], ?_⟩
  · intro empty
    have none := congrArg List.length empty
    simp [quotationMarks] at none
    omega
  · intro c member
    rw [List.eq_of_mem_replicate member]
    decide

theorem quotation_marks_encoded (n m : ℕ) (positive : 0 < n ∧ 0 < m) (small : n ≤ 128 ∧ m ≤ 256) :
    ∃ wire, encode (quotationMarks n) (quotationMarks m) = .ok wire :=
  ⟨_, (encode_ok_iff _ _ _).mpr
    ⟨⟨quotation_marks_valid n 128 positive.1 small.1, quotation_marks_valid m 256 positive.2 small.2⟩, rfl⟩⟩

theorem cursors_round_trip_demo :
    ∃ wire, encode (quotationMarks 1) (quotationMarks 2) = .ok wire ∧ decode wire (quotationMarks 1) = .ok (quotationMarks 2) := by
  obtain ⟨wire, encoded⟩ := quotation_marks_encoded 1 2 (by omega) (by omega)
  have fits : Fits (quotationMarks 1) (quotationMarks 2) := by
    simp only [Fits, quotation_marks_length]
    omega
  exact ⟨wire, encoded, (((cursors_round_trip_iff (quotationMarks 1)).1 _ wire encoded).mpr fits).1⟩

theorem longest_cursor_lost :
    ∃ wire, encode (quotationMarks 128) (quotationMarks 256) = .ok wire ∧
      decode wire (quotationMarks 128) = .error invalidPagination := by
  obtain ⟨wire, encoded⟩ := quotation_marks_encoded 128 256 (by omega) (by omega)
  have long : ¬ Fits (quotationMarks 128) (quotationMarks 256) := by
    simp only [Fits, quotation_marks_length]
    omega
  refine ⟨wire, encoded, ?_⟩
  rw [decode_cursor _ _ _ _ encoded, if_neg fun both => long ((wire_valid_iff _ _ _ encoded).mp both.1)]

end Pagination

end N2F
