import Mathlib.Data.List.Basic

set_option autoImplicit false

namespace Ecma

instance bytesEquality : DecidableEq ByteArray := fun a b => decidable_of_iff (a.data = b.data) ByteArray.ext_iff.symm

def byteOrderMark : Char := Char.ofNat 0xFEFF

-- Buffer.from on a well-formed string.
def encodeUtf8 (cs : List Char) : ByteArray := (String.ofList cs).toUTF8

theorem encode_valid (cs : List Char) : (encodeUtf8 cs).IsValidUTF8 := (String.ofList cs).isValidUTF8

-- Buffer.toString on bytes known to be UTF-8.
def textOfUtf8 (raw : ByteArray) (valid : raw.IsValidUTF8) : List Char := (String.fromUTF8 raw valid).toList

-- TextDecoder('utf-8', { fatal: true }): malformed input throws, one leading
-- byte order mark is dropped.
def decodeUtf8 (raw : ByteArray) : Option (List Char) :=
  (String.fromUTF8? raw).map fun s =>
    match s.toList with
    | [] => []
    | c :: rest => if c = byteOrderMark then rest else c :: rest

theorem text_of_encode (cs : List Char) : textOfUtf8 (encodeUtf8 cs) (encode_valid cs) = cs :=
  String.toList_ofList

theorem decode_encode (c : Char) (rest : List Char) (plain : c ≠ byteOrderMark) :
    decodeUtf8 (encodeUtf8 (c :: rest)) = some (c :: rest) := by
  have text := text_of_encode (c :: rest)
  rw [textOfUtf8] at text
  rw [decodeUtf8, String.fromUTF8?, dif_pos (encode_valid (c :: rest)), Option.map_some, text]
  simp only [if_neg plain]

theorem encode_cons_size (c : Char) (cs : List Char) : (encodeUtf8 (c :: cs)).size = c.utf8Size + (encodeUtf8 cs).size := by
  have bytes (cs : List Char) : encodeUtf8 cs = cs.utf8Encode := rfl
  rw [bytes, bytes, List.utf8Encode_cons, ByteArray.size_append, List.utf8Encode_singleton]
  simp

theorem encode_append_size (a b : List Char) : (encodeUtf8 (a ++ b)).size = (encodeUtf8 a).size + (encodeUtf8 b).size := by
  induction a with
  | nil => exact (Nat.zero_add _).symm
  | cons c rest ih => rw [List.cons_append, encode_cons_size, encode_cons_size, ih, Nat.add_assoc]

theorem encode_size (cs : List Char) : (encodeUtf8 cs).size ≤ 4 * cs.length := by
  induction cs with
  | nil => exact Nat.zero_le _
  | cons c rest ih =>
      have small := c.utf8Size_le_four
      rw [encode_cons_size, List.length_cons]
      omega

def continues (u : UInt8) : Bool := 0x80 ≤ u && u ≤ 0xBF

def secondFits (first second : UInt8) : Bool :=
  if first = 0xE0 then 0xA0 ≤ second && second ≤ 0xBF
  else if first = 0xED then 0x80 ≤ second && second ≤ 0x9F
  else if first = 0xF0 then 0x90 ≤ second && second ≤ 0xBF
  else if first = 0xF4 then 0x80 ≤ second && second ≤ 0x8F
  else 0xE0 ≤ first && first ≤ 0xF4 && continues second

def subpart : List UInt8 → ℕ
  | a :: b :: c :: _ => if secondFits a b then (if 0xF0 ≤ a && continues c then 3 else 2) else 1
  | [a, b] => if secondFits a b then 2 else 1
  | _ => 1

def replacement : Char := Char.ofNat 0xFFFD

-- Every call drops at least one byte.
def lossy : ℕ → List UInt8 → List Char
  | 0, _ => []
  | _ + 1, [] => []
  | fuel + 1, a :: rest =>
      match (a :: rest).toByteArray.utf8DecodeChar? 0 with
      | some c => c :: lossy fuel ((a :: rest).drop c.utf8Size)
      | none => replacement :: lossy fuel ((a :: rest).drop (subpart (a :: rest)))

-- Buffer.toString('utf8')
def lossyText (raw : ByteArray) : List Char := lossy raw.size raw.data.toList

-- new TextDecoder().decode
def decodeLossy (raw : ByteArray) : List Char :=
  match lossyText raw with
  | [] => []
  | c :: rest => if c = byteOrderMark then rest else c :: rest

theorem encode_bytes (cs : List Char) : (encodeUtf8 cs).data.toList = cs.flatMap String.utf8EncodeChar := by
  have whole : encodeUtf8 cs = (cs.flatMap String.utf8EncodeChar).toByteArray := rfl
  rw [whole, List.data_toByteArray]

theorem lossy_encode (cs : List Char) (fuel : ℕ) (enough : cs.length ≤ fuel) : lossy fuel (cs.flatMap String.utf8EncodeChar) = cs := by
  induction cs generalizing fuel with
  | nil => cases fuel <;> rfl
  | cons c rest ih =>
      cases fuel with
      | zero => exact absurd enough (by simp)
      | succ fuel =>
          have decoded := ByteArray.utf8DecodeChar?_utf8EncodeChar_append (b := (rest.flatMap String.utf8EncodeChar).toByteArray) (c := c)
          rw [← List.toByteArray_append] at decoded
          have size : (String.utf8EncodeChar c).length = c.utf8Size := String.length_utf8EncodeChar c
          rw [List.flatMap_cons]
          cases bytes : String.utf8EncodeChar c with
          | nil =>
              rw [bytes] at size
              exact absurd c.utf8Size_pos (by rw [← size]; simp)
          | cons a tail =>
              rw [bytes] at decoded size
              rw [List.cons_append] at decoded ⊢
              rw [lossy, decoded]
              have later : (a :: (tail ++ rest.flatMap String.utf8EncodeChar)).drop c.utf8Size = rest.flatMap String.utf8EncodeChar := by
                rw [← size, ← List.cons_append, List.drop_left]
              simp only [later, ih fuel (Nat.le_of_succ_le_succ enough)]

theorem lossy_text_encode (cs : List Char) : lossyText (encodeUtf8 cs) = cs := by
  have enough : cs.length ≤ (encodeUtf8 cs).size := by
    induction cs with
    | nil => exact Nat.zero_le _
    | cons c rest ih =>
        have positive := c.utf8Size_pos
        rw [encode_cons_size, List.length_cons]
        omega
  rw [lossyText, encode_bytes]
  exact lossy_encode cs _ enough

theorem encode_injective (a b : List Char) (same : encodeUtf8 a = encodeUtf8 b) : a = b := by
  rw [← lossy_text_encode a, same, lossy_text_encode b]

end Ecma
