import N2F.Errors
import N2F.Ecma.Pattern
import N2F.Ecma.Equality
import N2F.Ecma.Utf8

set_option autoImplicit false

namespace N2F.Socket

open Ecma

def invalidMessage : Failure := failure .invalid "invalid socket message" "socket.invalid"

structure Message where
  id : Str
  type : Str
  payload : Properties Json

def maxMessage : ℕ := 65536

def idUnit (u : UInt16) : Bool := inRange 'A' 'Z' u || inRange 'a' 'z' u || inRange '0' '9' u || oneOf "_-" u

def typeUnit (u : UInt16) : Bool := inRange 'a' 'z' u || inRange '0' '9' u || oneOf "_." u

-- /^[A-Za-z0-9_-]{1,64}$/
def idPattern : Pattern := .run idUnit 1 64

-- /^[a-z0-9_.]{1,64}$/
def messageTypePattern : Pattern := .run typeUnit 1 64

def messageOf (m : Json) : Option Message :=
  match m with
  | .obj x =>
      if x.length ≠ 4 then none
      else
        match get x (str "v"), get x (str "id"), get x (str "type"), get x (str "payload") with
        | some (.num v), some (.str id), some (.str type), some (.obj payload) =>
            if v.strictEquals (Number.ofInt 1) && idPattern.test id && messageTypePattern.test type then some ⟨id, type, payload⟩ else none
        | _, _, _, _ => none
  | _ => none

namespace Message

def decode (raw : ByteArray) : Result Message :=
  if maxMessage < raw.size then .error invalidMessage
  else
    match ((decodeUtf8 raw).bind Ecma.parse).bind messageOf with
    | some m => .ok m
    | none => .error invalidMessage

-- Given what Buffer.from(JSON.stringify(m)) comes to, or that it throws.
def encode (serialized : Option ByteArray) : Result ByteArray :=
  match serialized with
  | none => .error invalidMessage
  | some raw =>
      match decode raw with
      | .ok _ => .ok raw
      | .error e => .error e

def document (m : Message) : Json :=
  .obj [(str "v", .num (Number.ofInt 1)), (str "id", .str m.id), (str "type", .str m.type), (str "payload", .obj m.payload)]

structure Valid (m : Message) : Prop where
  id : idPattern.test m.id = true
  type : messageTypePattern.test m.type = true

theorem decode_ok (raw : ByteArray) (m : Message) (decoded : decode raw = .ok m) :
    raw.size ≤ maxMessage ∧ ∃ v, (decodeUtf8 raw).bind Ecma.parse = some v ∧ messageOf v = some m := by
  rw [decode] at decoded
  by_cases large : maxMessage < raw.size
  · rw [if_pos large] at decoded
    cases decoded
  · rw [if_neg large] at decoded
    cases read : ((decodeUtf8 raw).bind Ecma.parse).bind messageOf with
    | none =>
        rw [read] at decoded
        cases decoded
    | some found =>
        rw [read] at decoded
        injection decoded with same
        obtain ⟨v, parsed, named⟩ := Option.bind_eq_some_iff.mp read
        exact ⟨not_lt.mp large, v, parsed, same ▸ named⟩

theorem message_of_valid (v : Json) (m : Message) (named : messageOf v = some m) : m.Valid := by
  cases v with
  | obj x =>
      by_cases four : x.length ≠ 4
      · rw [messageOf, if_pos four] at named
        cases named
      · rw [messageOf, if_neg four] at named
        split at named
        · split_ifs at named with accepted
          injection named with same
          simp only [Bool.and_eq_true] at accepted
          exact same ▸ ⟨accepted.1.2, accepted.2⟩
        · cases named
  | _ => cases named

theorem decoded_valid (raw : ByteArray) (m : Message) (decoded : decode raw = .ok m) : m.Valid := by
  obtain ⟨_, v, _, named⟩ := decode_ok raw m decoded
  exact message_of_valid v m named

theorem encode_ok_iff (serialized : Option ByteArray) (body : ByteArray) :
    encode serialized = .ok body ↔ serialized = some body ∧ ∃ m, decode body = .ok m := by
  cases serialized with
  | none => simp [encode]
  | some raw =>
      cases decoded : decode raw with
      | error e =>
          simp only [encode, decoded, reduceCtorEq, Option.some.injEq, false_iff, not_and, not_exists]
          intro same m accepted
          rw [← same, decoded] at accepted
          cases accepted
      | ok m =>
          simp only [encode, decoded, Except.ok.injEq, Option.some.injEq]
          constructor
          · intro same
            exact ⟨same, m, same ▸ decoded⟩
          · intro accepted
            exact accepted.1

theorem message_of_members (n : Number) (m : Message) (one : n.strictEquals (Number.ofInt 1) = true) (valid : m.Valid) :
    messageOf (.obj [(str "v", .num n), (str "id", .str m.id), (str "type", .str m.type), (str "payload", .obj m.payload)]) = some m := by
  have version (x y z : Json) : get [(str "v", .num n), (str "id", x), (str "type", y), (str "payload", z)] (str "v") = some (.num n) := rfl
  have id (x y z : Json) : get [(str "v", x), (str "id", .str m.id), (str "type", y), (str "payload", z)] (str "id") = some (.str m.id) := rfl
  have type (x y z : Json) : get [(str "v", x), (str "id", y), (str "type", .str m.type), (str "payload", z)] (str "type") = some (.str m.type) := rfl
  have payload (x y z : Json) :
      get [(str "v", x), (str "id", y), (str "type", z), (str "payload", .obj m.payload)] (str "payload") = some (.obj m.payload) := rfl
  have four (a b c d : Str × Json) : ¬ [a, b, c, d].length ≠ 4 := by simp
  simp only [messageOf, if_neg (four _ _ _ _), version, id, type, payload, one, valid.id, valid.type, Bool.and_self, if_true]

theorem decode_document (m : Message) (valid : m.Valid) (canonical : (Json.obj m.payload).Canonical)
    (fits : (encodeUtf8 m.document.text).size ≤ maxMessage) :
    decode (encodeUtf8 m.document.text) = .ok { m with payload := settleMembers m.payload } := by
  have whole : m.document.Canonical := by
    refine ⟨plain_ordered _ ?_ ?_, trivial, trivial, trivial, canonical, trivial⟩
    · exact (by decide +kernel : [str "v", str "id", str "type", str "payload"].Nodup)
    · exact (by decide +kernel : ∀ k ∈ [str "v", str "id", str "type", str "payload"], arrayIndex k = none)
  have brace : ∃ rest, m.document.text = '{' :: rest := ⟨_, rfl⟩
  obtain ⟨rest, text⟩ := brace
  have parsed := parse_text m.document whole
  have settled : m.document.settle = .obj [(str "v", .num (Number.ofInt 1).unsigned), (str "id", .str m.id), (str "type", .str m.type),
      (str "payload", .obj (settleMembers m.payload))] := by
    simp only [document, Json.settle, settleMembers, settle_finite _ of_int_one_finite]
  have read : (decodeUtf8 (encodeUtf8 m.document.text)).bind Ecma.parse = some m.document.settle := by
    rw [text, decode_encode '{' rest (by decide), ← text]
    exact parsed
  have named := message_of_members (Number.ofInt 1).unsigned { m with payload := settleMembers m.payload }
    (unsigned_equal (Number.ofInt 1) of_int_one_finite) ⟨valid.id, valid.type⟩
  rw [decode, if_neg (not_lt.mpr fits), read, Option.bind_some, settled, named]

end Message

end N2F.Socket
