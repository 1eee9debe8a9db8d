import N2F.Events.RoundTrip

set_option autoImplicit false

namespace N2F

open Ecma

-- JSON.parse(raw)[k]
def wireField (raw : ByteArray) (k : Str) : Option Json :=
  (((decodeUtf8 raw).bind Ecma.parse).bind fun v => object (some v)).bind fun w => get w k

def sameField (equal : Number → Number → Bool) (raw normal : ByteArray) (k : Str) : Bool :=
  match wireField raw k, wireField normal k with
  | some v, some v' => v.same equal v'
  | _, _ => false

def carriedKeys : List Str := [str "payload", str "type", str "occurred_at_ms", str "v"]

def unaltered (equal : Number → Number → Bool) (raw normal : ByteArray) : Bool := carriedKeys.all (sameField equal raw normal)

def payloadNumbers (p : Number → Bool) (raw : ByteArray) : Bool := (wireField raw (str "payload")).any (Json.numbers p)

theorem carried_apart : ∀ k ∈ carriedKeys, k ≠ str "id" ∧ k ≠ str "work" := by simp [carriedKeys, str, unitsOf]

theorem wire_field_parsed (raw : ByteArray) (w : Properties Json) (k : Str)
    (parsed : (decodeUtf8 raw).bind Ecma.parse = some (.obj w)) : wireField raw k = get w k := by
  rw [wireField, parsed]
  rfl

theorem wire_field_normal (raw : ByteArray) (e : Envelope) (decoded : decode raw = .ok e) (k : Str) (carried : k ∈ carriedKeys) :
    ∃ v, wireField raw k = some v ∧ v.Canonical ∧ wireField e.bytes k = some v.settle := by
  obtain ⟨w, work, parsed, canonical, accepted, _, rfl, bytes, _⟩ := decoded_normal raw e decoded
  obtain ⟨notId, notWork⟩ := carried_apart k carried
  have key : k ∈ wireKeys := (by simp [carriedKeys, wireKeys] : ∀ k ∈ carriedKeys, k ∈ wireKeys) k carried
  obtain ⟨v, found⟩ := Option.isSome_iff_exists.mp (admitted_has w accepted k key)
  have normal := encode_parsed (normalized w e.id e.work) (normalized_canonical w e.id e.work canonical)
  rw [← bytes] at normal
  obtain ⟨m, here, value⟩ := Option.map_eq_some_iff.mp found
  refine ⟨v, (wire_field_parsed raw w k parsed).trans found, ?_, ?_⟩
  · rw [← value]
    exact (canonical_members_iff w).mp canonical.2 m (List.mem_of_find?_eq_some here)
  · rw [wire_field_parsed e.bytes _ k normal, get_settle_members, normalized_other w e.id e.work k notId notWork, found]
    rfl

theorem same_field (equal : Number → Number → Bool) (raw : ByteArray) (e : Envelope) (decoded : decode raw = .ok e) (k : Str)
    (carried : k ∈ carriedKeys) :
    sameField equal raw e.bytes k = (wireField raw k).any (Json.numbers (keptNumber equal)) := by
  obtain ⟨v, before, canonical, after⟩ := wire_field_normal raw e decoded k carried
  simp only [sameField, before, after, Option.any_some]
  exact same_settle equal v canonical

theorem header_numbers (raw : ByteArray) (e : Envelope) (decoded : decode raw = .ok e) (k : Str)
    (header : k ∈ [str "type", str "occurred_at_ms", str "v"]) :
    (wireField raw k).any (Json.numbers Number.isFinite) = true := by
  obtain ⟨w, _, parsed, _, accepted, _, _, _, _⟩ := decoded_normal raw e decoded
  rw [wire_field_parsed raw w k parsed]
  simp only [admitted, Bool.and_eq_true] at accepted
  obtain ⟨⟨⟨⟨⟨_, _⟩, version⟩, type⟩, time⟩, _⟩ := accepted
  have number (v : Option Json) (p : Number → Bool) (finite : ∀ n, p n = true → n.isFinite = true)
      (held : (numberIn v).any p = true) : v.any (Json.numbers Number.isFinite) = true := by
    cases v with
    | none => cases held
    | some v => cases v <;> first | exact finite _ held | cases held
  simp only [List.mem_cons, List.not_mem_nil, or_false] at header
  rcases header with rfl | rfl | rfl
  · cases found : get w (str "type") with
    | none => simp [found, stringIn] at type
    | some v => cases v <;> simp_all [stringIn, Json.numbers]
  · exact number _ _ time_finite time
  · exact number _ _ one_finite version

theorem unaltered_finite (raw : ByteArray) (e : Envelope) (decoded : decode raw = .ok e) :
    unaltered Number.strictEquals raw e.bytes = payloadNumbers Number.isFinite raw := by
  have field (k : Str) (carried : k ∈ carriedKeys) : sameField Number.strictEquals raw e.bytes k =
      (wireField raw k).any (Json.numbers Number.isFinite) := by
    rw [same_field _ raw e decoded k carried, funext kept_strict]
  have header := header_numbers raw e decoded
  rw [unaltered, carriedKeys]
  simp only [List.all_cons, List.all_nil, Bool.and_true]
  rw [field (str "payload") (by simp [carriedKeys]), field (str "type") (by simp [carriedKeys]),
    field (str "occurred_at_ms") (by simp [carriedKeys]), field (str "v") (by simp [carriedKeys]),
    header (str "type") (by simp), header (str "occurred_at_ms") (by simp), header (str "v") (by simp)]
  simp [payloadNumbers]

theorem decode_keeps_payload_iff (raw : ByteArray) (e : Envelope) (decoded : decode raw = .ok e) :
    unaltered Number.strictEquals raw e.bytes = true ↔ payloadNumbers Number.isFinite raw = true := by
  rw [unaltered_finite raw e decoded]

theorem wire_payload (id type : Str) (ms : Number) (work : WorkContext) (payload : Properties Json)
    (canonical : (Json.obj payload).Canonical) :
    wireField (encode (.obj (wire id type ms work payload))) (str "payload") = some (Json.obj payload).settle := by
  rw [wire_field_parsed _ _ _ (encode_parsed _ (wire_canonical id type ms work payload canonical)), get_settle_members,
    wire_get id type ms work payload (str "payload") (.obj payload) (by simp [wire])]
  rfl

theorem decode_keeps_payload_demo :
    unaltered Number.strictEquals (encode (.obj demoWire)) (encode (.obj demoWire)) = true := by
  refine (decode_keeps_payload_iff (encode (.obj demoWire)) _ demo_created).mpr ?_
  rw [payloadNumbers, demoWire, wire_payload _ _ _ _ _ demo_canonical]
  rfl

def demoText (payload : List Char) : List Char :=
  (Json.obj demoWire.dropLast).text.dropLast ++ ',' :: (quote (str "payload") ++ ':' :: (payload ++ ['}']))

theorem demo_text_head (payload : List Char) : demoText payload = '{' :: (demoText payload).tail := rfl

theorem decode_text (cs : List Char) (open_brace : cs = '{' :: cs.tail) (short : 4 * cs.length ≤ maxBytes)
    (normal : ((Ecma.parse cs).bind normalize).any (fun r => decide (4 * (Json.obj r.2.2).text.length ≤ maxBytes)) = true) :
    decodeUtf8 (encodeUtf8 cs) = some cs ∧ ∃ e, decode (encodeUtf8 cs) = .ok e := by
  have utf8 : decodeUtf8 (encodeUtf8 cs) = some cs := by
    rw [open_brace]
    exact decode_encode '{' _ (by decide)
  refine ⟨utf8, ?_⟩
  cases found : (Ecma.parse cs).bind normalize with
  | none => simp [found] at normal
  | some r =>
      obtain ⟨id, work, w⟩ := r
      have small : (encode (.obj w)).size ≤ maxBytes := (encode_size _).trans (by simpa [found] using normal)
      exact ⟨⟨id, encode (.obj w), encode_valid _, work⟩, by
        simp [decode, utf8, found, not_lt.mpr ((encode_size cs).trans short), not_lt.mpr small]⟩

-- 1e400 parses to infinity, which JSON.stringify writes as null.
theorem decode_alters_overflow :
    ∃ raw e, decode raw = .ok e ∧ unaltered Number.strictEquals raw e.bytes = false := by
  have text := demo_text_head "\x7b\"n\":1e400\x7d".toList
  obtain ⟨utf8, e, decoded⟩ := decode_text _ text (by decide +kernel) (by decide +kernel)
  refine ⟨_, e, decoded, ?_⟩
  rw [unaltered_finite _ e decoded, payloadNumbers, wireField, utf8]
  decide +kernel

theorem decode_keeps_payload_signs_iff (raw : ByteArray) (e : Envelope) (decoded : decode raw = .ok e) :
    sameField Number.sameValue raw e.bytes (str "payload") = true ↔
      payloadNumbers (fun n => n.isFinite && decide (n ≠ Number.negZero)) raw = true := by
  rw [same_field _ raw e decoded _ (by simp [carriedKeys]), funext kept_same_value, payloadNumbers]

end N2F
