import N2F.Events.Work
import N2F.Ecma.Utf8

set_option autoImplicit false

namespace N2F

open Ecma

def invalidEnvelope : Failure := failure .invalid "invalid event envelope" "events.invalid"

structure Envelope where
  id : Str
  raw : ByteArray
  valid : raw.IsValidUTF8
  work : WorkContext
deriving DecidableEq

def Envelope.bytes (e : Envelope) : ByteArray := e.raw

-- Buffer.from(e.bytes()).toString()
def Envelope.text (e : Envelope) : List Char := textOfUtf8 e.raw e.valid

-- /^[a-z0-9_.-]{1,120}\.v[1-9][0-9]{0,5}$/
def typePattern : Pattern :=
  .seq (.run (fun u => inRange 'a' 'z' u || inRange '0' '9' u || oneOf "_.-" u) 1 120)
    (.seq (.unit (oneOf ".")) (.seq (.unit (oneOf "v")) (.seq (.unit (inRange '1' '9')) (.run (inRange '0' '9') 0 5))))

def validType (type : Str) : Bool := type.length ≤ 128 && typePattern.test type

def validTime (ms : Number) : Bool := ms.isSafeInteger && !ms.below 0 && !ms.above 253402300799999

def wireKeys : List Str := [str "v", str "id", str "type", str "occurred_at_ms", str "work", str "payload"]

def admitted (w : Properties Json) : Bool :=
  w.length = 6 && wireKeys.all (fun k => (get w k).isSome) && (numberIn (get w (str "v"))).any (is · 1) &&
    (stringIn (get w (str "type"))).any validType && (numberIn (get w (str "occurred_at_ms"))).any validTime &&
    (object (get w (str "payload"))).isSome

-- { ...w, id, work: workOut(work) }
def normalized (w : Properties Json) (id : Str) (work : WorkContext) : Properties Json :=
  set (str "work") (workOut work.data) (set (str "id") (.str id) w)

def normalize (v : Json) : Option (Str × WorkContext × Properties Json) := do
  let w ← object (some v)
  if admitted w then
    let id ← idIn (get w (str "id"))
    let work ← workIn (get w (str "work"))
    some (id, work, normalized w id work)
  else none

-- Buffer.from(JSON.stringify(v))
def encode (v : Json) : ByteArray := encodeUtf8 v.text

def maxBytes : ℕ := 65536

def decode (raw : ByteArray) : Result Envelope :=
  if maxBytes < raw.size then .error invalidEnvelope
  else
    match ((decodeUtf8 raw).bind Ecma.parse).bind normalize with
    | none => .error invalidEnvelope
    | some (id, work, w) =>
        if maxBytes < (encode (.obj w)).size then .error invalidEnvelope
        else .ok ⟨id, encode (.obj w), encode_valid _, work⟩

def wire (id type : Str) (occurredAtMs : Number) (work : WorkContext) (payload : Properties Json) : Properties Json :=
  [(str "v", .num (Number.ofInt 1)), (str "id", .str id), (str "type", .str type), (str "occurred_at_ms", .num occurredAtMs),
    (str "work", workOut work.data), (str "payload", .obj payload)]

def create (id type : Str) (occurredAtMs : Number) (work : WorkContext) (payload : Properties Json) : Result Envelope :=
  decode (encode (.obj (wire id type occurredAtMs work payload)))

theorem decode_ok (raw : ByteArray) (e : Envelope) (decoded : decode raw = .ok e) :
    ∃ cs v w, raw.size ≤ maxBytes ∧ decodeUtf8 raw = some cs ∧ Ecma.parse cs = some v ∧ normalize v = some (e.id, e.work, w) ∧
      e.raw = encode (.obj w) ∧ e.raw.size ≤ maxBytes := by
  rw [decode] at decoded
  split_ifs at decoded with large
  split at decoded
  · cases decoded
  · next id work w found =>
      split_ifs at decoded with grown
      obtain ⟨v, parsed, normal⟩ := Option.bind_eq_some_iff.mp found
      obtain ⟨cs, utf8, text⟩ := Option.bind_eq_some_iff.mp parsed
      cases decoded
      exact ⟨cs, v, w, not_lt.mp large, utf8, text, normal, rfl, not_lt.mp grown⟩

theorem normalize_ok (v : Json) (id : Str) (work : WorkContext) (n : Properties Json) (normal : normalize v = some (id, work, n)) :
    ∃ w, v = .obj w ∧ admitted w = true ∧ idIn (get w (str "id")) = some id ∧ workIn (get w (str "work")) = some work ∧
      n = normalized w id work := by
  cases v with
  | obj w =>
      by_cases accepted : admitted w = true
      · simp only [normalize, object, Option.bind_eq_bind, Option.bind_some, if_pos accepted, Option.bind_eq_some_iff,
          Option.some.injEq, Prod.mk.injEq] at normal
        obtain ⟨id', named, work', worked, rfl, rfl, rfl⟩ := normal
        exact ⟨w, rfl, accepted, named, worked, rfl⟩
      · simp [normalize, object, accepted] at normal
  | null => simp [normalize, object] at normal
  | bool b => simp [normalize, object] at normal
  | num x => simp [normalize, object] at normal
  | str s => simp [normalize, object] at normal
  | arr vs => simp [normalize, object] at normal

theorem normalize_of (w : Properties Json) (id : Str) (work : WorkContext) (accepted : admitted w = true)
    (named : idIn (get w (str "id")) = some id) (worked : workIn (get w (str "work")) = some work) :
    normalize (.obj w) = some (id, work, normalized w id work) := by
  simp [normalize, object, accepted, named, worked]

theorem id_in_parsed (v : Option Json) (id : Str) (read : idIn v = some id) : validID id = true := by
  obtain ⟨s, _, accepted⟩ := Option.bind_eq_some_iff.mp read
  cases parsed : parse s with
  | error e => simp [value, parsed] at accepted
  | ok id' =>
      simp only [value, parsed, Option.some.injEq] at accepted
      exact accepted ▸ parsed_valid s id' parsed

end N2F
