import N2F.Events.Normalization

set_option autoImplicit false

namespace N2F

open Ecma

def sameDepth (a b : Option Number) : Bool :=
  match a, b with
  | none, none => true
  | some x, some y => x.strictEquals y
  | _, _ => false

structure SameWork (a b : WorkSnapshot) : Prop where
  workId : a.workId = b.workId
  correlationId : a.correlationId = b.correlationId
  correlationSource : a.correlationSource = b.correlationSource
  causation : a.causation = b.causation
  origin : a.origin = b.origin
  operation : a.operation = b.operation
  attribution : a.attribution = b.attribution
  depth : sameDepth a.depth b.depth = true
  replay : a.replay = b.replay

theorem unsigned_same (work : WorkContext) : SameWork work.unsigned.data work.data := by
  refine ⟨rfl, rfl, rfl, rfl, rfl, rfl, rfl, ?_, rfl⟩
  cases here : work.data.depth with
  | none => simp [WorkContext.unsigned, WorkSnapshot.unsigned, here, sameDepth]
  | some d =>
      have accepted := work.valid.depth d here
      simp only [refusesDepth, Bool.or_eq_false_iff, Bool.not_eq_false'] at accepted
      simp [WorkContext.unsigned, WorkSnapshot.unsigned, here, sameDepth,
        unsigned_equal d (integer_finite d accepted.1.1.1.1)]

theorem encode_settle (w : Properties Json) : encode (.obj (settleMembers w)) = encode (.obj w) :=
  congrArg encodeUtf8 (settle_text (.obj w))

theorem encode_parsed (w : Properties Json) (canonical : (Json.obj w).Canonical) :
    (decodeUtf8 (encode (.obj w))).bind Ecma.parse = some (.obj (settleMembers w)) := by
  have head : ∃ rest, (Json.obj w).text = '{' :: rest := by
    cases w with
    | nil => exact ⟨_, rfl⟩
    | cons m rest => exact ⟨_, rfl⟩
  obtain ⟨rest, text⟩ := head
  have parsed := parse_text (.obj w) canonical
  rw [text] at parsed
  rw [encode, text, decode_encode '{' rest (by decide), Option.bind_some, parsed]
  rfl

theorem decode_normal (w : Properties Json) (id : Str) (work : WorkContext) (canonical : (Json.obj w).Canonical)
    (normal : normalize (.obj (settleMembers w)) = some (id, work, settleMembers w))
    (small : (encode (.obj w)).size ≤ maxBytes) : decode (encode (.obj w)) = .ok ⟨id, encode (.obj w), encode_valid _, work⟩ := by
  rw [decode, if_neg (not_lt.mpr small), encode_parsed w canonical, Option.bind_some, normal]
  simp only [encode_settle, if_neg (not_lt.mpr small)]

theorem decoded_normal (raw : ByteArray) (e : Envelope) (decoded : decode raw = .ok e) :
    ∃ w work, (decodeUtf8 raw).bind Ecma.parse = some (.obj w) ∧ (Json.obj w).Canonical ∧ admitted w = true ∧
      validID e.id = true ∧ e.work = work ∧ e.raw = encode (.obj (normalized w e.id work)) ∧ e.raw.size ≤ maxBytes := by
  obtain ⟨cs, v, n, _, utf8, parsed, normal, bytes, small⟩ := decode_ok raw e decoded
  obtain ⟨w, rfl, accepted, named, _, rfl⟩ := normalize_ok v e.id e.work n normal
  exact ⟨w, e.work, by rw [utf8, Option.bind_some, parsed], parse_canonical cs _ parsed, accepted, id_in_parsed _ _ named, rfl,
    bytes, small⟩

theorem decode_again (raw : ByteArray) (e : Envelope) (decoded : decode raw = .ok e) :
    decode e.bytes = .ok ⟨e.id, e.raw, e.valid, e.work.unsigned⟩ := by
  obtain ⟨w, work, _, canonical, accepted, valid, rfl, bytes, small⟩ := decoded_normal raw e decoded
  obtain ⟨id, raw', utf8, work⟩ := e
  simp only at bytes small valid
  subst bytes
  exact decode_normal _ id work.unsigned (normalized_canonical w id work canonical)
    (normalize_settled w id work canonical accepted valid) small

theorem text_bytes (e : Envelope) : encodeUtf8 e.text = e.bytes := by
  rw [encodeUtf8, Envelope.text, textOfUtf8, String.ofList_toList]
  rfl

theorem wire_keys_distinct : wireKeys.Nodup := by decide +kernel

theorem wire_canonical (id type : Str) (ms : Number) (work : WorkContext) (payload : Properties Json)
    (canonical : (Json.obj payload).Canonical) : (Json.obj (wire id type ms work payload)).Canonical := by
  refine ⟨plain_ordered _ wire_keys_distinct wire_keys_plain, ?_⟩
  exact ⟨trivial, trivial, trivial, trivial, work_canonical work.data, canonical, trivial⟩

theorem wire_get (id type : Str) (ms : Number) (work : WorkContext) (payload : Properties Json) (k : Str) (v : Json)
    (member : (k, v) ∈ wire id type ms work payload) : get (wire id type ms work payload) k = some v :=
  get_member _ k v (plain_ordered _ wire_keys_distinct wire_keys_plain) member

theorem wire_has (id type : Str) (ms : Number) (work : WorkContext) (payload : Properties Json) (k : Str) (key : k ∈ wireKeys) :
    (get (wire id type ms work payload) k).isSome = true := by
  obtain ⟨m, member, rfl⟩ : ∃ m ∈ wire id type ms work payload, m.1 = k :=
    List.mem_map.mp (show k ∈ (wire id type ms work payload).map Prod.fst from key)
  rw [wire_get id type ms work payload m.1 m.2 member]
  rfl

theorem wire_version (id type : Str) (ms : Number) (work : WorkContext) (payload : Properties Json) :
    (numberIn (get (wire id type ms work payload) (str "v"))).any (is · 1) = true := by
  have one : is (Number.ofInt 1) 1 = true := by
    rw [is, Number.of_int_small 1 (by norm_num)]
    simp [Number.rational]
  rw [wire_get id type ms work payload (str "v") _ (List.mem_cons_self ..)]
  exact one

theorem wire_admitted (id type : Str) (ms : Number) (work : WorkContext) (payload : Properties Json)
    (typed : validType type = true) (timed : validTime ms = true) : admitted (wire id type ms work payload) = true := by
  have field := wire_get id type ms work payload
  have names : wireKeys.all (fun k => (get (wire id type ms work payload) k).isSome) = true :=
    List.all_eq_true.mpr (wire_has id type ms work payload)
  have version := wire_version id type ms work payload
  have types := field (str "type") (.str type) (by simp [wire])
  have times := field (str "occurred_at_ms") (.num ms) (by simp [wire])
  have body := field (str "payload") (.obj payload) (by simp [wire])
  have length : (wire id type ms work payload).length = 6 := rfl
  rw [admitted, names, version, types, times, body]
  simp [numberIn, stringIn, object, typed, timed, length]

theorem create_ok (id type : Str) (occurredAtMs : Number) (work : WorkContext) (payload : Properties Json)
    (named : validID id = true) (typed : validType type = true) (timed : validTime occurredAtMs = true)
    (object : (Json.obj payload).Canonical) (fits : (encode (.obj (wire id type occurredAtMs work payload))).size ≤ maxBytes) :
    create id type occurredAtMs work payload =
      .ok ⟨id, encode (.obj (wire id type occurredAtMs work payload)), encode_valid _, work.unsigned⟩ := by
  have canonical := wire_canonical id type occurredAtMs work payload object
  have ordered : Ordered (settleMembers (wire id type occurredAtMs work payload)) := by
    rw [settle_members_map]
    exact (ordered_map Json.settle _).mpr canonical.1
  refine decode_normal _ id work.unsigned canonical (normalize_fixed _ id work.unsigned ordered
    (admitted_settle _ (wire_admitted id type occurredAtMs work payload typed timed)) named ?_ ?_) fits
  · rw [get_settle_members, wire_get id type occurredAtMs work payload (str "id") (.str id) (by simp [wire])]
    rfl
  · rw [get_settle_members, wire_get id type occurredAtMs work payload (str "work") (workOut work.data) (by simp [wire]),
      Option.map_some, work_settle]

theorem created_event (id type : Str) (occurredAtMs : Number) (work : WorkContext) (payload : Properties Json) (e : Envelope)
    (named : validID id = true) (object : (Json.obj payload).Canonical) (created : create id type occurredAtMs work payload = .ok e) :
    e.id = id ∧ e.work = work.unsigned := by
  obtain ⟨cs, v, n, _, utf8, parsed, normal, _, _⟩ := decode_ok _ e created
  have whole := encode_parsed _ (wire_canonical id type occurredAtMs work payload object)
  rw [utf8, Option.bind_some, parsed] at whole
  obtain rfl := Option.some.inj whole
  obtain ⟨w, same, _, idRead, workRead, _⟩ := normalize_ok _ e.id e.work n normal
  cases same
  rw [get_settle_members, wire_get id type occurredAtMs work payload (str "id") (.str id) (by simp [wire])] at idRead
  rw [get_settle_members, wire_get id type occurredAtMs work payload (str "work") (workOut work.data) (by simp [wire]), Option.map_some,
    work_settle, work_in_out] at workRead
  exact ⟨Option.some.inj (idRead.symm.trans (id_in_valid id named)), (Option.some.inj workRead).symm⟩

def demoWire : Properties Json :=
  wire (demoId 4) (str "demo.created.v1") (Number.ofInt 1000) demoWork [(str "safe", .bool true)]

theorem demo_canonical : (Json.obj [(str "safe", .bool true)]).Canonical :=
  ⟨List.pairwise_singleton .., trivial, trivial⟩

theorem demo_fits : (encode (.obj demoWire)).size ≤ maxBytes :=
  (encode_size _).trans (by decide +kernel)

theorem demo_fields : validID (demoId 4) = true ∧ validType (str "demo.created.v1") = true ∧ validTime (Number.ofInt 1000) = true := by
  decide +kernel

theorem demo_created : create (demoId 4) (str "demo.created.v1") (Number.ofInt 1000) demoWork [(str "safe", .bool true)] =
    .ok ⟨demoId 4, encode (.obj demoWire), encode_valid _, demoWork.unsigned⟩ :=
  create_ok _ _ _ _ _ demo_fields.1 demo_fields.2.1 demo_fields.2.2 demo_canonical demo_fits

theorem decode_idempotent (raw : ByteArray) (e : Envelope) (decoded : decode raw = .ok e) :
    e.bytes.size ≤ 65536 ∧ ∃ again, decode e.bytes = .ok again ∧ decode (encodeUtf8 e.text) = .ok again ∧
      again.id = e.id ∧ again.bytes = e.bytes ∧ SameWork again.work.data e.work.data := by
  obtain ⟨_, _, _, _, _, _, _, _, small⟩ := decoded_normal raw e decoded
  refine ⟨small, _, decode_again raw e decoded, ?_, rfl, rfl, unsigned_same e.work⟩
  rw [text_bytes]
  exact decode_again raw e decoded

theorem decode_idempotent_demo :
    ∃ e again : Envelope, decode e.bytes = .ok again ∧ again.bytes = e.bytes ∧ SameWork again.work.data e.work.data := by
  obtain ⟨_, again, decoded, _, _, bytes, work⟩ := decode_idempotent _ _ demo_created
  exact ⟨_, again, decoded, bytes, work⟩

theorem create_keeps_work (id type : Str) (occurredAtMs : Number) (work : WorkContext) (payload : Properties Json)
    (named : validID id = true) (typed : validType type = true) (timed : validTime occurredAtMs = true)
    (object : (Json.obj payload).Canonical) (fits : (encode (.obj (wire id type occurredAtMs work payload))).size ≤ 65536) :
    ∃ e, create id type occurredAtMs work payload = .ok e ∧ SameWork e.work.data work.data ∧
      ∃ stored, decode e.bytes = .ok stored ∧ SameWork stored.work.data work.data := by
  have created := create_ok id type occurredAtMs work payload named typed timed object fits
  exact ⟨_, created, unsigned_same work, _, created, unsigned_same work⟩

theorem create_keeps_work_demo :
    ∃ e, create (demoId 4) (str "demo.created.v1") (Number.ofInt 1000) demoWork [(str "safe", .bool true)] = .ok e ∧
      SameWork e.work.data demoWork.data := by
  obtain ⟨e, created, same, _⟩ := create_keeps_work (demoId 4) (str "demo.created.v1") (Number.ofInt 1000) demoWork
    [(str "safe", .bool true)] demo_fields.1 demo_fields.2.1 demo_fields.2.2 demo_canonical demo_fits
  exact ⟨e, created, same⟩

end N2F
