import N2F.Events.Tables

set_option autoImplicit false

namespace N2F

open Ecma Postgres

def asciiUnit (u : UInt16) : Bool := 0 < u.toNat && u.toNat < 128

theorem ascii_storable (s : Str) (ascii : ∀ u ∈ s, asciiUnit u = true) : storableText s = true := by
  have unit (u : UInt16) (held : asciiUnit u = true) : u ≠ 0 ∧ isHigh u = false ∧ isLow u = false := by
    simp only [asciiUnit, Bool.and_eq_true, decide_eq_true_eq] at held
    refine ⟨fun zero => ?_, ?_, ?_⟩
    · subst zero
      simp at held
    · simp only [isHigh, Bool.and_eq_false_iff, decide_eq_false_iff_not]
      omega
    · simp only [isLow, Bool.and_eq_false_iff, decide_eq_false_iff_not]
      omega
  induction s using storableText.induct with
  | case1 => rfl
  | case2 u =>
      obtain ⟨nonzero, high, low⟩ := unit u (ascii u (by simp))
      simp [storableText, nonzero, high, low]
  | case3 u v rest pair ih =>
      simp only [Bool.and_eq_true, (unit u (ascii u (by simp))).2.1] at pair
      cases pair.1
  | case4 u v rest single ih =>
      obtain ⟨nonzero, high, low⟩ := unit u (ascii u (by simp))
      rw [storableText, if_neg single, ih fun w member => ascii w (by simp [member])]
      simp [nonzero, high, low]

theorem range_ascii (low high : Char) (bounds : 0 < low.toNat ∧ high.toNat < 128) (u : UInt16) (inside : inRange low high u = true) :
    asciiUnit u = true := by
  simp only [inRange, Bool.and_eq_true, decide_eq_true_eq] at inside
  simp only [asciiUnit, Bool.and_eq_true, decide_eq_true_eq]
  omega

def marks : List String := ["-", "89abAB", "._:/-", "_.:-", "_.-", ".", "v"]

theorem marks_ascii : ∀ s ∈ marks, (str s).all asciiUnit = true := by decide +kernel

theorem one_of_ascii (s : String) (mark : s ∈ marks) (u : UInt16) (inside : oneOf s u = true) : asciiUnit u = true :=
  List.all_eq_true.mp (marks_ascii s mark) u (by simpa [oneOf] using inside)

theorem accepted_storable (pattern : Pattern) (s : Str) (within : pattern.Within asciiUnit) (accepted : pattern.test s = true) :
    storableText s = true :=
  ascii_storable s (accepts_within asciiUnit pattern s within ((test_iff pattern s).mp accepted))

theorem hex_ascii (u : UInt16) (digit : hex u = true) : asciiUnit u = true := by
  simp only [hex, Bool.or_eq_true] at digit
  rcases digit with (decimal | small) | large
  · exact range_ascii '0' '9' (by decide) u decimal
  · exact range_ascii 'a' 'f' (by decide) u small
  · exact range_ascii 'A' 'F' (by decide) u large

theorem id_storable (id : Str) (valid : validID id = true) : storableText id = true := by
  obtain ⟨_, accepted, _⟩ := (parse_ok_iff id id).mp ((valid_id_iff id).mp valid)
  refine accepted_storable canonical id ?_ accepted
  have dashes : ∀ u, oneOf "-" u = true → asciiUnit u = true := one_of_ascii "-" (by simp [marks])
  have variants : ∀ u, oneOf "89abAB" u = true → asciiUnit u = true := one_of_ascii "89abAB" (by simp [marks])
  exact ⟨hex_ascii, dashes, hex_ascii, dashes, hex_ascii, dashes, variants, hex_ascii, dashes, hex_ascii⟩

theorem identity_storable (s : Str) (valid : identityValid s = true) : storableText s = true := by
  refine accepted_storable identityPattern s (fun u inside => ?_) valid
  simp only [alphanumeric, Bool.or_eq_true] at inside
  rcases inside with ((upper | small) | digit) | mark
  · exact range_ascii 'A' 'Z' (by decide) u upper
  · exact range_ascii 'a' 'z' (by decide) u small
  · exact range_ascii '0' '9' (by decide) u digit
  · exact one_of_ascii _ (by simp [marks]) u mark

theorem operation_storable (s : Str) (valid : validOperation s = true) : storableText s = true := by
  refine accepted_storable operationPattern s ⟨range_ascii 'a' 'z' (by decide), fun u inside => ?_⟩ valid
  simp only [Bool.or_eq_true] at inside
  rcases inside with (small | digit) | mark
  · exact range_ascii 'a' 'z' (by decide) u small
  · exact range_ascii '0' '9' (by decide) u digit
  · exact one_of_ascii _ (by simp [marks]) u mark

theorem type_storable (s : Str) (valid : validType s = true) : storableText s = true := by
  simp only [validType, Bool.and_eq_true] at valid
  refine accepted_storable typePattern s ⟨fun u inside => ?_, one_of_ascii _ (by simp [marks]),
    one_of_ascii _ (by simp [marks]), range_ascii '1' '9' (by decide), range_ascii '0' '9' (by decide)⟩ valid.2
  simp only [Bool.or_eq_true] at inside
  rcases inside with (small | digit) | mark
  · exact range_ascii 'a' 'z' (by decide) u small
  · exact range_ascii '0' '9' (by decide) u digit
  · exact one_of_ascii _ (by simp [marks]) u mark

theorem member_texts_iff (p : Str → Bool) (ms : List (Str × Json)) :
    memberTexts p ms = true ↔ ∀ m ∈ ms, p m.1 = true ∧ texts p m.2 = true := by
  induction ms with
  | nil => simp [memberTexts]
  | cons m rest ih => simp [memberTexts, ih]

theorem object_texts (p : Str → Bool) (fs : List (Str × Option Json)) (keyed : ∀ k ∈ fs.map Prod.fst, p k = true)
    (values : ∀ f ∈ fs, ∀ v, f.2 = some v → texts p v = true) : texts p (.obj (present fs)) = true := by
  refine (member_texts_iff p _).mpr fun m member => ?_
  have inside := present_keys fs m member
  exact ⟨keyed m.1 (List.mem_map_of_mem (f := Prod.fst) inside), values _ inside m.2 rfl⟩

theorem keys_storable :
    ∀ k ∈ wireKeys ++ (workKeys ++ attributionKeys ++ actorKeys ++ refKeys ++ replayKeys), storableText k = true := by
  decide +kernel

theorem work_keys_storable (k : Str) (key : k ∈ workKeys ++ attributionKeys ++ actorKeys ++ refKeys ++ replayKeys) :
    storableText k = true := keys_storable k (List.mem_append_right _ key)

theorem spellings_storable :
    (∀ kind : ActorKind, storableText (str kind.text) = true) ∧ (∀ kind : ReferenceKind, storableText (str kind.text) = true) ∧
      (∀ source : CorrelationSource, storableText (str source.text) = true) ∧ ∀ o : Origin, storableText (str o.text) = true := by
  refine ⟨fun kind => ?_, fun kind => ?_, fun source => ?_, fun o => ?_⟩
  · cases kind <;> decide +kernel
  · cases kind <;> decide +kernel
  · cases source <;> decide +kernel
  · cases o <;> decide +kernel

theorem map_texts {α : Type} (p : Str → Bool) (write : α → Json) (a : Option α) (v : Json) (here : a.map write = some v)
    (each : ∀ x, a = some x → texts p (write x) = true) : texts p v = true := by
  obtain ⟨x, same, rfl⟩ := Option.map_eq_some_iff.mp here
  exact each x same

theorem actor_texts (a : Actor) : texts storableText (actorOut a) = true := by
  refine object_texts _ _ (fun k member => work_keys_storable k ?_) fun f member v here => ?_
  · have key : k ∈ actorKeys := member
    simp [key]
  · simp only [actorFields, List.mem_cons, List.not_mem_nil, or_false] at member
    rcases member with rfl | rfl
    · cases here
      exact spellings_storable.1 a.kind
    · refine map_texts _ Json.str a.identity v here fun s same => ?_
      rcases a.valid with ⟨_, none⟩ | ⟨_, s', same', valid⟩
      · simp [none] at same
      · rw [same] at same'
        exact identity_storable s (Option.some.inj same' ▸ valid)

theorem reference_texts (r : Reference) : texts storableText (referenceOut r) = true := by
  refine object_texts _ _ (fun k member => work_keys_storable k ?_) fun f member v here => ?_
  · have key : k ∈ refKeys := member
    simp [key]
  · simp only [referenceFields, List.mem_cons, List.not_mem_nil, or_false] at member
    rcases member with rfl | rfl
    · cases here
      exact spellings_storable.2.1 r.kind
    · cases here
      exact id_storable r.id r.valid

theorem attribution_texts (a : Attribution) : texts storableText (attributionOut a) = true := by
  refine object_texts _ _ (fun k member => work_keys_storable k ?_) fun f member v here => ?_
  · have key : k ∈ attributionKeys := member
    simp [key]
  · simp only [attributionFields, List.mem_cons, List.not_mem_nil, or_false] at member
    rcases member with rfl | rfl | rfl
    · exact map_texts _ actorOut a.initiator v here fun x _ => actor_texts x
    · exact map_texts _ actorOut a.onBehalfOf v here fun x _ => actor_texts x
    · refine map_texts _ Json.str a.tenant v here fun s same => identity_storable s ?_
      have valid := a.tenantValid
      rwa [same] at valid

theorem replay_texts (r : ReplayInfo) (valid : validID r.runId = true) : texts storableText (replayOut r) = true := by
  refine object_texts _ _ (fun k member => work_keys_storable k ?_) fun f member v here => ?_
  · have key : k ∈ replayKeys := member
    simp [key]
  · simp only [replayFields, List.mem_cons, List.not_mem_nil, or_false] at member
    rcases member with rfl | rfl
    · cases here
      exact id_storable r.runId valid
    · cases here
      exact reference_texts r.source

theorem work_texts (work : WorkContext) : texts storableText (workOut work.data) = true := by
  have valid := work.valid
  refine object_texts _ _ (fun k member => work_keys_storable k ?_) fun f member v here => ?_
  · have key : k ∈ workKeys := member
    simp [key]
  · simp only [workFields, List.mem_cons, List.not_mem_nil, or_false] at member
    rcases member with rfl | rfl | rfl | rfl | rfl | rfl | rfl | rfl | rfl
    · cases here
      exact id_storable _ valid.workId
    · cases here
      exact id_storable _ valid.correlationId
    · cases here
      exact spellings_storable.2.2.1 work.data.correlationSource
    · cases here
      exact operation_storable _ valid.operation
    · cases here
      exact attribution_texts _
    · exact map_texts _ referenceOut _ v here fun r _ => reference_texts r
    · refine map_texts _ (fun o : Origin => Json.str (str o.text)) _ v here fun o _ => ?_
      exact spellings_storable.2.2.2 o
    · exact map_texts _ Json.num _ v here fun _ _ => rfl
    · refine map_texts _ replayOut _ v here fun r same => replay_texts r ?_
      exact valid.runId r.draft (by simp [WorkSnapshot.draft, same])

theorem admitted_keys (w : Properties Json) (accepted : admitted w = true) :
    ∀ m ∈ w, m.1 ∈ wireKeys := by
  have has : wireKeys ⊆ w.map Prod.fst := fun k key => by
    obtain ⟨v, found⟩ := Option.isSome_iff_exists.mp (admitted_has w accepted k key)
    obtain ⟨m, here, _⟩ := Option.map_eq_some_iff.mp found
    have same : m.1 = k := by simpa using List.find?_some here
    exact same ▸ List.mem_map_of_mem (f := Prod.fst) (List.mem_of_find?_eq_some here)
  have length : (w.map Prod.fst).length ≤ wireKeys.length := by
    simp only [admitted, Bool.and_eq_true, decide_eq_true_eq] at accepted
    rw [List.length_map, accepted.1.1.1.1.1]
    decide
  have same := (List.subperm_of_subset wire_keys_distinct has).perm_of_length_le length
  exact fun m member => same.mem_iff.mpr (List.mem_map_of_mem (f := Prod.fst) member)

theorem number_texts (v : Json) (p : Number → Bool) (held : (numberIn (some v)).any p = true) : texts storableText v = true := by
  cases v <;> first | rfl | cases held

theorem type_texts (v : Json) (held : (stringIn (some v)).any validType = true) : texts storableText v = true := by
  cases v with
  | str s => exact type_storable s held
  | null => cases held
  | bool b => cases held
  | num n => cases held
  | arr vs => cases held
  | obj ms => cases held

theorem normalized_texts (w : Properties Json) (id : Str) (work : WorkContext) (canonical : (Json.obj w).Canonical)
    (accepted : admitted w = true) (valid : validID id = true) :
    texts storableText (.obj (normalized w id work)) = (get w (str "payload")).any (texts storableText) := by
  have ordered := (normalized_canonical w id work canonical).1
  have kept := normalized_admitted w id work accepted
  have other := normalized_other w id work (str "payload") (by simp [str, unitsOf]) (by simp [str, unitsOf])
  obtain ⟨payload, found⟩ := Option.isSome_iff_exists.mp (admitted_has w accepted (str "payload") (by simp [wireKeys]))
  rw [found, Option.any_some, Bool.eq_iff_iff]
  rw [found] at other
  have each := kept
  simp only [admitted, Bool.and_eq_true] at each
  obtain ⟨⟨⟨⟨⟨_, _⟩, version⟩, type⟩, time⟩, _⟩ := each
  have whole : texts storableText (.obj (normalized w id work)) = true ↔
      ∀ m ∈ normalized w id work, storableText m.1 = true ∧ texts storableText m.2 = true := member_texts_iff storableText _
  rw [whole]
  constructor
  · intro all
    obtain ⟨m, here, value⟩ := Option.map_eq_some_iff.mp other
    have held := (all m (List.mem_of_find?_eq_some here)).2
    rwa [value] at held
  · rintro held ⟨k, v⟩ member
    have value := get_member (normalized w id work) k v ordered member
    have key := admitted_keys _ kept (k, v) member
    refine ⟨keys_storable k (List.mem_append_left _ key), ?_⟩
    simp only [wireKeys, List.mem_cons, List.not_mem_nil, or_false] at key
    rcases key with rfl | rfl | rfl | rfl | rfl | rfl
    · exact number_texts v _ (value ▸ version)
    · obtain rfl := Option.some.inj ((normalized_id w id work).symm.trans value)
      exact id_storable id valid
    · exact type_texts v (value ▸ type)
    · exact number_texts v _ (value ▸ time)
    · obtain rfl := Option.some.inj ((normalized_work w id work).symm.trans value)
      exact work_texts work
    · obtain rfl := Option.some.inj (other.symm.trans value)
      exact held

def Accepted (e : Envelope) : Prop :=
  (∃ raw, decode raw = .ok e) ∨ ∃ id type occurredAtMs work payload, create id type occurredAtMs work payload = .ok e

theorem accepted_decoded (e : Envelope) (accepted : Accepted e) : ∃ raw, decode raw = .ok e := by
  rcases accepted with decoded | ⟨id, type, ms, work, payload, created⟩
  · exact decoded
  · exact ⟨_, created⟩

def storablePayload (e : Envelope) : Bool := (wireField e.bytes (str "payload")).any (texts storableText)

theorem envelope_check_payload (raw : ByteArray) (e : Envelope) (decoded : decode raw = .ok e) :
    envelopeCheck e.text = storablePayload e := by
  obtain ⟨v, before, _, after⟩ := wire_field_normal raw e decoded (str "payload") (by simp [carriedKeys])
  obtain ⟨w, work, parsed, canonical, accepted, valid, rfl, bytes, small⟩ := decoded_normal raw e decoded
  have found : get w (str "payload") = some v := (wire_field_parsed raw w _ parsed).symm.trans before
  have text : e.text = (Json.obj (normalized w e.id e.work)).text := by
    obtain ⟨id, raw', utf8, work⟩ := e
    simp only at bytes
    subst bytes
    exact text_of_encode _
  have size : (encodeUtf8 e.text).size ≤ 65536 := by
    rw [text_bytes]
    exact small
  rw [envelopeCheck, decide_eq_true size, Bool.true_and, text, cast_text, storablePayload, after, Option.any_some,
    texts_settle, normalized_texts w e.id e.work canonical accepted valid, found, Option.any_some]
  cases texts storableText v <;> rfl

def Recorded (e : Envelope) : Prop :=
  (∀ (rows : List OutboxRow) (now later : ℕ), (∀ r ∈ rows, r.eventId ≠ e.id) →
    (enqueue e now rows).1 = .ok () ∧ (∃ r ∈ (enqueue e now rows).2, r.eventId = e.id ∧ r.envelope = e.text) ∧
      (enqueue e later (enqueue e now rows).2).1 = .ok ()) ∧
  (∀ (rows : List MailboxRow) (now later : ℕ), (∀ r ∈ rows, r.eventId ≠ e.id) →
    (publish e now rows).1 = .ok ⟨e.id, true⟩ ∧ (∃ r ∈ (publish e now rows).2, r.eventId = e.id ∧ r.envelope = e.text) ∧
      (publish e later (publish e now rows).2).1 = .ok ⟨e.id, true⟩)

theorem check_recorded (e : Envelope) (fits : envelopeCheck e.text = true) : Recorded e := by
  constructor
  · intro rows now later absent
    have first := insert_fresh outbox e now rows fits absent
    have again := insert_again outbox e later rows (outbox.fresh e.id e.text now) fits absent rfl rfl
    refine ⟨congrArg Prod.fst first, ⟨outbox.fresh e.id e.text now, ?_, rfl, rfl⟩, ?_⟩
    · rw [enqueue, first]
      simp
    · rw [enqueue, enqueue, first]
      exact congrArg Prod.fst again
  · intro rows now later absent
    have first := insert_fresh mailbox e now rows fits absent
    have again := insert_again mailbox e later rows (mailbox.fresh e.id e.text now) fits absent rfl rfl
    have published : publish e now rows = (.ok ⟨e.id, true⟩, rows ++ [mailbox.fresh e.id e.text now]) := by
      simp only [publish, first]
    refine ⟨by rw [published], ⟨mailbox.fresh e.id e.text now, ?_, rfl, rfl⟩, ?_⟩
    · rw [published]
      simp
    · rw [published]
      simp only [publish, again]

theorem check_refused (e : Envelope) (refused : envelopeCheck e.text = false) : ¬ Recorded e := by
  intro recorded
  obtain ⟨inserted, _⟩ := recorded.1 [] 0 0 (by simp)
  rw [enqueue, insert_refused outbox e 0 [] refused] at inserted
  cases inserted

theorem demo_storable : storablePayload ⟨demoId 4, encode (.obj demoWire), encode_valid _, demoWork.unsigned⟩ = true := by
  rw [storablePayload, Envelope.bytes, demoWire, wire_payload _ _ _ _ _ demo_canonical]
  decide +kernel

theorem demo_event : ∃ event : Envelope, decode event.raw = .ok event ∧ storablePayload event = true :=
  ⟨⟨demoId 4, encode (.obj demoWire), encode_valid _, demoWork.unsigned⟩, demo_created, demo_storable⟩

theorem recorded_iff (e : Envelope) (accepted : Accepted e) : Recorded e ↔ storablePayload e = true := by
  obtain ⟨raw, decoded⟩ := accepted_decoded e accepted
  rw [← envelope_check_payload raw e decoded]
  refine ⟨fun recorded => ?_, check_recorded e⟩
  by_contra unfit
  exact check_refused e (by simpa using unfit) recorded

theorem recorded_iff_demo : ∃ e, Accepted e ∧ Recorded e := by
  obtain ⟨event, decoded, storable⟩ := demo_event
  have accepted : Accepted event := .inl ⟨_, decoded⟩
  exact ⟨event, accepted, (recorded_iff event accepted).mpr storable⟩

def nullPayload : Properties Json := [(str "k", .str [0])]

theorem null_canonical : (Json.obj nullPayload).Canonical := ⟨List.pairwise_singleton .., trivial, trivial⟩

theorem null_text_unrecorded : ∃ e, Accepted e ∧ ¬ Recorded e := by
  have fits : (encode (.obj (wire (demoId 4) (str "demo.created.v1") (Number.ofInt 1000) demoWork nullPayload))).size ≤ maxBytes :=
    (encode_size _).trans (by decide +kernel)
  have created := create_ok (demoId 4) (str "demo.created.v1") (Number.ofInt 1000) demoWork nullPayload demo_fields.1 demo_fields.2.1
    demo_fields.2.2 null_canonical fits
  refine ⟨_, .inr ⟨_, _, _, _, _, created⟩, check_refused _ ?_⟩
  rw [envelope_check_payload _ _ created, storablePayload, Envelope.bytes, wire_payload _ _ _ _ _ null_canonical]
  decide +kernel

end N2F
