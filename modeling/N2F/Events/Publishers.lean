import N2F.Events.BrokerSafety
import N2F.Events.Storage
import N2F.Postgres.Agreement

set_option autoImplicit false

namespace N2F

open Ecma Postgres Operation

theorem envelope_document (raw : ByteArray) (e : Envelope) (decoded : decode raw = .ok e) :
    ∃ w : Properties Json, (Json.obj w).Canonical ∧ e.bytes = encode (.obj w) ∧ e.text = (Json.obj w).text := by
  obtain ⟨w, work, _, canonical, _, _, _, bytes, _⟩ := decoded_normal raw e decoded
  refine ⟨normalized w e.id work, normalized_canonical w e.id work canonical, bytes, ?_⟩
  exact encode_injective _ _ ((text_bytes e).trans bytes)

theorem own_settled (e : Envelope) (w : Properties Json) (canonical : (Json.obj w).Canonical) (bytes : e.bytes = encode (.obj w)) :
    Broker.own e = some (Json.obj w).settle := by
  rw [Broker.own, bytes, encode, lossy_text_encode, parse_text _ canonical]

theorem fits_cast (text : List Char) (fits : envelopeCheck text = true) : ∃ v, castJsonb text = some v := by
  simp only [envelopeCheck, Bool.and_eq_true] at fits
  exact Option.isSome_iff_exists.mp (Option.isSome_of_any fits.2)

theorem comparisons_agree (v w : Json) (left : v.Canonical) (right : w.Canonical) (first : envelopeCheck v.text = true)
    (second : envelopeCheck w.text = true) : sameJsonb v.text w.text = v.settle.same Number.sameValue w.settle := by
  obtain ⟨x, cast⟩ := fits_cast _ first
  obtain ⟨y, cast'⟩ := fits_cast _ second
  have written (u : Json) (z : Jsonb) (cast : castJsonb u.text = some z) : z = jsonb u.doc := by
    rw [cast_text] at cast
    split_ifs at cast
    injection cast with same
    exact same.symm
  simp only [sameJsonb, cast, cast']
  rw [written v x cast, written w y cast', doc_agreement v w left right]

theorem published_row (a : Envelope) (now : ℕ) (rows : List MailboxRow) (receipt : Receipt)
    (published : (publish a now rows).1 = .ok receipt) : envelopeCheck a.text = true ∧
      ∃ r, (publish a now rows).2.find? (fun r => r.eventId = a.id) = some r ∧ sameJsonb r.envelope a.text = true := by
  have inserted : (insert mailbox a now rows).1 = .ok () := by
    rw [publish] at published
    split at published
    · next same => rw [same]
    · cases published
  rw [publish_rows]
  cases fits : envelopeCheck a.text with
  | false =>
      rw [insert_refused mailbox a now rows fits] at inserted
      cases inserted
  | true =>
      refine ⟨rfl, ?_⟩
      cases found : rows.find? (fun r => mailbox.eventId r = a.id) with
      | none =>
          have absent : ∀ r ∈ rows, mailbox.eventId r ≠ a.id := fun r member same =>
            List.find?_eq_none.mp found r member (decide_eq_true same)
          rw [insert_fresh mailbox a now rows fits absent]
          have none : rows.find? (fun r => decide (r.eventId = a.id)) = none := found
          exact ⟨mailbox.fresh a.id a.text now, by simp [List.find?_append, none, mailbox], fits_same a fits⟩
      | some old =>
          cases same : sameJsonb (mailbox.envelope old) a.text with
          | true =>
              have unchanged : insert mailbox a now rows = (.ok (), rows) := by simp [insert, fits, found, same]
              rw [unchanged]
              exact ⟨old, found, same⟩
          | false => simp [insert, fits, found, same] at inserted

theorem publish_again (a b : Envelope) (now later : ℕ) (rows : List MailboxRow) (receipt : Receipt) (same : a.id = b.id)
    (published : (publish a now rows).1 = .ok receipt) (fits : envelopeCheck b.text = true) :
    (publish b later (publish a now rows).2).1 =
      if sameJsonb a.text b.text then .ok ⟨b.id, true⟩ else .error (conflict "id_reused") := by
  obtain ⟨_, r, found, equal⟩ := published_row a now rows receipt published
  have there : (publish a now rows).2.find? (fun r => mailbox.eventId r = b.id) = some r := by
    rw [← same]
    exact found
  have compared : sameJsonb (mailbox.envelope r) b.text = sameJsonb a.text b.text := cast_same_congr _ _ _ equal
  generalize (publish a now rows).2 = table at there
  by_cases alike : sameJsonb a.text b.text = true
  · simp [publish, insert, fits, there, compared, alike]
  · simp [publish, insert, fits, there, compared, alike]

namespace Broker

structure Duplicate (config : Config) (m : Msg) (seq : Number) : Prop where
  small : m.data.size ≤ maxMessage
  ack : PubAck config m seq true

structure Returns (m : Msg) (bytes : ByteArray) : Prop where
  small : m.data.size ≤ maxMessage
  stored : ∃ ms message, (decodeUtf8 m.data).bind Ecma.parse = some (.obj ms) ∧ get ms (str "message") = some (.obj message) ∧
    get message (str "data") = some (.str (base64Standard bytes.data.toList))

theorem acknowledged_of (config : Config) (m : Msg) (seq : Number) (duplicate : Bool) (ack : PubAck config m seq duplicate) :
    ∃ v, Ecma.parse (decodeLossy m.data) = some v ∧ acknowledged config v = .ok (seq, duplicate) := by
  obtain ⟨⟨ms, parsed, error, stream, number, twice⟩, safe, positive⟩ := ack
  refine ⟨_, parsed, ?_⟩
  simp [acknowledged, property, bind, Except.bind, error, stream, number, twice, stringIn, numberIn, safe, positive]

theorem publish_duplicate (config : Config) (a b : Envelope) (v w : Json) (m m' : Msg) (seq : Number) (first : own a = some v)
    (second : own b = some w) (duplicate : Duplicate config m seq) (returned : Returns m' a.bytes) :
    (publish config b).After [(publishCall config b, .message m), (getCall config seq, .message m')]
      (.done (if v.same Number.sameValue w then .ok ⟨b.id, true⟩ else .error (.app idReused))) := by
  obtain ⟨ack, parsed, accepted⟩ := acknowledged_of config m seq true duplicate.ack
  obtain ⟨ms, message, read, outer, inner⟩ := returned.stored
  have data : storedData (.obj ms) = some (base64Standard a.bytes.data.toList) := by
    simp [storedData, optional, object, stringIn, outer, inner]
  have bytes : original (base64Standard a.bytes.data.toList) = some v := by
    rw [original, base64_decode_standard]
    exact first
  refine ⟨rfl, ?_⟩
  simp only [if_neg (not_lt.mpr duplicate.small), parsed, accepted]
  refine ⟨rfl, ?_⟩
  simp only [if_neg (not_lt.mpr returned.small), read, isObject, if_true, compareStored, data, bytes, second]
  by_cases same : v.same Number.sameValue w = true
  · rw [if_pos same, if_pos same]
    rfl
  · rw [if_neg same, if_neg same]
    rfl

end Broker

theorem publishers_agree (rawA rawB : ByteArray) (a b : Envelope) (decodedA : decode rawA = .ok a) (decodedB : decode rawB = .ok b)
    (same : a.id = b.id) (now later : ℕ) (rows : List MailboxRow) (receipt : Receipt)
    (published : (publish a now rows).1 = .ok receipt) (fits : envelopeCheck b.text = true) (config : Broker.Config) (caller : Bool)
    (m m' : Broker.Msg) (seq : Number) (duplicate : Broker.Duplicate config m seq) (returned : Broker.Returns m' a.bytes) :
    ∃ r answer, (Broker.machine caller (Broker.publish config b)).run (begin (Broker.publish config b))
        [.resume, .answer (.ok (.message m)), .resume, .answer (.ok (.message m')), .resume, .finish] = some r ∧
      r.point = .concluded answer ∧ (publish b later (publish a now rows).2).1 = answer ∧
      (answer = .error (conflict "id_reused") ∨ answer = .ok ⟨b.id, true⟩) := by
  obtain ⟨v, left, bytesA, textA⟩ := envelope_document rawA a decodedA
  obtain ⟨w, right, bytesB, textB⟩ := envelope_document rawB b decodedB
  obtain ⟨fitsA, _⟩ := published_row a now rows receipt published
  have path := Broker.publish_duplicate config a b _ _ m m' seq (own_settled a v left bytesA) (own_settled b w right bytesB) duplicate returned
  have suits : ∀ e ∈ [(Broker.publishCall config b, Broker.Answer.message m), (Broker.getCall config seq, Broker.Answer.message m')],
      Broker.operation.suits e.1 e.2 = true := List.forall_mem_cons.mpr ⟨rfl, List.forall_mem_singleton.mpr rfl⟩
  have ran := play_concludes Broker.operation caller (Broker.publish config b) (Broker.publish config b) _ _ [] path suits
  rw [textA] at fitsA
  rw [textB] at fits
  have agree := comparisons_agree (.obj v) (.obj w) left right fitsA fits
  rw [← textA, ← textB] at agree
  refine ⟨_, _, ran, rfl, ?_, ?_⟩
  · rw [publish_again a b now later rows receipt same published (textB ▸ fits), agree]
    split_ifs <;> rfl
  · split_ifs
    · exact .inr rfl
    · exact .inl rfl

namespace Broker

def demoAck : Properties Json := [(str "stream", .str (str "n2f")), (str "seq", .num (Number.ofInt 1)), (str "duplicate", .bool true)]

def demoStored : Properties Json :=
  [(str "message", .obj [(str "data", .str (base64Standard demoEvent.bytes.data.toList))])]

theorem object_text (ms : Properties Json) : ∃ rest, (Json.obj ms).text = '{' :: rest := by
  cases ms with
  | nil => exact ⟨_, rfl⟩
  | cons m rest => exact ⟨_, rfl⟩

theorem decode_lossy_object (ms : Properties Json) : decodeLossy (encode (.obj ms)) = (Json.obj ms).text := by
  obtain ⟨rest, text⟩ := object_text ms
  rw [decodeLossy, encode, lossy_text_encode, text]
  exact if_neg (by decide)

theorem demo_duplicate : Duplicate demoConfig ⟨encode (.obj demoAck), none, none⟩ (Number.ofInt 1) := by
  have canonical : (Json.obj demoAck).Canonical :=
    ⟨plain_ordered _ (by decide +kernel) (by decide +kernel), trivial, trivial, trivial, trivial⟩
  have short : (Json.obj demoAck).text.length ≤ 64 := by decide +kernel
  have size := encode_size (Json.obj demoAck).text
  have one : (Json.num (Number.ofInt 1)).settle = .num (Number.ofInt 1) := by
    rw [Number.of_int_small 1 (by norm_num)]
    rfl
  have number : get (settleMembers demoAck) (str "seq") = some (.num (Number.ofInt 1)) := by
    rw [get_settle_members, ← one]
    rfl
  refine ⟨?_, ⟨settleMembers demoAck, ?_, by decide +kernel, rfl, number, rfl⟩, by decide +kernel, by decide +kernel⟩
  · rw [maxMessage]
    exact size.trans (by omega)
  · rw [decode_lossy_object, parse_text _ canonical]
    rfl

theorem demo_returns : Returns ⟨encode (.obj demoStored), none, none⟩ demoEvent.bytes := by
  have canonical : (Json.obj demoStored).Canonical :=
    ⟨List.pairwise_singleton .., ⟨List.pairwise_singleton .., trivial, trivial⟩, trivial⟩
  have bytes : demoEvent.bytes.data.toList = (Json.obj demoWire).text.flatMap String.utf8EncodeChar := encode_bytes _
  have short : (Json.obj demoStored).text.length ≤ 4096 := by
    rw [demoStored, bytes]
    decide +kernel
  have size := encode_size (Json.obj demoStored).text
  refine ⟨?_, settleMembers demoStored, _, encode_parsed demoStored canonical, rfl, rfl⟩
  rw [maxMessage]
  exact size.trans (by omega)

end Broker

theorem publishers_agree_demo : ∃ r answer,
    (Broker.machine false (Broker.publish Broker.demoConfig Broker.demoEvent)).run (begin (Broker.publish Broker.demoConfig Broker.demoEvent))
        [.resume, .answer (.ok (.message ⟨encode (.obj Broker.demoAck), none, none⟩)), .resume,
          .answer (.ok (.message ⟨encode (.obj Broker.demoStored), none, none⟩)), .resume, .finish] = some r ∧
      r.point = .concluded answer ∧ (publish Broker.demoEvent 1 (publish Broker.demoEvent 0 []).2).1 = answer ∧
      (answer = .error (conflict "id_reused") ∨ answer = .ok ⟨demoId 4, true⟩) := by
  have fits : envelopeCheck Broker.demoEvent.text = true := (envelope_check_payload _ Broker.demoEvent demo_created).trans demo_storable
  have first := insert_fresh mailbox Broker.demoEvent 0 [] fits (by simp)
  have published : (publish Broker.demoEvent 0 []).1 = .ok ⟨demoId 4, true⟩ := by
    rw [publish, first]
    rfl
  exact publishers_agree _ _ Broker.demoEvent Broker.demoEvent demo_created demo_created rfl 0 1 [] _ published fits Broker.demoConfig false
    _ _ _ Broker.demo_duplicate Broker.demo_returns

end N2F
