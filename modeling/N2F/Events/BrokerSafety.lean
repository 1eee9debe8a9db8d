import N2F.Events.Broker

set_option autoImplicit false

namespace N2F.Broker

open Ecma Operation

variable {α : Type}

def publishCall (config : Config) (event : Envelope) : Call := .request (subject config) event.bytes (some (event.id, config.stream))

def getCall (config : Config) (seq : Number) : Call :=
  .request (str "$JS.API.STREAM.MSG.GET." ++ config.stream) (encode (.obj [(str "seq", .num seq)])) none

def nextCall (config : Config) : Call :=
  .request (str "$JS.API.CONSUMER.MSG.NEXT." ++ config.stream ++ str "." ++ config.consumer)
    (encodeUtf8 "\x7b\"batch\":1,\"no_wait\":true\x7d".toList) none

def ackCall (reply : Str) : Call := .request reply ackData none

def Call.acknowledges : Call → Bool
  | .request _ data _ => data = ackData
  | .sink _ => false

structure PubAck (config : Config) (m : Msg) (seq : Number) (duplicate : Bool) : Prop where
  parsed : ∃ ms, Ecma.parse (decodeLossy m.data) = some (.obj ms) ∧ truthy (get ms (str "error")) = false ∧
    get ms (str "stream") = some (.str config.stream) ∧ get ms (str "seq") = some (.num seq) ∧
    truthy (get ms (str "duplicate")) = duplicate
  safe : seq.isSafeInteger = true
  positive : seq.above 0 = true

def Holds (m : Msg) (event : Envelope) : Prop :=
  ∃ ms message data a b, (decodeUtf8 m.data).bind Ecma.parse = some (.obj ms) ∧ get ms (str "message") = some (.obj message) ∧
    get message (str "data") = some (.str data) ∧ original data = some a ∧ own event = some b ∧ a.same Number.sameValue b = true

theorem request_after (subject : Str) (data : ByteArray) (headers : Option (Str × Str)) (next : Msg → Task α) (log : List (Call × Answer))
    (q : Task α) (after : (request subject data headers next).After log q) :
    log = [] ∧ q = request subject data headers next ∨ ∃ a rest, log = (.request subject data headers, a) :: rest ∧
      ((∃ e, rest = [] ∧ q = raise e) ∨ ∃ m, a = .message m ∧ (next m).After rest q) := by
  rcases call_after _ _ log q after with here | ⟨a, rest, rfl, later⟩
  · exact .inl here
  · refine .inr ⟨a, rest, rfl, ?_⟩
    cases a with
    | sank r => exact .inl ⟨_, done_after _ rest q later⟩
    | message m =>
        by_cases large : maxMessage < m.data.size
        · simp only [if_pos large] at later
          exact .inl ⟨_, done_after _ rest q later⟩
        · simp only [if_neg large] at later
          exact .inr ⟨m, rfl, later⟩

theorem api_after (subject : Str) (input : Json) (next : Json → Task α) (log : List (Call × Answer)) (q : Task α)
    (after : (api subject input next).After log q) :
    log = [] ∧ q = api subject input next ∨ ∃ a rest, log = (.request subject (encode input) none, a) :: rest ∧
      ((∃ e, rest = [] ∧ q = raise e) ∨
        ∃ m out, a = .message m ∧ (decodeUtf8 m.data).bind Ecma.parse = some out ∧ isObject out = true ∧ (next out).After rest q) := by
  rcases request_after _ _ _ _ log q after with here | ⟨a, rest, rfl, raised | ⟨m, rfl, later⟩⟩
  · exact .inl here
  · exact .inr ⟨a, rest, rfl, .inl raised⟩
  · refine .inr ⟨_, rest, rfl, ?_⟩
    cases parsed : (decodeUtf8 m.data).bind Ecma.parse with
    | none =>
        simp only [parsed] at later
        exact .inl ⟨_, done_after _ rest q later⟩
    | some out =>
        by_cases object : isObject out = true
        · simp only [parsed, if_pos object] at later
          exact .inr ⟨m, out, rfl, parsed, object, later⟩
        · simp only [parsed, if_neg object] at later
          exact .inl ⟨_, done_after _ rest q later⟩

theorem acknowledged_ok (config : Config) (m : Msg) (ack : Json) (seq : Number) (duplicate : Bool)
    (parsed : Ecma.parse (decodeLossy m.data) = some ack) (accepted : acknowledged config ack = .ok (seq, duplicate)) :
    PubAck config m seq duplicate := by
  have plain (other : ∀ k, property ack k = .ok none) : False := by
    simp [acknowledged, other, numberIn, bind, Except.bind] at accepted
  cases ack with
  | null => simp [acknowledged, property, bind, Except.bind] at accepted
  | obj ms =>
      simp only [acknowledged, property, bind, Except.bind] at accepted
      split at accepted
      · next n named numbered =>
          split_ifs at accepted with fits
          injection accepted with same
          injection same with own twice
          subst own twice
          simp only [Bool.or_eq_false_iff, decide_eq_false_iff_not, not_not] at named
          rw [Bool.and_eq_true] at fits
          exact ⟨⟨ms, parsed, named.1, string_in_some _ _ named.2, number_in_some _ _ numbered, rfl⟩, fits.1, fits.2⟩
      · cases accepted
  | bool b => exact (plain fun _ => rfl).elim
  | num n => exact (plain fun _ => rfl).elim
  | str s => exact (plain fun _ => rfl).elim
  | arr vs => exact (plain fun _ => rfl).elim

theorem optional_some (v : Option Json) (k : Str) (w : Json) (found : optional v k = some w) :
    ∃ ms, v = some (.obj ms) ∧ get ms k = some w := by
  obtain ⟨ms, here, inside⟩ := Option.bind_eq_some_iff.mp found
  exact ⟨ms, object_some v ms here, inside⟩

theorem stored_data_some (stored : Json) (data : Str) (found : storedData stored = some data) :
    ∃ ms message, stored = .obj ms ∧ get ms (str "message") = some (.obj message) ∧ get message (str "data") = some (.str data) := by
  obtain ⟨message, outer, inside⟩ := optional_some _ _ _ (string_in_some _ _ found)
  obtain ⟨ms, here, member⟩ := optional_some _ _ _ outer
  injection here with here
  exact ⟨ms, message, here, member, inside⟩

theorem compare_after (event : Envelope) (m : Msg) (stored : Json) (log : List (Call × Answer)) (q : Task Receipt)
    (parsed : (decodeUtf8 m.data).bind Ecma.parse = some stored) (after : (compareStored event stored).After log q) :
    log = [] ∧ ((∃ e, q = raise e) ∨ q = .done (.ok ⟨event.id, true⟩) ∧ Holds m event) := by
  rw [compareStored] at after
  cases found : storedData stored with
  | none =>
      rw [found] at after
      obtain ⟨empty, same⟩ := done_after _ log q after
      exact ⟨empty, .inl ⟨_, same⟩⟩
  | some data =>
      obtain ⟨ms, message, rfl, outer, inner⟩ := stored_data_some stored data found
      rw [found] at after
      simp only at after
      split at after
      · next a b first second =>
          by_cases same : a.same Number.sameValue b = true
          · rw [if_pos same] at after
            obtain ⟨empty, done⟩ := done_after _ log q after
            exact ⟨empty, .inr ⟨done, ms, message, data, a, b, parsed, outer, inner, first, second, same⟩⟩
          · rw [if_neg same] at after
            obtain ⟨empty, done⟩ := done_after _ log q after
            exact ⟨empty, .inl ⟨_, done⟩⟩
      · obtain ⟨empty, done⟩ := done_after _ log q after
        exact ⟨empty, .inl ⟨_, done⟩⟩

inductive Publishing (config : Config) (event : Envelope) : List (Call × Answer) → Task Receipt → Prop where
  | asked : Publishing config event [] (publish config event)
  | raised (log : List (Call × Answer)) (e : Thrown) : Publishing config event log (raise e)
  | acknowledged (m : Msg) (seq : Number) (ack : PubAck config m seq false) :
      Publishing config event [(publishCall config event, .message m)] (.done (.ok ⟨event.id, true⟩))
  | duplicate (m : Msg) (seq : Number) (next : Answer → Task Receipt) (ack : PubAck config m seq true) :
      Publishing config event [(publishCall config event, .message m)] (.call (getCall config seq) next)
  | confirmed (m m' : Msg) (seq : Number) (ack : PubAck config m seq true) (holds : Holds m' event) :
      Publishing config event [(publishCall config event, .message m), (getCall config seq, .message m')] (.done (.ok ⟨event.id, true⟩))

theorem publish_after (config : Config) (event : Envelope) (log : List (Call × Answer)) (q : Task Receipt)
    (after : (publish config event).After log q) : Publishing config event log q := by
  rcases request_after _ _ _ _ log q after with ⟨rfl, rfl⟩ | ⟨a, rest, rfl, ⟨e, rfl, rfl⟩ | ⟨m, rfl, later⟩⟩
  · exact .asked
  · exact .raised _ e
  · cases parsed : Ecma.parse (decodeLossy m.data) with
    | none =>
        simp only [parsed] at later
        obtain ⟨_, rfl⟩ := done_after _ rest q later
        exact .raised _ _
    | some ack =>
        cases accepted : acknowledged config ack with
        | error e =>
            simp only [parsed, accepted] at later
            obtain ⟨_, rfl⟩ := done_after _ rest q later
            exact .raised _ e
        | ok pair =>
            obtain ⟨seq, duplicate⟩ := pair
            have ok := acknowledged_ok config m ack seq duplicate parsed accepted
            cases duplicate with
            | false =>
                simp only [parsed, accepted] at later
                obtain ⟨rfl, rfl⟩ := done_after _ rest q later
                exact .acknowledged m seq ok
            | true =>
                simp only [parsed, accepted] at later
                rcases api_after _ _ _ rest q later with ⟨rfl, rfl⟩ | ⟨a, rest', rfl, ⟨e, rfl, rfl⟩ | ⟨m', out, rfl, read, _, last⟩⟩
                · exact .duplicate m seq _ ok
                · exact .raised _ e
                · obtain ⟨rfl, ⟨e, rfl⟩ | ⟨rfl, holds⟩⟩ := compare_after event m' out rest' q read last
                  · exact .raised _ e
                  · exact .confirmed m m' seq ok holds

inductive Transferring (config : Config) : List (Call × Answer) → Task Bool → Prop where
  | asked : Transferring config [] (transfer config)
  | raised (log : List (Call × Answer)) (e : Thrown) : Transferring config log (raise e)
  | empty (log : List (Call × Answer)) : Transferring config log (.done (.ok false))
  | received (m : Msg) (event : Envelope) (next : Answer → Task Bool) (decoded : decode m.data = .ok event) :
      Transferring config [(nextCall config, .message m)] (.call (.sink event) next)
  | durable (m : Msg) (event : Envelope) (receipt : Receipt) (reply : Str) (next : Answer → Task Bool)
      (decoded : decode m.data = .ok event) (replies : m.reply = some reply) (durable : receipt.durable = true)
      (named : receipt.eventId = event.id) :
      Transferring config [(nextCall config, .message m), (.sink event, .sank (.ok receipt))] (.call (ackCall reply) next)
  | acknowledged (m answer : Msg) (event : Envelope) (receipt : Receipt) (reply : Str)
      (decoded : decode m.data = .ok event) (replies : m.reply = some reply) (durable : receipt.durable = true)
      (named : receipt.eventId = event.id) :
      Transferring config [(nextCall config, .message m), (.sink event, .sank (.ok receipt)), (ackCall reply, .message answer)]
        (.done (.ok true))

theorem deliver_after (config : Config) (m : Msg) (reply : Str) (event : Envelope) (log : List (Call × Answer)) (q : Task Bool)
    (decoded : decode m.data = .ok event) (replies : m.reply = some reply) (after : (deliver reply event).After log q) :
    Transferring config ((nextCall config, .message m) :: log) q := by
  rcases call_after _ _ log q after with ⟨rfl, rfl⟩ | ⟨a, rest, rfl, later⟩
  · exact .received m event _ decoded
  · cases a with
    | message m' =>
        obtain ⟨_, rfl⟩ := done_after _ rest q later
        exact .raised _ _
    | sank r =>
        cases r with
        | error f =>
            obtain ⟨_, rfl⟩ := done_after _ rest q later
            exact .raised _ _
        | ok receipt =>
            simp only [received] at later
            by_cases refused : (!receipt.durable || receipt.eventId ≠ event.id) = true
            · rw [if_pos refused] at later
              obtain ⟨_, rfl⟩ := done_after _ rest q later
              exact .raised _ _
            · rw [if_neg refused] at later
              simp only [Bool.or_eq_true, Bool.not_eq_true', decide_eq_true_eq, not_or, Bool.not_eq_false, not_not] at refused
              obtain ⟨durable, named⟩ := refused
              rcases request_after _ _ _ _ rest q later with ⟨rfl, rfl⟩ | ⟨a, rest', rfl, ⟨e, rfl, rfl⟩ | ⟨answer, rfl, last⟩⟩
              · exact .durable m event receipt reply _ decoded replies durable named
              · exact .raised _ e
              · obtain ⟨rfl, rfl⟩ := done_after _ rest' q last
                exact .acknowledged m answer event receipt reply decoded replies durable named

theorem transfer_after (config : Config) (log : List (Call × Answer)) (q : Task Bool) (after : (transfer config).After log q) :
    Transferring config log q := by
  rcases request_after _ _ _ _ log q after with ⟨rfl, rfl⟩ | ⟨a, rest, rfl, ⟨e, rfl, rfl⟩ | ⟨m, rfl, later⟩⟩
  · exact .asked
  · exact .raised _ e
  · by_cases empty : isEmptyPull m = true
    · simp only [if_pos empty] at later
      obtain ⟨_, rfl⟩ := done_after _ rest q later
      exact .empty _
    · simp only [if_neg empty] at later
      split at later
      · obtain ⟨_, rfl⟩ := done_after _ rest q later
        exact .raised _ _
      · obtain ⟨_, rfl⟩ := done_after _ rest q later
        exact .raised _ _
      · next reply _ replies =>
          cases decoded : decode m.data with
          | error f =>
              rw [decoded] at later
              obtain ⟨_, rfl⟩ := done_after _ rest q later
              exact .raised _ _
          | ok event =>
              rw [decoded] at later
              exact deliver_after config m reply event rest q decoded replies later

theorem object_no_ack (ms : Properties Json) : encode (.obj ms) ≠ ackData := by
  intro same
  have texts := encode_injective _ _ same
  cases ms with
  | nil => exact absurd texts (by decide)
  | cons m rest => exact absurd (congrArg List.head? texts) (by simp [Json.text])

theorem next_no_ack (config : Config) : (nextCall config).acknowledges = false := by
  simp only [nextCall, Call.acknowledges, decide_eq_false_iff_not]
  intro same
  exact absurd (encode_injective _ _ same) (by decide)

theorem request_calls (P : Call → Prop) (subject : Str) (data : ByteArray) (headers : Option (Str × Str)) (next : Msg → Task α)
    (here : P (.request subject data headers)) (later : ∀ m, (next m).Calls P) : (request subject data headers next).Calls P := by
  refine ⟨here, fun a => ?_⟩
  cases a with
  | sank r => trivial
  | message m =>
      by_cases large : maxMessage < m.data.size
      · simp only [if_pos large]
        trivial
      · simp only [if_neg large]
        exact later m

theorem api_calls (P : Call → Prop) (subject : Str) (input : Json) (next : Json → Task α)
    (here : P (.request subject (encode input) none)) (later : ∀ out, (next out).Calls P) : (api subject input next).Calls P := by
  refine request_calls P subject _ none _ here fun m => ?_
  cases (decodeUtf8 m.data).bind Ecma.parse with
  | none => trivial
  | some out =>
      by_cases object : isObject out = true
      · simp only [if_pos object]
        exact later out
      · simp only [if_neg object]
        trivial

def Silent (c : Call) : Prop := c.acknowledges = false

theorem object_silent (subject : Str) (ms : Properties Json) : Silent (.request subject (encode (.obj ms)) none) :=
  decide_eq_false (object_no_ack ms)

theorem validated_silent (info : Json) (want : Properties Json) (next : Task Unit) (later : next.Calls Silent) :
    (validated info want next).Calls Silent := by
  unfold validated
  split_ifs with failed fits
  · trivial
  · exact later
  · trivial

theorem ensure_silent (info create : Str) (input want : Properties Json) (next : Task Unit) (later : next.Calls Silent) :
    (ensure info create (.obj input) want next).Calls Silent := by
  refine api_calls Silent info _ _ (object_silent info []) fun found => ?_
  by_cases absent : missing found = true
  · rw [if_pos absent]
    exact api_calls Silent create _ _ (object_silent create input) fun made => validated_silent made want next later
  · rw [if_neg absent]
    exact validated_silent found want next later

theorem provision_silent (config : Config) : (provision config).Calls Silent :=
  ensure_silent _ _ _ _ _ (ensure_silent _ _ _ _ _ trivial)

theorem compare_silent (event : Envelope) (stored : Json) : (compareStored event stored).Calls Silent := by
  rw [compareStored]
  cases storedData stored with
  | none => trivial
  | some data =>
      simp only
      split
      · split_ifs <;> trivial
      · trivial

theorem publish_silent (config : Config) (raw : ByteArray) (event : Envelope) (decoded : decode raw = .ok event) :
    (publish config event).Calls Silent := by
  obtain ⟨_, _, w, _, _, _, _, bytes, _⟩ := decode_ok raw event decoded
  have own : Silent (publishCall config event) := by
    rw [publishCall, Envelope.bytes, bytes]
    exact decide_eq_false (object_no_ack w)
  refine request_calls Silent _ _ _ _ own fun m => ?_
  cases Ecma.parse (decodeLossy m.data) with
  | none => trivial
  | some ack =>
      cases accepted : acknowledged config ack with
      | error e =>
          simp only [accepted]
          trivial
      | ok pair =>
          obtain ⟨seq, duplicate⟩ := pair
          simp only [accepted]
          cases duplicate with
          | false => trivial
          | true => exact api_calls Silent _ _ _ (object_silent _ _) (compare_silent event)

def Confirmed (config : Config) (event : Envelope) (es : List (Call × Answer)) : Prop :=
  (∃ m seq, PubAck config m seq false ∧ es = [(publishCall config event, .message m)]) ∨
    ∃ m seq m', PubAck config m seq true ∧ Holds m' event ∧
      es = [(publishCall config event, .message m), (getCall config seq, .message m')]

def Delivered (config : Config) (reply : Str) (es : List (Call × Answer)) : Prop :=
  ∃ m event receipt, decode m.data = .ok event ∧ m.reply = some reply ∧ receipt.durable = true ∧ receipt.eventId = event.id ∧
    es = [(nextCall config, .message m), (.sink event, .sank (.ok receipt))]

theorem publish_confirmed (config : Config) (caller : Bool) (event : Envelope) (r : Run Call Answer Thrown Failure Receipt)
    (receipt : Receipt) (reached : (machine caller (publish config event)).Reachable r) (answered : r.point = .concluded (.ok receipt)) :
    receipt = ⟨event.id, true⟩ ∧ Confirmed config event (exchanges r.log) := by
  have after := publish_after config event _ _ (concluded_after operation caller _ r receipt reached answered)
  generalize exchanges r.log = es at after
  generalize finish : (.done (.ok receipt) : Task Receipt) = q at after
  cases after with
  | asked => cases finish
  | raised log e => cases finish
  | acknowledged m seq ack =>
      injection finish with same
      injection same with same
      exact ⟨same, .inl ⟨m, seq, ack, rfl⟩⟩
  | duplicate m seq next ack => cases finish
  | confirmed m m' seq ack holds =>
      injection finish with same
      injection same with same
      exact ⟨same, .inr ⟨m, seq, m', ack, holds, rfl⟩⟩

theorem transfer_acknowledges (config : Config) (es : List (Call × Answer)) (c : Call) (next : Answer → Task Bool)
    (after : (transfer config).After es (.call c next)) (acknowledges : c.acknowledges = true) :
    ∃ reply, c = ackCall reply ∧ Delivered config reply es := by
  have stands := transfer_after config es _ after
  generalize pending : (.call c next : Task Bool) = q at stands
  cases stands with
  | asked =>
      injection pending with same
      rw [same] at acknowledges
      exact absurd (next_no_ack config) (ne_false_of_eq_true acknowledges)
  | raised log e => cases pending
  | empty log => cases pending
  | received m event next decoded =>
      injection pending with same
      rw [same] at acknowledges
      cases acknowledges
  | durable m event receipt reply next decoded replies durable named =>
      injection pending with same
      exact ⟨reply, same, m, event, receipt, decoded, replies, durable, named, rfl⟩
  | acknowledged m answer event receipt reply decoded replies durable named => cases pending

theorem transfer_finished (config : Config) (caller : Bool) (r : Run Call Answer Thrown Failure Bool)
    (reached : (machine caller (transfer config)).Reachable r) (answered : r.point = .concluded (.ok true)) :
    ∃ reply answer es, Delivered config reply es ∧ exchanges r.log = es ++ [(ackCall reply, .message answer)] := by
  have after := transfer_after config _ _ (concluded_after operation caller _ r true reached answered)
  generalize exchanges r.log = es at after
  generalize finish : (.done (.ok true) : Task Bool) = q at after
  cases after with
  | asked => cases finish
  | raised log e => cases finish
  | empty log =>
      injection finish with same
      cases same
  | received m event next decoded => cases finish
  | durable m event receipt reply next decoded replies durable named => cases finish
  | acknowledged m answer event receipt reply decoded replies durable named =>
      exact ⟨reply, answer, _, ⟨m, event, receipt, decoded, replies, durable, named, rfl⟩, rfl⟩

structure Acknowledging (config : Config) (r : Run Call Answer Thrown Failure Bool) : Prop where
  due : ∀ before c later, r.log = before ++ .called c :: later → c.acknowledges = true →
    (∃ reply, c = ackCall reply ∧ Delivered config reply (exchanges before)) ∧ ∀ e ∈ before, e.stops = false
  once : (calls r.log).countP Call.acknowledges ≤ 1
  answered : r.point = .concluded (.ok true) →
    ∃ reply answer es, Delivered config reply es ∧ exchanges r.log = es ++ [(ackCall reply, .message answer)]

theorem transfer_acknowledging (config : Config) (caller : Bool) (r : Run Call Answer Thrown Failure Bool)
    (reached : (machine caller (transfer config)).Reachable r) : Acknowledging config r := by
  refine ⟨?_, ?_, transfer_finished config caller r reached⟩
  · intro before c later same acknowledges
    obtain ⟨⟨next, after⟩, _, free⟩ := (reachable_sound operation caller _ r reached).due before c later same
    obtain ⟨reply, own, delivered⟩ := transfer_acknowledges config _ c next after acknowledges
    exact ⟨⟨reply, own, delivered⟩, free (own ▸ rfl)⟩
  · refine calls_once operation caller _ r Call.acknowledges reached fun es c next after acknowledges d member => ?_
    obtain ⟨reply, _, m, event, receipt, _, _, _, _, rfl⟩ := transfer_acknowledges config es c next after acknowledges
    simp only [List.map_cons, List.map_nil, List.mem_cons, List.not_mem_nil, or_false] at member
    rcases member with rfl | rfl
    · exact next_no_ack config
    · rfl

theorem broker_safe (config : Config) (caller : Bool) :
    (∀ event r receipt, (machine caller (publish config event)).Reachable r → r.point = .concluded (.ok receipt) →
      receipt = ⟨event.id, true⟩ ∧ Confirmed config event (exchanges r.log)) ∧
    (∀ r, (machine caller (transfer config)).Reachable r → Acknowledging config r) ∧
    (∀ raw event r, decode raw = .ok event → (machine caller (publish config event)).Reachable r →
      ∀ c ∈ calls r.log, c.acknowledges = false) ∧
    ∀ r, (machine caller (provision config)).Reachable r → ∀ c ∈ calls r.log, c.acknowledges = false := by
  refine ⟨publish_confirmed config caller, transfer_acknowledging config caller, ?_, ?_⟩
  · intro raw event r decoded reached
    exact along_calls Silent _ _ (publish_silent config raw event decoded) (calls_along operation caller _ r reached)
  · intro r reached
    exact along_calls Silent _ _ (provision_silent config) (calls_along operation caller _ r reached)

theorem transfer_delivers (config : Config) (m answer : Msg) (reply : Str) (event : Envelope) (receipt : Receipt)
    (small : m.data.size ≤ maxMessage) (pulled : isEmptyPull m = false) (replies : m.reply = some reply) (named : reply ≠ [])
    (decoded : decode m.data = .ok event) (durable : receipt.durable = true) (matched : receipt.eventId = event.id)
    (short : answer.data.size ≤ maxMessage) :
    (transfer config).After [(nextCall config, .message m), (.sink event, .sank (.ok receipt)), (ackCall reply, .message answer)]
      (.done (.ok true)) := by
  refine ⟨rfl, ?_⟩
  simp only [if_neg (not_lt.mpr small), pulled, Bool.false_eq_true, if_false, replies, decoded]
  cases reply with
  | nil => exact absurd rfl named
  | cons u rest =>
      have kept : received (u :: rest) event receipt = acknowledge (u :: rest) := by simp [received, durable, matched]
      refine ⟨rfl, ?_⟩
      simp only [kept]
      refine ⟨rfl, ?_⟩
      simp only [if_neg (not_lt.mpr short)]
      rfl

def demoConfig : Config := ⟨str "n2f", str "mailbox"⟩

def demoEvent : Envelope := ⟨demoId 4, encode (.obj demoWire), encode_valid _, demoWork.unsigned⟩

def demoReply : Str := [95]

def demoMsg : Msg := ⟨encode (.obj demoWire), none, some demoReply⟩

def demoExchanges : List (Call × Answer) :=
  [(nextCall demoConfig, .message demoMsg), (.sink demoEvent, .sank (.ok ⟨demoId 4, true⟩)),
    (ackCall demoReply, .message ⟨.empty, none, none⟩)]

theorem demo_transferred : (transfer demoConfig).After demoExchanges (.done (.ok true)) :=
  transfer_delivers demoConfig demoMsg _ demoReply demoEvent _ (demo_fits.trans (by decide)) rfl rfl (by decide) demo_created rfl rfl
    (Nat.zero_le _)

theorem demo_reached : (machine false (transfer demoConfig)).Reachable ⟨.concluded (.ok true), false, false, replayed demoExchanges⟩ := by
  have suits : ∀ e ∈ demoExchanges, operation.suits e.1 e.2 = true :=
    List.forall_mem_cons.mpr ⟨rfl, List.forall_mem_cons.mpr ⟨rfl, List.forall_mem_singleton.mpr rfl⟩⟩
  exact (machine false (transfer demoConfig)).run_reachable _ _ (play demoExchanges) .start
    (play_concludes operation false _ (transfer demoConfig) demoExchanges (.ok true) [] demo_transferred suits)

theorem broker_safe_demo : ∃ r, (machine false (transfer demoConfig)).Reachable r ∧ r.point = .concluded (.ok true) ∧
    Acknowledging demoConfig r :=
  ⟨_, demo_reached, rfl, (broker_safe demoConfig false).2.1 _ demo_reached⟩

end N2F.Broker
