import N2F.Events.Relay

set_option autoImplicit false

namespace N2F.Broker

open Ecma Operation

structure Ledger where
  leases : List Lease
  messages : List Stored
  deliveries : List (Str × ℕ)
  rows : List MailboxRow

structure Ledger.Later (s t : Ledger) : Prop where
  leases : s.leases ⊆ t.leases
  messages : s.messages <+: t.messages
  deliveries : s.deliveries ⊆ t.deliveries
  rows : Present s.rows t.rows

structure Ledger.Consistent (s : Ledger) : Prop where
  messages : ∀ stored ∈ s.messages, ∃ lease ∈ s.leases, stored.id = lease.event.id ∧ stored.data = lease.event.bytes
  single : ∀ a ∈ s.leases, ∀ b ∈ s.leases, a.event.id = b.event.id → a.event.bytes = b.event.bytes
  decodes : ∀ lease ∈ s.leases, ∃ event, decode lease.event.bytes = .ok event ∧ event.id = lease.event.id ∧ event.text = lease.event.text

def Ledger.Handed (s : Ledger) (place : ℕ) : Prop :=
  ∃ stored event, s.messages[place]? = some stored ∧ decode stored.data = .ok event ∧ N2F.Delivered s.rows event.id event.text

def Ledger.Kept (s : Ledger) (id : Str) : Prop := ∃ stored ∈ s.messages, stored.id = id

def Ledger.Sends (s : Ledger) : Call → Prop
  | .sink event => ∃ lease ∈ s.leases, event.id = lease.event.id ∧ event.text = lease.event.text
  | .request _ data (some (id, _)) => ∃ lease ∈ s.leases, id = lease.event.id ∧ data = lease.event.bytes
  | .request reply data none => data = ackData → ∃ place, (reply, place) ∈ s.deliveries ∧ s.Handed place

def Ledger.stream (s : Ledger) : Stream := ⟨s.messages, s.deliveries, [], []⟩

def Ledger.Sinks (s : Ledger) (event : Envelope) : Result Receipt → Prop
  | .ok receipt => receipt = ⟨event.id, true⟩ ∧ N2F.Delivered s.rows event.id event.text
  | .error f => f ≠ idReused ∧ f ≠ invalidEnvelope

def Ledger.Answers (config : Config) (s : Ledger) : Call → Answer → Prop
  | .sink event, .sank r => s.Sinks event r
  | c, a => s.stream.answers config c a = true

theorem later_refl (s : Ledger) : s.Later s := ⟨List.Subset.refl _, List.prefix_refl _, List.Subset.refl _, present_refl _⟩

theorem later_trans (s t u : Ledger) (first : s.Later t) (second : t.Later u) : s.Later u := by
  refine ⟨List.Subset.trans first.leases second.leases, first.messages.trans second.messages,
    List.Subset.trans first.deliveries second.deliveries, fun r member => ?_⟩
  obtain ⟨r', member', named, written⟩ := first.rows r member
  obtain ⟨r'', member'', named', written'⟩ := second.rows r' member'
  exact ⟨r'', member'', named'.trans named, written'.trans written⟩

theorem message_later (s t : Ledger) (later : s.Later t) (place : ℕ) (stored : Stored) (found : s.messages[place]? = some stored) :
    t.messages[place]? = some stored := by
  obtain ⟨rest, same⟩ := later.messages
  rw [← same, List.getElem?_append_left (List.getElem?_eq_some_iff.mp found).1]
  exact found

theorem handed_later (s t : Ledger) (later : s.Later t) (place : ℕ) (handed : s.Handed place) : t.Handed place := by
  obtain ⟨stored, event, found, decoded, delivered⟩ := handed
  exact ⟨stored, event, message_later s t later place stored found, decoded, delivered_later _ _ _ _ later.rows delivered⟩

theorem kept_later (s t : Ledger) (later : s.Later t) (id : Str) (kept : s.Kept id) : t.Kept id := by
  obtain ⟨stored, member, named⟩ := kept
  exact ⟨stored, later.messages.subset member, named⟩

theorem sends_later (s t : Ledger) (later : s.Later t) (c : Call) (sends : s.Sends c) : t.Sends c := by
  cases c with
  | sink event =>
      obtain ⟨lease, known, same⟩ := sends
      exact ⟨lease, later.leases known, same⟩
  | request subject data headers =>
      cases headers with
      | none =>
          intro acks
          obtain ⟨place, delivered, handed⟩ := sends acks
          exact ⟨place, later.deliveries delivered, handed_later s t later place handed⟩
      | some pair =>
          obtain ⟨lease, known, same⟩ := sends
          exact ⟨lease, later.leases known, same⟩

def publishing (config : Config) (event : Envelope) : Reliance Ledger Call Answer Thrown Receipt where
  later := Ledger.Later
  relies s c a := s.Consistent ∧ s.stream.answers config c a = true
  calls s c := s.Sends c
  throws _ e := e = .other ∨ e = .app unavailable
  returns s receipt := receipt = ⟨event.id, true⟩ ∧ s.Kept event.id
  unmoved := later_refl
  onward := later_trans
  thrown _ _ _ _ thrown := thrown
  returned s t _ later returned := ⟨returned.1, kept_later s t later _ returned.2⟩

def transferring (config : Config) : Reliance Ledger Call Answer Thrown Bool where
  later := Ledger.Later
  relies s c a := s.Consistent ∧ s.Answers config c a
  calls s c := s.Sends c
  throws _ e := e ≠ .app idReused ∧ e ≠ .app invalidEnvelope
  returns _ _ := True
  unmoved := later_refl
  onward := later_trans
  thrown _ _ _ _ thrown := thrown
  returned _ _ _ _ _ := trivial

variable {State α : Type}

theorem request_meets (k : Reliance State Call Answer Thrown α) (subject : Str) (data : ByteArray) (headers : Option (Str × Str))
    (next : Msg → Task α) (s : State) (calls : ∀ t, k.later s t → k.calls t (.request subject data headers))
    (suits : ∀ t r, ¬ k.relies t (.request subject data headers) (.sank r)) (large : ∀ t, k.later s t → k.throws t (.app unavailable))
    (goes : ∀ t m, k.later s t → k.relies t (.request subject data headers) (.message m) → (next m).Meets k t) :
    (request subject data headers next).Meets k s := by
  intro t later
  refine ⟨calls t later, fun a relied => ?_⟩
  cases a with
  | sank r => exact absurd relied (suits t r)
  | message m =>
      by_cases big : maxMessage < m.data.size
      · simp only [if_pos big]
        exact large t later
      · simp only [if_neg big]
        exact goes t m later relied

theorem api_meets (k : Reliance State Call Answer Thrown α) (subject : Str) (input : Json) (next : Json → Task α) (s : State)
    (calls : ∀ t, k.later s t → k.calls t (.request subject (encode input) none))
    (suits : ∀ t r, ¬ k.relies t (.request subject (encode input) none) (.sank r))
    (fails : ∀ t e, k.later s t → e = .other ∨ e = .app unavailable → k.throws t e)
    (goes : ∀ t m out, k.later s t → k.relies t (.request subject (encode input) none) (.message m) →
      (decodeUtf8 m.data).bind Ecma.parse = some out → (next out).Meets k t) : (api subject input next).Meets k s := by
  refine request_meets k subject _ none _ s calls suits (fun t later => fails t _ later (.inr rfl)) fun t m later relied => ?_
  cases parsed : (decodeUtf8 m.data).bind Ecma.parse with
  | none => exact fails t _ later (.inl rfl)
  | some out =>
      by_cases object : isObject out = true
      · simp only [if_pos object]
        exact goes t m out later relied parsed
      · simp only [if_neg object]
        exact fails t _ later (.inr rfl)

theorem acknowledged_fails (config : Config) (ack : Json) (e : Thrown) (refused : acknowledged config ack = .error e) :
    e = .other ∨ e = .app unavailable := by
  cases ack with
  | null =>
      simp only [acknowledged, property, bind, Except.bind] at refused
      injection refused with same
      exact .inl same.symm
  | obj ms =>
      simp only [acknowledged, property, bind, Except.bind] at refused
      split at refused
      · split_ifs at refused
        injection refused with same
        exact .inr same.symm
      · injection refused with same
        exact .inr same.symm
  | bool b | num n | str s | arr vs =>
      simp only [acknowledged, property, bind, Except.bind] at refused
      split at refused
      · split_ifs at refused
        injection refused with same
        exact .inr same.symm
      · injection refused with same
        exact .inr same.symm

theorem confirms_kept (config : Config) (s : Ledger) (id : Str) (m : Msg) (ack : Json) (seq : Number) (duplicate : Bool)
    (parsed : Ecma.parse (decodeLossy m.data) = some ack) (accepted : acknowledged config ack = .ok (seq, duplicate))
    (honest : s.stream.confirms config id m = true) :
    ∃ place stored, s.messages[place]? = some stored ∧ sequence place = seq ∧ stored.id = id := by
  simp only [Stream.confirms, parsed, accepted, List.any_eq_true, Bool.and_eq_true, decide_eq_true_eq] at honest
  obtain ⟨⟨stored, place⟩, member, numbered, named⟩ := honest
  exact ⟨place, stored, List.mk_mem_zipIdx_iff_getElem?.mp member, numbered, named⟩

theorem returns_data (config : Config) (s : Ledger) (place : ℕ) (stored : Stored) (m : Msg) (out : Json) (data : Str)
    (found : s.messages[place]? = some stored) (parsed : (decodeUtf8 m.data).bind Ecma.parse = some out)
    (carried : storedData out = some data) (honest : s.stream.returns config (getCall config (sequence place)) m = true) :
    base64Decode data = stored.data.data.toList := by
  have member := List.mk_mem_zipIdx_iff_getElem?.mpr found
  simp only [Stream.returns, List.all_eq_true] at honest
  simpa [parsed, carried] using honest (stored, place) member

theorem message_bytes (s : Ledger) (consistent : s.Consistent) (lease : Lease) (known : lease ∈ s.leases) (stored : Stored)
    (member : stored ∈ s.messages) (named : stored.id = lease.event.id) : stored.data = lease.event.bytes := by
  obtain ⟨lease', known', named', bytes⟩ := consistent.messages stored member
  exact bytes.trans (consistent.single lease' known' lease known (named'.symm.trans named))

theorem own_same (event : Envelope) (a b : Json) (first : own event = some a) (second : own event = some b) :
    a.same Number.sameValue b = true := by
  obtain rfl := Option.some.inj (first.symm.trans second)
  exact same_refl Number.sameValue (fun n => decide_eq_true rfl) a (parse_canonical _ a first)

theorem sends_own (s : Ledger) (config : Config) (lease : Lease) (known : lease ∈ s.leases) : s.Sends (publishCall config lease.event) :=
  ⟨lease, known, rfl, rfl⟩

theorem sends_object (s : Ledger) (subject : Str) (ms : Properties Json) : s.Sends (.request subject (encode (.obj ms)) none) :=
  fun acks => absurd acks (object_no_ack ms)

theorem compare_meets (config : Config) (s : Ledger) (consistent : s.Consistent) (lease : Lease) (known : lease ∈ s.leases) (place : ℕ)
    (stored : Stored) (m : Msg) (out : Json) (found : s.messages[place]? = some stored) (named : stored.id = lease.event.id)
    (parsed : (decodeUtf8 m.data).bind Ecma.parse = some out)
    (honest : s.stream.returns config (getCall config (sequence place)) m = true) :
    (compareStored lease.event out).Meets (publishing config lease.event) s := by
  have member := List.mem_of_getElem? found
  rw [compareStored]
  cases carried : storedData out with
  | none => exact .inr rfl
  | some data =>
      have bytes := returns_data config s place stored m out data found parsed carried honest
      have same : original data = own lease.event := by
        rw [original, bytes, message_bytes s consistent lease known stored member named]
        rfl
      simp only [same]
      cases read : own lease.event with
      | none => exact .inl rfl
      | some v =>
          simp only [own_same lease.event v v read read, if_true]
          exact ⟨rfl, stored, member, named⟩

theorem publish_meets (config : Config) (s : Ledger) (lease : Lease) (known : lease ∈ s.leases) :
    (publish config lease.event).Meets (publishing config lease.event) s := by
  refine request_meets _ _ _ _ _ s (fun t later => sends_own t config lease (later.leases known)) ?_ (fun _ _ => .inr rfl) ?_
  · intro t r relied
    cases relied.2
  · intro t m later relied
    cases parsed : Ecma.parse (decodeLossy m.data) with
    | none => exact .inl rfl
    | some ack =>
        cases accepted : acknowledged config ack with
        | error e =>
            simp only [accepted]
            exact acknowledged_fails config ack e accepted
        | ok pair =>
            obtain ⟨seq, duplicate⟩ := pair
            obtain ⟨place, stored, found, numbered, named⟩ := confirms_kept config t lease.event.id m ack seq duplicate parsed accepted
              relied.2
            simp only [accepted]
            cases duplicate with
            | false => exact ⟨rfl, stored, List.mem_of_getElem? found, named⟩
            | true =>
                subst numbered
                refine api_meets _ _ _ _ t (fun u _ => sends_object u _ _) ?_ (fun _ _ _ fails => fails) ?_
                · intro u r relied
                  cases relied.2
                · intro u m' out onward relied read
                  have returned : u.stream.returns config (getCall config (sequence place)) m' = true :=
                    (Bool.and_eq_true_iff.mp relied.2).1
                  exact compare_meets config u relied.1 lease (onward.leases (later.leases known)) place stored m' out
                    (message_later t u onward place stored found) named read returned

theorem pulls_message (config : Config) (s : Ledger) (m : Msg) (reply : Str) (filled : isEmptyPull m = false) (replies : m.reply = some reply)
    (named : reply ≠ []) (honest : s.stream.answers config (nextCall config) (.message m) = true) :
    ∃ place stored, (reply, place) ∈ s.deliveries ∧ s.messages[place]? = some stored ∧ stored.data = m.data := by
  have pulled : s.stream.pulls m = true := by
    simpa [nextCall] using (Bool.and_eq_true_iff.mp honest).2
  simp only [Stream.pulls, filled, replies, Bool.false_or, Option.all_some, Bool.or_eq_true, decide_eq_true_eq, named, false_or,
    List.any_eq_true, Bool.and_eq_true, Option.any_eq_true] at pulled
  obtain ⟨⟨reply', place⟩, member, rfl, stored, found, same⟩ := pulled
  exact ⟨place, stored, member, found, same⟩

theorem received_meets (config : Config) (s : Ledger) (reply : Str) (place : ℕ) (event : Envelope) (receipt : Receipt)
    (delivered : (reply, place) ∈ s.deliveries) (handed : s.Handed place) :
    (received reply event receipt).Meets (transferring config) s := by
  rw [received]
  split_ifs
  · exact ⟨by decide, by decide⟩
  · refine request_meets _ _ _ _ _ s ?_ ?_ (fun _ _ => ⟨by decide, by decide⟩) (fun _ _ _ _ => trivial)
    · intro t later _
      exact ⟨place, later.deliveries delivered, handed_later s t later place handed⟩
    · intro t r relied
      cases relied.2

theorem deliver_meets (config : Config) (s : Ledger) (reply : Str) (place : ℕ) (stored : Stored) (event : Envelope)
    (delivered : (reply, place) ∈ s.deliveries) (found : s.messages[place]? = some stored) (decoded : decode stored.data = .ok event)
    (sends : s.Sends (.sink event)) : (deliver reply event).Meets (transferring config) s := by
  intro t later
  refine ⟨sends_later s t later (.sink event) sends, fun a relied => ?_⟩
  cases a with
  | message m => cases relied.2
  | sank r =>
      cases r with
      | error f =>
          constructor
          · intro same
            injection same with same
            exact relied.2.1 same
          · intro same
            injection same with same
            exact relied.2.2 same
      | ok receipt =>
          exact received_meets config t reply place event receipt (later.deliveries delivered)
            ⟨stored, event, message_later s t later place stored found, decoded, relied.2.2⟩

theorem stored_event (s : Ledger) (consistent : s.Consistent) (stored : Stored) (member : stored ∈ s.messages) :
    ∃ event, decode stored.data = .ok event ∧ s.Sends (.sink event) := by
  obtain ⟨lease, known, _, bytes⟩ := consistent.messages stored member
  obtain ⟨event, decoded, named, text⟩ := consistent.decodes lease known
  exact ⟨event, by rw [bytes, decoded], lease, known, named, text⟩

theorem transfer_meets (config : Config) (s : Ledger) : (transfer config).Meets (transferring config) s := by
  refine request_meets _ _ _ _ _ s ?_ ?_ (fun _ _ => ⟨by decide, by decide⟩) ?_
  · intro t _ acks
    exact absurd (decide_eq_true acks) (ne_true_of_eq_false (next_no_ack config))
  · intro t r relied
    cases relied.2
  · intro t m later relied
    cases empty : isEmptyPull m with
    | true =>
        simp only [if_true]
        trivial
    | false =>
        simp only [Bool.false_eq_true, if_false]
        cases replies : m.reply with
        | none => exact ⟨by decide, by decide⟩
        | some reply =>
            cases reply with
            | nil => exact ⟨by decide, by decide⟩
            | cons u rest =>
                obtain ⟨place, stored, delivered, found, same⟩ := pulls_message config t m (u :: rest) empty replies (by simp) relied.2
                obtain ⟨event, decoded, sends⟩ := stored_event t relied.1 stored (List.mem_of_getElem? found)
                have read : decode m.data = .ok event := by rw [← same, decoded]
                simp only [read]
                exact deliver_meets config t (u :: rest) place stored event delivered found decoded sends

end N2F.Broker
