import N2F.Events.RelayContract

set_option autoImplicit false

namespace N2F

open Ecma Postgres Operation

variable {W : Type}

def Relay.ledger (s : Relay W) : Broker.Ledger := ⟨s.outbox.leases, s.stream.messages, s.stream.deliveries, s.mailbox.rows⟩

def Relaying.Valid (config : Broker.Config) (ledger : Broker.Ledger) : Relaying → Prop
  | .publishing lease run => lease ∈ ledger.leases ∧ run.Meets (Broker.publishing config lease.event) Broker.operation ledger
  | .settling lease receipt =>
      lease ∈ ledger.leases ∧ (∀ v, receipt = .ok v → ledger.Kept lease.event.id) ∧
        ∀ f, receipt = .error f → f = Broker.canceled ∨ f = Broker.unavailable
  | .returned _ | .crashed => True

structure Relay.Invariant (config : Broker.Config) (s : Relay W) : Prop where
  messages : ∀ stored ∈ s.stream.messages, ∃ lease ∈ s.outbox.leases, stored.id = lease.event.id ∧ stored.data = lease.event.bytes
  wire : ∀ c ∈ s.stream.wire, s.ledger.Sends c
  replies : (s.stream.deliveries.map Prod.fst).Nodup
  acked : ∀ place ∈ s.stream.acked, s.ledger.Handed place
  dispatches : ∀ d ∈ s.dispatches, d.Valid config s.ledger
  transfers : ∀ run ∈ s.transfers, run.Meets (Broker.transferring config) Broker.operation s.ledger
  sent : ∀ r ∈ s.outbox.rows, r.state = .sent → s.ledger.Kept r.eventId
  rows : ∀ r ∈ s.mailbox.rows, ∃ o ∈ s.outbox.rows, o.eventId = r.eventId ∧ o.envelope = r.envelope

theorem relaying_later (config : Broker.Config) (d : Relaying) (s t : Broker.Ledger) (later : s.Later t) (valid : d.Valid config s) :
    d.Valid config t := by
  cases d with
  | publishing lease run => exact ⟨later.leases valid.1, run_later _ _ run s t later valid.2⟩
  | settling lease receipt =>
      exact ⟨later.leases valid.1, fun v ok => Broker.kept_later s t later _ (valid.2.1 v ok), valid.2.2⟩
  | returned answer => trivial
  | crashed => trivial

theorem relay_onward (config : Broker.Config) (s t : Relay W) (valid : s.Invariant config) (later : s.ledger.Later t.ledger)
    (messages : ∀ stored ∈ t.stream.messages, stored ∈ s.stream.messages ∨
      ∃ lease ∈ t.outbox.leases, stored.id = lease.event.id ∧ stored.data = lease.event.bytes)
    (wire : ∀ c ∈ t.stream.wire, c ∈ s.stream.wire ∨ t.ledger.Sends c) (replies : (t.stream.deliveries.map Prod.fst).Nodup)
    (acked : ∀ place ∈ t.stream.acked, place ∈ s.stream.acked ∨ t.ledger.Handed place)
    (dispatches : ∀ d ∈ t.dispatches, d ∈ s.dispatches ∨ d.Valid config t.ledger)
    (transfers : ∀ run ∈ t.transfers, run ∈ s.transfers ∨ run.Meets (Broker.transferring config) Broker.operation t.ledger)
    (sent : ∀ r ∈ t.outbox.rows, r.state = .sent → t.ledger.Kept r.eventId)
    (rows : ∀ r ∈ t.mailbox.rows, ∃ o ∈ t.outbox.rows, o.eventId = r.eventId ∧ o.envelope = r.envelope) : t.Invariant config := by
  refine ⟨fun stored member => ?_, fun c member => ?_, replies, fun place member => ?_, fun d member => ?_, fun run member => ?_, sent, rows⟩
  · rcases messages stored member with old | new
    · obtain ⟨lease, known, same⟩ := valid.messages stored old
      exact ⟨lease, later.leases known, same⟩
    · exact new
  · rcases wire c member with old | new
    · exact Broker.sends_later _ _ later c (valid.wire c old)
    · exact new
  · rcases acked place member with old | new
    · exact Broker.handed_later _ _ later place (valid.acked place old)
    · exact new
  · rcases dispatches d member with old | new
    · exact relaying_later config d _ _ later (valid.dispatches d old)
    · exact new
  · rcases transfers run member with old | new
    · exact run_later _ _ run _ _ later (valid.transfers run old)
    · exact new

theorem ledger_consistent (s : Relay W) (clean : s.outbox.Invariant)
    (messages : ∀ stored ∈ s.stream.messages, ∃ lease ∈ s.outbox.leases, stored.id = lease.event.id ∧ stored.data = lease.event.bytes) :
    s.ledger.Consistent := by
  refine ⟨messages, fun a known b known' same => ?_, fun lease known => lease_decodes s.outbox clean lease known⟩
  obtain ⟨row, member, named, text⟩ := clean.known a known
  obtain ⟨row', member', named', text'⟩ := clean.known b known'
  obtain rfl := row_of_id OutboxRow.eventId s.outbox.rows clean.distinct row row' member member' (named.trans (same.trans named'.symm))
  rw [← text_bytes a.event, ← text_bytes b.event, ← text, ← text']

theorem outbox_present (s t : Outbox) (a : OutboxAction) (moved : Moved s a t) :
    ∀ r ∈ s.rows, ∃ r' ∈ t.rows, r'.eventId = r.eventId ∧ r'.envelope = r.envelope := by
  intro r member
  have swept (clock : Str → ℕ) : ∃ r' ∈ sweepAll clock s.rows, r'.eventId = r.eventId ∧ r'.envelope = r.envelope :=
    map_known OutboxRow.eventId OutboxRow.envelope _ _ (fun r => sweep_id (clock r.eventId) r) (fun r => sweep_envelope (clock r.eventId) r)
      _ _ ⟨r, member, rfl, rfl⟩
  cases moved with
  | idle now later => exact ⟨r, member, rfl, rfl⟩
  | enqueue raw event writtenAt decoded absent later => exact ⟨r, List.mem_append_left _ member, rfl, rfl⟩
  | swept token locked sweepAt selectAt leaseAt times => exact swept sweepAt
  | claim token locked sweepAt selectAt leaseAt chosen event times fresh present ready decoded =>
      exact map_known OutboxRow.eventId OutboxRow.envelope _ _ (take_id token chosen.eventId leaseAt)
        (take_envelope token chosen.eventId leaseAt) _ _ (swept sweepAt)
  | finish success lease checkAt delayAt known later ordered row present owned =>
      have kept (r : OutboxRow) : (if settles lease checkAt r then settle success delayAt r else r).eventId = r.eventId := by
        split_ifs <;> rfl
      have written (r : OutboxRow) : (if settles lease checkAt r then settle success delayAt r else r).envelope = r.envelope := by
        split_ifs <;> rfl
      exact map_known OutboxRow.eventId OutboxRow.envelope _ _ kept written _ _ ⟨r, member, rfl, rfl⟩

theorem sent_holds (P : Str → Prop) (s t : Outbox) (a : OutboxAction) (clean : s.Invariant) (moved : Moved s a t)
    (before : ∀ r ∈ s.rows, r.state = .sent → P r.eventId)
    (acked : ∀ lease checkAt delayAt, a = .finish true lease checkAt delayAt → P lease.event.id) :
    ∀ r ∈ t.rows, r.state = .sent → P r.eventId := by
  intro r' member sent
  obtain ⟨r, old, ⟨named, _⟩, cause⟩ := (moved_ends s t a clean moved r' member).2 sent
  rw [← named]
  rcases cause with already | ⟨lease, m, checkAt, delayAt, ⟨_, _, _, newest⟩, rfl, _⟩
  · exact before r old already
  · rw [← (latest_mem s.leases r.eventId lease newest).2]
    exact acked lease checkAt delayAt rfl

inductive Relay.Moves (config : Broker.Config) (s : Relay W) : RelayAction W → Relay W → Prop where
  | enqueue (raw : ByteArray) (writtenAt : ℕ) (o : Outbox) (stepped : s.outbox.step (.enqueue raw writtenAt) = some o) :
      Moves config s (.enqueue raw writtenAt) { s with outbox := o }
  | answered (a : RelayAction W) (dispatches : List Relaying)
      (each : ∀ d ∈ dispatches, d ∈ s.dispatches ∨ d = .crashed ∨ ∃ answer, d = .returned answer) :
      Moves config s a { s with dispatches := dispatches }
  | claimed (token : Str) (locked : List Str) (sweepAt selectAt : Str → ℕ) (leaseAt : ℕ) (outcome : Outcome) (o : Outbox)
      (stepped : s.outbox.step (.claim token locked sweepAt selectAt leaseAt) = some o) :
      Moves config s (.claim token locked sweepAt selectAt leaseAt outcome)
        { s with
          outbox := o
          dispatches := s.dispatches ++
            [relayClaimed config (outcome.answer (claim token locked sweepAt selectAt leaseAt s.outbox.rows).1)] }
  | publication (call : ℕ) (e : Event Broker.Answer Broker.Thrown) (lease : Lease) (run run' : Publication)
      (found : s.dispatches[call]? = some (.publishing lease run)) (admits : s.stream.admits config run e = true)
      (stepped : Operation.step Broker.operation true run e = some run') :
      Moves config s (.publication call e)
        { s with
          stream := s.stream.sends (run.asks Broker.operation e)
          dispatches := s.dispatches.set call (.publishing lease run') }
  | published (call : ℕ) (lease : Lease) (run : Publication) (receipt : Result Receipt)
      (found : s.dispatches[call]? = some (.publishing lease run)) (concluded : run.point = .concluded receipt) :
      Moves config s (.published call) { s with dispatches := s.dispatches.set call (.settling lease receipt) }
  | settled (call checkAt delayAt : ℕ) (outcome : Outcome) (lease : Lease) (receipt : Result Receipt) (o : Outbox) (answer : Result Bool)
      (found : s.dispatches[call]? = some (.settling lease receipt))
      (stepped : s.outbox.step (.finish (acknowledges lease receipt) lease checkAt delayAt) = some o) :
      Moves config s (.settle call checkAt delayAt outcome)
        { s with outbox := o, dispatches := s.dispatches.set call (.returned answer) }
  | stored (subject : Str) (data : ByteArray) (id expected : Str)
      (sent : Broker.Call.request subject data (some (id, expected)) ∈ s.stream.wire) :
      Moves config s (.server (.store (.request subject data (some (id, expected)))))
        { s with stream := { s.stream with messages := s.stream.messages ++ [⟨id, data⟩] } }
  | delivered (place : ℕ) (reply : Str) (fresh : reply ∉ s.stream.deliveries.map Prod.fst) :
      Moves config s (.server (.deliver place reply))
        { s with stream := { s.stream with deliveries := s.stream.deliveries ++ [(reply, place)] } }
  | acked (reply : Str) (place : ℕ) (sent : Broker.Call.request reply Broker.ackData none ∈ s.stream.wire)
      (found : (reply, place) ∈ s.stream.deliveries) :
      Moves config s (.server (.acknowledge (.request reply Broker.ackData none)))
        { s with stream := { s.stream with acked := s.stream.acked ++ [place] } }
  | pull : Moves config s .pull { s with transfers := s.transfers ++ [begin (Broker.transfer config)] }
  | transfer (k : ℕ) (e : Event Broker.Answer Broker.Thrown) (run run' : Transfer) (found : s.transfers[k]? = some run)
      (admits : s.stream.admits config run e = true) (stepped : Operation.step Broker.operation true run e = some run') :
      Moves config s (.transfer k e)
        { s with stream := s.stream.sends (run.asks Broker.operation e), transfers := s.transfers.set k run' }
  | sink (k now : ℕ) (outcome : Outcome) (run run' : Transfer) (event : Envelope) (next : Broker.Answer → Broker.Task Bool)
      (found : s.transfers[k]? = some run) (here : run.point = .awaiting (.sink event) next) (plain : outcome.isPlain = true)
      (stepped : Operation.step Broker.operation true run (.answer (.ok (.sank (s.mailbox.publish event now outcome).1))) = some run') :
      Moves config s (.sink k now outcome)
        { s with mailbox := (s.mailbox.publish event now outcome).2, transfers := s.transfers.set k run' }
  | consume (a : MailboxAction W) (m : Mailbox W) (consumes : a.isPublish = false) (stepped : s.mailbox.step a = some m) :
      Moves config s (.consume a) { s with mailbox := m }

theorem appended_returned (dispatches : List Relaying) (answer : Result Bool) :
    ∀ d ∈ dispatches ++ [.returned answer], d ∈ dispatches ∨ d = .crashed ∨ ∃ answer, d = .returned answer := by
  intro d member
  rcases List.mem_append.mp member with old | new
  · exact .inl old
  · exact .inr (.inr ⟨answer, List.mem_singleton.mp new⟩)

theorem unapplied_claim (config : Broker.Config) (outcome : Outcome) (body : Result (Option Lease)) (unapplied : outcome.applied = false) :
    ∃ answer, relayClaimed config (outcome.answer body) = .returned answer := by
  cases claimed : outcome.answer body with
  | error e => exact ⟨_, rfl⟩
  | ok lease =>
      have applied := (answer_ok outcome _ _ claimed).2
      rw [unapplied] at applied
      cases applied

theorem relay_transact (s t : Relay W) (a : OutboxAction) (outcome : Outcome) (dispatches : List Relaying)
    (moved : s.transact a outcome dispatches = some t) :
    (∃ o, s.outbox.step a = some o ∧ t = { s with outbox := o, dispatches := dispatches }) ∨
      outcome.applied = false ∧ t = { s with dispatches := dispatches } := by
  rw [Relay.transact] at moved
  split_ifs at moved with applied
  · obtain ⟨o, stepped, rfl⟩ := Option.map_eq_some_iff.mp moved
    exact .inl ⟨o, stepped, rfl⟩
  · obtain rfl := Option.some.inj moved
    exact .inr ⟨by simpa using applied, rfl⟩

theorem server_moves (config : Broker.Config) (s : Relay W) (stream : Broker.Stream) (a : Broker.StreamAction)
    (moved : s.stream.step config a = some stream) : s.Moves config (.server a) { s with stream := stream } := by
  cases a with
  | store c =>
      cases c with
      | sink event => cases moved
      | request subject data headers =>
          cases headers with
          | none => cases moved
          | some pair =>
              obtain ⟨id, expected⟩ := pair
              obtain ⟨⟨sent, _⟩, same⟩ := Option.ite_none_right_eq_some.mp moved
              obtain rfl := Option.some.inj same
              exact .stored subject data id expected sent
  | deliver place reply =>
      obtain ⟨⟨_, fresh⟩, same⟩ := Option.ite_none_right_eq_some.mp moved
      obtain rfl := Option.some.inj same
      refine .delivered place reply fun member => ?_
      obtain ⟨d, inside, rfl⟩ := List.mem_map.mp member
      simpa using List.all_eq_true.mp fresh d inside
  | acknowledge c =>
      cases c with
      | sink event => cases moved
      | request reply data headers =>
          cases headers with
          | some pair => cases moved
          | none =>
              obtain ⟨⟨sent, rfl⟩, found⟩ := Option.ite_none_right_eq_some.mp moved
              obtain ⟨⟨reply', place⟩, here, rfl⟩ := Option.map_eq_some_iff.mp found
              obtain rfl : reply' = reply := by simpa using List.find?_some here
              exact .acked reply' place sent (List.mem_of_find?_eq_some here)

theorem relay_moves (config : Broker.Config) (s t : Relay W) (a : RelayAction W) (moved : s.step config a = some t) :
    s.Moves config a t := by
  cases a with
  | enqueue raw writtenAt =>
      obtain ⟨o, stepped, rfl⟩ := Option.map_eq_some_iff.mp moved
      exact .enqueue raw writtenAt o stepped
  | cancel =>
      obtain rfl := Option.some.inj moved
      exact .answered _ _ (appended_returned _ _)
  | claim token locked sweepAt selectAt leaseAt outcome =>
      rcases relay_transact s t _ outcome _ moved with ⟨o, stepped, rfl⟩ | ⟨unapplied, rfl⟩
      · exact .claimed token locked sweepAt selectAt leaseAt outcome o stepped
      · obtain ⟨answer, same⟩ := unapplied_claim config outcome (claim token locked sweepAt selectAt leaseAt s.outbox.rows).1 unapplied
        rw [same]
        exact .answered _ _ (appended_returned _ _)
  | publication call e =>
      simp only [Relay.step] at moved
      split at moved
      · next lease run found =>
          obtain ⟨admits, ran⟩ := Option.ite_none_right_eq_some.mp moved
          obtain ⟨run', stepped, rfl⟩ := Option.map_eq_some_iff.mp ran
          exact .publication call e lease run run' found admits stepped
      · cases moved
  | published call =>
      simp only [Relay.step] at moved
      split at moved
      · next lease run found =>
          split at moved
          · next receipt concluded =>
              obtain rfl := Option.some.inj moved
              exact .published call lease run receipt found concluded
          · cases moved
      · cases moved
  | settle call checkAt delayAt outcome =>
      simp only [Relay.step] at moved
      split at moved
      · next lease receipt found =>
          rcases relay_transact s t _ outcome _ moved with ⟨o, stepped, rfl⟩ | ⟨_, rfl⟩
          · exact .settled call checkAt delayAt outcome lease receipt o _ found stepped
          · refine .answered _ _ fun d member => ?_
            rcases List.mem_or_eq_of_mem_set member with old | rfl
            · exact .inl old
            · exact .inr (.inr ⟨_, rfl⟩)
      · cases moved
  | crash call =>
      obtain rfl := Option.some.inj moved
      refine .answered _ _ fun d member => ?_
      rcases List.mem_or_eq_of_mem_set member with old | rfl
      · exact .inl old
      · exact .inr (.inl rfl)
  | server a =>
      obtain ⟨stream, stepped, rfl⟩ := Option.map_eq_some_iff.mp moved
      exact server_moves config s stream a stepped
  | pull =>
      obtain rfl := Option.some.inj moved
      exact .pull
  | transfer k e =>
      simp only [Relay.step] at moved
      split at moved
      · next run found =>
          obtain ⟨admits, ran⟩ := Option.ite_none_right_eq_some.mp moved
          obtain ⟨run', stepped, rfl⟩ := Option.map_eq_some_iff.mp ran
          exact .transfer k e run run' found admits stepped
      · cases moved
  | sink k now outcome =>
      simp only [Relay.step] at moved
      split at moved
      · next run found =>
          split at moved
          · next event next here =>
              obtain ⟨plain, ran⟩ := Option.ite_none_right_eq_some.mp moved
              obtain ⟨run', stepped, rfl⟩ := Option.map_eq_some_iff.mp ran
              exact .sink k now outcome run run' event next found here plain stepped
          · cases moved
      · cases moved
  | consume a =>
      simp only [Relay.step] at moved
      split_ifs at moved with publishes
      obtain ⟨m, stepped, rfl⟩ := Option.map_eq_some_iff.mp moved
      exact .consume a m (by simpa using publishes) stepped

end N2F
