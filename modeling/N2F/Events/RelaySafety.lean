import N2F.Events.RelayInvariant

set_option autoImplicit false

namespace N2F

open Ecma Postgres Operation

variable {W : Type}

theorem append_cases {α : Type} (P : α → Prop) (old : List α) (new : α) (holds : P new) : ∀ x ∈ old ++ [new], x ∈ old ∨ P x := by
  intro x member
  rcases List.mem_append.mp member with before | now
  · exact .inl before
  · rw [List.mem_singleton.mp now]
    exact .inr holds

theorem set_cases {α : Type} (P : α → Prop) (old : List α) (i : ℕ) (new : α) (holds : P new) : ∀ x ∈ old.set i new, x ∈ old ∨ P x := by
  intro x member
  rcases List.mem_or_eq_of_mem_set member with before | rfl
  · exact .inl before
  · exact .inr holds

theorem sent_wire {α : Type} (k : Reliance Broker.Ledger Broker.Call Broker.Answer Broker.Thrown α)
    (run : Run Broker.Call Broker.Answer Broker.Thrown Failure α) (e : Event Broker.Answer Broker.Thrown) (stream : Broker.Stream)
    (ledger : Broker.Ledger) (owes : ∀ c, k.calls ledger c → ledger.Sends c) (meets : run.Meets k Broker.operation ledger) :
    ∀ c ∈ (stream.sends (run.asks Broker.operation e)).wire, c ∈ stream.wire ∨ ledger.Sends c := by
  intro c member
  rcases List.mem_append.mp member with old | new
  · exact .inl old
  · exact .inr (owes c (asks_meets k Broker.operation run e ledger c meets (Option.mem_toList.mp (List.mem_of_mem_filter new))))

theorem admitted_publication (config : Broker.Config) (lease : Lease) (s : Relay W) (run run' : Publication)
    (e : Event Broker.Answer Broker.Thrown) (consistent : s.ledger.Consistent) (admits : s.stream.admits config run e = true)
    (meets : run.Meets (Broker.publishing config lease.event) Broker.operation s.ledger)
    (stepped : Operation.step Broker.operation true run e = some run') :
    run'.Meets (Broker.publishing config lease.event) Broker.operation s.ledger := by
  refine step_meets _ _ true run run' e s.ledger (.inl rfl) ?_ ?_ meets stepped
  · rintro c next a here rfl
    simp only [Broker.Stream.admits, here] at admits
    exact ⟨consistent, admits⟩
  · rintro x rfl
    exact .inl (by simpa [Broker.Stream.admits] using admits)

theorem admitted_transfer (config : Broker.Config) (s : Relay W) (run run' : Transfer) (e : Event Broker.Answer Broker.Thrown)
    (consistent : s.ledger.Consistent) (admits : s.stream.admits config run e = true)
    (meets : run.Meets (Broker.transferring config) Broker.operation s.ledger)
    (stepped : Operation.step Broker.operation true run e = some run') :
    run'.Meets (Broker.transferring config) Broker.operation s.ledger := by
  refine step_meets _ _ true run run' e s.ledger ⟨by decide, by decide⟩ ?_ ?_ meets stepped
  · rintro c next a here rfl
    simp only [Broker.Stream.admits, here] at admits
    refine ⟨consistent, ?_⟩
    cases c with
    | sink event => cases admits
    | request subject data headers => exact admits
  · rintro x rfl
    obtain rfl : x = .other := by simpa [Broker.Stream.admits] using admits
    exact ⟨by decide, by decide⟩

theorem publish_refused (event : Envelope) (now : ℕ) (rows : List MailboxRow) (e : Failure)
    (single : ∀ r ∈ rows, r.eventId = event.id → r.envelope = event.text) (refused : (publish event now rows).1 = .error e) :
    e = databaseFailed := by
  cases fits : envelopeCheck event.text with
  | false =>
      rw [publish, insert_refused mailbox event now rows fits] at refused
      injection refused with same
      exact same.symm
  | true =>
      cases found : rows.find? (fun r => mailbox.eventId r = event.id) with
      | none => simp [publish, insert, fits, found] at refused
      | some old =>
          have named : mailbox.eventId old = event.id := by simpa using List.find?_some found
          have text : mailbox.envelope old = event.text := single old (List.mem_of_find?_eq_some found) named
          simp [publish, insert, fits, found, text, fits_same event fits] at refused

theorem publish_sinks (s : Mailbox W) (event : Envelope) (now : ℕ) (outcome : Outcome) (leases : List Lease)
    (messages : List Broker.Stored) (deliveries : List (Str × ℕ)) (plain : outcome.isPlain = true)
    (single : ∀ r ∈ s.rows, r.eventId = event.id → r.envelope = event.text) :
    (Broker.Ledger.mk leases messages deliveries (s.publish event now outcome).2.rows).Sinks event (s.publish event now outcome).1 := by
  cases answered : (s.publish event now outcome).1 with
  | ok receipt =>
      obtain ⟨body, _⟩ := answer_ok outcome _ receipt answered
      refine ⟨?_, publish_delivered s event now outcome receipt answered⟩
      rw [publish] at body
      split at body
      · exact (Except.ok.inj body).symm
      · cases body
  | error e =>
      have own : e ∈ transactionFailures := by
        cases outcome with
        | failed f =>
            obtain rfl : f = e := Except.error.inj answered
            simpa [Outcome.isPlain] using plain
        | committed =>
            rw [publish_refused event now s.rows e single answered]
            decide
        | uncertain applied =>
            cases body : (publish event now s.rows).1 with
            | ok receipt =>
                simp only [Mailbox.publish, body, Outcome.answer] at answered
                rw [← Except.error.inj answered]
                decide
            | error f =>
                simp only [Mailbox.publish, body, Outcome.answer] at answered
                rw [← Except.error.inj answered, publish_refused event now s.rows f single body]
                decide
      have apart : ∀ f ∈ transactionFailures, f ≠ Broker.idReused ∧ f ≠ invalidEnvelope := by decide
      exact apart e own

theorem sends_row (s : Relay W) (clean : s.outbox.Invariant) (event : Envelope) (sends : s.ledger.Sends (.sink event)) :
    ∃ o ∈ s.outbox.rows, o.eventId = event.id ∧ o.envelope = event.text := by
  obtain ⟨lease, known, named, text⟩ := sends
  obtain ⟨o, member, rowId, written⟩ := clean.known lease known
  exact ⟨o, member, rowId.trans named.symm, written.trans text.symm⟩

theorem mailbox_single (config : Broker.Config) (s : Relay W) (clean : s.outbox.Invariant) (valid : s.Invariant config) (event : Envelope)
    (sends : s.ledger.Sends (.sink event)) : ∀ r ∈ s.mailbox.rows, r.eventId = event.id → r.envelope = event.text := by
  intro r member named
  obtain ⟨o, inside, rowId, written⟩ := valid.rows r member
  obtain ⟨o', inside', rowId', written'⟩ := sends_row s clean event sends
  obtain rfl := row_of_id OutboxRow.eventId s.outbox.rows clean.distinct o o' inside inside' (rowId.trans (named.trans rowId'.symm))
  exact written.symm.trans written'

theorem publish_rows_from (s : Mailbox W) (event : Envelope) (now : ℕ) (outcome : Outcome) :
    ∀ r ∈ (s.publish event now outcome).2.rows, r ∈ s.rows ∨ r.eventId = event.id ∧ r.envelope = event.text := by
  intro r member
  simp only [Mailbox.publish, publish_rows] at member
  split_ifs at member
  · rcases insert_rows mailbox event now s.rows with same | ⟨_, added⟩
    · exact .inl (same ▸ member)
    · rw [added] at member
      rcases List.mem_append.mp member with old | new
      · exact .inl old
      · rw [List.mem_singleton.mp new]
        exact .inr ⟨rfl, rfl⟩
  · exact .inl member

theorem consumer_rows (s t : Mailbox W) (a : MailboxAction W) (consumes : a.isPublish = false) (moved : MailboxMoved s a t) :
    ∀ r ∈ t.rows, ∃ old ∈ s.rows, old.eventId = r.eventId ∧ old.envelope = r.envelope := by
  intro r member
  cases moved with
  | published raw event now outcome decoded => cases consumes
  | committed id outcome c rejected state availableAt answer found phase =>
      obtain ⟨old, inside, rfl⟩ := List.mem_map.mp member
      exact ⟨old, inside, (update_id _ _ _ old).symm, (update_envelope _ _ _ old).symm⟩
  | answered | selected | executed | ended => exact ⟨r, member, rfl, rfl⟩

theorem outbox_later (s : Relay W) (o : Outbox) (a : OutboxAction) (stepped : s.outbox.step a = some o) (dispatches : List Relaying) :
    s.ledger.Later ({ s with outbox := o, dispatches := dispatches } : Relay W).ledger :=
  ⟨moved_leases s.outbox o a (step_moved s.outbox o a stepped), List.prefix_refl _, List.Subset.refl _, present_refl _⟩

theorem outbox_step_keeps (config : Broker.Config) (s : Relay W) (o : Outbox) (a : OutboxAction) (dispatches : List Relaying)
    (clean : s.outbox.Invariant) (valid : s.Invariant config) (stepped : s.outbox.step a = some o)
    (acked : ∀ lease checkAt delayAt, a = .finish true lease checkAt delayAt → s.ledger.Kept lease.event.id)
    (each : ∀ d ∈ dispatches, d ∈ s.dispatches ∨ d.Valid config ({ s with outbox := o, dispatches := dispatches } : Relay W).ledger) :
    ({ s with outbox := o, dispatches := dispatches } : Relay W).Invariant config := by
  have moved := step_moved s.outbox o a stepped
  refine relay_onward config s _ valid (outbox_later s o a stepped dispatches) (fun _ member => .inr ?_) (fun _ member => .inl member)
    valid.replies (fun _ member => .inl member) each (fun _ member => .inl member) ?_ fun r member => ?_
  · obtain ⟨lease, known, same⟩ := valid.messages _ member
    exact ⟨lease, moved_leases s.outbox o a moved known, same⟩
  · exact sent_holds (fun id => s.ledger.Kept id) s.outbox o a clean moved valid.sent acked
  · obtain ⟨row, inside, named, written⟩ := valid.rows r member
    obtain ⟨row', inside', named', written'⟩ := outbox_present s.outbox o a moved row inside
    exact ⟨row', inside', named'.trans named, written'.trans written⟩

theorem relay_step_keeps (config : Broker.Config) (s : Relay W) (stream : Broker.Stream) (dispatches : List Relaying)
    (transfers : List Transfer) (valid : s.Invariant config) (messages : s.stream.messages <+: stream.messages)
    (deliveries : s.stream.deliveries ⊆ stream.deliveries)
    (from_leases : ∀ stored ∈ stream.messages, stored ∈ s.stream.messages ∨
      ∃ lease ∈ s.outbox.leases, stored.id = lease.event.id ∧ stored.data = lease.event.bytes)
    (wire : ∀ c ∈ stream.wire, c ∈ s.stream.wire ∨ s.ledger.Sends c) (replies : (stream.deliveries.map Prod.fst).Nodup)
    (acked : ∀ place ∈ stream.acked, place ∈ s.stream.acked ∨ s.ledger.Handed place)
    (each : ∀ d ∈ dispatches, d ∈ s.dispatches ∨ d.Valid config s.ledger)
    (runs : ∀ run ∈ transfers, run ∈ s.transfers ∨ run.Meets (Broker.transferring config) Broker.operation s.ledger) :
    ({ s with stream := stream, dispatches := dispatches, transfers := transfers } : Relay W).Invariant config := by
  have later : s.ledger.Later ({ s with stream := stream, dispatches := dispatches, transfers := transfers } : Relay W).ledger :=
    ⟨List.Subset.refl _, messages, deliveries, present_refl _⟩
  refine relay_onward config s _ valid later from_leases (fun c member => ?_) replies (fun place member => ?_) (fun d member => ?_)
    (fun run member => ?_) (fun r member sent => Broker.kept_later _ _ later _ (valid.sent r member sent)) valid.rows
  · exact (wire c member).imp_right (Broker.sends_later _ _ later c)
  · exact (acked place member).imp_right (Broker.handed_later _ _ later place)
  · exact (each d member).imp_right (relaying_later config d _ _ later)
  · exact (runs run member).imp_right (run_later _ _ run _ _ later)

theorem dispatches_step_keeps (config : Broker.Config) (s : Relay W) (dispatches : List Relaying) (valid : s.Invariant config)
    (each : ∀ d ∈ dispatches, d ∈ s.dispatches ∨ d.Valid config s.ledger) :
    ({ s with dispatches := dispatches } : Relay W).Invariant config :=
  relay_step_keeps config s s.stream dispatches s.transfers valid (List.prefix_refl _) (List.Subset.refl _) (fun _ member => .inl member)
    (fun _ member => .inl member) valid.replies (fun _ member => .inl member) each (fun _ member => .inl member)

theorem concluded_valid (config : Broker.Config) (ledger : Broker.Ledger) (lease : Lease) (run : Publication) (receipt : Result Receipt)
    (known : lease ∈ ledger.leases) (meets : run.Meets (Broker.publishing config lease.event) Broker.operation ledger)
    (concluded : run.point = .concluded receipt) : (Relaying.settling lease receipt).Valid config ledger := by
  rw [Run.Meets, concluded] at meets
  refine ⟨known, fun v ok => ?_, fun f failed => ?_⟩
  · subst ok
    exact meets.2
  · subst failed
    obtain ⟨aborted, e, rfl, thrown⟩ := meets
    cases aborted with
    | true => exact .inl rfl
    | false =>
        right
        rcases thrown with rfl | rfl <;> rfl

theorem claimed_valid (config : Broker.Config) (s : Relay W) (o : Outbox) (token : Str) (locked : List Str)
    (sweepAt selectAt : Str → ℕ) (leaseAt : ℕ) (outcome : Outcome) (ledger : Broker.Ledger) (leases : o.leases ⊆ ledger.leases)
    (moved : s.outbox.step (.claim token locked sweepAt selectAt leaseAt) = some o) :
    (relayClaimed config (outcome.answer (claim token locked sweepAt selectAt leaseAt s.outbox.rows).1)).Valid config ledger := by
  cases claimed : outcome.answer (claim token locked sweepAt selectAt leaseAt s.outbox.rows).1 with
  | error e => trivial
  | ok lease =>
      cases lease with
      | none => trivial
      | some lease =>
          have known := leases (claimed_lease s.outbox o token locked sweepAt selectAt leaseAt lease moved (answer_ok outcome _ _ claimed).1)
          exact ⟨known, begin_meets _ _ _ _ (Broker.publish_meets config ledger lease known)⟩

theorem awaited_sends (config : Broker.Config) (ledger : Broker.Ledger) (run : Transfer) (event : Envelope)
    (next : Broker.Answer → Broker.Task Bool) (here : run.point = .awaiting (.sink event) next)
    (meets : run.Meets (Broker.transferring config) Broker.operation ledger) : ledger.Sends (.sink event) := by
  rw [Run.Meets, here] at meets
  exact (meets ledger (Broker.later_refl ledger)).1

theorem sink_keeps (config : Broker.Config) (s : Relay W) (k now : ℕ) (outcome : Outcome) (run run' : Transfer) (event : Envelope)
    (next : Broker.Answer → Broker.Task Bool) (clean : s.outbox.Invariant) (valid : s.Invariant config)
    (found : s.transfers[k]? = some run) (here : run.point = .awaiting (.sink event) next) (plain : outcome.isPlain = true)
    (stepped : Operation.step Broker.operation true run (.answer (.ok (.sank (s.mailbox.publish event now outcome).1))) = some run') :
    ({ s with mailbox := (s.mailbox.publish event now outcome).2, transfers := s.transfers.set k run' } : Relay W).Invariant config := by
  have meets := valid.transfers run (List.mem_of_getElem? found)
  have sends := awaited_sends config s.ledger run event next here meets
  have single := mailbox_single config s clean valid event sends
  obtain ⟨o, inside, rowId, written⟩ := sends_row s clean event sends
  have later : s.ledger.Later
      ({ s with mailbox := (s.mailbox.publish event now outcome).2, transfers := s.transfers.set k run' } : Relay W).ledger :=
    ⟨List.Subset.refl _, List.prefix_refl _, List.Subset.refl _, publish_present s.mailbox event now outcome⟩
  have consistent := ledger_consistent
    ({ s with mailbox := (s.mailbox.publish event now outcome).2, transfers := s.transfers.set k run' } : Relay W) clean valid.messages
  have meets' : run'.Meets (Broker.transferring config) Broker.operation
      ({ s with mailbox := (s.mailbox.publish event now outcome).2, transfers := s.transfers.set k run' } : Relay W).ledger := by
    refine step_meets _ _ true run run' _ _ ⟨by decide, by decide⟩ ?_ (fun x same => by cases same) (run_later _ _ run _ _ later meets) stepped
    intro c next' a here' same
    obtain rfl := Except.ok.inj (Event.answer.inj same)
    injection here.symm.trans here' with call
    subst call
    exact ⟨consistent, publish_sinks s.mailbox event now outcome _ _ _ plain single⟩
  refine relay_onward config s _ valid later (fun _ member => .inl member) (fun _ member => .inl member) valid.replies
    (fun _ member => .inl member) (fun _ member => .inl member) (set_cases _ _ k run' meets')
    (fun r member sent => Broker.kept_later _ _ later _ (valid.sent r member sent)) fun r member => ?_
  rcases publish_rows_from s.mailbox event now outcome r member with old | ⟨named, text⟩
  · exact valid.rows r old
  · exact ⟨o, inside, rowId.trans named.symm, written.trans text.symm⟩

theorem consume_keeps (config : Broker.Config) (s : Relay W) (a : MailboxAction W) (m : Mailbox W) (valid : s.Invariant config)
    (consumes : a.isPublish = false) (stepped : s.mailbox.step a = some m) : ({ s with mailbox := m } : Relay W).Invariant config := by
  have moved := mailbox_step_moved s.mailbox m a stepped
  have later : s.ledger.Later ({ s with mailbox := m } : Relay W).ledger :=
    ⟨List.Subset.refl _, List.prefix_refl _, List.Subset.refl _, mailbox_moved_present s.mailbox m a moved⟩
  refine relay_onward config s _ valid later (fun _ member => .inl member) (fun _ member => .inl member) valid.replies
    (fun _ member => .inl member) (fun _ member => .inl member) (fun _ member => .inl member)
    (fun r member sent => Broker.kept_later _ _ later _ (valid.sent r member sent)) fun r member => ?_
  obtain ⟨old, inside, named, written⟩ := consumer_rows s.mailbox m a consumes moved r member
  obtain ⟨o, present, rowId, text⟩ := valid.rows old inside
  exact ⟨o, present, rowId.trans named, text.trans written⟩

theorem relay_keeps (config : Broker.Config) (s t : Relay W) (a : RelayAction W) (clean : s.outbox.Invariant)
    (valid : s.Invariant config) (moved : s.step config a = some t) : t.Invariant config := by
  have consistent := ledger_consistent s clean valid.messages
  cases relay_moves config s t a moved with
  | enqueue raw writtenAt o stepped =>
      exact outbox_step_keeps config s o _ s.dispatches clean valid stepped (fun _ _ _ same => nomatch same) fun _ member => .inl member
  | answered _ dispatches each =>
      refine dispatches_step_keeps config s dispatches valid fun d member => ?_
      rcases each d member with old | rfl | ⟨answer, rfl⟩
      · exact .inl old
      · exact .inr trivial
      · exact .inr trivial
  | claimed token locked sweepAt selectAt leaseAt outcome o stepped =>
      exact outbox_step_keeps config s o _ _ clean valid stepped (fun _ _ _ same => nomatch same)
        (append_cases _ _ _ (claimed_valid config s o token locked sweepAt selectAt leaseAt outcome _ (List.Subset.refl _) stepped))
  | publication call e lease run run' found admits stepped =>
      obtain ⟨known, meets⟩ := valid.dispatches _ (List.mem_of_getElem? found)
      have next := admitted_publication config lease s run run' e consistent admits meets stepped
      exact relay_step_keeps config s _ _ s.transfers valid (List.prefix_refl _) (List.Subset.refl _) (fun _ member => .inl member)
        (sent_wire _ run e s.stream s.ledger (fun _ owed => owed) meets) valid.replies (fun _ member => .inl member)
        (set_cases _ _ call _ ⟨known, next⟩) fun _ member => .inl member
  | published call lease run receipt found concluded =>
      obtain ⟨known, meets⟩ := valid.dispatches _ (List.mem_of_getElem? found)
      exact dispatches_step_keeps config s _ valid (set_cases _ _ call _ (concluded_valid config s.ledger lease run receipt known meets concluded))
  | settled call checkAt delayAt outcome lease receipt o answer found stepped =>
      obtain ⟨_, kept, _⟩ := valid.dispatches _ (List.mem_of_getElem? found)
      refine outbox_step_keeps config s o _ _ clean valid stepped ?_ (set_cases _ _ call _ trivial)
      intro lease' _ _ same
      injection same with success same
      subst same
      cases receipt with
      | ok v => exact kept v rfl
      | error e => cases success
  | stored subject data id expected sent =>
      refine relay_step_keeps config s _ s.dispatches s.transfers valid (List.prefix_append _ _) (List.Subset.refl _)
        (append_cases _ _ _ (valid.wire _ sent)) (fun _ member => .inl member) valid.replies (fun _ member => .inl member)
        (fun _ member => .inl member) fun _ member => .inl member
  | delivered place reply fresh =>
      refine relay_step_keeps config s _ s.dispatches s.transfers valid (List.prefix_refl _) (List.subset_append_left _ _)
        (fun _ member => .inl member) (fun _ member => .inl member) ?_ (fun _ member => .inl member) (fun _ member => .inl member)
        fun _ member => .inl member
      have joined := List.Nodup.concat fresh valid.replies
      rw [List.concat_eq_append] at joined
      simpa using joined
  | acked reply place sent found =>
      obtain ⟨place', delivered, handed⟩ := valid.wire _ sent rfl
      have same : ((reply, place) : Str × ℕ) = (reply, place') := List.inj_on_of_nodup_map valid.replies found delivered rfl
      obtain rfl := (Prod.mk.inj same).2
      exact relay_step_keeps config s _ s.dispatches s.transfers valid (List.prefix_refl _) (List.Subset.refl _) (fun _ member => .inl member)
        (fun _ member => .inl member) valid.replies (append_cases _ _ _ handed) (fun _ member => .inl member) fun _ member => .inl member
  | pull =>
      exact relay_step_keeps config s s.stream s.dispatches _ valid (List.prefix_refl _) (List.Subset.refl _) (fun _ member => .inl member)
        (fun _ member => .inl member) valid.replies (fun _ member => .inl member) (fun _ member => .inl member)
        (append_cases _ _ _ (begin_meets _ _ _ _ (Broker.transfer_meets config s.ledger)))
  | transfer k e run run' found admits stepped =>
      have meets := valid.transfers run (List.mem_of_getElem? found)
      have next := admitted_transfer config s run run' e consistent admits meets stepped
      exact relay_step_keeps config s _ s.dispatches _ valid (List.prefix_refl _) (List.Subset.refl _) (fun _ member => .inl member)
        (sent_wire _ run e s.stream s.ledger (fun _ owed => owed) meets) valid.replies (fun _ member => .inl member)
        (fun _ member => .inl member) (set_cases _ _ k _ next)
  | sink k now outcome run run' event next found here plain stepped =>
      exact sink_keeps config s k now outcome run run' event next clean valid found here plain stepped
  | consume b m consumes stepped => exact consume_keeps config s b m valid consumes stepped

theorem relay_runs_outbox (config : Broker.Config) : outboxMachine.Simulates (relay W config) Relay.outbox := by
  refine ⟨rfl, fun s t a _ moved => ?_⟩
  cases relay_moves config s t a moved with
  | enqueue raw writtenAt _ stepped => exact .inr ⟨.enqueue raw writtenAt, stepped⟩
  | claimed token locked sweepAt selectAt leaseAt _ _ stepped => exact .inr ⟨.claim token locked sweepAt selectAt leaseAt, stepped⟩
  | settled _ checkAt delayAt _ lease receipt _ _ _ stepped => exact .inr ⟨.finish (acknowledges lease receipt) lease checkAt delayAt, stepped⟩
  | _ => exact .inl rfl

theorem relay_outbox (config : Broker.Config) (s : Relay W) (reached : (relay W config).Reachable s) : s.outbox.Invariant :=
  outbox_invariant s.outbox (outboxMachine.simulates_reachable (relay W config) Relay.outbox (relay_runs_outbox config) s reached)

theorem relay_starts (config : Broker.Config) : (relay W config).start.Invariant config := by
  refine ⟨?_, ?_, List.nodup_nil, ?_, ?_, ?_, ?_, ?_⟩ <;> simp [relay, outboxMachine, mailboxMachine]

theorem relay_invariant (config : Broker.Config) (s : Relay W) (reached : (relay W config).Reachable s) : s.Invariant config :=
  (relay W config).invariant (Relay.Invariant config) (relay_starts config)
    (fun s t a reached valid moved => relay_keeps config s t a (relay_outbox config s reached) valid moved) s reached

theorem relay_runs_mailbox (config : Broker.Config) : (mailboxMachine W).Simulates (relay W config) Relay.mailbox := by
  refine ⟨rfl, fun s t a reached moved => ?_⟩
  cases relay_moves config s t a moved with
  | sink k now outcome run _ event next found here _ _ =>
      have valid := relay_invariant config s reached
      have sends := awaited_sends config s.ledger run event next here (valid.transfers run (List.mem_of_getElem? found))
      obtain ⟨lease, known, named, text⟩ := sends
      obtain ⟨again, decoded, named', text'⟩ := lease_decodes s.outbox (relay_outbox config s reached) lease known
      right
      refine ⟨.publish lease.event.bytes now outcome, ?_⟩
      simp only [mailboxMachine, Mailbox.step, decoded]
      rw [publish_same s.mailbox again event now outcome (named'.trans named.symm) (text'.trans text.symm)]
  | consume b _ _ stepped => exact .inr ⟨b, stepped⟩
  | _ => exact .inl rfl

theorem relay_mailbox (config : Broker.Config) (s : Relay W) (reached : (relay W config).Reachable s) : s.mailbox.Invariant :=
  mailbox_invariant s.mailbox ((mailboxMachine W).simulates_reachable (relay W config) Relay.mailbox (relay_runs_mailbox config) s reached)

theorem relay_advances (config : Broker.Config) (s t : Relay W) (a : RelayAction W) (reached : (relay W config).Reachable s)
    (moved : s.step config a = some t) : Advances s.mailbox t.mailbox := by
  rcases (relay_runs_mailbox config).2 s t a reached moved with same | ⟨b, stepped⟩
  · exact .rows (by rw [same]) fun r member => .inl (same ▸ member)
  · exact moved_advances s.mailbox t.mailbox b (relay_mailbox config s reached) (mailbox_step_moved s.mailbox t.mailbox b stepped)

def Streamed (s : Relay W) (id : Str) (envelope : List Char) : Prop := ∃ stored ∈ s.stream.messages, stored.id = id ∧ stored.data = encodeUtf8 envelope

def Sourced (s : Relay W) (id : Str) (envelope : List Char) : Prop := ∃ o ∈ s.outbox.rows, o.eventId = id ∧ o.envelope = envelope

theorem kept_streamed (config : Broker.Config) (s : Relay W) (clean : s.outbox.Invariant) (valid : s.Invariant config) (r : OutboxRow)
    (member : r ∈ s.outbox.rows) (kept : s.ledger.Kept r.eventId) : Streamed s r.eventId r.envelope := by
  obtain ⟨stored, inside, named⟩ := kept
  obtain ⟨lease, known, own, bytes⟩ := valid.messages stored inside
  obtain ⟨row, present, rowId, text⟩ := clean.known lease known
  obtain rfl := row_of_id OutboxRow.eventId s.outbox.rows clean.distinct row r present member (rowId.trans (own.symm.trans named))
  exact ⟨stored, inside, named, by rw [bytes, text, text_bytes]⟩

def Settles (s : Relay W) (place : ℕ) : Prop :=
  ∃ stored event, s.stream.messages[place]? = some stored ∧ decode stored.data = .ok event ∧ event.id = stored.id ∧
    Delivered s.mailbox.rows event.id event.text

theorem acked_settles (config : Broker.Config) (s : Relay W) (clean : s.outbox.Invariant) (valid : s.Invariant config) (place : ℕ)
    (acked : place ∈ s.stream.acked) : Settles s place := by
  obtain ⟨stored, event, found, decoded, delivered⟩ := valid.acked place acked
  obtain ⟨lease, known, own, bytes⟩ := valid.messages stored (List.mem_of_getElem? found)
  obtain ⟨again, decoded', named, _⟩ := lease_decodes s.outbox clean lease known
  rw [← bytes] at decoded'
  obtain rfl := Except.ok.inj (decoded.symm.trans decoded')
  exact ⟨stored, event, found, decoded, named.trans own.symm, delivered⟩

theorem relay_safe (config : Broker.Config) (s : Relay W) (reached : (relay W config).Reachable s) :
    (∀ r ∈ s.outbox.rows, r.state = .sent → Streamed s r.eventId r.envelope) ∧
    (∀ stored ∈ s.stream.messages, ∃ o ∈ s.outbox.rows, o.eventId = stored.id ∧ encodeUtf8 o.envelope = stored.data) ∧
    (∀ place ∈ s.stream.acked, Settles s place) ∧ (∀ r ∈ s.mailbox.rows, Sourced s r.eventId r.envelope) ∧
    (OncePerEvent s.mailbox ∧ ∀ a t, s.step config a = some t → WithProcessed s.mailbox t.mailbox) ∧
    RefusedLeaveNothing s.mailbox ∧ AttemptsBounded s.mailbox := by
  have valid := relay_invariant config s reached
  have clean := relay_outbox config s reached
  have mail := relay_mailbox config s reached
  refine ⟨fun r member sent => kept_streamed config s clean valid r member (valid.sent r member sent), fun stored member => ?_,
    fun place acked => acked_settles config s clean valid place acked, valid.rows, ⟨once_per_event s.mailbox mail, fun a t moved => ?_⟩,
    refused_leave_nothing s.mailbox mail, attempts_bounded s.mailbox mail⟩
  · obtain ⟨lease, known, own, bytes⟩ := valid.messages stored member
    obtain ⟨o, inside, rowId, text⟩ := clean.known lease known
    exact ⟨o, inside, rowId.trans own.symm, by rw [text, text_bytes, bytes]⟩
  · exact advances_with_processed s.mailbox t.mailbox mail (relay_mailbox config t (.next s t a reached moved))
      (relay_advances config s t a reached moved)

theorem relay_faithful (config : Broker.Config) (s : Relay W) (reached : (relay W config).Reachable s) :
    (∀ d ∈ s.dispatches, ∀ lease run f, d = .publishing lease run → run.point = .concluded (.error f) →
      f = Broker.canceled ∨ f = Broker.unavailable) ∧
    (∀ d ∈ s.dispatches, ∀ lease run receipt, d = .publishing lease run → run.point = .concluded (.ok receipt) →
      receipt = ⟨lease.event.id, true⟩ ∧ s.ledger.Kept lease.event.id) ∧
    ∀ run ∈ s.transfers, ∀ f, run.point = .concluded (.error f) → f ≠ Broker.idReused ∧ f ≠ invalidEnvelope := by
  have valid := relay_invariant config s reached
  refine ⟨?_, ?_, ?_⟩
  · rintro d member lease run f rfl concluded
    obtain ⟨known, meets⟩ := valid.dispatches _ member
    exact (concluded_valid config s.ledger lease run _ known meets concluded).2.2 f rfl
  · rintro d member lease run receipt rfl concluded
    obtain ⟨known, meets⟩ := valid.dispatches _ member
    rw [Run.Meets, concluded] at meets
    exact meets
  · intro run member f concluded
    have meets := valid.transfers run member
    rw [Run.Meets, concluded] at meets
    obtain ⟨aborted, e, rfl, thrown⟩ := meets
    cases aborted with
    | true => exact (by decide : Broker.canceled ≠ Broker.idReused ∧ Broker.canceled ≠ invalidEnvelope)
    | false =>
        cases e with
        | other => exact ⟨by decide, by decide⟩
        | app f => exact ⟨fun same => thrown.1 (congrArg Broker.Thrown.app same), fun same => thrown.2 (congrArg Broker.Thrown.app same)⟩

def demoPubAck : Properties Json := [(str "stream", .str (str "n2f")), (str "seq", .num (Number.ofInt 1))]

def demoReceipt : Broker.Msg := ⟨encode (.obj demoPubAck), none, none⟩

theorem demo_pub_ack : Broker.PubAck Broker.demoConfig demoReceipt (Number.ofInt 1) false := by
  have canonical : (Json.obj demoPubAck).Canonical := ⟨plain_ordered _ (by decide +kernel) (by decide +kernel), trivial, trivial, trivial⟩
  have one : (Json.num (Number.ofInt 1)).settle = .num (Number.ofInt 1) := by
    rw [Number.of_int_small 1 (by norm_num)]
    rfl
  have number : get (settleMembers demoPubAck) (str "seq") = some (.num (Number.ofInt 1)) := by
    rw [get_settle_members, ← one]
    rfl
  refine ⟨⟨settleMembers demoPubAck, ?_, by decide +kernel, rfl, number, rfl⟩, by decide +kernel, by decide +kernel⟩
  rw [demoReceipt, Broker.decode_lossy_object, parse_text _ canonical]
  rfl

theorem demo_receipt_small : ¬ Broker.maxMessage < demoReceipt.data.size := by
  have short : (Json.obj demoPubAck).text.length ≤ 64 := by decide +kernel
  have size := encode_size (Json.obj demoPubAck).text
  exact not_lt.mpr (size.trans ((Nat.mul_le_mul_left 4 short).trans (by decide)))

variable (event : Envelope)

theorem demo_published : (Broker.publish Broker.demoConfig event).After
    [(Broker.publishCall Broker.demoConfig event, .message demoReceipt)] (.done (.ok ⟨event.id, true⟩)) := by
  obtain ⟨ack, parsed, accepted⟩ := Broker.acknowledged_of _ _ _ _ demo_pub_ack
  refine ⟨rfl, ?_⟩
  simp only [if_neg demo_receipt_small, parsed, accepted]
  rfl

theorem demo_confirms (s : Broker.Stream) (messages : s.messages = [⟨event.id, event.bytes⟩]) :
    s.answers Broker.demoConfig (Broker.publishCall Broker.demoConfig event) (.message demoReceipt) = true := by
  obtain ⟨ack, parsed, accepted⟩ := Broker.acknowledged_of _ _ _ _ demo_pub_ack
  simp [Broker.publishCall, Broker.Stream.answers, Broker.Stream.confirms, parsed, accepted, messages, Broker.sequence]

section RelayDemo

variable (token : Str) (decoded : decode event.raw = .ok event) (fits : envelopeCheck event.text = true)
  (parsed : parse token = .ok token)

include decoded fits parsed in
theorem relay_claimed : (relay ℕ Broker.demoConfig).Reachable
    ⟨claimedOutbox event token, ⟨[], [], [], []⟩, (mailboxMachine ℕ).start,
      [.publishing ⟨event, token, 1⟩ (begin (Broker.publish Broker.demoConfig event))], []⟩ := by
  have enqueued : (relay ℕ Broker.demoConfig).Reachable ⟨enqueuedOutbox event, ⟨[], [], [], []⟩, (mailboxMachine ℕ).start, [], []⟩ := by
    refine .next _ _ (.enqueue event.raw 1) .start ?_
    exact Option.map_eq_some_iff.mpr ⟨_, enqueued_step event decoded fits, rfl⟩
  refine .next _ _ (.claim token [] (fun _ => 2) (fun _ => 2) 2 .committed) enqueued ?_
  simp only [relay, Relay.step, claimed_answer event token decoded parsed]
  exact Option.map_eq_some_iff.mpr ⟨_, claimed_step event token decoded parsed, rfl⟩

def storedStream (wire : List Broker.Call) (deliveries : List (Str × ℕ)) (acked : List ℕ) : Broker.Stream :=
  ⟨[⟨event.id, event.bytes⟩], deliveries, acked, wire⟩

def publishedRun : Publication :=
  ⟨.concluded (.ok ⟨event.id, true⟩), false, false, replayed [(Broker.publishCall Broker.demoConfig event, .message demoReceipt)]⟩

theorem relay_publishes : (relay ℕ Broker.demoConfig).run
    ⟨claimedOutbox event token, ⟨[], [], [], []⟩, (mailboxMachine ℕ).start,
      [.publishing ⟨event, token, 1⟩ (begin (Broker.publish Broker.demoConfig event))], []⟩
    [.publication 0 .resume, .server (.store (Broker.publishCall Broker.demoConfig event)),
      .publication 0 (.answer (.ok (.message demoReceipt))), .publication 0 .resume, .publication 0 .finish] =
    some ⟨claimedOutbox event token, storedStream event [Broker.publishCall Broker.demoConfig event] [] [], (mailboxMachine ℕ).start,
      [.publishing ⟨event, token, 1⟩ (publishedRun event)], []⟩ := by
  obtain ⟨next, shape, answer⟩ := after_cons _ _ _ _ _ (demo_published event)
  have answer : next (.message demoReceipt) = .done (.ok ⟨event.id, true⟩) := answer
  have confirms (wire : List Broker.Call) := demo_confirms event (storedStream event wire [] []) rfl
  have request : (Broker.publishCall Broker.demoConfig event).isRequest = true := rfl
  have kept (c : Broker.Call) (holds : c.isRequest = true) : List.filter Broker.Call.isRequest [c] = [c] := by simp [holds]
  simp only [Broker.publishCall, storedStream] at shape confirms request
  simp [Machine.run, relay, Relay.step, begin, shape, Broker.Stream.admits, Operation.step, Run.advance, Broker.operation, Run.stopped,
    Run.note, Run.asks, Broker.Stream.sends, kept _ request, Broker.Stream.step, Broker.publishCall, confirms, answer, storedStream, publishedRun, replayed,
    Protocol.conclude]

include decoded fits parsed in
theorem relay_published : (relay ℕ Broker.demoConfig).Reachable
    ⟨claimedOutbox event token, storedStream event [Broker.publishCall Broker.demoConfig event] [] [], (mailboxMachine ℕ).start,
      [.publishing ⟨event, token, 1⟩ (publishedRun event)], []⟩ :=
  (relay ℕ Broker.demoConfig).run_reachable _ _ _ (relay_claimed event token decoded fits parsed) (relay_publishes event token)

def sentRelay (wire : List Broker.Call) (deliveries : List (Str × ℕ)) (acked : List ℕ) (mailbox : Mailbox ℕ) (transfers : List Transfer) :
    Relay ℕ :=
  ⟨sentOutbox event token, storedStream event (Broker.publishCall Broker.demoConfig event :: wire) deliveries acked, mailbox,
    [.returned (.ok true)], transfers⟩

include decoded fits parsed in
theorem relay_sent : (relay ℕ Broker.demoConfig).Reachable (sentRelay event token [] [] [] (mailboxMachine ℕ).start []) := by
  have settling : (relay ℕ Broker.demoConfig).Reachable
      ⟨claimedOutbox event token, storedStream event [Broker.publishCall Broker.demoConfig event] [] [], (mailboxMachine ℕ).start,
        [.settling ⟨event, token, 1⟩ (.ok ⟨event.id, true⟩)], []⟩ :=
    .next _ _ (.published 0) (relay_published event token decoded fits parsed) rfl
  refine .next _ _ (.settle 0 3 4 .committed) settling ?_
  have acknowledged : acknowledges ⟨event, token, 1⟩ (.ok ⟨event.id, true⟩) = true := by simp [acknowledges]
  simp only [relay, Relay.step, List.getElem?_cons_zero, acknowledged, sent_answer event token]
  refine Option.map_eq_some_iff.mpr ⟨_, sent_outbox event token, ?_⟩
  simp [Outcome.answer, afterSettle, acknowledged, sentRelay]

def demoPulled : Broker.Msg := ⟨event.bytes, none, some Broker.demoReply⟩

def demoAcked : Broker.Msg := ⟨.empty, none, none⟩

def transferExchanges : List (Broker.Call × Broker.Answer) :=
  [(Broker.nextCall Broker.demoConfig, .message (demoPulled event)), (.sink event, .sank (.ok ⟨event.id, true⟩)),
    (Broker.ackCall Broker.demoReply, .message demoAcked)]

def transferredRun : Transfer := ⟨.concluded (.ok true), false, false, replayed (transferExchanges event)⟩

def transferEvents : List (RelayAction ℕ) :=
  [.server (.deliver 0 Broker.demoReply), .pull, .transfer 0 .resume, .transfer 0 (.answer (.ok (.message (demoPulled event)))),
    .transfer 0 .resume, .sink 0 3 .committed, .transfer 0 .resume, .server (.acknowledge (Broker.ackCall Broker.demoReply)),
    .transfer 0 (.answer (.ok (.message demoAcked))), .transfer 0 .resume, .transfer 0 .finish]

theorem no_stored_data (m : Broker.Msg) (empty : m.data = .empty) : ((decodeUtf8 m.data).bind Ecma.parse).bind Broker.storedData = none := by
  rw [empty]
  rfl

theorem next_is_no_get (config : Broker.Config) (n : Number) : Broker.nextCall config ≠ Broker.getCall config n := by
  intro same
  injection same with _ data
  have key : quote (str "seq") = ['"', 's', 'e', 'q', '"'] := by decide
  exact absurd (encode_injective _ _ data) (by simp [Json.text, key])

theorem relay_pulls (s : Broker.Stream) (messages : s.messages = [⟨event.id, event.bytes⟩])
    (deliveries : s.deliveries = [(Broker.demoReply, 0)]) :
    s.answers Broker.demoConfig (Broker.nextCall Broker.demoConfig) (.message (demoPulled event)) = true := by
  have returned : s.returns Broker.demoConfig (Broker.nextCall Broker.demoConfig) (demoPulled event) = true := by
    simp [Broker.Stream.returns, messages, next_is_no_get]
  have pulled : s.pulls (demoPulled event) = true := by simp [Broker.Stream.pulls, messages, deliveries, demoPulled]
  exact Bool.and_eq_true_iff.mpr ⟨returned, by rw [pulled, Bool.or_true]⟩

theorem relay_acks (s : Broker.Stream) : s.answers Broker.demoConfig (Broker.ackCall Broker.demoReply) (.message demoAcked) = true := by
  have other : Broker.ackCall Broker.demoReply ≠ Broker.nextCall Broker.demoConfig := by decide
  have returned : s.returns Broker.demoConfig (Broker.ackCall Broker.demoReply) demoAcked = true := by
    simp [Broker.Stream.returns, no_stored_data demoAcked rfl]
  exact Bool.and_eq_true_iff.mpr ⟨returned, Bool.or_eq_true_iff.mpr (.inl (decide_eq_true other))⟩

def transferring (wire : List Broker.Call) (deliveries : List (Str × ℕ)) (acked : List ℕ) (mailbox : Mailbox ℕ)
    (point : Point Broker.Call Broker.Answer Broker.Thrown Failure Bool) (log : List (Entry Broker.Call Broker.Answer)) : Relay ℕ :=
  sentRelay event token wire deliveries acked mailbox [⟨point, false, false, log⟩]

theorem transfer_asks (wire : List Broker.Call) (deliveries : List (Str × ℕ)) (acked : List ℕ) (mailbox : Mailbox ℕ)
    (log : List (Entry Broker.Call Broker.Answer)) (c : Broker.Call) (next : Broker.Answer → Broker.Task Bool) :
    (relay ℕ Broker.demoConfig).step (transferring event token wire deliveries acked mailbox (.ready (.call c next)) log)
        (.transfer 0 .resume) =
      some (transferring event token (wire ++ [c].filter Broker.Call.isRequest) deliveries acked mailbox (.awaiting c next)
        (log ++ [.called c])) := by
  simp [relay, Relay.step, transferring, sentRelay, storedStream, Broker.Stream.admits, Operation.step, Run.advance, Run.stopped, Run.note,
    Run.asks, Broker.Stream.sends]

theorem transfer_answered (wire : List Broker.Call) (deliveries : List (Str × ℕ)) (acked : List ℕ) (mailbox : Mailbox ℕ)
    (log : List (Entry Broker.Call Broker.Answer)) (c : Broker.Call) (next : Broker.Answer → Broker.Task Bool) (a : Broker.Answer)
    (suited : Broker.operation.suits c a = true)
    (answers : (storedStream event (Broker.publishCall Broker.demoConfig event :: wire) deliveries acked).answers Broker.demoConfig c a = true) :
    (relay ℕ Broker.demoConfig).step (transferring event token wire deliveries acked mailbox (.awaiting c next) log)
        (.transfer 0 (.answer (.ok a))) =
      some (transferring event token wire deliveries acked mailbox (.ready (next a)) (log ++ [.answered c a])) := by
  simp [relay, Relay.step, transferring, sentRelay, Broker.Stream.admits, answers, Operation.step, suited, Run.note, Run.asks,
    Broker.Stream.sends]

include fits in
theorem transfer_sinks (wire : List Broker.Call) (deliveries : List (Str × ℕ)) (acked : List ℕ)
    (log : List (Entry Broker.Call Broker.Answer)) (next : Broker.Answer → Broker.Task Bool) :
    (relay ℕ Broker.demoConfig).step
        (transferring event token wire deliveries acked (mailboxMachine ℕ).start (.awaiting (.sink event) next) log) (.sink 0 3 .committed) =
      some (transferring event token wire deliveries acked (deliveredMailbox event) (.ready (next (.sank (.ok ⟨event.id, true⟩))))
        (log ++ [.answered (.sink event) (.sank (.ok ⟨event.id, true⟩))])) := by
  have suited : Broker.operation.suits (.sink event) (.sank (.ok ⟨event.id, true⟩)) = true := rfl
  simp [relay, Relay.step, transferring, sentRelay, delivered_answer event fits, Operation.step, suited, Run.note, Outcome.isPlain]

theorem transfer_acks (wire : List Broker.Call) (mailbox : Mailbox ℕ) (point : Point Broker.Call Broker.Answer Broker.Thrown Failure Bool)
    (log : List (Entry Broker.Call Broker.Answer)) (member : Broker.ackCall Broker.demoReply ∈ wire) :
    (relay ℕ Broker.demoConfig).step (transferring event token wire [(Broker.demoReply, 0)] [] mailbox point log)
        (.server (.acknowledge (Broker.ackCall Broker.demoReply))) =
      some (transferring event token wire [(Broker.demoReply, 0)] [0] mailbox point log) := by
  rw [Broker.ackCall] at member ⊢
  simp [relay, Relay.step, transferring, sentRelay, Broker.Stream.step, storedStream, member]

include decoded fits in
theorem relay_transfers : (relay ℕ Broker.demoConfig).run (sentRelay event token [] [] [] (mailboxMachine ℕ).start []) (transferEvents event) =
    some (sentRelay event token [Broker.nextCall Broker.demoConfig, Broker.ackCall Broker.demoReply] [(Broker.demoReply, 0)] [0]
      (deliveredMailbox event) [transferredRun event]) := by
  obtain ⟨_, _, _, _, _, _, _, _, size⟩ := decode_ok event.raw event decoded
  have path := Broker.transfer_delivers Broker.demoConfig (demoPulled event) demoAcked Broker.demoReply event ⟨event.id, true⟩
    (size.trans (by decide)) rfl rfl (by decide) decoded rfl rfl (Nat.zero_le _)
  obtain ⟨next, shape, later⟩ := after_cons _ _ _ _ _ path
  obtain ⟨next', shape', later'⟩ := after_cons _ _ _ _ _ later
  obtain ⟨next'', shape'', last⟩ := after_cons _ _ _ _ _ later'
  have last : next'' (.message demoAcked) = .done (.ok true) := last
  have handed : (relay ℕ Broker.demoConfig).step (sentRelay event token [] [] [] (mailboxMachine ℕ).start [])
      (.server (.deliver 0 Broker.demoReply)) =
        some (sentRelay event token [] [(Broker.demoReply, 0)] [] (mailboxMachine ℕ).start []) := by
    simp [relay, Relay.step, sentRelay, storedStream, Broker.Stream.step]
  have pulled : (relay ℕ Broker.demoConfig).step (sentRelay event token [] [(Broker.demoReply, 0)] [] (mailboxMachine ℕ).start []) .pull =
      some (transferring event token [] [(Broker.demoReply, 0)] [] (mailboxMachine ℕ).start
        (.ready (.call (Broker.nextCall Broker.demoConfig) next)) []) := by
    rw [← shape]
    rfl
  have filled := transfer_answered event token [Broker.nextCall Broker.demoConfig] [(Broker.demoReply, 0)] [] (mailboxMachine ℕ).start
    [.called (Broker.nextCall Broker.demoConfig)] (Broker.nextCall Broker.demoConfig) next (.message (demoPulled event)) rfl
    (relay_pulls event _ rfl rfl)
  have acked (log : List (Entry Broker.Call Broker.Answer)) :=
    transfer_acks event token [Broker.nextCall Broker.demoConfig, Broker.ackCall Broker.demoReply] (deliveredMailbox event)
      (.awaiting (Broker.ackCall Broker.demoReply) next'') log (List.mem_cons_of_mem _ (List.mem_singleton_self _))
  have answered (log : List (Entry Broker.Call Broker.Answer)) :=
    transfer_answered event token [Broker.nextCall Broker.demoConfig, Broker.ackCall Broker.demoReply] [(Broker.demoReply, 0)] [0]
      (deliveredMailbox event) log (Broker.ackCall Broker.demoReply) next'' (.message demoAcked) rfl (relay_acks _)
  refine Option.bind_eq_some_iff.mpr ⟨_, handed, Option.bind_eq_some_iff.mpr ⟨_, pulled, ?_⟩⟩
  refine Option.bind_eq_some_iff.mpr ⟨_, transfer_asks event token _ _ _ _ _ _ next, ?_⟩
  refine Option.bind_eq_some_iff.mpr ⟨_, filled, ?_⟩
  rw [shape']
  refine Option.bind_eq_some_iff.mpr ⟨_, transfer_asks event token _ _ _ _ _ _ next', ?_⟩
  refine Option.bind_eq_some_iff.mpr ⟨_, transfer_sinks event token fits _ _ _ _ next', ?_⟩
  rw [shape'']
  refine Option.bind_eq_some_iff.mpr ⟨_, transfer_asks event token _ _ _ _ _ _ next'', ?_⟩
  refine Option.bind_eq_some_iff.mpr ⟨_, acked _, Option.bind_eq_some_iff.mpr ⟨_, answered _, ?_⟩⟩
  rw [last]
  rfl

end RelayDemo

theorem relay_safe_demo : ∃ event : Envelope, ∃ s : Relay ℕ, s.stream.acked = [0] ∧ Settles s 0 ∧
    Streamed s event.id event.text ∧ OncePerEvent s.mailbox := by
  obtain ⟨event, decoded, storable⟩ := demo_event
  have fits := (envelope_check_payload _ event decoded).trans storable
  have reached := (relay ℕ Broker.demoConfig).run_reachable _ _ _ (relay_sent event (demoId 5) decoded fits demo_token)
    (relay_transfers event (demoId 5) decoded fits)
  obtain ⟨sent, _, acked, _, ⟨once, _⟩, _⟩ := relay_safe _ _ reached
  exact ⟨event, _, rfl, acked 0 (List.mem_singleton_self 0), sent _ (List.mem_singleton_self _) rfl, once⟩

theorem relay_faithful_demo : ∃ event : Envelope, ∃ s : Relay ℕ, (relay ℕ Broker.demoConfig).Reachable s ∧
    s.dispatches = [.publishing ⟨event, demoId 5, 1⟩ (publishedRun event)] ∧ s.ledger.Kept event.id := by
  obtain ⟨event, decoded, storable⟩ := demo_event
  have fits := (envelope_check_payload _ event decoded).trans storable
  have reached := relay_published event (demoId 5) decoded fits demo_token
  obtain ⟨_, kept, _⟩ := relay_faithful _ _ reached
  exact ⟨event, _, reached, rfl, (kept _ (List.mem_singleton_self _) _ _ _ rfl rfl).2⟩

end N2F
