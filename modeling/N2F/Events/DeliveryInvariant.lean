import N2F.Events.Delivery

set_option autoImplicit false

namespace N2F

open Ecma Postgres

variable {W : Type}

def Delivered (rows : List MailboxRow) (id : Str) (envelope : List Char) : Prop :=
  ∃ m ∈ rows, m.eventId = id ∧ sameJsonb m.envelope envelope = true

def Dispatch.Valid (leases : List Lease) (rows : List MailboxRow) : Dispatch → Prop
  | .publishing lease => lease ∈ leases
  | .settling lease receipt =>
      lease ∈ leases ∧ (acknowledges lease receipt = true → Delivered rows lease.event.id lease.event.text)
  | .returned _ | .crashed => True

structure World.Invariant (s : World W) : Prop where
  dispatches : ∀ d ∈ s.dispatches, d.Valid s.outbox.leases s.mailbox.rows
  sent : ∀ r ∈ s.outbox.rows, r.state = .sent → Delivered s.mailbox.rows r.eventId r.envelope

def Present (rows rows' : List MailboxRow) : Prop := ∀ r ∈ rows, ∃ r' ∈ rows', r'.eventId = r.eventId ∧ r'.envelope = r.envelope

theorem delivered_later (rows rows' : List MailboxRow) (id : Str) (envelope : List Char) (present : Present rows rows')
    (delivered : Delivered rows id envelope) : Delivered rows' id envelope := by
  obtain ⟨m, member, named, same⟩ := delivered
  obtain ⟨m', member', named', written⟩ := present m member
  exact ⟨m', member', named'.trans named, by rw [written]; exact same⟩

theorem dispatch_later (leases leases' : List Lease) (rows rows' : List MailboxRow) (d : Dispatch) (grown : leases ⊆ leases')
    (present : Present rows rows') (valid : d.Valid leases rows) : d.Valid leases' rows' := by
  cases d with
  | publishing lease => exact grown valid
  | settling lease receipt =>
      exact ⟨grown valid.1, fun success => delivered_later rows rows' _ _ present (valid.2 success)⟩
  | returned answer => trivial
  | crashed => trivial

theorem present_refl (rows : List MailboxRow) : Present rows rows := fun r member => ⟨r, member, rfl, rfl⟩

theorem publish_present (s : Mailbox W) (event : Envelope) (now : ℕ) (outcome : Outcome) :
    Present s.rows (s.publish event now outcome).2.rows := by
  intro r member
  rw [Mailbox.publish]
  refine ⟨r, ?_, rfl, rfl⟩
  simp only [publish_rows]
  split_ifs
  · rcases insert_rows mailbox event now s.rows with same | ⟨_, added⟩
    · rw [same]
      exact member
    · rw [added]
      exact List.mem_append_left _ member
  · exact member

theorem update_envelope (id : Str) (state : MailboxState) (availableAt : ℕ) (r : MailboxRow) :
    (updateRow id state availableAt r).envelope = r.envelope := by
  rw [updateRow]
  split_ifs <;> rfl

theorem mailbox_moved_present (s t : Mailbox W) (a : MailboxAction W) (moved : MailboxMoved s a t) : Present s.rows t.rows := by
  cases moved with
  | published raw event now outcome decoded => exact publish_present s event now outcome
  | answered answer => exact present_refl s.rows
  | selected clock skipped outcome r event member pending unlocked decoded => exact present_refl s.rows
  | executed id statement c c' found moved => exact present_refl s.rows
  | ended id => exact present_refl s.rows
  | committed id outcome c rejected state availableAt answer found phase =>
      exact fun r member => ⟨_, List.mem_map_of_mem (f := updateRow _ _ _) member, update_id _ _ _ r, update_envelope _ _ _ r⟩

theorem answer_ok {T : Type} (outcome : Outcome) (body : Result T) (v : T) (answered : outcome.answer body = .ok v) :
    body = .ok v ∧ outcome.applied = true := by
  cases outcome with
  | committed => exact ⟨answered, rfl⟩
  | uncertain applied => cases body <;> cases answered
  | failed e => cases answered

theorem publish_delivered (s : Mailbox W) (event : Envelope) (now : ℕ) (outcome : Outcome) (receipt : Receipt)
    (answered : (s.publish event now outcome).1 = .ok receipt) :
    Delivered (s.publish event now outcome).2.rows event.id event.text := by
  obtain ⟨body, applied⟩ := answer_ok outcome _ receipt answered
  simp only [Mailbox.publish, if_pos applied]
  exact publish_receipt event now s.rows receipt body

theorem moved_leases (s t : Outbox) (a : OutboxAction) (moved : Moved s a t) : s.leases ⊆ t.leases := by
  cases moved with
  | idle now later => exact List.Subset.refl _
  | enqueue raw event writtenAt decoded absent later => exact List.Subset.refl _
  | swept token locked sweepAt selectAt leaseAt times => exact List.Subset.refl _
  | claim token locked sweepAt selectAt leaseAt r event times fresh member ready decoded => exact List.subset_cons_self _ _
  | finish success lease checkAt delayAt known later ordered r member owns => exact List.Subset.refl _

theorem claimed_lease (s t : Outbox) (token : Str) (locked : List Str) (sweepAt selectAt : Str → ℕ) (leaseAt : ℕ) (lease : Lease)
    (moved : s.step (.claim token locked sweepAt selectAt leaseAt) = some t)
    (claimed : (claim token locked sweepAt selectAt leaseAt s.rows).1 = .ok (some lease)) : lease ∈ t.leases := by
  rcases same : claim token locked sweepAt selectAt leaseAt s.rows with ⟨answer, rows⟩
  simp only [same] at claimed
  subst claimed
  simp only [Outbox.step, same] at moved
  split_ifs at moved
  obtain rfl := Option.some.inj moved
  exact List.mem_cons_self

theorem sent_step (s t : Outbox) (a : OutboxAction) (rows : List MailboxRow) (valid : s.Invariant) (moved : s.step a = some t)
    (before : ∀ r ∈ s.rows, r.state = .sent → Delivered rows r.eventId r.envelope)
    (acked : ∀ lease checkAt delayAt, a = .finish true lease checkAt delayAt → Delivered rows lease.event.id lease.event.text) :
    ∀ r ∈ t.rows, r.state = .sent → Delivered rows r.eventId r.envelope := by
  intro r' member sent
  obtain ⟨r, old, ⟨named, written⟩, cause⟩ := (moved_ends s t a valid (step_moved s t a moved) r' member).2 sent
  rw [← named, ← written]
  rcases cause with already | ⟨lease, m, checkAt, delayAt, ⟨_, _, _, newest⟩, rfl, _⟩
  · exact before r old already
  · obtain ⟨known, same⟩ := latest_mem s.leases r.eventId lease newest
    obtain ⟨row, present, rowId, text⟩ := valid.known lease known
    obtain rfl := row_of_id OutboxRow.eventId s.rows valid.distinct row r present old (rowId.trans same)
    rw [rowId, text]
    exact acked lease checkAt delayAt rfl

theorem outbox_keeps (s : World W) (o : Outbox) (a : OutboxAction) (clean : s.outbox.Invariant) (valid : s.Invariant)
    (moved : s.outbox.step a = some o)
    (acked : ∀ lease checkAt delayAt, a = .finish true lease checkAt delayAt →
      Delivered s.mailbox.rows lease.event.id lease.event.text) : ({ s with outbox := o } : World W).Invariant :=
  { dispatches := fun d member =>
      dispatch_later _ _ _ _ d (moved_leases s.outbox o a (step_moved s.outbox o a moved)) (present_refl _) (valid.dispatches d member)
    sent := sent_step s.outbox o a s.mailbox.rows clean moved valid.sent acked }

theorem mailbox_keeps (s : World W) (m : Mailbox W) (valid : s.Invariant) (present : Present s.mailbox.rows m.rows) :
    ({ s with mailbox := m } : World W).Invariant :=
  { dispatches := fun d member => dispatch_later _ _ _ _ d (List.Subset.refl _) present (valid.dispatches d member)
    sent := fun r member sent => delivered_later _ _ _ _ present (valid.sent r member sent) }

theorem dispatches_keep (s : World W) (dispatches : List Dispatch) (valid : s.Invariant)
    (each : ∀ d ∈ dispatches, d.Valid s.outbox.leases s.mailbox.rows) : ({ s with dispatches := dispatches } : World W).Invariant :=
  ⟨each, valid.sent⟩

theorem transact_cases (s t : World W) (a : OutboxAction) (outcome : Outcome) (dispatches : List Dispatch)
    (moved : s.transact a outcome dispatches = some t) :
    (∃ o, outcome.applied = true ∧ s.outbox.step a = some o ∧ t = { s with outbox := o, dispatches := dispatches }) ∨
      outcome.applied = false ∧ t = { s with dispatches := dispatches } := by
  rw [World.transact] at moved
  split_ifs at moved with applied
  · obtain ⟨o, stepped, rfl⟩ := Option.map_eq_some_iff.mp moved
    exact .inl ⟨o, applied, stepped, rfl⟩
  · obtain rfl := Option.some.inj moved
    exact .inr ⟨by simpa using applied, rfl⟩

inductive World.Moves (s : World W) : WorldAction W → World W → Prop where
  | enqueue (raw : ByteArray) (writtenAt : ℕ) (o : Outbox) (stepped : s.outbox.step (.enqueue raw writtenAt) = some o) :
      Moves s (.enqueue raw writtenAt) { s with outbox := o }
  | cancel : Moves s .cancel { s with dispatches := s.dispatches ++ [.returned (.error dispatchCanceled)] }
  | claimed (token : Str) (locked : List Str) (sweepAt selectAt : Str → ℕ) (leaseAt : ℕ) (outcome : Outcome) (o : Outbox)
      (applied : outcome.applied = true) (stepped : s.outbox.step (.claim token locked sweepAt selectAt leaseAt) = some o) :
      Moves s (.claim token locked sweepAt selectAt leaseAt outcome)
        { s with
          outbox := o
          dispatches := s.dispatches ++ [afterClaim (outcome.answer (claim token locked sweepAt selectAt leaseAt s.outbox.rows).1)] }
  | unclaimed (token : Str) (locked : List Str) (sweepAt selectAt : Str → ℕ) (leaseAt : ℕ) (outcome : Outcome)
      (unapplied : outcome.applied = false) :
      Moves s (.claim token locked sweepAt selectAt leaseAt outcome)
        { s with
          dispatches := s.dispatches ++ [afterClaim (outcome.answer (claim token locked sweepAt selectAt leaseAt s.outbox.rows).1)] }
  | publish (call now : ℕ) (outcome : Outcome) (lease : Lease) (found : s.dispatches[call]? = some (.publishing lease)) :
      Moves s (.publish call now outcome)
        { s with
          mailbox := (s.mailbox.publish lease.event now outcome).2
          dispatches := s.dispatches.set call (.settling lease (s.mailbox.publish lease.event now outcome).1) }
  | settled (call checkAt delayAt : ℕ) (outcome : Outcome) (lease : Lease) (receipt : Result Receipt) (o : Outbox)
      (found : s.dispatches[call]? = some (.settling lease receipt)) (applied : outcome.applied = true)
      (stepped : s.outbox.step (.finish (acknowledges lease receipt) lease checkAt delayAt) = some o) :
      Moves s (.settle call checkAt delayAt outcome)
        { s with
          outbox := o
          dispatches := s.dispatches.set call (.returned (afterSettle lease receipt
            (outcome.answer (finish (acknowledges lease receipt) lease checkAt delayAt s.outbox.rows).1))) }
  | unsettled (call checkAt delayAt : ℕ) (outcome : Outcome) (lease : Lease) (receipt : Result Receipt)
      (found : s.dispatches[call]? = some (.settling lease receipt)) (unapplied : outcome.applied = false) :
      Moves s (.settle call checkAt delayAt outcome)
        { s with
          dispatches := s.dispatches.set call (.returned (afterSettle lease receipt
            (outcome.answer (finish (acknowledges lease receipt) lease checkAt delayAt s.outbox.rows).1))) }
  | crash (call : ℕ) : Moves s (.crash call) { s with dispatches := s.dispatches.set call .crashed }
  | mailbox (a : MailboxAction W) (m : Mailbox W) (stepped : s.mailbox.step a = some m) : Moves s (.mailbox a) { s with mailbox := m }

theorem world_moves (s t : World W) (a : WorldAction W) (moved : s.step a = some t) : s.Moves a t := by
  cases a with
  | enqueue raw writtenAt =>
      obtain ⟨o, stepped, rfl⟩ := Option.map_eq_some_iff.mp moved
      exact .enqueue raw writtenAt o stepped
  | cancel =>
      obtain rfl := Option.some.inj moved
      exact .cancel
  | claim token locked sweepAt selectAt leaseAt outcome =>
      rcases transact_cases s t _ outcome _ moved with ⟨o, applied, stepped, rfl⟩ | ⟨unapplied, rfl⟩
      · exact .claimed token locked sweepAt selectAt leaseAt outcome o applied stepped
      · exact .unclaimed token locked sweepAt selectAt leaseAt outcome unapplied
  | publish call now outcome =>
      simp only [World.step] at moved
      split at moved
      · next lease found =>
          obtain rfl := Option.some.inj moved
          exact .publish call now outcome lease found
      · cases moved
  | settle call checkAt delayAt outcome =>
      simp only [World.step] at moved
      split at moved
      · next lease receipt found =>
          rcases transact_cases s t _ outcome _ moved with ⟨o, applied, stepped, rfl⟩ | ⟨unapplied, rfl⟩
          · exact .settled call checkAt delayAt outcome lease receipt o found applied stepped
          · exact .unsettled call checkAt delayAt outcome lease receipt found unapplied
      · cases moved
  | crash call =>
      obtain rfl := Option.some.inj moved
      exact .crash call
  | mailbox a =>
      obtain ⟨m, stepped, rfl⟩ := Option.map_eq_some_iff.mp moved
      exact .mailbox a m stepped

theorem append_valid (leases : List Lease) (rows : List MailboxRow) (dispatches : List Dispatch) (d : Dispatch)
    (each : ∀ d ∈ dispatches, d.Valid leases rows) (valid : d.Valid leases rows) : ∀ d' ∈ dispatches ++ [d], d'.Valid leases rows := by
  intro d' member
  rcases List.mem_append.mp member with old | new
  · exact each d' old
  · obtain rfl := List.mem_singleton.mp new
    exact valid

theorem set_valid (leases : List Lease) (rows : List MailboxRow) (dispatches : List Dispatch) (call : ℕ) (d : Dispatch)
    (each : ∀ d ∈ dispatches, d.Valid leases rows) (valid : d.Valid leases rows) :
    ∀ d' ∈ dispatches.set call d, d'.Valid leases rows := by
  intro d' member
  rcases List.mem_or_eq_of_mem_set member with old | rfl
  · exact each d' old
  · exact valid

theorem publish_same (s : Mailbox W) (a b : Envelope) (now : ℕ) (outcome : Outcome) (named : a.id = b.id) (text : a.text = b.text) :
    s.publish a now outcome = s.publish b now outcome := by
  simp [Mailbox.publish, N2F.publish, insert, named, text]

theorem lease_decodes (s : Outbox) (valid : s.Invariant) (lease : Lease) (known : lease ∈ s.leases) :
    ∃ again, decode lease.event.bytes = .ok again ∧ again.id = lease.event.id ∧ again.text = lease.event.text := by
  obtain ⟨row, member, named, text⟩ := valid.known lease known
  obtain ⟨again, decoded, sameId, sameText⟩ := (valid.rows row member).stored
  rw [text, text_bytes] at decoded
  exact ⟨again, decoded, sameId.trans named, sameText.trans text⟩

theorem claim_valid (s : World W) (o : Outbox) (token : Str) (locked : List Str) (sweepAt selectAt : Str → ℕ) (leaseAt : ℕ)
    (outcome : Outcome) (rows : List MailboxRow)
    (moved : s.outbox.step (.claim token locked sweepAt selectAt leaseAt) = some o) :
    (afterClaim (outcome.answer (claim token locked sweepAt selectAt leaseAt s.outbox.rows).1)).Valid o.leases rows := by
  cases claimed : outcome.answer (claim token locked sweepAt selectAt leaseAt s.outbox.rows).1 with
  | error e => trivial
  | ok lease =>
      cases lease with
      | none => trivial
      | some lease => exact claimed_lease s.outbox o token locked sweepAt selectAt leaseAt lease moved (answer_ok outcome _ _ claimed).1

theorem world_step_keeps (s t : World W) (a : WorldAction W) (clean : s.outbox.Invariant) (valid : s.Invariant)
    (moved : s.step a = some t) : t.Invariant := by
  cases world_moves s t a moved with
  | enqueue raw writtenAt o stepped => exact outbox_keeps s o _ clean valid stepped fun _ _ _ same => nomatch same
  | cancel => exact dispatches_keep s _ valid (append_valid _ _ _ _ valid.dispatches trivial)
  | claimed token locked sweepAt selectAt leaseAt outcome o _ stepped =>
      have later := outbox_keeps s o _ clean valid stepped fun _ _ _ same => nomatch same
      exact dispatches_keep _ _ later (append_valid _ _ _ _ later.dispatches (claim_valid s o token locked sweepAt selectAt leaseAt
        outcome _ stepped))
  | unclaimed token locked sweepAt selectAt leaseAt outcome unapplied =>
      refine dispatches_keep s _ valid (append_valid _ _ _ _ valid.dispatches ?_)
      cases claimed : outcome.answer (claim token locked sweepAt selectAt leaseAt s.outbox.rows).1 with
      | error e => trivial
      | ok lease =>
          have applied := (answer_ok outcome _ _ claimed).2
          rw [unapplied] at applied
          cases applied
  | publish call now outcome lease found =>
      have known : lease ∈ s.outbox.leases := valid.dispatches _ (List.mem_of_getElem? found)
      have later := mailbox_keeps s (s.mailbox.publish lease.event now outcome).2 valid
        (publish_present s.mailbox lease.event now outcome)
      refine dispatches_keep _ _ later (set_valid _ _ _ call _ later.dispatches ⟨known, fun success => ?_⟩)
      cases published : (s.mailbox.publish lease.event now outcome).1 with
      | ok receipt => exact publish_delivered s.mailbox lease.event now outcome receipt published
      | error e =>
          rw [published] at success
          cases success
  | settled call checkAt delayAt outcome lease receipt o found _ stepped =>
      obtain ⟨_, delivered⟩ := valid.dispatches _ (List.mem_of_getElem? found)
      have later := outbox_keeps s o _ clean valid stepped fun lease' _ _ same => by
        injection same with success same
        subst same
        exact delivered success
      exact dispatches_keep _ _ later (set_valid _ _ _ call _ later.dispatches trivial)
  | unsettled call _ _ _ _ _ _ _ | crash call =>
      exact dispatches_keep s _ valid (set_valid _ _ _ call _ valid.dispatches trivial)
  | mailbox a m stepped => exact mailbox_keeps s m valid (mailbox_moved_present s.mailbox m a (mailbox_step_moved s.mailbox m a stepped))

theorem world_runs_outbox : outboxMachine.Simulates (world W) World.outbox := by
  refine ⟨rfl, fun s t a _ moved => ?_⟩
  cases world_moves s t a moved with
  | enqueue raw writtenAt _ stepped => exact .inr ⟨.enqueue raw writtenAt, stepped⟩
  | claimed token locked sweepAt selectAt leaseAt _ _ _ stepped => exact .inr ⟨.claim token locked sweepAt selectAt leaseAt, stepped⟩
  | settled _ checkAt delayAt _ lease receipt _ _ _ stepped =>
      exact .inr ⟨.finish (acknowledges lease receipt) lease checkAt delayAt, stepped⟩
  | _ => exact .inl rfl

theorem world_outbox (s : World W) (reached : (world W).Reachable s) : s.outbox.Invariant :=
  outbox_invariant s.outbox (outboxMachine.simulates_reachable (world W) World.outbox world_runs_outbox s reached)

theorem world_invariant (s : World W) (reached : (world W).Reachable s) : s.Invariant :=
  (world W).invariant World.Invariant ⟨by simp [world], by simp [world, outboxMachine]⟩
    (fun s t a reached valid moved => world_step_keeps s t a (world_outbox s reached) valid moved) s reached

theorem world_runs_mailbox : (mailboxMachine W).Simulates (world W) World.mailbox := by
  refine ⟨rfl, fun s t a reached moved => ?_⟩
  cases world_moves s t a moved with
  | publish call now outcome lease found =>
      have known : lease ∈ s.outbox.leases := (world_invariant s reached).dispatches _ (List.mem_of_getElem? found)
      obtain ⟨again, decoded, named, text⟩ := lease_decodes s.outbox (world_outbox s reached) lease known
      right
      refine ⟨.publish lease.event.bytes now outcome, ?_⟩
      simp only [mailboxMachine, Mailbox.step, decoded]
      rw [publish_same s.mailbox again lease.event now outcome named text]
  | mailbox a _ stepped => exact .inr ⟨a, stepped⟩
  | _ => exact .inl rfl

theorem world_mailbox (s : World W) (reached : (world W).Reachable s) : s.mailbox.Invariant :=
  mailbox_invariant s.mailbox ((mailboxMachine W).simulates_reachable (world W) World.mailbox world_runs_mailbox s reached)

end N2F
