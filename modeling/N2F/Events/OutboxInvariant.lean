import N2F.Events.Outbox

set_option autoImplicit false

namespace N2F

open Ecma Postgres

structure RowInvariant (leases settlements : List Lease) (r : OutboxRow) : Prop where
  count : r.attempts = (granted leases r.eventId).length
  bound : r.attempts ≤ maxAttempts
  -- only an open lease keeps a row pending after its last attempt
  open_row : r.state = .pending → r.lease = none → r.attempts < maxAttempts
  current : ∀ m, r.lease = some m → r.state = .pending ∧
    ∃ l, latest leases r.eventId = some l ∧ uuid l.token = m.token ∧ l.attempt = r.attempts ∧ l ∉ settlements
  stored : ∃ event, decode (encodeUtf8 r.envelope) = .ok event ∧ event.id = r.eventId ∧ event.text = r.envelope

structure Outbox.Invariant (s : Outbox) : Prop where
  distinct : (s.rows.map OutboxRow.eventId).Nodup
  rows : ∀ r ∈ s.rows, RowInvariant s.leases s.settlements r
  known : ∀ l ∈ s.leases, ∃ r ∈ s.rows, r.eventId = l.event.id ∧ r.envelope = l.event.text
  fresh : (s.leases.map fun l => uuid l.token).Nodup
  history : s.settlements ⊆ s.leases
  once : s.settlements.Nodup

theorem latest_mem (leases : List Lease) (id : Str) (l : Lease) (found : latest leases id = some l) :
    l ∈ leases ∧ l.event.id = id := by
  have member := List.mem_of_head? found
  simpa [granted] using member

theorem granted_cons (lease : Lease) (leases : List Lease) (id : Str) :
    granted (lease :: leases) id = if lease.event.id = id then lease :: granted leases id else granted leases id := by
  simp [granted, List.filter_cons]

theorem latest_cons_same (lease : Lease) (leases : List Lease) : latest (lease :: leases) lease.event.id = some lease := by
  simp [latest, granted_cons]

theorem latest_cons_other (lease : Lease) (leases : List Lease) (id : Str) (other : lease.event.id ≠ id) :
    latest (lease :: leases) id = latest leases id := by
  simp [latest, granted_cons, other]

theorem token_unique (leases : List Lease) (fresh : (leases.map fun l => uuid l.token).Nodup) (a b : Lease) (first : a ∈ leases)
    (second : b ∈ leases) (same : uuid a.token = uuid b.token) : a = b :=
  List.inj_on_of_nodup_map fresh first second same

theorem settles_latest (s : Outbox) (valid : s.Invariant) (l : Lease) (known : l ∈ s.leases) (t : ℕ) (r : OutboxRow)
    (member : r ∈ s.rows) (owns : settles l t r = true) :
    ∃ m, r.lease = some m ∧ m.token = uuid l.token ∧ t < m.expires ∧ r.eventId = l.event.id ∧ r.state = .pending ∧
      latest s.leases r.eventId = some l ∧ l.attempt = r.attempts ∧ l ∉ s.settlements := by
  simp only [settles, Bool.and_eq_true, decide_eq_true_eq, Option.any_eq_true] at owns
  obtain ⟨⟨named, pending⟩, m, marked, token, unexpired⟩ := owns
  obtain ⟨_, l', newest, token', attempt, unsettled⟩ := (valid.rows r member).current m marked
  have same := token_unique s.leases valid.fresh l' l (latest_mem _ _ _ newest).1 known (token'.trans token)
  subst same
  exact ⟨m, marked, token, unexpired, named, pending, newest, attempt, unsettled⟩

theorem sweep_id (t : ℕ) (r : OutboxRow) : (sweep t r).eventId = r.eventId := by
  rw [sweep]
  split_ifs <;> rfl

theorem sweep_envelope (t : ℕ) (r : OutboxRow) : (sweep t r).envelope = r.envelope := by
  rw [sweep]
  split_ifs <;> rfl

theorem sweep_all_mem (clock : Str → ℕ) (rows : List OutboxRow) (r : OutboxRow) :
    r ∈ sweepAll clock rows ↔ ∃ old ∈ rows, r = sweep (clock old.eventId) old := by
  simp [sweepAll, eq_comm]

theorem take_id (token id : Str) (t : ℕ) (r : OutboxRow) : (take token id t r).eventId = r.eventId := by
  rw [take]
  split_ifs <;> rfl

theorem take_envelope (token id : Str) (t : ℕ) (r : OutboxRow) : (take token id t r).envelope = r.envelope := by
  rw [take]
  split_ifs <;> rfl

theorem sweep_keeps (leases settlements : List Lease) (t : ℕ) (r : OutboxRow) (valid : RowInvariant leases settlements r) :
    RowInvariant leases settlements (sweep t r) := by
  rw [sweep]
  split_ifs with dead
  · exact ⟨valid.count, valid.bound, (fun pending => nomatch pending), (fun m marked => nomatch marked), valid.stored⟩
  · exact valid

theorem take_keeps (leases settlements : List Lease) (token : Str) (t : ℕ) (chosen r : OutboxRow) (event : Envelope)
    (valid : RowInvariant leases settlements r) (named : event.id = chosen.eventId) (ready : chosen.attempts < maxAttempts)
    (same : r.eventId = chosen.eventId → r = chosen) (pending : chosen.state = .pending)
    (unused : (⟨event, token, chosen.attempts + 1⟩ : Lease) ∉ settlements) :
    RowInvariant (⟨event, token, chosen.attempts + 1⟩ :: leases) settlements (take token chosen.eventId t r) := by
  rw [take]
  split_ifs with here
  · obtain rfl := same here
    have newest := latest_cons_same ⟨event, token, r.attempts + 1⟩ leases
    simp only [named] at newest
    refine ⟨?_, Nat.succ_le_of_lt ready, (fun _ none => nomatch none), ?_, valid.stored⟩
    · simp [granted_cons, named, valid.count]
    · intro m marked
      obtain rfl := Option.some.inj marked
      exact ⟨pending, _, newest, rfl, rfl, unused⟩
  · have other : event.id ≠ r.eventId := fun clash => here (clash.symm.trans named)
    refine ⟨?_, valid.bound, valid.open_row, fun m marked => ?_, valid.stored⟩
    · simpa [granted_cons, other] using valid.count
    · rw [latest_cons_other _ leases r.eventId other]
      exact valid.current m marked

theorem settle_keeps (leases settlements : List Lease) (success : Bool) (t : ℕ) (lease : Lease) (r : OutboxRow)
    (valid : RowInvariant leases settlements r) : RowInvariant leases (lease :: settlements) (settle success t r) := by
  refine ⟨valid.count, valid.bound, fun pending _ => ?_, (fun m marked => nomatch marked), valid.stored⟩
  cases success with
  | true => cases pending
  | false =>
      by_contra full
      simp only [settle, not_lt] at pending full
      rw [if_pos full] at pending
      cases pending

theorem other_keeps (leases settlements : List Lease) (lease : Lease) (r : OutboxRow) (other : r.eventId ≠ lease.event.id)
    (valid : RowInvariant leases settlements r) : RowInvariant leases (lease :: settlements) r := by
  refine ⟨valid.count, valid.bound, valid.open_row, fun m marked => ?_, valid.stored⟩
  obtain ⟨pending, l, newest, token, attempt, unsettled⟩ := valid.current m marked
  refine ⟨pending, l, newest, token, attempt, fun member => ?_⟩
  rcases List.mem_cons.mp member with rfl | settled
  · exact other (latest_mem _ _ _ newest).2.symm
  · exact unsettled settled

theorem fresh_row (leases settlements : List Lease) (raw : ByteArray) (event : Envelope) (t : ℕ) (decoded : decode raw = .ok event)
    (unknown : ∀ l ∈ leases, l.event.id ≠ event.id) :
    RowInvariant leases settlements (outbox.fresh event.id event.text t) := by
  have empty : granted leases event.id = [] := List.filter_eq_nil_iff.mpr fun l member => by simpa using unknown l member
  refine ⟨by simp [outbox, empty], by simp [outbox], fun _ _ => by simp [outbox, maxAttempts], (fun m marked => nomatch marked),
    stored_again raw event decoded⟩

theorem invariant_start : outboxMachine.start.Invariant :=
  ⟨by simp [outboxMachine], by simp [outboxMachine], by simp [outboxMachine], by simp [outboxMachine], by simp [outboxMachine],
    by simp [outboxMachine]⟩

theorem swept_invariant (s : Outbox) (valid : s.Invariant) (clock : Str → ℕ) :
    ((sweepAll clock s.rows).map OutboxRow.eventId).Nodup ∧
    (∀ r ∈ sweepAll clock s.rows, RowInvariant s.leases s.settlements r) ∧
    ∀ l ∈ s.leases, ∃ r ∈ sweepAll clock s.rows, r.eventId = l.event.id ∧ r.envelope = l.event.text := by
  refine ⟨?_, fun r member => ?_, fun l member => ?_⟩
  · rw [sweepAll, map_ids OutboxRow.eventId _ _ fun r => sweep_id (clock r.eventId) r]
    exact valid.distinct
  · obtain ⟨old, inside, rfl⟩ := (sweep_all_mem clock s.rows r).mp member
    exact sweep_keeps _ _ (clock old.eventId) old (valid.rows old inside)
  · exact map_known OutboxRow.eventId OutboxRow.envelope _ _ (fun r => sweep_id (clock r.eventId) r) (fun r => sweep_envelope (clock r.eventId) r) _ _
      (valid.known l member)

theorem moved_invariant (s t : Outbox) (a : OutboxAction) (valid : s.Invariant) (moved : Moved s a t) : t.Invariant := by
  cases moved with
  | idle now later => exact ⟨valid.distinct, valid.rows, valid.known, valid.fresh, valid.history, valid.once⟩
  | enqueue raw event writtenAt decoded absent later =>
      refine ⟨?_, fun r member => ?_, fun l member => ?_, valid.fresh, valid.history, valid.once⟩
      · exact grown_distinct OutboxRow.eventId s.rows _ valid.distinct absent
      · rcases List.mem_append.mp member with old | new
        · exact valid.rows r old
        · obtain rfl := List.mem_singleton.mp new
          refine fresh_row _ _ raw event writtenAt decoded fun l known => ?_
          obtain ⟨row, inside, named, _⟩ := valid.known l known
          rw [← named]
          exact absent row inside
      · obtain ⟨row, inside, named⟩ := valid.known l member
        exact ⟨row, List.mem_append_left _ inside, named⟩
  | swept token locked sweepAt selectAt leaseAt times =>
      obtain ⟨distinct, rows, known⟩ := swept_invariant s valid sweepAt
      exact ⟨distinct, rows, known, valid.fresh, valid.history, valid.once⟩
  | claim token locked sweepAt selectAt leaseAt chosen event times fresh member ready decoded =>
      obtain ⟨distinct, rows, known⟩ := swept_invariant s valid sweepAt
      obtain ⟨event', decoded', named, text⟩ := (rows chosen member).stored
      obtain rfl := Except.ok.inj (decoded.symm.trans decoded')
      simp only [claimable, Bool.and_eq_true, decide_eq_true_eq] at ready
      obtain ⟨⟨⟨pending, below⟩, _⟩, _⟩ := ready
      have unused : (⟨event, token, chosen.attempts + 1⟩ : Lease) ∉ s.settlements := fun settled =>
        fresh _ (valid.history settled) rfl
      refine ⟨?_, fun r inside => ?_, fun l inside => ?_, ?_, fun l settled => ?_, valid.once⟩
      · simp only [map_ids OutboxRow.eventId _ _ (take_id token chosen.eventId leaseAt), distinct]
      · obtain ⟨r, old, rfl⟩ := List.mem_map.mp inside
        exact take_keeps _ _ token leaseAt chosen r event (rows r old) named below (row_of_id OutboxRow.eventId _ distinct r chosen old member)
          pending unused
      · refine map_known OutboxRow.eventId OutboxRow.envelope _ _ (take_id token chosen.eventId leaseAt) (take_envelope token chosen.eventId leaseAt) _ _ ?_
        rcases List.mem_cons.mp inside with rfl | old
        · exact ⟨chosen, member, named.symm, text.symm⟩
        · exact known l old
      · refine List.nodup_cons.mpr ⟨fun clash => ?_, valid.fresh⟩
        obtain ⟨l, inside, same⟩ := List.mem_map.mp clash
        exact fresh l inside same
      · exact List.mem_cons_of_mem _ (valid.history settled)
  | finish success lease checkAt delayAt known later ordered row member owns =>
      obtain ⟨_, _, _, _, _, _, _, _, unsettled⟩ := settles_latest s valid lease known checkAt row member owns
      have kept (r : OutboxRow) : (if settles lease checkAt r then settle success delayAt r else r).eventId = r.eventId := by
        split_ifs <;> rfl
      have written (r : OutboxRow) : (if settles lease checkAt r then settle success delayAt r else r).envelope = r.envelope := by
        split_ifs <;> rfl
      refine ⟨?_, fun r inside => ?_, fun l inside => ?_, valid.fresh, fun l settled => ?_, ?_⟩
      · simp only [map_ids OutboxRow.eventId _ _ kept, valid.distinct]
      · obtain ⟨r, old, rfl⟩ := List.mem_map.mp inside
        split_ifs with mine
        · exact settle_keeps _ _ success delayAt lease r (valid.rows r old)
        · refine other_keeps _ _ lease r (fun same => mine ?_) (valid.rows r old)
          have named : row.eventId = lease.event.id := by
            simp only [settles, Bool.and_eq_true, decide_eq_true_eq] at owns
            exact owns.1.1
          rwa [row_of_id OutboxRow.eventId _ valid.distinct r row old member (same.trans named.symm)]
      · exact map_known OutboxRow.eventId OutboxRow.envelope _ _ kept written _ _ (valid.known l inside)
      · rcases List.mem_cons.mp settled with rfl | old
        · exact known
        · exact valid.history old
      · exact List.nodup_cons.mpr ⟨unsettled, valid.once⟩

theorem outbox_invariant (s : Outbox) (reached : outboxMachine.Reachable s) : s.Invariant :=
  outboxMachine.invariant Outbox.Invariant invariant_start
    (fun s t a _ valid moved => moved_invariant s t a valid (step_moved s t a moved)) s reached

end N2F
