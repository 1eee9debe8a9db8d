import N2F.Events.OutboxInvariant

set_option autoImplicit false

namespace N2F

open Ecma Postgres

def NewestSettles (s : Outbox) : Prop :=
  ∀ lease ∈ s.leases, ∀ success checkAt delayAt, (finish success lease checkAt delayAt s.rows).1 = .ok () →
    latest s.leases lease.event.id = some lease ∧ lease ∉ s.settlements

def ClaimExcludes (s : Outbox) : Prop :=
  ∀ r ∈ s.rows, ∀ (t later : ℕ) (lease : Lease), t ≤ later → claimable t r = true → settles lease later r = false

def Counted (s : Outbox) : Prop :=
  ∀ r ∈ s.rows, r.attempts = (granted s.leases r.eventId).length ∧ r.attempts ≤ maxAttempts

def Holds (s : Outbox) (r : OutboxRow) (lease : Lease) (m : LeaseMark) : Prop :=
  r.state = .pending ∧ r.lease = some m ∧ m.token = uuid lease.token ∧ latest s.leases r.eventId = some lease

def Dies (s : Outbox) (a : OutboxAction) (r : OutboxRow) : Prop :=
  r.attempts = maxAttempts ∧ ∃ lease m, Holds s r lease m ∧ lease.attempt = maxAttempts ∧
    ((∃ token locked sweepAt selectAt leaseAt, a = .claim token locked sweepAt selectAt leaseAt ∧ m.expires ≤ sweepAt r.eventId) ∨
      ∃ checkAt delayAt, a = .finish false lease checkAt delayAt ∧ checkAt < m.expires)

def Sends (s : Outbox) (a : OutboxAction) (r : OutboxRow) : Prop :=
  ∃ lease m checkAt delayAt, Holds s r lease m ∧ a = .finish true lease checkAt delayAt ∧ checkAt < m.expires

def SameEvent (r r' : OutboxRow) : Prop := r.eventId = r'.eventId ∧ r.envelope = r'.envelope

def EndsJustly (s : Outbox) (a : OutboxAction) (t : Outbox) : Prop :=
  ∀ r' ∈ t.rows,
    (r'.state = .dead → ∃ r ∈ s.rows, SameEvent r r' ∧ (r.state = .dead ∨ Dies s a r)) ∧
    (r'.state = .sent → ∃ r ∈ s.rows, SameEvent r r' ∧ (r.state = .sent ∨ Sends s a r))

theorem newest_settles (s : Outbox) (valid : s.Invariant) : NewestSettles s := by
  intro lease known success checkAt delayAt settled
  rcases finish_cases success lease checkAt delayAt s.rows with ⟨r, member, owns, _⟩ | lost
  · obtain ⟨_, _, _, _, named, _, newest, _, unsettled⟩ := settles_latest s valid lease known checkAt r member owns
    rw [named] at newest
    exact ⟨newest, unsettled⟩
  · rw [lost] at settled
    cases settled

theorem claim_excludes (s : Outbox) : ClaimExcludes s := by
  intro r _ t later lease ordered ready
  simp only [claimable, Bool.and_eq_true, decide_eq_true_eq] at ready
  rw [Bool.eq_false_iff]
  intro owns
  simp only [settles, Bool.and_eq_true, decide_eq_true_eq, Option.any_eq_true] at owns
  obtain ⟨_, m, marked, _, unexpired⟩ := owns
  have past : m.expires ≤ t := by simpa [expired, marked] using ready.2
  omega

theorem attempts_counted (s : Outbox) (valid : s.Invariant) : Counted s :=
  fun r member => ⟨(valid.rows r member).count, (valid.rows r member).bound⟩

theorem marked_holds (s : Outbox) (valid : s.Invariant) (r : OutboxRow) (member : r ∈ s.rows) (m : LeaseMark)
    (marked : r.lease = some m) : ∃ lease, Holds s r lease m ∧ lease.attempt = r.attempts := by
  obtain ⟨pending, lease, newest, token, attempt, _⟩ := (valid.rows r member).current m marked
  exact ⟨lease, ⟨pending, marked, token.symm, newest⟩, attempt⟩

theorem sweep_sent (t : ℕ) (r : OutboxRow) (sent : (sweep t r).state = .sent) : r.state = .sent := by
  rw [sweep] at sent
  split_ifs at sent with dead
  exact sent

theorem sweep_dies (s : Outbox) (valid : s.Invariant) (token : Str) (locked : List Str) (sweepAt selectAt : Str → ℕ) (leaseAt : ℕ)
    (r : OutboxRow) (member : r ∈ s.rows) (dead : (sweep (sweepAt r.eventId) r).state = .dead) :
    r.state = .dead ∨ Dies s (.claim token locked sweepAt selectAt leaseAt) r := by
  by_cases swept : r.state = .pending ∧ r.attempts = maxAttempts ∧ expired (sweepAt r.eventId) r.lease = true
  · right
    obtain ⟨pending, full, past⟩ := swept
    cases marked : r.lease with
    | none =>
        have below := (valid.rows r member).open_row pending marked
        omega
    | some m =>
        obtain ⟨lease, holds, attempt⟩ := marked_holds s valid r member m marked
        have past : m.expires ≤ sweepAt r.eventId := by simpa [expired, marked] using past
        exact ⟨full, lease, m, holds, attempt.trans full, .inl ⟨token, locked, sweepAt, selectAt, leaseAt, rfl, past⟩⟩
  · left
    rwa [sweep, if_neg swept] at dead

theorem swept_ends (s : Outbox) (valid : s.Invariant) (token : Str) (locked : List Str) (sweepAt selectAt : Str → ℕ) (leaseAt : ℕ)
    (r' : OutboxRow) (member : r' ∈ sweepAll sweepAt s.rows) :
    (r'.state = .dead → ∃ r ∈ s.rows, SameEvent r r' ∧
      (r.state = .dead ∨ Dies s (.claim token locked sweepAt selectAt leaseAt) r)) ∧
    (r'.state = .sent → ∃ r ∈ s.rows, SameEvent r r' ∧
      (r.state = .sent ∨ Sends s (.claim token locked sweepAt selectAt leaseAt) r)) := by
  obtain ⟨r, old, rfl⟩ := (sweep_all_mem sweepAt s.rows r').mp member
  have named : SameEvent r (sweep (sweepAt r.eventId) r) := ⟨(sweep_id _ r).symm, (sweep_envelope _ r).symm⟩
  constructor
  · intro dead
    exact ⟨r, old, named, sweep_dies s valid token locked sweepAt selectAt leaseAt r old dead⟩
  · intro sent
    exact ⟨r, old, named, .inl (sweep_sent _ r sent)⟩

theorem take_state (token id : Str) (t : ℕ) (r : OutboxRow) : (take token id t r).state = r.state := by
  rw [take]
  split_ifs <;> rfl

theorem moved_ends (s t : Outbox) (a : OutboxAction) (valid : s.Invariant) (moved : Moved s a t) : EndsJustly s a t := by
  intro r' member
  cases moved with
  | idle now later => exact ⟨fun dead => ⟨r', member, ⟨rfl, rfl⟩, .inl dead⟩, fun sent => ⟨r', member, ⟨rfl, rfl⟩, .inl sent⟩⟩
  | enqueue raw event writtenAt decoded absent later =>
      rcases List.mem_append.mp member with old | new
      · exact ⟨fun dead => ⟨r', old, ⟨rfl, rfl⟩, .inl dead⟩, fun sent => ⟨r', old, ⟨rfl, rfl⟩, .inl sent⟩⟩
      · obtain rfl := List.mem_singleton.mp new
        exact ⟨(fun dead => nomatch dead), (fun sent => nomatch sent)⟩
  | swept token locked sweepAt selectAt leaseAt times =>
      exact swept_ends s valid token locked sweepAt selectAt leaseAt r' member
  | claim token locked sweepAt selectAt leaseAt chosen event times fresh present ready decoded =>
      obtain ⟨r, old, rfl⟩ := List.mem_map.mp member
      simp only [take_state, SameEvent, take_id, take_envelope]
      exact swept_ends s valid token locked sweepAt selectAt leaseAt r old
  | finish success lease checkAt delayAt known later ordered row present owned =>
      obtain ⟨r, old, rfl⟩ := List.mem_map.mp member
      by_cases owns : settles lease checkAt r = true
      · obtain ⟨m, marked, token, unexpired, named, pending, newest, attempt, _⟩ :=
          settles_latest s valid lease known checkAt r old owns
        rw [if_pos owns]
        have holds : Holds s r lease m := ⟨pending, marked, token, newest⟩
        cases success with
        | true =>
            refine ⟨(fun dead => nomatch dead), fun sent => ⟨r, old, ⟨rfl, rfl⟩, .inr ?_⟩⟩
            exact ⟨lease, m, checkAt, delayAt, holds, rfl, unexpired⟩
        | false =>
            by_cases full : maxAttempts ≤ r.attempts
            · have five := le_antisymm (valid.rows r old).bound full
              refine ⟨fun _ => ⟨r, old, ⟨rfl, rfl⟩, .inr ⟨five, lease, m, holds, attempt.trans five, .inr ⟨checkAt, delayAt, rfl, unexpired⟩⟩⟩,
                fun sent => ?_⟩
              simp [settle, full] at sent
            · constructor
              · intro dead
                simp [settle, full] at dead
              · intro sent
                simp [settle, full] at sent
      · rw [if_neg owns]
        exact ⟨fun dead => ⟨r, old, ⟨rfl, rfl⟩, .inl dead⟩, fun sent => ⟨r, old, ⟨rfl, rfl⟩, .inl sent⟩⟩

theorem outbox_leases_safe (s : Outbox) (reached : outboxMachine.Reachable s) :
    (NewestSettles s ∧ s.settlements.Nodup) ∧ ClaimExcludes s ∧ Counted s ∧ ∀ a t, s.step a = some t → EndsJustly s a t := by
  have valid := outbox_invariant s reached
  exact ⟨⟨newest_settles s valid, valid.once⟩, claim_excludes s, attempts_counted s valid,
    fun a t moved => moved_ends s t a valid (step_moved s t a moved)⟩

def enqueuedOutbox (event : Envelope) : Outbox := ⟨[outbox.fresh event.id event.text 1], 1, [], []⟩

def claimedOutbox (event : Envelope) (token : Str) : Outbox :=
  ⟨[⟨event.id, event.text, .pending, 1, 1, some ⟨uuid token, 2 + leaseSpan⟩⟩], 2, [⟨event, token, 1⟩], []⟩

def sentOutbox (event : Envelope) (token : Str) : Outbox :=
  ⟨[⟨event.id, event.text, .sent, 1, 4 + retryDelay, none⟩], 4, [⟨event, token, 1⟩], [⟨event, token, 1⟩]⟩

section Delivery

variable (event : Envelope) (token : Str) (decoded : decode event.raw = .ok event) (fits : envelopeCheck event.text = true)
  (parsed : parse token = .ok token)

include decoded fits in
theorem enqueued_step : outboxMachine.start.step (.enqueue event.raw 1) = some (enqueuedOutbox event) := by
  have written := insert_fresh outbox event 1 [] fits (by simp)
  simp [outboxMachine, Outbox.step, decoded, enqueue, written, enqueuedOutbox]

include decoded parsed in
theorem claimed_answer : claim token [] (fun _ => 2) (fun _ => 2) 2 (enqueuedOutbox event).rows =
    (.ok (some ⟨event, token, 1⟩), (claimedOutbox event token).rows) := by
  have again : decode (encodeUtf8 event.text) = .ok event := (congrArg decode (text_bytes event)).trans decoded
  have swept : sweepAll (fun _ => 2) [outbox.fresh event.id event.text 1] = [outbox.fresh event.id event.text 1] := by
    simp [sweepAll, sweep, outbox, maxAttempts]
  have found : candidate (fun _ => 2) [] [outbox.fresh event.id event.text 1] = some (outbox.fresh event.id event.text 1) := by
    simp [candidate, claimable, outbox, maxAttempts, expired, earliest]
  simp only [claim, parsed, enqueuedOutbox, swept, found]
  simp [outbox, again, take, claimedOutbox]

include decoded parsed in
theorem claimed_step : (enqueuedOutbox event).step (.claim token [] (fun _ => 2) (fun _ => 2) 2) = some (claimedOutbox event token) := by
  have times : claimTimes 1 (fun _ => 2) (fun _ => 2) 2 [outbox.fresh event.id event.text 1] := by simp [claimTimes]
  simp only [Outbox.step, claimed_answer event token decoded parsed]
  rw [if_pos ⟨times, by simp [enqueuedOutbox]⟩]
  rfl

theorem sent_answer : finish true ⟨event, token, 1⟩ 3 4 (claimedOutbox event token).rows = (.ok (), (sentOutbox event token).rows) := by
  simp [finish, claimedOutbox, sentOutbox, settles, settle, leaseSpan]

theorem sent_outbox : (claimedOutbox event token).step (.finish true ⟨event, token, 1⟩ 3 4) = some (sentOutbox event token) := by
  simp only [Outbox.step, sent_answer event token]
  rw [if_pos (by simp [claimedOutbox])]
  rfl

include decoded fits parsed in
theorem claimed_reachable : outboxMachine.Reachable (claimedOutbox event token) :=
  .next _ _ (.claim token [] (fun _ => 2) (fun _ => 2) 2)
    (.next _ _ (.enqueue event.raw 1) .start (enqueued_step event decoded fits)) (claimed_step event token decoded parsed)

end Delivery

theorem demo_token : parse (demoId 5) = .ok (demoId 5) := by decide +kernel

theorem outbox_leases_safe_demo : ∃ event, ClaimExcludes (claimedOutbox event (demoId 5)) ∧ Counted (claimedOutbox event (demoId 5)) ∧
    EndsJustly (claimedOutbox event (demoId 5)) (.finish true ⟨event, demoId 5, 1⟩ 3 4) (sentOutbox event (demoId 5)) ∧
    (sentOutbox event (demoId 5)).settlements = [⟨event, demoId 5, 1⟩] ∧ (sentOutbox event (demoId 5)).settlements.Nodup ∧
    ∀ success, (finish success ⟨event, demoId 5, 1⟩ 5 6 (sentOutbox event (demoId 5)).rows).1 ≠ .ok () := by
  obtain ⟨event, decoded, storable⟩ := demo_event
  have fits := (envelope_check_payload _ event decoded).trans storable
  have claimed := claimed_reachable event (demoId 5) decoded fits demo_token
  have moved := sent_outbox event (demoId 5)
  obtain ⟨_, excludes, counted, ends⟩ := outbox_leases_safe _ claimed
  have sent : outboxMachine.Reachable (sentOutbox event (demoId 5)) := .next _ _ (.finish true ⟨event, demoId 5, 1⟩ 3 4) claimed moved
  obtain ⟨⟨newest, once⟩, _⟩ := outbox_leases_safe _ sent
  refine ⟨event, excludes, counted, ends _ _ moved, rfl, once, fun success again => ?_⟩
  exact (newest ⟨event, demoId 5, 1⟩ (List.mem_singleton_self _) success 5 6 again).2 (List.mem_singleton_self _)

end N2F
