import N2F.Events.DeliveryInvariant

set_option autoImplicit false

namespace N2F

open Ecma Postgres

variable {W : Type}

def OncePerEvent (m : Mailbox W) : Prop :=
  ∀ id, ((attemptsAt m.commits id).filter Commit.accepted).length ≤ 1 ∧
    m.effects id = ((attemptsAt m.commits id).filter Commit.accepted).flatMap Commit.written

def WithProcessed (s t : Mailbox W) : Prop :=
  (∀ id, t.effects id = s.effects id ∨
    s.effects id = [] ∧ (∃ r ∈ s.rows, r.eventId = id ∧ r.state = .pending) ∧ ∃ r ∈ t.rows, r.eventId = id ∧ r.state = .processed) ∧
  ∀ r ∈ t.rows, r.state = .processed → r ∈ s.rows ∨
    ∃ c, t.commits = c :: s.commits ∧ c.event = r.eventId ∧ c.accepted = true ∧ c.writes = c.written

def RefusedLeaveNothing (m : Mailbox W) : Prop := ∀ c ∈ m.commits, ∀ e, c.answered = some (.error e) → c.writes = []

def AttemptsBounded (m : Mailbox W) : Prop :=
  ∀ r ∈ m.rows, r.attempts ≤ maxAttempts ∧ r.attempts = (attemptsAt m.commits r.eventId).length ∧
    (r.state = .dead → r.attempts = maxAttempts ∧ ∀ c ∈ attemptsAt m.commits r.eventId, ∃ e, c.answered = some (.error e))

theorem refused_writes (c : Commit W) (valid : c.Valid) (refused : c.accepted = false) : c.writes = [] := by
  rw [valid.2, refused]
  rfl

theorem accepted_writes (c : Commit W) (valid : c.Valid) (accepted : c.accepted = true) : c.writes = c.written := by
  rw [valid.2, if_pos accepted]

theorem refused_error (c : Commit W) (valid : c.Valid) (refused : c.accepted = false) : ∃ e, c.answered = some (.error e) := by
  obtain ⟨answered, _⟩ := valid
  cases answer : c.answered with
  | none => simp [answer] at answered
  | some result =>
      cases result with
      | error e => exact ⟨e, rfl⟩
      | ok v => simp [Commit.accepted, answer] at refused

theorem attempts_mem (commits : List (Commit W)) (id : Str) (c : Commit W) (member : c ∈ attemptsAt commits id) :
    c ∈ commits ∧ c.event = id := by
  simpa [attemptsAt] using member

theorem writes_accepted (attempts : List (Commit W)) (valid : ∀ c ∈ attempts, c.Valid) :
    attempts.flatMap Commit.writes = (attempts.filter Commit.accepted).flatMap Commit.written := by
  induction attempts with
  | nil => rfl
  | cons c rest ih =>
      have later := ih fun d member => valid d (List.mem_cons_of_mem c member)
      have good := valid c List.mem_cons_self
      cases accepted : c.accepted with
      | true => simp [accepted, later, accepted_writes c good accepted]
      | false => simp [accepted, later, refused_writes c good accepted]

theorem effects_accepted (m : Mailbox W) (valid : m.Invariant) (id : Str) :
    m.effects id = ((attemptsAt m.commits id).filter Commit.accepted).flatMap Commit.written :=
  writes_accepted _ fun c member => valid.commits c (attempts_mem m.commits id c member).1

theorem refused_filter (attempts : List (Commit W)) (refused : ∀ c ∈ attempts, c.accepted = false) :
    attempts.filter Commit.accepted = [] :=
  List.filter_eq_nil_iff.mpr fun c member => by simp [refused c member]

theorem once_per_event (m : Mailbox W) (valid : m.Invariant) : OncePerEvent m := by
  intro id
  refine ⟨?_, effects_accepted m valid id⟩
  by_cases known : ∃ r ∈ m.rows, r.eventId = id
  · obtain ⟨r, member, rfl⟩ := known
    have row := valid.rows r member
    by_cases processed : r.state = .processed
    · obtain ⟨last, earlier, same, accepted, refused⟩ := row.processed processed
      simp [same, accepted, refused_filter earlier refused]
    · simp [refused_filter _ (row.refused processed)]
  · have none : attemptsAt m.commits id = [] := attempts_none m.commits id fun c member same => known (by
      obtain ⟨r, inside, named⟩ := valid.known c member
      exact ⟨r, inside, named.trans same⟩)
    simp [none]

theorem effects_cons (m : Mailbox W) (c : Commit W) (rest : List (Commit W)) (same : m.commits = c :: rest) (id : Str) :
    m.effects id = (if c.event = id then c.writes else []) ++ (attemptsAt rest id).flatMap Commit.writes := by
  rw [Mailbox.effects, same, attempts_cons]
  split_ifs <;> simp

theorem pending_effects (m : Mailbox W) (valid : m.Invariant) (r : MailboxRow) (member : r ∈ m.rows) (pending : r.state = .pending) :
    m.effects r.eventId = [] := by
  have refused := (valid.rows r member).refused (by rw [pending]; exact fun same => nomatch same)
  rw [effects_accepted m valid, refused_filter _ refused]
  rfl

theorem advances_with_processed (s t : Mailbox W) (valid : s.Invariant) (later : t.Invariant) (advances : Advances s t) :
    WithProcessed s t := by
  cases advances with
  | rows commits kept =>
      refine ⟨fun id => .inl (by rw [Mailbox.effects, Mailbox.effects, commits]), fun r member processed => ?_⟩
      rcases kept r member with old | ⟨pending, _⟩
      · exact .inl old
      · rw [pending] at processed
        cases processed
  | attempt c r r' commits good before after named pending counted accepted others =>
      constructor
      · intro id
        have grown := effects_cons t c s.commits commits id
        by_cases mine : c.event = id
        · rw [if_pos mine] at grown
          cases success : c.accepted with
          | true =>
              right
              have idle := pending_effects s valid r before pending
              rw [named.1, mine] at idle
              exact ⟨idle, ⟨r, before, named.1.trans mine, pending⟩, r', after, named.2.trans mine, accepted.mpr success⟩
          | false =>
              left
              rw [grown, refused_writes c good success]
              rfl
        · left
          rw [grown, if_neg mine]
          rfl
      · intro q member processed
        by_cases mine : q.eventId = c.event
        · right
          obtain rfl := row_of_id MailboxRow.eventId t.rows later.distinct q r' member after (mine.trans named.2.symm)
          have success := accepted.mp processed
          exact ⟨c, commits, mine.symm, success, accepted_writes c good success⟩
        · exact .inl (others q member mine)

theorem world_advances (s t : World W) (a : WorldAction W) (reached : (world W).Reachable s) (moved : s.step a = some t) :
    Advances s.mailbox t.mailbox := by
  rcases world_runs_mailbox.2 s t a reached moved with same | ⟨b, stepped⟩
  · exact .rows (by rw [same]) fun r member => .inl (same ▸ member)
  · exact moved_advances s.mailbox t.mailbox b (world_mailbox s reached) (mailbox_step_moved s.mailbox t.mailbox b stepped)

theorem refused_leave_nothing (m : Mailbox W) (valid : m.Invariant) : RefusedLeaveNothing m := by
  intro c member e answered
  exact refused_writes c (valid.commits c member) (by simp [Commit.accepted, answered])

theorem attempts_bounded (m : Mailbox W) (valid : m.Invariant) : AttemptsBounded m := by
  intro r member
  have row := valid.rows r member
  refine ⟨row.bound, row.count, fun dead => ⟨row.dead dead, fun c inside => ?_⟩⟩
  have refused := row.refused (by rw [dead]; exact fun same => nomatch same) c inside
  exact refused_error c (valid.commits c (attempts_mem m.commits r.eventId c inside).1) refused

theorem delivery_safe (s : World W) (reached : (world W).Reachable s) :
    (∀ r ∈ s.outbox.rows, r.state = .sent → Delivered s.mailbox.rows r.eventId r.envelope) ∧
    (OncePerEvent s.mailbox ∧ ∀ a t, s.step a = some t → WithProcessed s.mailbox t.mailbox) ∧
    RefusedLeaveNothing s.mailbox ∧ AttemptsBounded s.mailbox := by
  have valid := world_mailbox s reached
  refine ⟨(world_invariant s reached).sent, ⟨once_per_event s.mailbox valid, fun a t moved => ?_⟩,
    refused_leave_nothing s.mailbox valid, attempts_bounded s.mailbox valid⟩
  exact advances_with_processed s.mailbox t.mailbox valid (world_mailbox t (.next s t a reached moved))
    (world_advances s t a reached moved)

def deliveredMailbox (event : Envelope) : Mailbox ℕ := ⟨[mailbox.fresh event.id event.text 3], [], [], []⟩

def consumedMailbox (event : Envelope) : Mailbox ℕ :=
  ⟨[⟨event.id, event.text, .processed, 1, 6 + retryDelay⟩], [], [⟨event.id, some (.ok ()), [7], [7]⟩], [.ok true]⟩

def consumeRun (id : Str) : List (MailboxAction ℕ) :=
  [.select (fun _ => 5) [] .committed, .execute id .savepoint, .execute id (.write 7), .execute id (.returns (.ok ())),
    .execute id .release, .execute id (.update 6), .commit id .committed]

theorem mailbox_run (s : World W) (m : Mailbox W) (actions : List (MailboxAction W)) (reached : (world W).Reachable s)
    (ran : (mailboxMachine W).run s.mailbox actions = some m) : (world W).Reachable { s with mailbox := m } := by
  induction actions generalizing s with
  | nil =>
      injection ran with same
      rwa [← same]
  | cons a rest ih =>
      obtain ⟨m', moved, later⟩ := Option.bind_eq_some_iff.mp ran
      refine ih { s with mailbox := m' } (.next s _ (.mailbox a) reached ?_) later
      exact Option.map_eq_some_iff.mpr ⟨m', moved, rfl⟩

section Demo

variable (event : Envelope) (token : Str) (decoded : decode event.raw = .ok event) (fits : envelopeCheck event.text = true)
  (parsed : parse token = .ok token)

include fits in
theorem delivered_answer : (mailboxMachine ℕ).start.publish event 3 .committed = (.ok ⟨event.id, true⟩, deliveredMailbox event) := by
  have written := insert_fresh mailbox event 3 [] fits (by simp)
  simp [mailboxMachine, Mailbox.publish, N2F.publish, written, Outcome.answer, Outcome.applied, deliveredMailbox]

include decoded in
theorem consumed_run : (mailboxMachine ℕ).run (deliveredMailbox event) (consumeRun event.id) = some (consumedMailbox event) := by
  have again : decode (encodeUtf8 event.text) = .ok event := (congrArg decode (text_bytes event)).trans decoded
  have found : select (fun _ => 5) ([] ++ []) [mailbox.fresh event.id event.text 3] = some (mailbox.fresh event.id event.text 3) := by
    simp [select, consumable, mailbox, maxAttempts, earliest]
  simp only [consumeRun, Machine.run, mailboxMachine, Mailbox.step, deliveredMailbox, Mailbox.locked, List.map_nil, found]
  simp [mailbox, again, Consumption.locks, Consumption.next, Mailbox.end, updateRow, nextState, Outcome.applied, Outcome.answer,
    consumeAnswer, consumedMailbox]

include decoded fits parsed in
theorem sent_reachable : (world ℕ).Reachable ⟨sentOutbox event token, deliveredMailbox event, [.returned (.ok true)]⟩ := by
  have enqueued : (world ℕ).Reachable ⟨enqueuedOutbox event, (mailboxMachine ℕ).start, []⟩ := by
    refine .next _ _ (.enqueue event.raw 1) .start ?_
    exact Option.map_eq_some_iff.mpr ⟨_, enqueued_step event decoded fits, rfl⟩
  have claimed : (world ℕ).Reachable ⟨claimedOutbox event token, (mailboxMachine ℕ).start, [.publishing ⟨event, token, 1⟩]⟩ := by
    refine .next _ _ (.claim token [] (fun _ => 2) (fun _ => 2) 2 .committed) enqueued ?_
    simp only [world, World.step, claimed_answer event token decoded parsed]
    exact Option.map_eq_some_iff.mpr ⟨_, claimed_step event token decoded parsed, rfl⟩
  have published : (world ℕ).Reachable
      ⟨claimedOutbox event token, deliveredMailbox event, [.settling ⟨event, token, 1⟩ (.ok ⟨event.id, true⟩)]⟩ := by
    refine .next _ _ (.publish 0 3 .committed) claimed ?_
    simp only [world, World.step, List.getElem?_cons_zero, delivered_answer event fits]
    rfl
  refine .next _ _ (.settle 0 3 4 .committed) published ?_
  have acknowledged : acknowledges ⟨event, token, 1⟩ (.ok ⟨event.id, true⟩) = true := by simp [acknowledges]
  simp only [world, World.step, List.getElem?_cons_zero, acknowledged, sent_answer event token]
  refine Option.map_eq_some_iff.mpr ⟨_, sent_outbox event token, ?_⟩
  simp [Outcome.answer, afterSettle, acknowledged]

include decoded fits parsed in
theorem consumed_reachable : (world ℕ).Reachable ⟨sentOutbox event token, consumedMailbox event, [.returned (.ok true)]⟩ :=
  mailbox_run _ _ (consumeRun event.id) (sent_reachable event token decoded fits parsed) (consumed_run event decoded)

end Demo

theorem delivery_safe_demo : ∃ event : Envelope, (consumedMailbox event).effects event.id = [7] ∧
    Delivered (consumedMailbox event).rows event.id event.text ∧ AttemptsBounded (consumedMailbox event) := by
  obtain ⟨event, decoded, storable⟩ := demo_event
  have fits := (envelope_check_payload _ event decoded).trans storable
  obtain ⟨sent, _, _, bounded⟩ := delivery_safe _ (consumed_reachable event (demoId 5) decoded fits demo_token)
  exact ⟨event, by simp [Mailbox.effects, attemptsAt, consumedMailbox], sent _ (List.mem_singleton_self _) rfl, bounded⟩

end N2F
