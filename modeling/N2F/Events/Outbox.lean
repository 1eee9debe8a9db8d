import N2F.Events.Storage
import N2F.Machine

set_option autoImplicit false

namespace N2F

open Ecma Postgres

structure Lease where
  event : Envelope
  token : Str
  attempt : ℕ
deriving DecidableEq

-- interval '30 seconds'
def leaseSpan : ℕ := 30000000

-- $1::uuid on a text that parses
def uuid (token : Str) : Str := token.map lower

-- lease_until IS NULL OR lease_until<=clock_timestamp()
def expired (t : ℕ) (lease : Option LeaseMark) : Bool := lease.all fun m => m.expires ≤ t

def sweep (t : ℕ) (r : OutboxRow) : OutboxRow :=
  if r.state = .pending ∧ r.attempts = maxAttempts ∧ expired t r.lease = true then { r with state := .dead, lease := none } else r

def claimable (t : ℕ) (r : OutboxRow) : Bool :=
  r.state = .pending && r.attempts < maxAttempts && r.availableAt ≤ t && expired t r.lease

-- clock_timestamp() moves on while a statement runs: each row has its own reading.
def sweepAll (clock : Str → ℕ) (rows : List OutboxRow) : List OutboxRow := rows.map fun r => sweep (clock r.eventId) r

-- FOR UPDATE SKIP LOCKED
def candidate (clock : Str → ℕ) (locked : List Str) (rows : List OutboxRow) : Option OutboxRow :=
  earliest outbox (rows.filter fun r => claimable (clock r.eventId) r && !locked.contains r.eventId)

def take (token id : Str) (t : ℕ) (r : OutboxRow) : OutboxRow :=
  if r.eventId = id then { r with lease := some ⟨uuid token, t + leaseSpan⟩, attempts := r.attempts + 1 } else r

-- One transaction; a row that does not decode rolls the whole claim back.
def claim (token : Str) (locked : List Str) (sweepAt selectAt : Str → ℕ) (leaseAt : ℕ) (rows : List OutboxRow) :
    Result (Option Lease) × List OutboxRow :=
  match parse token with
  | .error e => (.error e, rows)
  | .ok _ =>
      match candidate selectAt locked (sweepAll sweepAt rows) with
      | none => (.ok none, sweepAll sweepAt rows)
      | some r =>
          match decode (encodeUtf8 r.envelope) with
          | .error e => (.error e, rows)
          | .ok event =>
              (.ok (some ⟨event, token, r.attempts + 1⟩), (sweepAll sweepAt rows).map (take token r.eventId leaseAt))

def settles (lease : Lease) (t : ℕ) (r : OutboxRow) : Bool :=
  r.eventId = lease.event.id && r.state = .pending && r.lease.any fun m => m.token = uuid lease.token && t < m.expires

def settle (success : Bool) (t : ℕ) (r : OutboxRow) : OutboxRow :=
  { r with
    state := if success then .sent else if maxAttempts ≤ r.attempts then .dead else .pending
    lease := none
    availableAt := t + retryDelay }

def finish (success : Bool) (lease : Lease) (checkAt delayAt : ℕ) (rows : List OutboxRow) : Result Unit × List OutboxRow :=
  if rows.countP (settles lease checkAt) = 1 then
    (.ok (), rows.map fun r => if settles lease checkAt r then settle success delayAt r else r)
  else (.error (conflict "lease_lost"), rows)

-- The table, the database time, and the history of granted and settled leases,
-- newest first. A lease stays in the history: whoever holds it may use it at any
-- later time, any number of times, or crash and never use it.
structure Outbox where
  rows : List OutboxRow
  now : ℕ
  leases : List Lease
  settlements : List Lease

inductive OutboxAction where
  | enqueue (raw : ByteArray) (writtenAt : ℕ)
  | claim (token : Str) (locked : List Str) (sweepAt selectAt : Str → ℕ) (leaseAt : ℕ)
  | finish (success : Bool) (lease : Lease) (checkAt delayAt : ℕ)

def claimTimes (now : ℕ) (sweepAt selectAt : Str → ℕ) (leaseAt : ℕ) (rows : List OutboxRow) : Prop :=
  now ≤ leaseAt ∧ ∀ r ∈ rows, now ≤ sweepAt r.eventId ∧ sweepAt r.eventId ≤ selectAt r.eventId ∧ selectAt r.eventId ≤ leaseAt

instance (now : ℕ) (sweepAt selectAt : Str → ℕ) (leaseAt : ℕ) (rows : List OutboxRow) :
    Decidable (claimTimes now sweepAt selectAt leaseAt rows) := inferInstanceAs (Decidable (_ ∧ _))

def Outbox.step (s : Outbox) : OutboxAction → Option Outbox
  | .enqueue raw writtenAt =>
      match decode raw with
      | .error _ => none
      | .ok event =>
          if s.now ≤ writtenAt then some { s with rows := (enqueue event writtenAt s.rows).2, now := writtenAt } else none
  | .claim token locked sweepAt selectAt leaseAt =>
      if claimTimes s.now sweepAt selectAt leaseAt s.rows ∧ (∀ l ∈ s.leases, uuid l.token ≠ uuid token) then
        match claim token locked sweepAt selectAt leaseAt s.rows with
        | (.ok (some lease), rows) => some { s with rows := rows, now := leaseAt, leases := lease :: s.leases }
        | (_, rows) => some { s with rows := rows, now := leaseAt }
      else none
  | .finish success lease checkAt delayAt =>
      if lease ∈ s.leases ∧ s.now ≤ checkAt ∧ checkAt ≤ delayAt then
        match finish success lease checkAt delayAt s.rows with
        | (.ok (), rows) => some { s with rows := rows, now := delayAt, settlements := lease :: s.settlements }
        | (.error _, rows) => some { s with rows := rows, now := delayAt }
      else none

def outboxMachine : Machine Outbox OutboxAction := ⟨⟨[], 0, [], []⟩, Outbox.step⟩

def granted (leases : List Lease) (id : Str) : List Lease := leases.filter fun l => l.event.id = id

def latest (leases : List Lease) (id : Str) : Option Lease := (granted leases id).head?

theorem candidate_claimable (clock : Str → ℕ) (locked : List Str) (rows : List OutboxRow) (r : OutboxRow)
    (found : candidate clock locked rows = some r) : r ∈ rows ∧ claimable (clock r.eventId) r = true := by
  obtain ⟨member, held⟩ := List.mem_filter.mp (earliest_mem outbox _ r found)
  simp only [Bool.and_eq_true] at held
  exact ⟨member, held.1⟩

inductive Moved (s : Outbox) : OutboxAction → Outbox → Prop where
  | idle (a : OutboxAction) (now : ℕ) (later : s.now ≤ now) : Moved s a { s with now := now }
  | enqueue (raw : ByteArray) (event : Envelope) (writtenAt : ℕ) (decoded : decode raw = .ok event)
      (absent : ∀ r ∈ s.rows, r.eventId ≠ event.id) (later : s.now ≤ writtenAt) :
      Moved s (.enqueue raw writtenAt)
        { s with rows := s.rows ++ [outbox.fresh event.id event.text writtenAt], now := writtenAt }
  | swept (token : Str) (locked : List Str) (sweepAt selectAt : Str → ℕ) (leaseAt : ℕ)
      (times : claimTimes s.now sweepAt selectAt leaseAt s.rows) :
      Moved s (.claim token locked sweepAt selectAt leaseAt) { s with rows := sweepAll sweepAt s.rows, now := leaseAt }
  | claim (token : Str) (locked : List Str) (sweepAt selectAt : Str → ℕ) (leaseAt : ℕ) (r : OutboxRow) (event : Envelope)
      (times : claimTimes s.now sweepAt selectAt leaseAt s.rows) (fresh : ∀ l ∈ s.leases, uuid l.token ≠ uuid token)
      (member : r ∈ sweepAll sweepAt s.rows) (ready : claimable (selectAt r.eventId) r = true)
      (decoded : decode (encodeUtf8 r.envelope) = .ok event) :
      Moved s (.claim token locked sweepAt selectAt leaseAt)
        { s with
          rows := (sweepAll sweepAt s.rows).map (take token r.eventId leaseAt)
          now := leaseAt
          leases := ⟨event, token, r.attempts + 1⟩ :: s.leases }
  | finish (success : Bool) (lease : Lease) (checkAt delayAt : ℕ) (known : lease ∈ s.leases) (later : s.now ≤ checkAt)
      (ordered : checkAt ≤ delayAt) (r : OutboxRow) (member : r ∈ s.rows) (owns : settles lease checkAt r = true) :
      Moved s (.finish success lease checkAt delayAt)
        { s with
          rows := s.rows.map fun r => if settles lease checkAt r then settle success delayAt r else r
          now := delayAt
          settlements := lease :: s.settlements }

theorem finish_cases (success : Bool) (lease : Lease) (checkAt delayAt : ℕ) (rows : List OutboxRow) :
    (∃ r ∈ rows, settles lease checkAt r = true ∧ finish success lease checkAt delayAt rows =
      (.ok (), rows.map fun r => if settles lease checkAt r then settle success delayAt r else r)) ∨
    finish success lease checkAt delayAt rows = (.error (conflict "lease_lost"), rows) := by
  by_cases single : rows.countP (settles lease checkAt) = 1
  · left
    obtain ⟨r, member, owns⟩ := List.countP_pos_iff.mp (by omega : 0 < rows.countP (settles lease checkAt))
    exact ⟨r, member, owns, by rw [finish, if_pos single]⟩
  · exact .inr (by rw [finish, if_neg single])

theorem step_moved (s t : Outbox) (a : OutboxAction) (moved : s.step a = some t) : Moved s a t := by
  cases a with
  | enqueue raw writtenAt =>
      cases decoded : decode raw with
      | error e => simp [Outbox.step, decoded] at moved
      | ok event =>
          simp only [Outbox.step, decoded] at moved
          split_ifs at moved with later
          obtain rfl := Option.some.inj moved
          rcases insert_rows outbox event writtenAt s.rows with same | ⟨absent, added⟩
          · rw [enqueue, same]
            exact .idle _ writtenAt later
          · rw [enqueue, added]
            exact .enqueue raw event writtenAt decoded absent later
  | claim token locked sweepAt selectAt leaseAt =>
      simp only [Outbox.step] at moved
      split_ifs at moved with guard
      obtain ⟨times, fresh⟩ := guard
      cases parsed : parse token with
      | error e =>
          simp only [claim, parsed, Option.some.injEq] at moved
          rw [← moved]
          exact .idle _ leaseAt times.1
      | ok id =>
          cases found : candidate selectAt locked (sweepAll sweepAt s.rows) with
          | none =>
              simp only [claim, parsed, found, Option.some.injEq] at moved
              rw [← moved]
              exact .swept token locked sweepAt selectAt leaseAt times
          | some r =>
              obtain ⟨member, ready⟩ := candidate_claimable selectAt locked _ r found
              cases decoded : decode (encodeUtf8 r.envelope) with
              | error e =>
                  simp only [claim, parsed, found, decoded, Option.some.injEq] at moved
                  rw [← moved]
                  exact .idle _ leaseAt times.1
              | ok event =>
                  simp only [claim, parsed, found, decoded, Option.some.injEq] at moved
                  rw [← moved]
                  exact .claim token locked sweepAt selectAt leaseAt r event times fresh member ready decoded
  | finish success lease checkAt delayAt =>
      simp only [Outbox.step] at moved
      split_ifs at moved with guard
      obtain ⟨known, later, ordered⟩ := guard
      rcases finish_cases success lease checkAt delayAt s.rows with ⟨r, member, owns, same⟩ | same
      · simp only [same, Option.some.injEq] at moved
        rw [← moved]
        exact .finish success lease checkAt delayAt known later ordered r member owns
      · simp only [same, Option.some.injEq] at moved
        rw [← moved]
        exact .idle _ delayAt (by omega)

end N2F
