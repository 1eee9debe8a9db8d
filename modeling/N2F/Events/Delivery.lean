import N2F.Events.MailboxInvariant
import N2F.Events.OutboxSafety

set_option autoImplicit false

namespace N2F

open Ecma Postgres

variable {W : Type}

inductive Dispatch where
  | publishing (lease : Lease)
  | settling (lease : Lease) (receipt : Result Receipt)
  | returned (answer : Result Bool)
  | crashed
deriving DecidableEq

def dispatchCanceled : Failure := ⟨.canceled, "dispatch canceled", none, none⟩

def invalidReceipt : Failure := failure .unavailable "publisher receipt invalid" "events.invalid_receipt"

def afterClaim : Result (Option Lease) → Dispatch
  | .error e => .returned (.error e)
  | .ok none => .returned (.ok false)
  | .ok (some lease) => .publishing lease

def acknowledges (lease : Lease) : Result Receipt → Bool
  | .ok receipt => receipt.durable && receipt.eventId = lease.event.id
  | .error _ => false

def afterSettle (lease : Lease) (receipt : Result Receipt) : Result Unit → Result Bool
  | .error e => .error e
  | .ok () =>
      if acknowledges lease receipt then .ok true
      else
        match receipt with
        | .ok _ => .error invalidReceipt
        | .error e => .error e

structure World (W : Type) where
  outbox : Outbox
  mailbox : Mailbox W
  dispatches : List Dispatch

inductive WorldAction (W : Type) where
  | enqueue (raw : ByteArray) (writtenAt : ℕ)
  | cancel
  | claim (token : Str) (locked : List Str) (sweepAt selectAt : Str → ℕ) (leaseAt : ℕ) (outcome : Outcome)
  | publish (call : ℕ) (now : ℕ) (outcome : Outcome)
  | settle (call : ℕ) (checkAt delayAt : ℕ) (outcome : Outcome)
  | crash (call : ℕ)
  | mailbox (a : MailboxAction W)

def World.transact (s : World W) (a : OutboxAction) (outcome : Outcome) (dispatches : List Dispatch) : Option (World W) :=
  if outcome.applied then (s.outbox.step a).map fun o => { s with outbox := o, dispatches := dispatches }
  else some { s with dispatches := dispatches }

def World.step (s : World W) : WorldAction W → Option (World W)
  | .enqueue raw writtenAt => (s.outbox.step (.enqueue raw writtenAt)).map fun o => { s with outbox := o }
  | .cancel => some { s with dispatches := s.dispatches ++ [.returned (.error dispatchCanceled)] }
  | .claim token locked sweepAt selectAt leaseAt outcome =>
      let claimed := outcome.answer (claim token locked sweepAt selectAt leaseAt s.outbox.rows).1
      s.transact (.claim token locked sweepAt selectAt leaseAt) outcome (s.dispatches ++ [afterClaim claimed])
  | .publish call now outcome =>
      match s.dispatches[call]? with
      | some (.publishing lease) =>
          let published := s.mailbox.publish lease.event now outcome
          some { s with mailbox := published.2, dispatches := s.dispatches.set call (.settling lease published.1) }
      | _ => none
  | .settle call checkAt delayAt outcome =>
      match s.dispatches[call]? with
      | some (.settling lease receipt) =>
          let success := acknowledges lease receipt
          let settled := outcome.answer (finish success lease checkAt delayAt s.outbox.rows).1
          s.transact (.finish success lease checkAt delayAt) outcome
            (s.dispatches.set call (.returned (afterSettle lease receipt settled)))
      | _ => none
  | .crash call => some { s with dispatches := s.dispatches.set call .crashed }
  | .mailbox a => (s.mailbox.step a).map fun m => { s with mailbox := m }

def world (W : Type) : Machine (World W) (WorldAction W) := ⟨⟨outboxMachine.start, (mailboxMachine W).start, []⟩, World.step⟩

end N2F
