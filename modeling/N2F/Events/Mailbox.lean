import N2F.Events.Tables
import N2F.Postgres.TransactionOutcome

set_option autoImplicit false

namespace N2F

open Ecma Postgres

variable {W : Type}

-- Where an open consume transaction stands. After the savepoint the callback
-- runs; a rejected one is rolled back before the savepoint is released.
inductive ConsumePhase where
  | selected
  | calling
  | handled (result : Result Unit)
  | undone (rejected : Failure)
  | released (rejected : Option Failure)
  | updated (rejected : Option Failure) (state : MailboxState) (availableAt : ℕ)
deriving DecidableEq

-- The row an open transaction holds locked, its uncommitted writes and those the
-- savepoint goes back to. What the callback answered and wrote is kept aside.
structure Consumption (W : Type) where
  row : MailboxRow
  event : Envelope
  phase : ConsumePhase
  writes : List W
  saved : List W
  answered : Option (Result Unit)
  written : List W

inductive Statement (W : Type) where
  | savepoint
  | write (w : W)
  | returns (result : Result Unit)
  | throws (e : Thrown)
  | rollbackTo
  | release
  | update (clock : ℕ)

def nextState (rejected : Option Failure) (attempts : ℕ) : MailboxState :=
  match rejected with
  | none => .processed
  | some _ => if maxAttempts ≤ attempts + 1 then .dead else .pending

def Consumption.next (c : Consumption W) : Statement W → Option (Consumption W)
  | .savepoint =>
      match c.phase with
      | .selected => some { c with phase := .calling, saved := c.writes }
      | _ => none
  | .write w =>
      match c.phase with
      | .calling => some { c with writes := c.writes ++ [w], written := c.written ++ [w] }
      | _ => none
  | .returns result =>
      match c.phase with
      | .calling => some { c with phase := .handled result, answered := some result }
      | _ => none
  | .throws e =>
      match c.phase with
      | .calling => some { c with phase := .handled (.error (map e)), answered := some (.error (map e)) }
      | _ => none
  | .rollbackTo =>
      match c.phase with
      | .handled (.error e) => some { c with phase := .undone e, writes := c.saved }
      | _ => none
  | .release =>
      match c.phase with
      | .handled (.ok ()) => some { c with phase := .released none }
      | .undone e => some { c with phase := .released (some e) }
      | _ => none
  | .update clock =>
      match c.phase with
      | .released rejected =>
          some { c with phase := .updated rejected (nextState rejected c.row.attempts) (clock + retryDelay) }
      | _ => none

-- UPDATE .. WHERE event_id=$1
def updateRow (id : Str) (state : MailboxState) (availableAt : ℕ) (r : MailboxRow) : MailboxRow :=
  if r.eventId = id then { r with state := state, attempts := r.attempts + 1, availableAt := availableAt } else r

def consumable (t : ℕ) (r : MailboxRow) : Bool := r.state = .pending && r.attempts < maxAttempts && r.availableAt ≤ t

-- FOR UPDATE SKIP LOCKED
def select (clock : Str → ℕ) (locked : List Str) (rows : List MailboxRow) : Option MailboxRow :=
  earliest mailbox (rows.filter fun r => consumable (clock r.eventId) r && !locked.contains r.eventId)

structure Commit (W : Type) where
  event : Str
  answered : Option (Result Unit)
  writes : List W
  written : List W

structure Mailbox (W : Type) where
  rows : List MailboxRow
  consumptions : List (Consumption W)
  commits : List (Commit W)
  consumed : List (Result Bool)

def Consumption.locks (id : Str) (c : Consumption W) : Bool := c.row.eventId = id

def Mailbox.locked (s : Mailbox W) : List Str := s.consumptions.map fun c => c.row.eventId

def Mailbox.end (s : Mailbox W) (id : Str) (answer : Result Bool) : Mailbox W :=
  { s with consumptions := s.consumptions.filter fun c => !c.locks id, consumed := answer :: s.consumed }

def consumeAnswer (result : Result Bool) (rejected : Option Failure) : Result Bool :=
  match result, rejected with
  | .ok _, some e => .error e
  | result, _ => result

def Mailbox.publish (s : Mailbox W) (event : Envelope) (now : ℕ) (outcome : Outcome) : Result Receipt × Mailbox W :=
  let body := N2F.publish event now s.rows
  (outcome.answer body.1, { s with rows := if outcome.applied then body.2 else s.rows })

inductive MailboxAction (W : Type) where
  | publish (raw : ByteArray) (now : ℕ) (outcome : Outcome)
  | select (clock : Str → ℕ) (skipped : List Str) (outcome : Outcome)
  | execute (id : Str) (statement : Statement W)
  | abort (id : Str) (e : Failure)
  | commit (id : Str) (outcome : Outcome)

def Mailbox.step (s : Mailbox W) : MailboxAction W → Option (Mailbox W)
  | .publish raw now outcome =>
      match decode raw with
      | .error _ => none
      | .ok event => some (s.publish event now outcome).2
  | .select clock skipped outcome =>
      match select clock (skipped ++ s.locked) s.rows with
      | none => some { s with consumed := outcome.answer (.ok false) :: s.consumed }
      | some r =>
          match decode (encodeUtf8 r.envelope) with
          | .error e => some { s with consumed := outcome.answer (.error e) :: s.consumed }
          | .ok event => some { s with consumptions := ⟨r, event, .selected, [], [], none, []⟩ :: s.consumptions }
  | .execute id statement =>
      match s.consumptions.find? (Consumption.locks id) with
      | none => none
      | some c =>
          (c.next statement).map fun c' =>
            { s with consumptions := s.consumptions.map fun d => if d.locks id then c' else d }
  | .abort id e => if id ∈ s.locked then some (s.end id (.error e)) else none
  | .commit id outcome =>
      match s.consumptions.find? (Consumption.locks id) with
      | none => none
      | some c =>
          match c.phase with
          | .updated rejected state availableAt =>
              let ended := s.end id (consumeAnswer (outcome.answer (.ok true)) rejected)
              if outcome.applied then
                some { ended with
                  rows := s.rows.map (updateRow c.event.id state availableAt)
                  commits := ⟨c.event.id, c.answered, c.writes, c.written⟩ :: s.commits }
              else some ended
          | _ => none

def mailboxMachine (W : Type) : Machine (Mailbox W) (MailboxAction W) := ⟨⟨[], [], [], []⟩, Mailbox.step⟩

def attemptsAt (commits : List (Commit W)) (id : Str) : List (Commit W) := commits.filter fun c => c.event = id

def Mailbox.effects (s : Mailbox W) (id : Str) : List W := (attemptsAt s.commits id).flatMap Commit.writes

def Commit.accepted (c : Commit W) : Bool := c.answered = some (.ok ())

end N2F
