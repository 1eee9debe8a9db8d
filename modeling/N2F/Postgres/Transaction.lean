import N2F.Errors
import N2F.Machine
import Mathlib.Data.Nat.Notation
import Mathlib.Tactic.SplitIfs

set_option autoImplicit false

namespace N2F

-- What can be thrown: an error answer of the server (pg.DatabaseError), a
-- failure or its carrier, or any other value.
inductive Thrown where
  | database (code : Option String)
  | failure (f : Failure)
  | foreign
deriving DecidableEq

def timedOut : Failure := failure .timeout "database operation timed out" "database.timeout"

def uncertain : Failure := failure .unavailable "database commit outcome uncertain" "database.commit_uncertain"

def closed : Failure := failure .unavailable "database closed" "database.closed"

def canceled : Failure := failure .canceled "database operation canceled" "database.canceled"

def databaseFailed : Failure := failure .internal "database operation failed" "database.failed"

def transactionAborted : Failure := failure .internal "database transaction aborted" "database.failed"

def map : Thrown → Failure
  | .failure f => f
  | .database code =>
      if code.getD "" ∈ ["23505", "40001", "40P01"] then failure .conflict "database operation failed" "database.conflict"
      else if code = some "57014" then timedOut
      else databaseFailed
  | .foreign => failure .unavailable "database operation failed" "database.unavailable"

def commitFailure : Thrown → Failure
  | .database code => map (.database code)
  | .failure _ | .foreign => uncertain

variable {T : Type}

-- Where a call stands: in each stage but the last two it waits for an event.
inductive Stage (T : Type) where
  | called
  | connecting
  | beginning
  | calling
  | rollingBack (refused : Failure)
  | committing (value : T)
  | awaiting
  | done

inductive Arrival (T : Type) where
  | answered (commit : Bool)
  | returned (value : Result T)
  | threw (e : Thrown)

-- What came back for COMMIT. A lost answer is an error that is not the server's.
inductive CommitAnswer where
  | committed
  | rolledBack
  | refused (code : Option String)
  | lost (e : Thrown)
deriving DecidableEq

def CommitAnswer.arrival : CommitAnswer → Arrival T
  | .committed => .answered true
  | .rolledBack => .answered false
  | .refused code => .threw (.database code)
  | .lost e => .threw e

-- The leased client: the flag that guards its release, and what was done with it.
structure Client where
  obtained : Bool
  released : Bool
  removals : ℕ
  releases : List Bool

def Client.release (destroy : Bool) (c : Client) : Client :=
  if c.released then c else { c with released := true, removals := c.removals + 1, releases := c.releases ++ [destroy] }

-- One call of Database.transaction: the variables of its closure, the promises it
-- races, and what callback and server did: whether COMMIT was sent, whether
-- the server made the transaction durable, and what came back.
structure Transaction (T : Type) where
  stage : Stage T
  arrived : Option (Arrival T)
  closing : Bool
  signalAborted : Bool
  listening : Bool
  timerSet : Bool
  client : Client
  committing : Bool
  controllerAborted : Bool
  stopped : Option (Result T)
  raced : Option (Result T)
  returned : Option (Result T)
  sent : Bool
  applied : Bool
  reply : Option CommitAnswer

-- Promise.race takes the promise that settles first.
def Transaction.race (r : Result T) (s : Transaction T) : Transaction T := { s with raced := s.raced.or (some r) }

def Transaction.cancel (r : Result T) (s : Transaction T) : Transaction T :=
  match s.stopped with
  | some _ => s
  | none => { s with stopped := some r }.race r

def Transaction.stop (byCaller : Bool) (s : Transaction T) : Transaction T :=
  { s with controllerAborted := true, client := s.client.release true }.cancel
    (.error (if s.committing then uncertain else if byCaller then canceled else timedOut))

def Transaction.settle (r : Result T) (s : Transaction T) : Transaction T :=
  { s with stage := .done, arrived := none, client := s.client.release false }.race r

def Transaction.fail (e : Thrown) (s : Transaction T) : Transaction T :=
  { s with client := s.client.release true }.settle (.error (if s.committing then commitFailure e else map e))

def Transaction.resume (s : Transaction T) : Option (Transaction T) :=
  match s.stage, s.arrived with
  | .beginning, some (.answered _) => some { s with stage := .calling, arrived := none }
  | .beginning, some (.threw e) => some (s.fail e)
  | .calling, some (.threw e) => some (s.fail e)
  | .calling, some (.returned value) =>
      if s.controllerAborted then some { s with stage := .awaiting, arrived := none }
      else
        match value with
        | .error refused => some { s with stage := .rollingBack refused, arrived := none }
        | .ok v => some { s with stage := .committing v, arrived := none, committing := true, sent := true }
  | .rollingBack refused, some (.answered _) => some (s.settle (.error refused))
  | .rollingBack _, some (.threw e) => some (s.fail e)
  | .committing v, some (.answered commit) => some (s.settle (if commit then .ok v else .error transactionAborted))
  | .committing _, some (.threw e) => some (s.fail e)
  | .awaiting, none => s.stopped.map fun r => s.settle r
  | _, _ => none

inductive TransactionEvent (T : Type) where
  | close
  | abort
  | timer
  | call
  | connected
  | connectFails (e : Thrown)
  | answers
  | fails (e : Thrown)
  | returns (value : Result T)
  | throws (e : Thrown)
  | applies
  | replies (answer : CommitAnswer)
  | resume
  | finish

def Transaction.connect (s : Transaction T) : Transaction T :=
  let s := { s with client := { s.client with obtained := true }, timerSet := true, listening := true }
  if s.signalAborted then { s.stop true with stage := .awaiting } else { s with stage := .beginning }

def Stage.querying : Stage T → Bool
  | .beginning | .rollingBack _ => true
  | _ => false

def Stage.isCalling : Stage T → Bool
  | .calling => true
  | _ => false

def Stage.isCommitting : Stage T → Bool
  | .committing _ => true
  | _ => false

def CommitAnswer.isLost : CommitAnswer → Bool
  | .lost _ => true
  | .committed | .rolledBack | .refused _ => false

-- The server answers with what it did; an error that is not the server's says
-- nothing of it.
def CommitAnswer.allowed (applied : Bool) : CommitAnswer → Bool
  | .committed => applied
  | .rolledBack | .refused _ => !applied
  | .lost (.database _) => false
  | .lost (.failure _) | .lost .foreign => true

def Transaction.step (s : Transaction T) : TransactionEvent T → Option (Transaction T)
  | .close => some { s with closing := true }
  | .abort =>
      if s.signalAborted then none
      else if s.listening then some ({ s with signalAborted := true, listening := false }.stop true)
      else some { s with signalAborted := true }
  | .timer => if s.timerSet then some ({ s with timerSet := false }.stop false) else none
  | .call =>
      match s.stage with
      | .called =>
          if s.closing then some { s with stage := .done, raced := some (.error closed) }
          else if s.signalAborted then some { s with stage := .done, raced := some (.error canceled) }
          else some { s with stage := .connecting }
      | _ => none
  | .connected =>
      match s.stage with
      | .connecting => some s.connect
      | _ => none
  | .connectFails e =>
      match s.stage with
      | .connecting => some { s with stage := .done, raced := some (.error (map e)) }
      | _ => none
  | .answers => if s.stage.querying ∧ s.arrived.isNone then some { s with arrived := some (.answered false) } else none
  | .fails e => if s.stage.querying ∧ s.arrived.isNone then some { s with arrived := some (.threw e) } else none
  | .returns value =>
      if s.stage.isCalling ∧ s.arrived.isNone then some { s with arrived := some (.returned value), returned := some value }
      else none
  | .throws e => if s.stage.isCalling ∧ s.arrived.isNone then some { s with arrived := some (.threw e) } else none
  | .applies => if s.sent ∧ s.reply.all CommitAnswer.isLost then some { s with applied := true } else none
  | .replies answer =>
      if s.stage.isCommitting ∧ s.arrived.isNone ∧ answer.allowed s.applied then
        some { s with arrived := some answer.arrival, reply := some answer }
      else none
  | .resume => s.resume
  | .finish => if s.raced.isSome then some { s with timerSet := false, listening := false } else none

inductive Transaction.Moves (s : Transaction T) : TransactionEvent T → Transaction T → Prop where
  | close : Moves s .close { s with closing := true }
  | abortHeard (first : ¬ s.signalAborted = true) (listening : s.listening = true) :
      Moves s .abort ({ s with signalAborted := true, listening := false }.stop true)
  | abortUnheard (first : ¬ s.signalAborted = true) (deaf : ¬ s.listening = true) : Moves s .abort { s with signalAborted := true }
  | timer (armed : s.timerSet = true) : Moves s .timer ({ s with timerSet := false }.stop false)
  | callClosed (stage : s.stage = .called) (closing : s.closing = true) :
      Moves s .call { s with stage := .done, raced := some (.error closed) }
  | callCanceled (stage : s.stage = .called) (aborted : s.signalAborted = true) :
      Moves s .call { s with stage := .done, raced := some (.error canceled) }
  | call (stage : s.stage = .called) (running : ¬ s.closing = true) (wanted : ¬ s.signalAborted = true) :
      Moves s .call { s with stage := .connecting }
  | connected (stage : s.stage = .connecting) : Moves s .connected s.connect
  | connectFails (e : Thrown) (stage : s.stage = .connecting) :
      Moves s (.connectFails e) { s with stage := .done, raced := some (.error (map e)) }
  | answers (waiting : s.stage.querying ∧ s.arrived.isNone) : Moves s .answers { s with arrived := some (.answered false) }
  | fails (e : Thrown) (waiting : s.stage.querying ∧ s.arrived.isNone) : Moves s (.fails e) { s with arrived := some (.threw e) }
  | returns (value : Result T) (waiting : s.stage.isCalling ∧ s.arrived.isNone) :
      Moves s (.returns value) { s with arrived := some (.returned value), returned := some value }
  | throws (e : Thrown) (waiting : s.stage.isCalling ∧ s.arrived.isNone) : Moves s (.throws e) { s with arrived := some (.threw e) }
  | applies (sent : s.sent ∧ s.reply.all CommitAnswer.isLost) : Moves s .applies { s with applied := true }
  | replies (answer : CommitAnswer) (waiting : s.stage.isCommitting ∧ s.arrived.isNone ∧ answer.allowed s.applied) :
      Moves s (.replies answer) { s with arrived := some answer.arrival, reply := some answer }
  | resume (t : Transaction T) (moved : s.resume = some t) : Moves s .resume t
  | finish (raced : s.raced.isSome = true) : Moves s .finish { s with timerSet := false, listening := false }

theorem transaction_moves (s t : Transaction T) (event : TransactionEvent T) (moved : s.step event = some t) : s.Moves event t := by
  cases event with
  | close =>
      obtain rfl := Option.some.inj moved
      exact .close
  | abort =>
      simp only [Transaction.step] at moved
      split_ifs at moved with again listening
      · obtain rfl := Option.some.inj moved
        exact .abortHeard again listening
      · obtain rfl := Option.some.inj moved
        exact .abortUnheard again listening
  | call =>
      simp only [Transaction.step] at moved
      split at moved
      · next stage =>
          split_ifs at moved with closing aborted
          · obtain rfl := Option.some.inj moved
            exact .callClosed stage closing
          · obtain rfl := Option.some.inj moved
            exact .callCanceled stage aborted
          · obtain rfl := Option.some.inj moved
            exact .call stage closing aborted
      · cases moved
  | connected =>
      simp only [Transaction.step] at moved
      split at moved
      · next stage =>
          obtain rfl := Option.some.inj moved
          exact .connected stage
      · cases moved
  | connectFails e =>
      simp only [Transaction.step] at moved
      split at moved
      · next stage =>
          obtain rfl := Option.some.inj moved
          exact .connectFails e stage
      · cases moved
  | timer | answers | fails e | returns value | throws e | applies | replies answer | finish =>
      simp only [Transaction.step, Option.ite_none_right_eq_some, Option.some.injEq] at moved
      obtain ⟨guard, rfl⟩ := moved
      constructor
      exact guard
  | resume => exact .resume t moved

def transactionMachine (T : Type) : Machine (Transaction T) (TransactionEvent T) :=
  ⟨{ stage := .called
     arrived := none
     closing := false
     signalAborted := false
     listening := false
     timerSet := false
     client := ⟨false, false, 0, []⟩
     committing := false
     controllerAborted := false
     stopped := none
     raced := none
     returned := none
     sent := false
     applied := false
     reply := none }, Transaction.step⟩

end N2F
