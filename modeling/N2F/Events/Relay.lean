import N2F.Events.Publishers
import N2F.Events.DeliverySafety
import N2F.Reliance
import N2F.Roster

set_option autoImplicit false

namespace N2F.Broker

open Ecma Operation

-- A message the server keeps: the Nats-Msg-Id it came with, and its data.
structure Stored where
  id : Str
  data : ByteArray

-- The stream counts its messages from one and refuses new ones when it is full. A
-- delivery gives a message a reply subject of its own. The wire has every request that
-- went out: the server takes it at any later time, any number of times, or never.
structure Stream where
  messages : List Stored
  deliveries : List (Str × ℕ)
  acked : List ℕ
  wire : List Call

def sequence (place : ℕ) : Number := Number.ofInt (place + 1)

def Stream.confirms (config : Config) (s : Stream) (id : Str) (m : Msg) : Bool :=
  match Ecma.parse (decodeLossy m.data) with
  | none => true
  | some ack =>
      match acknowledged config ack with
      | .error _ => true
      | .ok (seq, _) => s.messages.zipIdx.any fun e => sequence e.2 = seq && e.1.id = id

def Stream.returns (config : Config) (s : Stream) (c : Call) (m : Msg) : Bool :=
  s.messages.zipIdx.all fun e =>
    c ≠ getCall config (sequence e.2) ||
      (((decodeUtf8 m.data).bind Ecma.parse).bind storedData).all fun data => base64Decode data = e.1.data.data.toList

def Stream.pulls (s : Stream) (m : Msg) : Bool :=
  isEmptyPull m || m.reply.all fun reply =>
    reply = [] || s.deliveries.any fun d => d.1 = reply && s.messages[d.2]?.any fun stored => stored.data = m.data

def Stream.answers (config : Config) (s : Stream) : Call → Answer → Bool
  | .request _ _ (some (id, _)), .message m => s.confirms config id m
  | .request subject data none, .message m =>
      s.returns config (.request subject data none) m && (.request subject data none ≠ nextCall config || s.pulls m)
  | _, _ => false

def Call.isRequest : Call → Bool
  | .request _ _ _ => true
  | .sink _ => false

def Stream.sends (s : Stream) (c : Option Call) : Stream := { s with wire := s.wire ++ c.toList.filter Call.isRequest }

def Stream.admits {α : Type} (config : Config) (s : Stream) (r : Run Call Answer Thrown Failure α) : Event Answer Thrown → Bool
  | .answer (.ok a) =>
      match r.point with
      | .awaiting c _ => s.answers config c a
      | _ => false
  | .answer (.error e) => e = .other
  | _ => true

inductive StreamAction where
  | store (c : Call)
  | deliver (place : ℕ) (reply : Str)
  | acknowledge (c : Call)

-- A message whose id the server remembers is not stored again; it forgets after the
-- duplicate window, so a second copy may join the stream.
def Stream.step (config : Config) (s : Stream) : StreamAction → Option Stream
  | .store (.request subject' data (some (id, expected))) =>
      if .request subject' data (some (id, expected)) ∈ s.wire ∧ subject' = subject config ∧ expected = config.stream then
        some { s with messages := s.messages ++ [⟨id, data⟩] }
      else none
  | .deliver place reply =>
      if place < s.messages.length ∧ s.deliveries.all (fun d => d.1 ≠ reply) = true then
        some { s with deliveries := s.deliveries ++ [(reply, place)] }
      else none
  | .acknowledge (.request reply data none) =>
      if .request reply data none ∈ s.wire ∧ data = ackData then
        (s.deliveries.find? fun d => d.1 = reply).map fun d => { s with acked := s.acked ++ [d.2] }
      else none
  | _ => none

end N2F.Broker

namespace N2F

open Ecma Postgres Operation

variable {W : Type}

abbrev Publication := Run Broker.Call Broker.Answer Broker.Thrown Failure Receipt

abbrev Transfer := Run Broker.Call Broker.Answer Broker.Thrown Failure Bool

inductive Relaying where
  | publishing (lease : Lease) (run : Publication)
  | settling (lease : Lease) (receipt : Result Receipt)
  | returned (answer : Result Bool)
  | crashed

def relayClaimed (config : Broker.Config) : Result (Option Lease) → Relaying
  | .error e => .returned (.error e)
  | .ok none => .returned (.ok false)
  | .ok (some lease) => .publishing lease (begin (Broker.publish config lease.event))

structure Relay (W : Type) where
  outbox : Outbox
  stream : Broker.Stream
  mailbox : Mailbox W
  dispatches : List Relaying
  transfers : List Transfer

inductive RelayAction (W : Type) where
  | enqueue (raw : ByteArray) (writtenAt : ℕ)
  | cancel
  | claim (token : Str) (locked : List Str) (sweepAt selectAt : Str → ℕ) (leaseAt : ℕ) (outcome : Outcome)
  | publication (call : ℕ) (e : Event Broker.Answer Broker.Thrown)
  | published (call : ℕ)
  | settle (call : ℕ) (checkAt delayAt : ℕ) (outcome : Outcome)
  | crash (call : ℕ)
  | server (a : Broker.StreamAction)
  | pull
  | transfer (k : ℕ) (e : Event Broker.Answer Broker.Thrown)
  | sink (k : ℕ) (now : ℕ) (outcome : Outcome)
  | consume (a : MailboxAction W)

def Relay.transact (s : Relay W) (a : OutboxAction) (outcome : Outcome) (dispatches : List Relaying) : Option (Relay W) :=
  if outcome.applied then (s.outbox.step a).map fun o => { s with outbox := o, dispatches := dispatches }
  else some { s with dispatches := dispatches }

def MailboxAction.isPublish : MailboxAction W → Bool
  | .publish _ _ _ => true
  | _ => false

-- What Database.transaction fails with where neither its client nor its callback throws a failure.
def transactionFailures : List Failure :=
  [closed, canceled, timedOut, uncertain, transactionAborted, databaseFailed, map (.database (some "23505")), map .foreign]

def Outcome.isPlain : Outcome → Bool
  | .failed e => e ∈ transactionFailures
  | _ => true

def Relay.step (config : Broker.Config) (s : Relay W) : RelayAction W → Option (Relay W)
  | .enqueue raw writtenAt => (s.outbox.step (.enqueue raw writtenAt)).map fun o => { s with outbox := o }
  | .cancel => some { s with dispatches := s.dispatches ++ [.returned (.error dispatchCanceled)] }
  | .claim token locked sweepAt selectAt leaseAt outcome =>
      let claimed := outcome.answer (claim token locked sweepAt selectAt leaseAt s.outbox.rows).1
      s.transact (.claim token locked sweepAt selectAt leaseAt) outcome (s.dispatches ++ [relayClaimed config claimed])
  | .publication call e =>
      match s.dispatches[call]? with
      | some (.publishing lease run) =>
          if s.stream.admits config run e then
            (Operation.step Broker.operation true run e).map fun run' =>
              { s with
                stream := s.stream.sends (run.asks Broker.operation e)
                dispatches := s.dispatches.set call (.publishing lease run') }
          else none
      | _ => none
  | .published call =>
      match s.dispatches[call]? with
      | some (.publishing lease run) =>
          match run.point with
          | .concluded receipt => some { s with dispatches := s.dispatches.set call (.settling lease receipt) }
          | _ => none
      | _ => none
  | .settle call checkAt delayAt outcome =>
      match s.dispatches[call]? with
      | some (.settling lease receipt) =>
          let success := acknowledges lease receipt
          let settled := outcome.answer (finish success lease checkAt delayAt s.outbox.rows).1
          s.transact (.finish success lease checkAt delayAt) outcome
            (s.dispatches.set call (.returned (afterSettle lease receipt settled)))
      | _ => none
  | .crash call => some { s with dispatches := s.dispatches.set call .crashed }
  | .server a => (s.stream.step config a).map fun stream => { s with stream := stream }
  | .pull => some { s with transfers := s.transfers ++ [begin (Broker.transfer config)] }
  | .transfer k e =>
      match s.transfers[k]? with
      | some run =>
          if s.stream.admits config run e then
            (Operation.step Broker.operation true run e).map fun run' =>
              { s with stream := s.stream.sends (run.asks Broker.operation e), transfers := s.transfers.set k run' }
          else none
      | none => none
  | .sink k now outcome =>
      match s.transfers[k]? with
      | some run =>
          match run.point with
          | .awaiting (.sink event) _ =>
              if outcome.isPlain then
                let published := s.mailbox.publish event now outcome
                (Operation.step Broker.operation true run (.answer (.ok (.sank published.1)))).map fun run' =>
                  { s with mailbox := published.2, transfers := s.transfers.set k run' }
              else none
          | _ => none
      | none => none
  | .consume a => if a.isPublish then none else (s.mailbox.step a).map fun m => { s with mailbox := m }

def relay (W : Type) (config : Broker.Config) : Machine (Relay W) (RelayAction W) :=
  ⟨⟨outboxMachine.start, ⟨[], [], [], []⟩, (mailboxMachine W).start, [], []⟩, Relay.step config⟩

end N2F
