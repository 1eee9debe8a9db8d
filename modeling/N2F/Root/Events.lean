import N2F.Events.RoundTrip
import N2F.Provenance.Issuance
import N2F.Root.Http
import N2F.Routine

set_option autoImplicit false

namespace N2F

def fromCaught (value : Given Failure) : Failure :=
  match value with
  | .genuine known => known
  | .foreign => ⟨.internal, "unexpected failure", none, none⟩

end N2F

namespace N2F.Root.Example

open Ecma Routine

-- What an awaited call settles with: a Result, or a rejection.
abbrev Awaited (α : Type) := Except (Given Failure) (Result α)

-- broker ?? mailbox
inductive Publisher where
  | broker
  | mailbox
deriving DecidableEq

structure Consumption where
  received : Option Str
  result : Awaited Bool

inductive Ask where
  | newId
  | createLog (options : Logger.Options) (instanceId : Str)
  | openBroker (config : Broker.Settings)
  | provision
  | openDatabase (config : Postgres.Settings)
  | readMigration (version : ℕ)
  | migrate (version : ℕ) (sql : Str)
  | enter
  | now
  | enqueue (event : Envelope)
  | performanceNow
  | aborted
  | dispatch (publisher : Publisher) (token : Str)
  | transfer
  | consume
  | pause
  | info (log : Logger.BoundLogger) (message : String) (fields : Properties Json)
  | error (log : Logger.BoundLogger) (failure : Failure) (message : String)
  | closeBroker
  | closeDatabase (budgetMs : ℕ)
  | closeLog (timeoutMs : ℕ)

@[reducible] def Ask.Answer : Ask → Type
  | .newId => IdCall
  | .enter => Moment
  | .now => Number
  | .performanceNow => ℚ
  | .aborted => Bool
  | .openBroker _ | .provision | .openDatabase _ | .migrate _ _ | .enqueue _ | .closeDatabase _ | .closeLog _ => Awaited Unit
  | .readMigration _ => Except (Given Failure) Str
  | .dispatch _ _ | .transfer => Awaited Bool
  | .consume => Consumption
  | .closeBroker => Except (Given Failure) Unit
  | .createLog _ _ | .pause | .info _ _ _ | .error _ _ _ => Unit

structure Locals where
  ids : V7
  broker : Bool
  database : Bool

abbrev Step (α : Type) := Routine Ask.Answer Locals (Given Failure) α

def send (c : Ask) : Step c.Answer := ask c

def value {α : Type} (r : Result α) : Step α :=
  match r with
  | .ok v => pure v
  | .error e => throws (.genuine e)

-- value(await call)
def awaited {α : Type} (r : Awaited α) : Step α :=
  match r with
  | .ok r => value r
  | .error e => throws e

def returned {α : Type} (r : Except (Given Failure) α) : Step α :=
  match r with
  | .ok v => pure v
  | .error e => throws e

-- ids.newId()
def newId : Step Str := do
  let call : IdCall ← send .newId
  let s ← locals
  let answer := s.ids.newId call.now call.entropy
  update fun s => { s with ids := answer.2 }
  value answer.1

-- factory.enter
def enter (root : RootSpec) : Step Scope := do
  let moment : Moment ← send .enter
  let s ← locals
  let answer := s.ids.opens (.enter root (.genuine (inspectIncoming ⟨none, none⟩))) moment
  update fun s => { s with ids := answer.2 }
  value answer.1

def transports : List String := ["postgres", "jetstream"]

def logging (c : EventsConfig) (instanceId : Str) : Step Unit :=
  if (loggerOptions c.base false).refuses then throws (.genuine Logger.configurationInvalid)
  else send (.createLog (loggerOptions c.base false) instanceId)

def connect (c : EventsConfig) : Step Unit :=
  match c.broker with
  | none => pure ()
  | some config => do
      let opened : Awaited Unit ← send (.openBroker config)
      awaited opened
      update fun s => { s with broker := true }
      let provisioned : Awaited Unit ← send .provision
      awaited provisioned

def migrated (c : EventsConfig) : Step Unit := do
  let opened : Awaited Unit ← send (.openDatabase c.database)
  awaited opened
  update fun s => { s with database := true }
  let read : Except (Given Failure) Str ← send (.readMigration 1)
  let sql ← returned read
  let applied : Awaited Unit ← send (.migrate 1 sql)
  awaited applied

def exampleRoot (executor : Actor) (attribution : Attribution) (op : Str) : RootSpec :=
  ⟨none, .genuine .startup, op, .genuine attribution, .genuine executor⟩

def opened (c : EventsConfig) : Step Scope := do
  let executor ← value (actor (.genuine .service) c.base.resource.name)
  let op ← value (operation (str "events.example"))
  let owner ← value (attribution ⟨none, none, none⟩)
  enter (exampleRoot executor owner op)

def enqueued (scope : Scope) (log : Logger.BoundLogger) : Step Str := do
  let eventId ← newId
  let occurredAtMs : Number ← send .now
  let event ← value (create eventId (str "diagnostic.created.v1") occurredAtMs scope.workContext [(str "example", .bool true)])
  let stored : Awaited Unit ← send (.enqueue event)
  awaited stored
  send (.info log "events.enqueued" [(str "event_id", .str eventId)])
  pure eventId

def completed (log : Logger.BoundLogger) (message : String) (found : Bool) : Step Unit :=
  send (.info log message [(str "found", .bool found)])

def dispatched (token : Str) (log : Logger.BoundLogger) : Step Unit := do
  let s ← locals
  let answer : Awaited Bool ← send (.dispatch (if s.broker then .broker else .mailbox) token)
  let found ← awaited answer
  completed log "events.dispatch.completed" found

def transferred (log : Logger.BoundLogger) : Step Unit := do
  let s ← locals
  if s.broker then do
    let answer : Awaited Bool ← send .transfer
    let found ← awaited answer
    completed log "events.transfer.completed" found
  else pure ()

def consumed (eventId : Str) (log : Logger.BoundLogger) : Step Bool := do
  let consumption : Consumption ← send .consume
  let consumed ← awaited consumption.result
  completed log "events.consume.completed" consumed
  pure (consumption.received = some eventId)

def round (eventId : Str) (log : Logger.BoundLogger) : Step Bool := do
  let stop : Bool ← send .aborted
  if stop then throws (.genuine ⟨.canceled, "event example canceled", none, none⟩)
  else do
    let token ← newId
    dispatched token log
    transferred log
    consumed eventId log

def exhausted : Step ℕ := throws (.genuine ⟨.timeout, "diagnostic delivery budget exhausted", none, none⟩)

-- for (let i = 0; i < 32 && performance.now() < deadline; i++), with what is left of the 32
def rounds (eventId : Str) (log : Logger.BoundLogger) (deadline : ℚ) : ℕ → Step ℕ
  | 0 => exhausted
  | left + 1 => do
      let reading : ℚ ← send .performanceNow
      if reading < deadline then do
        let seen ← round eventId log
        if seen then do
          send (.info log "events.example.completed" [(str "event_id", .str eventId)])
          pure 0
        else do
          send .pause
          rounds eventId log deadline left
      else exhausted

-- The try block.
def attempt (c : EventsConfig) : Step ℕ := do
  connect c
  migrated c
  let scope ← opened c
  let log ← value (Logger.BoundLogger.root.withScope (.genuine scope))
  let eventId ← enqueued scope log
  send (.info log "events.transport.selected" [(str "transport", .str c.transport)])
  let started : ℚ ← send .performanceNow
  rounds eventId log (started + 10000) 32

-- The catch block.
def caught (e : Given Failure) : Step ℕ := do
  send (.error (Logger.BoundLogger.root.withError (some ⟨.genuine (fromCaught e), false⟩)) (fromCaught e) "events.example.failed")
  pure 1

-- The finally block. What a close answers is not looked at.
def closeBroker : Step Unit := do
  let s ← locals
  if s.broker then do
    let left : Except (Given Failure) Unit ← send .closeBroker
    returned left
  else pure ()

def closeDatabase : Step Unit := do
  let s ← locals
  if s.database then do
    let left : Awaited Unit ← send (.closeDatabase 2000)
    let _ ← returned left
    pure ()
  else pure ()

def closeLog : Step Unit := do
  let left : Awaited Unit ← send (.closeLog 2000)
  let _ ← returned left
  pure ()

def closed : Step Unit := do
  closeBroker
  closeDatabase
  closeLog

def runEvents (lookup : Env.Lookup) : Step ℕ := do
  let c ← value (loadEventsConfig lookup)
  if oneOfTexts transports c.transport then do
    let instanceId ← newId
    logging c instanceId
    ((attempt c).catches caught).lastly closed
  else pure 2

def start : Locals := ⟨V7.new, false, false⟩

end N2F.Root.Example
