import N2F.Root.Events
import Mathlib.Data.Rat.Defs

set_option autoImplicit false

namespace N2F.Root.Example

open Ecma Routine

inductive Phase where
  | unopened
  | opened
  | closed
deriving DecidableEq

inductive Stage where
  | resting
  | timely
  | unstopped
  | dispatched
  | transferred
deriving DecidableEq

structure Ledger where
  log : Phase
  broker : Phase
  database : Phase
  provisioned : Bool
  migrated : Bool
  event : Option Str
  spent : List Str
  began : Option ℚ
  stage : Stage
  rounds : ℕ
  delivered : Bool
  failures : ℕ
  stuck : Bool

def Ledger.blank : Ledger := ⟨.unopened, .unopened, .unopened, false, false, none, [], none, .resting, 0, false, 0, false⟩

def accepted {α : Type} (r : Awaited α) : Bool :=
  match r with
  | .ok (.ok _) => true
  | .ok (.error _) | .error _ => false

def settled {α : Type} (r : Except (Given Failure) α) : Bool :=
  match r with
  | .ok _ => true
  | .error _ => false

structure Announces (e : Envelope) : Prop where
  id : validID e.id = true
  operation : e.work.data.operation = str "events.example"
  correlation : e.work.data.correlationId = e.work.data.workId
  source : e.work.data.correlationSource = .local
  causation : e.work.data.causation = none

-- What may be asked when: nothing is used before it is open or after it is closed, and
-- the broker is closed before the database, which is closed before the log. An event goes
-- out after it is stored, in at most 32 rounds begun within ten seconds, each under a
-- token of its own, and not after the run was stopped or the event came back.
def Ledger.Allows (c : EventsConfig) (g : Ledger) : Ask → Prop
  | .newId | .enter | .now | .performanceNow | .aborted | .pause => True
  | .createLog options _ => options = loggerOptions c.base false ∧ g.log = .unopened ∧ g.broker = .unopened ∧ g.database = .unopened
  | .openBroker config => c.broker = some config ∧ g.log = .opened ∧ g.broker = .unopened ∧ g.database = .unopened
  | .provision => g.broker = .opened ∧ g.provisioned = false
  | .openDatabase config => config = c.database ∧ g.log = .opened ∧ g.database = .unopened ∧ (c.broker.isSome = true → g.provisioned = true)
  | .readMigration version => version = 1 ∧ g.database = .opened
  | .migrate version _ => version = 1 ∧ g.database = .opened ∧ g.migrated = false
  | .enqueue event => g.database = .opened ∧ g.migrated = true ∧ g.spent = [] ∧ Announces event
  | .dispatch publisher token =>
      g.database = .opened ∧ g.event.isSome = true ∧ g.stage = .unstopped ∧ g.rounds < 32 ∧ g.delivered = false ∧
        publisher = (if c.broker.isSome then .broker else .mailbox) ∧
        (c.broker.isSome = true → g.broker = .opened ∧ g.provisioned = true) ∧ ∀ id ∈ g.spent, id < token
  | .transfer => g.broker = .opened ∧ g.stage = .dispatched
  | .consume => g.database = .opened ∧ g.stage = if c.broker.isSome then .transferred else .dispatched
  | .info _ _ _ => g.log = .opened
  | .error _ _ _ => g.log = .opened ∧ g.failures = 0 ∧ g.delivered = false
  | .closeBroker => g.broker = .opened
  | .closeDatabase _ => g.database = .opened ∧ g.broker ≠ .opened
  | .closeLog _ => g.log = .opened ∧ g.broker ≠ .opened ∧ g.database ≠ .opened

def Ledger.read (g : Ledger) (reading : ℚ) : Ledger :=
  match g.began with
  | none => { g with began := some reading }
  | some start => { g with stage := if reading < start + 10000 then .timely else .resting }

def Ledger.after (g : Ledger) : (c : Ask) → c.Answer → Ledger
  | .newId, _ | .enter, _ | .now, _ | .pause, _ | .readMigration _, _ | .info _ _ _, _ => g
  | .createLog _ _, _ => { g with log := .opened }
  | .openBroker _, r => { g with broker := if accepted r then .opened else g.broker }
  | .provision, r => { g with provisioned := accepted r }
  | .openDatabase _, r => { g with database := if accepted r then .opened else g.database }
  | .migrate _ _, r => { g with migrated := accepted r }
  | .enqueue event, r => { g with spent := g.spent ++ [event.id], event := if accepted r then some event.id else none }
  | .performanceNow, reading => g.read reading
  | .aborted, stop => { g with stage := if g.stage = .timely ∧ stop = false then .unstopped else .resting }
  | .dispatch _ token, r =>
      { g with rounds := g.rounds + 1, spent := g.spent ++ [token], stage := if accepted r then .dispatched else .resting }
  | .transfer, r => { g with stage := if accepted r then .transferred else .resting }
  | .consume, a => { g with stage := .resting, delivered := accepted a.result && (a.received = g.event : Bool) }
  | .error _ _ _, _ => { g with failures := g.failures + 1 }
  | .closeBroker, r => { g with broker := .closed, stuck := g.stuck || !settled r }
  | .closeDatabase _, r => { g with database := .closed, stuck := g.stuck || !settled r }
  | .closeLog _, r => { g with log := .closed, stuck := g.stuck || !settled r }

def watch (c : EventsConfig) : Monitor Ask.Answer Ledger := ⟨fun g => g.Allows c, Ledger.after⟩

structure Ledger.Closed (g : Ledger) : Prop where
  log : g.log = .closed
  broker : g.broker ≠ .opened
  database : g.database ≠ .opened

-- The exit code tells whether a consume that answered ok handed out the event; one with
-- an uncertain COMMIT does not count. A resource counts as closed once its close answered,
-- whatever it answered; a run that throws had opened nothing or met a close that threw.
def Ledger.Settles (c : EventsConfig) (g : Ledger) : Except (Given Failure) ℕ → Prop
  | .ok 0 => g.delivered = true ∧ g.failures = 0 ∧ g.Closed
  | .ok 1 => g.delivered = false ∧ g.failures = 1 ∧ g.Closed
  | .ok 2 => oneOfTexts transports c.transport = false ∧ g = .blank
  | .ok _ => False
  | .error _ => g = .blank ∨ g.stuck = true

structure Held (s : Locals) (g : Ledger) : Prop where
  log : g.log = .opened
  broker : g.broker = if s.broker then .opened else .unopened
  database : g.database = if s.database then .opened else .unopened
  stuck : g.stuck = false

structure Working (s : Locals) (g : Ledger) : Prop extends Held s g where
  gave : s.ids.Gave g.spent
  failures : g.failures = 0
  delivered : g.delivered = false

structure Begun (s : Locals) (g : Ledger) : Prop where
  broker : s.broker = false
  database : s.database = false
  ledger : g = { Ledger.blank with log := .opened }
  gave : s.ids.Gave []

structure Connected (c : EventsConfig) (s : Locals) (g : Ledger) : Prop extends Working s g where
  connected : s.broker = c.broker.isSome
  provisioned : c.broker.isSome = true → g.provisioned = true
  began : g.began = none
  rounds : g.rounds = 0

structure Unannounced (c : EventsConfig) (s : Locals) (g : Ledger) : Prop extends Connected c s g where
  unused : s.database = false ∧ g.migrated = false ∧ g.spent = []

structure Stocked (c : EventsConfig) (s : Locals) (g : Ledger) : Prop extends Connected c s g where
  usable : s.database = true ∧ g.migrated = true ∧ g.spent = []

structure Posted (c : EventsConfig) (eventId : Str) (s : Locals) (g : Ledger) : Prop extends Working s g where
  connected : s.broker = c.broker.isSome
  provisioned : c.broker.isSome = true → g.provisioned = true
  usable : s.database = true
  event : g.event = some eventId

structure Turning (c : EventsConfig) (eventId : Str) (start : ℚ) (left : ℕ) (s : Locals) (g : Ledger) : Prop extends Posted c eventId s g where
  began : g.began = some start
  rounds : g.rounds + left = 32

structure Finished (s : Locals) (g : Ledger) : Prop extends Held s g where
  failures : g.failures = 0
  delivered : g.delivered = true

variable {c : EventsConfig}

theorem gave_spare (ids : V7) (spent : List Str) (id : Str) (gave : ids.Gave (spent ++ [id])) : ids.Gave spent :=
  gave_less ids _ _ gave (List.sublist_append_left spent [id])

theorem new_id_gives (ids : V7) (spent : List Str) (call : IdCall) (gave : ids.Gave spent) :
    match ids.newId call.now call.entropy with
    | (.ok id, next) => next.Gave (spent ++ [id])
    | (.error _, next) => next = ids := by
  cases asked : ids.newId call.now call.entropy with
  | mk answer next =>
      cases answer with
      | ok id => exact gave_next ids next ⟨.foreign, call⟩ id spent gave asked
      | error e => exact new_id_error ids next _ _ e asked

theorem gave_new (ids : V7) (spent : List Str) (id : Str) (gave : ids.Gave (spent ++ [id])) :
    validID id = true ∧ ∀ old ∈ spent, old < id := by
  refine ⟨(valid_id_iff id).mpr (gave.canonical id (List.mem_append_right _ (List.mem_singleton_self id))).1, fun old member => ?_⟩
  exact (List.pairwise_append.mp gave.increasing).2.2 old member id (List.mem_singleton_self id)

theorem new_id_meets (P : Locals → Ledger → Prop) (gave : ∀ s g, P s g → s.ids.Gave g.spent)
    (kept : ∀ s g ids, P s g → ids.Gave g.spent → P { s with ids := ids } g) :
    Meets (watch c) P newId (fun id s g => P s g ∧ s.ids.Gave (g.spent ++ [id])) (fun _ => P) := by
  intro s g holds
  refine ⟨trivial, fun call => ?_⟩
  have given := new_id_gives s.ids g.spent call (gave s g holds)
  change Script.Obeys _ _ ((value (s.ids.newId call.now call.entropy).1) { s with ids := (s.ids.newId call.now call.entropy).2 }) g
  generalize s.ids.newId call.now call.entropy = asked at given
  obtain ⟨answer, next⟩ := asked
  cases answer with
  | ok id => exact ⟨kept s g next holds (gave_spare next g.spent id given), given⟩
  | error e =>
      obtain rfl : next = s.ids := given
      exact holds

theorem connect_meets : Meets (watch c) Begun (connect c) (fun _ => Unannounced c) (fun _ => Working) := by
  intro s g begun
  obtain ⟨ids, broker, database⟩ := s
  obtain ⟨rfl, rfl, rfl, gave⟩ := begun
  cases configured : c.broker with
  | none =>
      rw [connect, configured]
      exact ⟨⟨⟨⟨rfl, rfl, rfl, rfl⟩, gave, rfl, rfl⟩, by rw [configured]; rfl, by rw [configured]; exact fun given => absurd given Bool.false_ne_true,
        rfl, rfl⟩, rfl, rfl, rfl⟩
  | some config =>
      rw [connect, configured]
      refine ⟨⟨configured, rfl, rfl, rfl⟩, fun opened => ?_⟩
      rcases opened with e | e | _
      · exact ⟨⟨rfl, rfl, rfl, rfl⟩, gave, rfl, rfl⟩
      · exact ⟨⟨rfl, rfl, rfl, rfl⟩, gave, rfl, rfl⟩
      · refine ⟨⟨rfl, rfl⟩, fun provisioned => ?_⟩
        rcases provisioned with e | e | _
        · exact ⟨⟨rfl, rfl, rfl, rfl⟩, gave, rfl, rfl⟩
        · exact ⟨⟨rfl, rfl, rfl, rfl⟩, gave, rfl, rfl⟩
        · exact ⟨⟨⟨⟨rfl, rfl, rfl, rfl⟩, gave, rfl, rfl⟩, by rw [configured]; rfl, fun _ => rfl, rfl, rfl⟩, rfl, rfl, rfl⟩

theorem migrated_meets : Meets (watch c) (Unannounced c) (migrated c) (fun _ => Stocked c) (fun _ => Working) := by
  intro s g unannounced
  obtain ⟨⟨working, connected, provisioned, began, rounds⟩, unassigned, unmigrated, unspent⟩ := unannounced
  obtain ⟨⟨log, broker, database, stuck⟩, gave, failures, delivered⟩ := working
  rw [unassigned] at database
  refine ⟨⟨rfl, log, database, provisioned⟩, fun opened => ?_⟩
  rcases opened with e | e | _
  · exact ⟨⟨log, broker, unassigned ▸ database, stuck⟩, gave, failures, delivered⟩
  · exact ⟨⟨log, broker, unassigned ▸ database, stuck⟩, gave, failures, delivered⟩
  · refine ⟨⟨rfl, rfl⟩, fun read => ?_⟩
    rcases read with e | sql
    · exact ⟨⟨log, broker, rfl, stuck⟩, gave, failures, delivered⟩
    · refine ⟨⟨rfl, rfl, unmigrated⟩, fun applied => ?_⟩
      rcases applied with e | e | _
      · exact ⟨⟨log, broker, rfl, stuck⟩, gave, failures, delivered⟩
      · exact ⟨⟨log, broker, rfl, stuck⟩, gave, failures, delivered⟩
      · exact ⟨⟨⟨⟨log, broker, rfl, stuck⟩, gave, failures, delivered⟩, connected, provisioned, began, rounds⟩, rfl, rfl, unspent⟩

theorem value_meets {α : Type} (P : Locals → Ledger → Prop) (r : Result α) (working : ∀ s g, P s g → Working s g) :
    Meets (watch c) P (value r) (fun v s g => P s g ∧ r = .ok v) (fun _ => Working) := by
  intro s g holds
  cases r with
  | ok v => exact ⟨holds, rfl⟩
  | error e => exact working s g holds

theorem stocked_ids (s : Locals) (g : Ledger) (ids : V7) (stocked : Stocked c s g) (gave : ids.Gave g.spent) :
    Stocked c { s with ids := ids } g := by
  obtain ⟨⟨⟨⟨log, broker, database, stuck⟩, _, failures, delivered⟩, connected, provisioned, began, rounds⟩, usable⟩ := stocked
  exact ⟨⟨⟨⟨log, broker, database, stuck⟩, gave, failures, delivered⟩, connected, provisioned, began, rounds⟩, usable⟩

theorem enter_meets (root : RootSpec) (valid : root.Valid) (fresh : root.workId = none) :
    Meets (watch c) (Stocked c) (enter root) (fun scope s g => Stocked c s g ∧ Entered root none scope.snapshot) (fun _ => Working) := by
  intro s g stocked
  refine ⟨trivial, fun moment => ?_⟩
  have gave := opens_gave s.ids (.enter root (.genuine (inspectIncoming ⟨none, none⟩))) moment g.spent stocked.gave (entry_once root none valid)
  have kept := stocked_ids s g _ stocked (gave_less _ _ _ gave (List.sublist_append_left _ _))
  cases answered : (s.ids.opens (.enter root (.genuine (inspectIncoming ⟨none, none⟩))) moment).1 with
  | error e =>
      change Script.Obeys _ _ (value (s.ids.opens _ moment).1 _) g
      rw [answered]
      exact kept.toWorking
  | ok scope =>
      change Script.Obeys _ _ (value (s.ids.opens _ moment).1 _) g
      rw [answered]
      exact ⟨kept, entry_entered _ root none [] scope fresh answered⟩

theorem service_named (name : Str) (executor : Actor) (acted : actor (.genuine .service) name = .ok executor) :
    namedActor (.genuine executor) = true := by
  have kind : ActorKind.service ≠ .anonymous := by decide
  rw [actor, dif_neg kind] at acted
  split_ifs at acted
  injection acted with same
  rw [← same]
  rfl

theorem opened_meets : Meets (watch c) (Stocked c) (opened c)
    (fun scope s g => Stocked c s g ∧ ∃ executor owner, Entered (exampleRoot executor owner (str "events.example")) none scope.snapshot)
    (fun _ => Working) := by
  refine meets_bind _ _ _ _ (value_meets (Stocked c) _ fun s g stocked => stocked.toWorking) fun executor => ?_
  refine meets_bind _ _ _ _ (value_meets _ _ fun s g stocked => stocked.1.toWorking) fun op => ?_
  refine meets_bind _ _ _ _ (value_meets _ _ fun s g stocked => stocked.1.1.toWorking) fun owner => ?_
  intro s g holds
  obtain ⟨⟨⟨stocked, acted⟩, operated⟩, _⟩ := holds
  have plain : validOperation (str "events.example") = true := by decide +kernel
  obtain rfl : str "events.example" = op := by
    rw [operation_valid _ plain] at operated
    injection operated
  have ordinary : Given.genuine Origin.startup ≠ .genuine .replay := by decide
  have valid : (exampleRoot executor owner (str "events.example")).Valid :=
    ⟨rfl, ordinary, fun id given => (nomatch given), plain, rfl, service_named _ executor acted⟩
  refine Script.obeys_mono _ _ _ ?_ _ g (enter_meets _ valid rfl s g stocked)
  intro r g' ended
  obtain ⟨r, s'⟩ := r
  cases r with
  | ok scope => exact ⟨ended.1, executor, owner, ended.2⟩
  | error e => exact ended

theorem payload_canonical : (Json.obj [(str "example", .bool true)]).Canonical :=
  ⟨plain_ordered _ (by decide) (by decide), trivial, trivial⟩

theorem event_announces (executor : Actor) (owner : Attribution) (scope : Scope) (eventId : Str) (ms : Number) (event : Envelope)
    (entered : Entered (exampleRoot executor owner (str "events.example")) none scope.snapshot) (named : validID eventId = true)
    (created : create eventId (str "diagnostic.created.v1") ms scope.workContext [(str "example", .bool true)] = .ok event) :
    event.id = eventId ∧ Announces event := by
  obtain ⟨same, work⟩ := created_event _ _ _ _ _ event named payload_canonical created
  refine ⟨same, same ▸ named, ?_, ?_, ?_, ?_⟩
  · rw [work]
    exact entered.operation
  · rw [work]
    exact entered.correlationId.trans entered.workId.symm
  · rw [work]
    exact entered.correlationSource
  · rw [work]
    exact entered.causation

theorem enqueued_meets (scope : Scope) (log : Logger.BoundLogger) :
    Meets (watch c)
      (fun s g => Stocked c s g ∧ ∃ executor owner, Entered (exampleRoot executor owner (str "events.example")) none scope.snapshot)
      (enqueued scope log) (fun eventId s g => Posted c eventId s g ∧ g.began = none ∧ g.rounds = 0) (fun _ => Working) := by
  have minted := new_id_meets (c := c)
    (fun s g => Stocked c s g ∧ ∃ executor owner, Entered (exampleRoot executor owner (str "events.example")) none scope.snapshot)
    (fun s g holds => holds.1.gave) (fun s g ids holds gave => ⟨stocked_ids s g ids holds.1 gave, holds.2⟩)
  refine meets_bind _ _ _ _ (meets_behind _ _ _ _ (fun _ _ _ holds => holds) (fun e s g holds => holds.1.toWorking) minted) fun eventId => ?_
  intro s g holds
  obtain ⟨⟨stocked, executor, owner, entered⟩, gave⟩ := holds
  obtain ⟨⟨working, connected, provisioned, began, rounds⟩, usable, ready, unspent⟩ := stocked
  obtain ⟨⟨opened, broker, database, stuck⟩, _, failures, delivered⟩ := working
  have named := (gave_new s.ids g.spent eventId gave).1
  rw [usable] at database
  refine ⟨trivial, fun occurredAtMs => ?_⟩
  change Script.Obeys _ _ (((value (create eventId _ occurredAtMs scope.workContext _)) >>= _ : Step Str) s) g
  cases created : create eventId (str "diagnostic.created.v1") occurredAtMs scope.workContext [(str "example", .bool true)] with
  | error e => exact ⟨⟨opened, broker, usable ▸ database, stuck⟩, gave_spare _ _ _ gave, failures, delivered⟩
  | ok event =>
      obtain ⟨same, announces⟩ := event_announces executor owner scope eventId occurredAtMs event entered named created
      refine ⟨⟨database, ready, unspent, announces⟩, fun stored => ?_⟩
      have gave' : s.ids.Gave (g.spent ++ [event.id]) := same.symm ▸ gave
      rcases stored with e | e | _
      · exact ⟨⟨opened, broker, usable ▸ database, stuck⟩, gave', failures, delivered⟩
      · exact ⟨⟨opened, broker, usable ▸ database, stuck⟩, gave', failures, delivered⟩
      · exact ⟨opened, fun _ => ⟨⟨⟨⟨opened, broker, usable ▸ database, stuck⟩, gave', failures, delivered⟩, connected, provisioned, usable,
          congrArg some same⟩, began, rounds⟩⟩

theorem turning_ids (eventId : Str) (start : ℚ) (left : ℕ) (s : Locals) (g : Ledger) (ids : V7) (turning : Turning c eventId start left s g)
    (gave : ids.Gave g.spent) : Turning c eventId start left { s with ids := ids } g := by
  obtain ⟨⟨⟨⟨log, broker, database, stuck⟩, _, failures, delivered⟩, connected, provisioned, usable, event⟩, began, rounds⟩ := turning
  exact ⟨⟨⟨⟨log, broker, database, stuck⟩, gave, failures, delivered⟩, connected, provisioned, usable, event⟩, began, rounds⟩

theorem consumed_meets (eventId : Str) (log : Logger.BoundLogger) (start : ℚ) (left : ℕ) :
    Meets (watch c)
      (fun s g => Turning c eventId start left s g ∧ g.stage = if c.broker.isSome then .transferred else .dispatched)
      (consumed eventId log) (fun seen => if seen = true then Finished else Turning c eventId start left) (fun _ => Working) := by
  intro s g holds
  obtain ⟨turning, ready⟩ := holds
  obtain ⟨⟨⟨⟨opened, broker, database, stuck⟩, gave, failures, delivered⟩, connected, provisioned, usable, event⟩, began, rounds⟩ := turning
  refine ⟨⟨by rw [database, usable]; rfl, ready⟩, fun a => ?_⟩
  obtain ⟨received, result⟩ := a
  rcases result with e | e | found
  · exact ⟨⟨opened, broker, database, stuck⟩, gave, failures, rfl⟩
  · exact ⟨⟨opened, broker, database, stuck⟩, gave, failures, rfl⟩
  · refine ⟨opened, fun _ => ?_⟩
    by_cases own : received = some eventId
    · have handed : (true && (received = g.event : Bool)) = true := by rw [event]; simpa using own
      have shown : (received = some eventId : Bool) = true := by simpa using own
      change (if (received = some eventId : Bool) = true then Finished else _) _ _
      rw [if_pos shown]
      exact ⟨⟨opened, broker, database, stuck⟩, failures, handed⟩
    · have kept : (true && (received = g.event : Bool)) = false := by rw [event]; simpa using own
      have hidden : ¬ (received = some eventId : Bool) = true := by simpa using own
      change (if (received = some eventId : Bool) = true then Finished else _) _ _
      rw [if_neg hidden]
      exact ⟨⟨⟨⟨opened, broker, database, stuck⟩, gave, failures, kept⟩, connected, provisioned, usable, event⟩, began, rounds⟩

theorem turning_stage (eventId : Str) (start : ℚ) (left : ℕ) (s : Locals) (g : Ledger) (stage : Stage)
    (turning : Turning c eventId start left s g) : Turning c eventId start left s { g with stage := stage } := by
  obtain ⟨⟨⟨⟨log, broker, database, stuck⟩, gave, failures, delivered⟩, connected, provisioned, usable, event⟩, began, rounds⟩ := turning
  exact ⟨⟨⟨⟨log, broker, database, stuck⟩, gave, failures, delivered⟩, connected, provisioned, usable, event⟩, began, rounds⟩

theorem transferred_meets (eventId : Str) (log : Logger.BoundLogger) (start : ℚ) (left : ℕ) :
    Meets (watch c) (fun s g => Turning c eventId start left s g ∧ g.stage = .dispatched) (transferred log)
      (fun _ s g => Turning c eventId start left s g ∧ g.stage = if c.broker.isSome then .transferred else .dispatched)
      (fun _ => Working) := by
  intro s g ready
  obtain ⟨turning, dispatched⟩ := ready
  obtain ⟨ids, running, database⟩ := s
  cases running with
  | false =>
      refine ⟨turning, ?_⟩
      rw [← turning.connected]
      exact dispatched
  | true =>
      refine ⟨⟨turning.broker, dispatched⟩, fun answer => ?_⟩
      rcases answer with e | e | found
      · exact (turning_stage eventId start left _ g .resting turning).toWorking
      · exact (turning_stage eventId start left _ g .resting turning).toWorking
      · refine ⟨turning.log, fun _ => ⟨turning_stage eventId start left _ g .transferred turning, ?_⟩⟩
        rw [← turning.connected]
        rfl

theorem dispatched_meets (eventId token : Str) (log : Logger.BoundLogger) (start : ℚ) (left : ℕ) :
    Meets (watch c)
      (fun s g => (Turning c eventId start (left + 1) s g ∧ g.stage = .unstopped) ∧ s.ids.Gave (g.spent ++ [token]))
      (dispatched token log) (fun _ s g => Turning c eventId start left s g ∧ g.stage = .dispatched) (fun _ => Working) := by
  intro s g ready
  obtain ⟨⟨turning, unstopped⟩, gave⟩ := ready
  obtain ⟨⟨⟨⟨opened, broker, database, stuck⟩, _, failures, delivered⟩, connected, provisioned, usable, event⟩, began, rounds⟩ := turning
  have fresh := (gave_new s.ids g.spent token gave).2
  have rounds' : g.rounds + 1 + left = 32 := by omega
  refine ⟨⟨by rw [database, usable]; rfl, by rw [event]; rfl, unstopped, by omega, delivered, by rw [connected], ?_, fresh⟩, fun answer => ?_⟩
  · intro given
    exact ⟨by rw [broker, connected, given]; rfl, provisioned given⟩
  · rcases answer with e | e | found
    · exact ⟨⟨opened, broker, database, stuck⟩, gave, failures, delivered⟩
    · exact ⟨⟨opened, broker, database, stuck⟩, gave, failures, delivered⟩
    · exact ⟨opened, fun _ => ⟨⟨⟨⟨⟨opened, broker, database, stuck⟩, gave, failures, delivered⟩, connected, provisioned, usable, event⟩,
        began, rounds'⟩, rfl⟩⟩

theorem round_meets (eventId : Str) (log : Logger.BoundLogger) (start : ℚ) (left : ℕ) :
    Meets (watch c) (fun s g => Turning c eventId start (left + 1) s g ∧ g.stage = .timely) (round eventId log)
      (fun seen => if seen = true then Finished else Turning c eventId start left) (fun _ => Working) := by
  have minted := new_id_meets (c := c) (fun s g => Turning c eventId start (left + 1) s g ∧ g.stage = .unstopped)
    (fun s g holds => holds.1.gave) (fun s g ids holds gave => ⟨turning_ids eventId start (left + 1) s g ids holds.1 gave, holds.2⟩)
  refine meets_bind _ _ (fun stop s g => Turning c eventId start (left + 1) s g ∧ (stop = false → g.stage = .unstopped)) _
    (meets_ask _ _ (fun _ _ _ => trivial) ?_) fun stop => ?_
  · intro s g stop ready
    refine ⟨turning_stage eventId start (left + 1) s g _ ready.1, fun goes => ?_⟩
    exact if_pos ⟨ready.2, goes⟩
  · cases stop with
    | true => exact fun s g ready => ready.1.toWorking
    | false =>
        refine meets_before (fun s g => Turning c eventId start (left + 1) s g ∧ g.stage = .unstopped) _ _
          (fun s g ready => ⟨ready.1, ready.2 rfl⟩) ?_
        refine meets_bind _ _ _ _ (meets_behind _ _ _ _ (fun _ _ _ holds => holds) (fun e s g holds => holds.1.toWorking) minted) fun token => ?_
        refine meets_bind _ _ _ _ (dispatched_meets eventId token log start left) fun _ => ?_
        exact meets_bind _ _ _ _ (transferred_meets eventId log start left) fun _ => consumed_meets eventId log start left

theorem rounds_meets (eventId : Str) (log : Logger.BoundLogger) (start : ℚ) (left : ℕ) :
    Meets (watch c) (Turning c eventId start left) (rounds eventId log (start + 10000) left)
      (fun code s g => code = 0 ∧ Finished s g) (fun _ => Working) := by
  induction left with
  | zero => exact fun s g turning => turning.toWorking
  | succ left ih =>
      refine meets_bind _ _ (fun reading s g => Turning c eventId start (left + 1) s g ∧ (reading < start + 10000 → g.stage = .timely)) _
        (meets_ask _ _ (fun _ _ _ => trivial) ?_) fun reading => ?_
      · intro s g reading turning
        have same : g.after .performanceNow reading = { g with stage := if reading < start + 10000 then .timely else .resting } := by
          rw [Ledger.after, Ledger.read, turning.began]
        change Turning c eventId start (left + 1) s (g.after .performanceNow reading) ∧
          (_ → (g.after .performanceNow reading).stage = .timely)
        rw [same]
        exact ⟨turning_stage eventId start (left + 1) s g _ turning, fun early => if_pos early⟩
      · by_cases early : reading < start + 10000
        · rw [if_pos early]
          refine meets_before (fun s g => Turning c eventId start (left + 1) s g ∧ g.stage = .timely) _ _
            (fun s g ready => ⟨ready.1, ready.2 early⟩) ?_
          refine meets_bind _ _ _ _ (round_meets eventId log start left) fun seen => ?_
          cases seen with
          | true =>
              intro s g finished
              exact ⟨finished.log, fun _ => ⟨rfl, finished⟩⟩
          | false =>
              intro s g turning
              exact ⟨trivial, fun _ => ih s g turning⟩
        · rw [if_neg early]
          exact fun s g ready => ready.1.toWorking

theorem attempt_meets :
    Meets (watch c) Begun (attempt c) (fun code s g => code = 0 ∧ Finished s g) (fun _ => Working) := by
  refine meets_bind _ _ _ _ connect_meets fun _ => ?_
  refine meets_bind _ _ _ _ migrated_meets fun _ => ?_
  refine meets_bind _ _ _ _ opened_meets fun scope => ?_
  refine meets_bind _ _ _ _ (value_meets _ _ fun s g holds => holds.1.toWorking) fun log => ?_
  refine meets_bind _ _ _ _ (meets_before _ _ _ (fun s g holds => holds.1) (enqueued_meets scope log)) fun eventId => ?_
  intro s g posted
  refine ⟨posted.1.log, fun _ => ⟨trivial, fun started => ?_⟩⟩
  have began : g.after .performanceNow started = { g with began := some started } := by
    rw [Ledger.after, Ledger.read, posted.2.1]
  have turning : Turning c eventId started 32 s { g with began := some started } := by
    obtain ⟨⟨⟨⟨opened, broker, database, stuck⟩, gave, failures, delivered⟩, connected, provisioned, usable, event⟩, _, rounds⟩ := posted
    exact ⟨⟨⟨⟨opened, broker, database, stuck⟩, gave, failures, delivered⟩, connected, provisioned, usable, event⟩, rfl, by rw [rounds]⟩
  change Script.Obeys _ _ (rounds eventId log (started + 10000) 32 s) (g.after .performanceNow started)
  rw [began]
  exact rounds_meets eventId log started 32 s _ turning

def Ledger.Shows (g : Ledger) (code : ℕ) : Prop :=
  code = 0 ∧ g.delivered = true ∧ g.failures = 0 ∨ code = 1 ∧ g.delivered = false ∧ g.failures = 1

theorem caught_meets (e : Given Failure) :
    Meets (watch c) Working (caught e) (fun code s g => Held s g ∧ g.Shows code) (fun _ _ _ => False) := by
  intro s g working
  refine ⟨⟨working.log, working.failures, working.delivered⟩, fun _ => ?_⟩
  exact ⟨⟨working.log, working.broker, working.database, working.stuck⟩, .inr ⟨rfl, working.delivered, congrArg (· + 1) working.failures⟩⟩

theorem example_meets :
    Meets (watch c) Begun ((attempt c).catches caught) (fun code s g => Held s g ∧ g.Shows code) (fun _ _ _ => False) := by
  refine meets_catches _ _ _ _ ?_ caught_meets
  refine meets_behind _ _ _ _ ?_ (fun _ _ _ working => working) attempt_meets
  intro code s g ended
  exact ⟨ended.2.toHeld, .inl ⟨ended.1, ended.2.delivered, ended.2.failures⟩⟩

theorem close_log_meets (code : ℕ) :
    Meets (watch c) (fun _ g => (g.log = .opened ∧ g.broker ≠ .opened ∧ g.database ≠ .opened) ∧ g.Shows code) closeLog
      (fun _ _ g => g.Closed ∧ g.Shows code) (fun _ _ g => g.stuck = true) := by
  intro s g holds
  refine ⟨holds.1, fun left => ?_⟩
  cases left with
  | error e => exact Bool.or_true g.stuck
  | ok r => exact ⟨⟨rfl, holds.1.2.1, holds.1.2.2⟩, holds.2⟩

theorem close_database_meets (code : ℕ) :
    Meets (watch c)
      (fun s g => (g.log = .opened ∧ g.broker ≠ .opened ∧ g.database = if s.database then .opened else .unopened) ∧ g.Shows code)
      closeDatabase (fun _ _ g => (g.log = .opened ∧ g.broker ≠ .opened ∧ g.database ≠ .opened) ∧ g.Shows code)
      (fun _ _ g => g.stuck = true) := by
  intro s g holds
  obtain ⟨⟨log, broker, database⟩, shows⟩ := holds
  obtain ⟨ids, running, usable⟩ := s
  cases usable with
  | false =>
      have unopened : g.database ≠ .opened := by
        rw [database]
        exact Phase.noConfusion
      exact ⟨⟨log, broker, unopened⟩, shows⟩
  | true =>
      refine ⟨⟨database, broker⟩, fun left => ?_⟩
      cases left with
      | error e => exact Bool.or_true g.stuck
      | ok r => exact ⟨⟨log, broker, Phase.noConfusion⟩, shows⟩

theorem close_broker_meets (code : ℕ) :
    Meets (watch c) (fun s g => Held s g ∧ g.Shows code) closeBroker
      (fun _ s g => (g.log = .opened ∧ g.broker ≠ .opened ∧ g.database = if s.database then .opened else .unopened) ∧ g.Shows code)
      (fun _ _ g => g.stuck = true) := by
  intro s g holds
  obtain ⟨⟨log, broker, database, stuck⟩, shows⟩ := holds
  obtain ⟨ids, running, usable⟩ := s
  cases running with
  | false =>
      have unopened : g.broker ≠ .opened := by
        rw [broker]
        exact Phase.noConfusion
      exact ⟨⟨log, unopened, database⟩, shows⟩
  | true =>
      refine ⟨broker, fun left => ?_⟩
      cases left with
      | error e => exact Bool.or_true g.stuck
      | ok r => exact ⟨⟨log, Phase.noConfusion, database⟩, shows⟩

theorem closed_meets (code : ℕ) :
    Meets (watch c) (fun s g => Held s g ∧ g.Shows code) closed (fun _ _ g => g.Closed ∧ g.Shows code) (fun _ _ g => g.stuck = true) :=
  meets_bind _ _ _ _ (close_broker_meets code) fun _ => meets_bind _ _ _ _ (close_database_meets code) fun _ => close_log_meets code

structure Idle (s : Locals) (g : Ledger) : Prop where
  broker : s.broker = false
  database : s.database = false
  ledger : g = .blank
  gave : s.ids.Gave g.spent

theorem logging_meets (instanceId : Str) : Meets (watch c) Idle (logging c instanceId) (fun _ => Begun) (fun _ _ g => g = .blank) := by
  intro s g idle
  rw [logging]
  split_ifs
  · exact idle.ledger
  · obtain ⟨broker, database, rfl, gave⟩ := idle
    exact ⟨⟨rfl, rfl, rfl, rfl⟩, fun _ => ⟨broker, database, rfl, gave⟩⟩

theorem guarded_meets : Meets (watch c) Begun (((attempt c).catches caught).lastly closed) (fun code _ g => g.Closed ∧ g.Shows code)
    (fun _ _ g => g.stuck = true) :=
  meets_lastly _ _ _ _ _ example_meets closed_meets fun _ _ _ never => never.elim

theorem run_events_meets (lookup : Env.Lookup) (loaded : loadEventsConfig lookup = .ok c) :
    Meets (watch c) (fun s g => s = start ∧ g = .blank) (runEvents lookup) (fun code _ g => g.Settles c (.ok code))
      (fun e _ g => g.Settles c (.error e)) := by
  have minted := new_id_meets (c := c) Idle (fun s g idle => idle.gave) (fun s g ids idle gave => ⟨idle.broker, idle.database, idle.ledger, gave⟩)
  rw [runEvents, loaded]
  refine meets_bind _ _ (fun c' s g => c' = c ∧ Idle s g) _ (meets_pure c _ ?_) fun c' => ?_
  · intro s g begun
    obtain ⟨rfl, rfl⟩ := begun
    exact ⟨rfl, rfl, rfl, rfl, new_bounded, List.Pairwise.nil, nofun, nofun⟩
  · intro s g holds
    obtain ⟨rfl, idle⟩ := holds
    by_cases known : oneOfTexts transports c'.transport = true
    · rw [if_pos known]
      refine (meets_bind _ _ _ _ (meets_behind _ _ _ _ (fun _ _ _ given => given.1) (fun _ _ _ idle => .inl idle.ledger) minted)
        fun instanceId => ?_) s g idle
      refine meets_bind _ _ _ _ (meets_behind _ _ _ _ (fun _ _ _ begun => begun) (fun _ _ _ blank => .inl blank) (logging_meets instanceId))
        fun _ => ?_
      refine meets_behind _ _ _ _ ?_ (fun _ _ _ stuck => .inr stuck) guarded_meets
      intro code s g ended
      rcases ended.2 with ⟨rfl, delivered, failures⟩ | ⟨rfl, delivered, failures⟩
      · exact ⟨delivered, failures, ended.1⟩
      · exact ⟨delivered, failures, ended.1⟩
    · rw [if_neg known]
      exact ⟨Bool.eq_false_of_not_eq_true known, idle.ledger⟩

theorem events_orderly (lookup : Env.Lookup) (c : EventsConfig) (es : List (Sigma Ask.Answer))
    (rest : Script Ask.Answer (Except (Given Failure) ℕ × Locals)) (loaded : loadEventsConfig lookup = .ok c)
    (path : (runEvents lookup start).After es rest) :
    (watch c).AllowsAll .blank es ∧
      match rest with
      | .call next _ => ((watch c).behind .blank es).Allows c next
      | .done r => ((watch c).behind .blank es).Settles c r.1 := by
  obtain ⟨allowed, obeys⟩ := Monitor.obeys_after (watch c) _ _ rest es .blank (run_events_meets lookup loaded start .blank ⟨rfl, rfl⟩) path
  refine ⟨allowed, ?_⟩
  cases rest with
  | call next _ => exact obeys.1
  | done r =>
      obtain ⟨r, s⟩ := r
      cases r with
      | ok code => exact obeys
      | error e => exact obeys

def exampleLookup (key : Str) : Env.Source :=
  if key = str "DEMO_TOKEN" then .text (str "t")
  else if key = str "DATABASE_URL" then .text (str "postgres://db")
  else if key = str "NATS_URL" then .text (str "nats://broker")
  else if key = str "EVENTS_TRANSPORT" then .text (str "jetstream")
  else .absent

def exampleAnswers (log : List (Sigma Ask.Answer)) : (c : Ask) → c.Answer
  | .newId => ⟨.ofInt 1000, if log.isEmpty then some (Vector.replicate 10 7) else none⟩
  | .enter => ⟨.time 1000, ⟨.ofInt 1000, some (Vector.replicate 10 7)⟩⟩
  | .now => .ofInt 1000
  | .performanceNow => log.length
  | .aborted => false
  | .openBroker _ | .provision | .openDatabase _ | .migrate _ _ | .enqueue _ | .closeDatabase _ | .closeLog _ => .ok (.ok ())
  | .readMigration _ => .ok (str "CREATE TABLE")
  | .dispatch _ _ | .transfer => .ok (.ok false)
  | .consume => ⟨none, .ok (.ok false)⟩
  | .closeBroker => .ok ()
  | .createLog _ _ | .pause | .info _ _ _ | .error _ _ _ => ()

theorem events_orderly_demo : ∃ c es s, (runEvents exampleLookup start).After es (.done (.ok 1, s)) ∧ (watch c).AllowsAll .blank es ∧
    ((watch c).behind .blank es).Settles c (.ok 1) := by
  have accepted : (loadEventsConfig exampleLookup).isOk = true := by decide +kernel
  have ran : ((runEvents exampleLookup start).play exampleAnswers []).2.1.toOption = some 1 := by decide +kernel
  have path := Script.play_after exampleAnswers [] (runEvents exampleLookup start)
  generalize (runEvents exampleLookup start).play exampleAnswers [] = played at ran path
  obtain ⟨es, r, s⟩ := played
  cases loaded : loadEventsConfig exampleLookup with
  | error e =>
      rw [loaded] at accepted
      cases accepted
  | ok c =>
      cases r with
      | error e => cases ran
      | ok code =>
          cases ran
          obtain ⟨allowed, settles⟩ := events_orderly exampleLookup c es _ loaded path
          exact ⟨c, es, s, path, allowed, settles⟩

end N2F.Root.Example
