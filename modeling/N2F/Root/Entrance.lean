import N2F.Http.Workers
import N2F.Provenance.Issuance
import N2F.Root.Http
import N2F.Socket.Reply

set_option autoImplicit false

namespace N2F.Root

open Ecma

-- What startHTTP has in hand when it listens; the instance took the first identifier.
structure Entry where
  boot : IdCall
  instanceId : Str
  booted : (V7.new.newId boot.now boot.entropy).1 = .ok instanceId
  testRoutes : Bool
  executor : Actor
  named : namedActor (.genuine executor) = true
  attribution : Attribution
  server : Http.Config
  origin : String

-- rawHeaders holds names and values in turn.
structure Arrival where
  path : String
  rawHeaders : List (Str × Str)
  req : Request

def Arrival.correlations (a : Arrival) : List Str :=
  (a.rawHeaders.filter fun h => h.1.map lower = str "x-correlation-id").map Prod.snd

-- Several values are no better than an unreadable one.
def Arrival.hint (a : Arrival) : Option Str :=
  match a.correlations with
  | [] => none
  | [value] => some value
  | _ :: _ :: _ => some []

def Entry.route (entry : Entry) (path : String) : Option String := (routes entry.testRoutes).lookup path

def Entry.operation (entry : Entry) (a : Arrival) : String := (entry.route a.path).getD "http.unmatched"

def Entry.root (entry : Entry) (name : String) : RootSpec :=
  ⟨none, .genuine .request, str name, .genuine entry.attribution, .genuine entry.executor⟩

def Entry.enter (entry : Entry) (name : String) (hint : Option Str) : Opening :=
  .enter (entry.root name) (.genuine (inspectIncoming ⟨hint, none⟩))

-- X-Request-ID and X-Correlation-ID
def requestIds (scope : Scope) : RequestIds := ⟨scope.snapshot.scopeId, scope.snapshot.work.correlationId⟩

structure Visit where
  arrival : Arrival
  scope : Result Scope

def selectedFailure (scope : Result Scope) : Option (Given Failure) :=
  match scope with
  | .error e => some (.genuine e)
  | .ok _ => none

def Visit.state (entry : Entry) (v : Visit) : RequestState :=
  ⟨selectedFailure v.scope, (entry.route v.arrival.path).isSome, v.scope.toOption.map requestIds⟩

structure Session where
  scope : Scope
  messages : List (Result Scope)

def pong (connection scope : Scope) (m : Socket.Message) : Socket.Message :=
  ⟨m.id, str "pong", [(str "connection_id", .str connection.snapshot.scopeId), (str "scope_id", .str scope.snapshot.scopeId)]⟩

-- session.handle; its signal cannot be aborted yet.
def Session.handle (s : Session) (m : Socket.Message) (scope : Result Scope) : Socket.Outcome :=
  match scope with
  | .error e => .returned (.error e)
  | .ok scope =>
      if m.type ≠ str "ping" then .returned (.error ⟨.invalid, "unsupported message", none, none⟩)
      else .returned (.ok (some (encodeUtf8 (pong s.scope scope m).document.text)))

inductive Holder where
  | request (i : ℕ)
  | connection (i : ℕ)
  | message (connection number : ℕ)
deriving DecidableEq

-- The requests and sessions of the process over its one generator. The last field only
-- remembers the scopes in the order they were opened in.
structure Entrance where
  ids : V7
  server : Http.Server
  visits : List Visit
  sockets : Socket.Server
  sessions : List Session
  opened : List (Holder × Scope)

def Entrance.start (entry : Entry) : Entrance :=
  ⟨(V7.new.newId entry.boot.now entry.boot.entropy).2, .new, [], .start entry.origin, [], []⟩

def Entrance.record (e : Entrance) (holder : Holder) (scope : Result Scope) : List (Holder × Scope) :=
  e.opened ++ (scope.toOption.map fun s => (holder, s)).toList

def Entrance.request (entry : Entry) (e : Entrance) (a : Arrival) (m : Moment) : Option Entrance :=
  let answer := e.ids.opens (entry.enter (entry.operation a) a.hint) m
  let visit : Visit := ⟨a, answer.1⟩
  (Http.step entry.server e.server (.arrive (visit.state entry) a.req)).map fun server =>
    { e with
      ids := answer.2
      server := server
      visits := e.visits ++ [visit]
      opened := e.record (.request e.visits.length) answer.1 }

def Entrance.accept (entry : Entry) (e : Entrance) (u : Socket.Upgrade) (m : Moment) : Entrance :=
  let answer := e.ids.opens (entry.enter "socket.connection" none) m
  match answer.1 with
  | .error _ => { e with ids := answer.2, sockets := e.sockets.upgrade u .unopened }
  | .ok scope =>
      { e with
        ids := answer.2
        sockets := e.sockets.upgrade u .opened
        sessions := e.sessions ++ [⟨scope, []⟩]
        opened := e.record (.connection e.sessions.length) answer.1 }

def Entrance.upgrade (entry : Entry) (e : Entrance) (u : Socket.Upgrade) (completes : Bool) (m : Moment) : Entrance :=
  if completes && e.sockets.admits u then e.accept entry u m else { e with sockets := e.sockets.upgrade u .declined }

def Entrance.serve (entry : Entry) (e : Entrance) (i : ℕ) (session : Session) (m : Moment) : Entrance :=
  let answer := e.ids.opens (.child (.genuine session.scope) (stepOf (str "socket.message") entry.executor)) m
  { e with
    ids := answer.2
    sessions := e.sessions.set i { session with messages := session.messages ++ [answer.1] }
    opened := e.record (.message i session.messages.length) answer.1 }

def Entrance.message (entry : Entry) (e : Entrance) (i : ℕ) (frame : Socket.Frame) (m : Moment) : Option Entrance :=
  (e.sockets.connections[i]?).bind fun c => (e.sessions[i]?).bind fun session =>
    (Socket.step e.sockets (.on i (.message frame))).map fun sockets =>
      if (c.hands frame).isSome then { e.serve entry i session m with sockets := sockets } else { e with sockets := sockets }

def Entrance.settle (e : Entrance) (i number : ℕ) : Option Entrance :=
  (e.sockets.connections[i]?).bind fun c => (e.sessions[i]?).bind fun session =>
    (c.works[number]?).bind fun w => (session.messages[number]?).bind fun scope =>
      (Socket.step e.sockets (.on i (.settled number (session.handle w.message scope)))).map fun sockets => { e with sockets := sockets }

inductive Entrance.Event where
  | request (a : Arrival) (m : Moment)
  | on (request : ℕ) (e : Http.RequestEvent)
  | upgrade (u : Socket.Upgrade) (completes : Bool) (m : Moment)
  | message (connection : ℕ) (frame : Socket.Frame) (m : Moment)
  | settle (connection number : ℕ)
  | socket (e : Socket.Event)

def isAside : Socket.Event → Bool
  | .upgrade _ _ | .on _ (.message _) | .on _ (.settled _ _) => false
  | .on _ _ | .close | .expire _ | .drained _ => true

def Entrance.step (entry : Entry) (e : Entrance) : Entrance.Event → Option Entrance
  | .request a m => e.request entry a m
  | .on i moved => (Http.step entry.server e.server (.on i moved)).map fun server => { e with server := server }
  | .upgrade u completes m => some (e.upgrade entry u completes m)
  | .message i frame m => e.message entry i frame m
  | .settle i number => e.settle i number
  | .socket moved => if isAside moved then (Socket.step e.sockets moved).map fun sockets => { e with sockets := sockets } else none

def entrance (entry : Entry) : Machine Entrance Entrance.Event := ⟨.start entry, Entrance.step entry⟩

end N2F.Root
