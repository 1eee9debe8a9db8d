import N2F.Health.Gate
import N2F.Http.Draining
import N2F.HttpClient.Client
import N2F.Logger.Answered
import N2F.Socket.Closing

set_option autoImplicit false

namespace N2F.Root

open Ecma

-- What startHTTP puts together, with what the reader checked of SHUTDOWN_MS. It has
-- contexts in the mode otlp.
structure Parts where
  origin : String
  gate : Health.Config
  server : Http.Config
  outbound : Option HttpClient.Setting
  log : Logger.Config
  hasContexts : Bool
  hasDatabase : Bool
  shutdownMs : ℕ
  allowed : 1 ≤ shutdownMs ∧ shutdownMs ≤ 30000
  address : String

inductive Closable where
  | gate
  | http
  | sockets
  | handlers
  | outbound
  | database
  | telemetry
  | observer
  | log
  | app
  | diag
  | contexts
deriving DecidableEq

-- The failures a start withdraws from.
inductive Fault where
  | database
  | listen
deriving DecidableEq

-- What else can throw once the log is open: the telemetry (its contexts are owned
-- already), NativeClient.create, Nest. Nothing is given up then.
inductive Leak where
  | telemetry
  | outbound
  | app
deriving DecidableEq

-- The awaits of a shutdown. The sockets and the log have numbered their calls of
-- close, and drain took the handlers that it found.
inductive Wait where
  | sockets (closer : ℕ)
  | http
  | handlers (waited : List ℕ)
  | database
  | telemetry
  | log (closer : ℕ)
  | app
deriving DecidableEq

inductive Stage where
  | instrumenting
  | opening
  | connecting
  | creating
  | listening
  | serving
  | closing (wait : Wait)
  | closed
  | failing (fault : Fault) (wait : Wait)
  | failed (fault : Fault)
  | leaked (leak : Leak)
deriving DecidableEq

-- The components, the clock, and where startHTTP and its close stand. A server is
-- connected while it listens or has a connection; a refused upgrade leaves it a detached
-- socket, which is ended on this side only. Whether the drain found its handlers settled,
-- what was given up and the budgets are only remembered.
structure Process where
  stage : Stage
  now : ℕ
  deadline : ℕ
  connected : Bool
  detached : ℕ
  gate : Health.Gate
  server : Http.Server
  sockets : Socket.Server
  client : HttpClient.Client
  log : Logger.Runtime
  events : ℕ
  drained : Option Bool
  closings : List Closable
  budgets : List ℕ
  diagnostics : List String

def Process.start (parts : Parts) : Process where
  stage := .instrumenting
  now := 0
  deadline := 0
  connected := false
  detached := 0
  gate := Health.Gate.new
  server := Http.Server.new
  sockets := Socket.Server.start parts.origin
  client := ⟨false, [], [], [], []⟩
  log := Logger.Runtime.start
  events := 0
  drained := none
  closings := []
  budgets := []
  diagnostics := []

def Stage.isClosing : Stage → Bool
  | .closing _ | .closed => true
  | .instrumenting | .opening | .connecting | .creating | .listening | .serving | .failing _ _ | .failed _ | .leaked _ => false

def Process.remaining (p : Process) : ℕ := p.deadline - p.now

def Process.report (p : Process) (line : String) : Process := { p with diagnostics := p.diagnostics ++ [line] }

def Process.unless (p : Process) (ok : Bool) (line : String) : Process := if ok then p else p.report line

def Process.free (p : Process) (r : Closable) : Process := { p with closings := p.closings ++ [r] }

def Process.await (p : Process) (r : Closable) (budget : ℕ) (stage : Stage) : Process :=
  { p with stage := stage, closings := p.closings ++ [r], budgets := p.budgets ++ [budget] }

def Process.awaitLog (parts : Parts) (p : Process) (budget : ℕ) (at' : Wait → Stage) : Process :=
  { p with log := p.log.close parts.log (Number.ofInt budget) }.await .log budget (at' (.log p.log.closers.length))

-- outboundNative?.close()
def Process.closeOutbound (parts : Parts) (p : Process) : Process :=
  if parts.outbound.isSome then { p with client := p.client.close }.free .outbound else p

def Process.awaitTelemetry (p : Process) : Process := p.await .telemetry p.remaining (.closing .telemetry)

def Process.afterHandlers (parts : Parts) (p : Process) : Process :=
  let p := p.closeOutbound parts
  if parts.hasDatabase then p.await .database p.remaining (.closing .database) else p.awaitTelemetry

-- The catch behind listen, past the close of the database.
def Process.abandon (parts : Parts) (p : Process) : Process :=
  ((p.closeOutbound parts).free .observer).await .telemetry parts.shutdownMs (.failing .listen .telemetry)

def Process.afterListen (parts : Parts) (p : Process) (ok : Bool) : Process :=
  if ok then
    { p with stage := .serving, connected := true, gate := p.gate.start }.report ("http.listening " ++ parts.address ++ "\n")
  else if parts.hasDatabase then p.await .database parts.shutdownMs (.failing .listen .database)
  else p.abandon parts

def Process.afterOpen (parts : Parts) (p : Process) (ok : Bool) : Process :=
  if ok || !parts.hasDatabase then { p with stage := .connecting }
  else (p.free .observer).await .telemetry parts.shutdownMs (.failing .database .telemetry)

def diagnosed (events : ℕ) : String := "telemetry diagnostic events=" ++ toString events ++ "; exact dropped records unknown\n"

-- The close of the handle; a second call finds the promise of the first.
def Process.close (parts : Parts) (p : Process) : Option Process :=
  match p.stage with
  | .serving =>
      (Socket.step p.sockets .close).map fun sockets =>
        let p := ({ p with gate := p.gate.drain, deadline := p.now + parts.shutdownMs }.free .gate).free .http
        { p with sockets := sockets }.await .sockets p.remaining (.closing (.sockets p.sockets.closers.length))
  | .closing _ | .closed => some p
  | .instrumenting | .opening | .connecting | .creating | .listening | .failing _ _ | .failed _ | .leaked _ => none

-- The closing goes on behind its await. The outcome is what the database or the
-- telemetry answered, and whether drain saw its handlers settle.
def Process.resume (parts : Parts) (p : Process) (ok : Bool) : Wait → Option Process
  | .sockets closer =>
      match p.sockets.closers[closer]? with
      | some (_, some answer) =>
          let p := p.unless answer "socket shutdown incomplete\n"
          some { p with stage := .closing .http, budgets := p.budgets ++ [p.remaining] }
      | _ => none
  | .http => if p.connected then none else some (p.await .handlers p.remaining (.closing (.handlers p.server.workers)))
  | .handlers waited =>
      if ok && !waited.all p.server.settled then none else some ({ p with drained := some ok }.afterHandlers parts)
  | .database => some (p.unless ok "database shutdown incomplete\n").awaitTelemetry
  | .telemetry => some (((p.unless ok "telemetry shutdown incomplete\n").free .observer).awaitLog parts p.remaining .closing)
  | .log closer =>
      match p.log.closers[closer]? with
      | some (.answered result) =>
          some { (p.unless result.isOk "logging shutdown incomplete\n").free .app with stage := .closing .app }
      | _ => none
  | .app =>
      let p := p.free .diag
      let p := if parts.hasContexts then p.free .contexts else p
      some { p.unless (p.events = 0) (diagnosed p.events) with stage := .closed }

def Process.withdraw (parts : Parts) (p : Process) (fault : Fault) : Wait → Option Process
  | .database => some (p.abandon parts)
  | .telemetry => some (p.awaitLog parts parts.shutdownMs (.failing fault))
  | .log closer =>
      match p.log.closers[closer]? with
      | some (.answered _) =>
          match fault with
          | .listen => some { p.free .app with stage := .failing .listen .app }
          | .database => some { p with stage := .failed .database }
      | _ => none
  | .app => some { p with stage := .failed fault }
  | .sockets _ | .http | .handlers _ => none

def Process.next (parts : Parts) (p : Process) (ok : Bool) : Option Process :=
  match p.stage with
  | .instrumenting => some { p with stage := if ok || !parts.hasContexts then .opening else .leaked .telemetry }
  | .opening => some (p.afterOpen parts ok)
  | .connecting => some { p with stage := if ok || parts.outbound.isNone then .creating else .leaked .outbound }
  | .creating => some { p with stage := if ok then .listening else .leaked .app }
  | .listening => some (p.afterListen parts ok)
  | .closing wait => p.resume parts ok wait
  | .failing fault wait => p.withdraw parts fault wait
  | .serving | .closed | .failed _ | .leaked _ => none

def asks : Health.Event → Bool
  | .start | .drain => false
  | .ready _ | .abort _ | .on _ _ => true

def permits (isConnected : Bool) : Socket.Event → Bool
  | .close => false
  | .upgrade _ _ => isConnected
  | .on _ _ | .expire _ | .drained _ => true

def calls : HttpClient.ClientEvent → Bool
  | .close => false
  | .call _ _ _ | .event _ _ => true

inductive Event where
  | gate (e : Health.Event)
  | server (e : Http.Event)
  | sockets (e : Socket.Event)
  | client (e : HttpClient.ClientEvent)
  | log (e : Logger.Event)
  | tick (ms : ℕ)
  | diagnostic
  | disconnect
  | hangup
  | close
  | next (ok : Bool)

-- socket.end(...) leaves the half of the peer open.
def Process.upgraded (p : Process) (sockets : Socket.Server) : Process :=
  { p with sockets := sockets, detached := p.detached + (sockets.refusals.length - p.sockets.refusals.length) }

-- The steps a component takes on its own. Upgrades and requests come over a connection.
-- The last connection goes when every request was called, or is cut off; a detached
-- socket is reached by no forced close and goes from the side of its peer.
def Process.step (parts : Parts) (p : Process) : Event → Option Process
  | .gate e => if asks e then (Health.step parts.gate p.gate e).map fun gate => { p with gate := gate } else none
  | .server e =>
      if p.connected || e.isSevered then (Http.step parts.server p.server e).map fun server => { p with server := server } else none
  | .sockets e =>
      if permits p.connected e then (Socket.step p.sockets e).map p.upgraded else none
  | .client e =>
      parts.outbound.bind fun c => if calls e then (c.step p.client e).map fun client => { p with client := client } else none
  | .log e => if e.isClose then none else (Logger.step parts.log p.log e).map fun log => { p with log := log }
  | .tick ms => some { p with now := p.now + ms }
  | .diagnostic => if p.stage = .closed then none else some { p with events := p.events + 1 }
  | .disconnect =>
      if p.stage.isClosing && p.detached = 0 && p.server.requests.all fun r => decide (r.stage ≠ .waiting) then
        some { p with connected := false }
      else none
  | .hangup => if p.detached = 0 then none else some { p with detached := p.detached - 1 }
  | .close => p.close parts
  | .next ok => p.next parts ok

def process (parts : Parts) : Machine Process Event := ⟨Process.start parts, Process.step parts⟩

end N2F.Root
