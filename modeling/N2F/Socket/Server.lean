import N2F.Machine
import N2F.Socket.Message
import Mathlib.Data.List.SplitOn

set_option autoImplicit false

namespace N2F.Socket

structure Frame where
  raw : ByteArray
  binary : Bool

-- How session.handle settles. A response is what Buffer.from(JSON.stringify(m))
-- makes of it, or that it throws.
inductive Outcome where
  | threw
  | returned (value : Result (Option ByteArray))

-- Where the pending work of a frame stands: at the await of session.handle, at
-- the await of ws.send, before the finally that clears it, or behind that.
inductive Stage where
  | handling
  | sending
  | ended
  | gone
deriving DecidableEq

structure Work where
  message : Message
  stage : Stage
  aborted : Bool

inductive Cleanup where
  | unasked
  | awaiting (target : Option ℕ)
  | done
deriving DecidableEq

-- A connection accept admitted. Its works are numbered by their frames; the last
-- two fields only remember the bodies handed to ws.send, with their works, and how
-- often session.close was called.
structure Connection where
  pending : Option ℕ
  pong : Bool
  closing : Bool
  stopped : Bool
  terminated : Bool
  codes : List (ℕ × String)
  works : List Work
  cleanup : Cleanup
  sent : List (ℕ × ByteArray)
  closes : ℕ

def Connection.start : Connection := ⟨none, true, false, false, false, [], [], .unasked, [], 0⟩

def Connection.ask (c : Connection) (code : ℕ) (reason : String) : Connection := { c with codes := c.codes ++ [(code, reason)] }

-- closing = true; ws.close(code, reason)
def Connection.refuse (c : Connection) (code : ℕ) (reason : String) : Connection := { c with closing := true }.ask code reason

def Connection.put (c : Connection) (number : ℕ) (w : Work) : Connection := { c with works := c.works.set number w }

def Connection.terminate (c : Connection) : Connection := { c with terminated := true }

def Work.stop (w : Work) : Work := if w.stage = .handling ∨ w.stage = .sending then { w with aborted := true } else w

def Connection.stop (c : Connection) : Connection :=
  if c.stopped then c else { c with stopped := true, works := c.works.map Work.stop }

def Connection.message (c : Connection) (frame : Frame) : Connection :=
  if c.closing then c
  else if c.pending.isSome then c.refuse 1013 "message already running"
  else if frame.binary then c.refuse 1003 "text required"
  else
    match Message.decode frame.raw with
    | .error _ => c.refuse 1008 "invalid message"
    | .ok m => { c with works := c.works ++ [⟨m, .handling, false⟩], pending := some c.works.length }

def Connection.fail (c : Connection) (number : ℕ) (w : Work) : Connection :=
  (c.refuse 1011 "message failed").put number { w with stage := .ended }

def Connection.settle (c : Connection) (number : ℕ) (w : Work) : Outcome → Connection
  | .threw => c.fail number w
  | .returned response =>
      if w.aborted || c.closing then c.put number { w with stage := .ended }
      else
        match response.bind Message.encode with
        | .error _ => c.fail number w
        | .ok body => { c with sent := c.sent ++ [(number, body)] }.put number { w with stage := .sending }

def Connection.heartbeat (c : Connection) : Connection := if c.pong then { c with pong := false } else c.terminate

def Connection.close (c : Connection) : Connection :=
  { { c with closing := true }.stop with cleanup := .awaiting c.pending }

def Connection.cleaned (c : Connection) : Connection := { c with cleanup := .done, closes := c.closes + 1 }

-- The callbacks of one connection and the continuations of its work. ws delivers no
-- message after close, and close clears the heartbeat.
inductive ConnectionEvent where
  | message (frame : Frame)
  | settled (number : ℕ) (outcome : Outcome)
  | sent (number : ℕ) (ok : Bool)
  | cleared (number : ℕ)
  | timeout (number : ℕ)
  | heartbeat
  | pong
  | close
  | cleaned

def Connection.at (c : Connection) (number : ℕ) (stages : List Stage) (f : Work → Connection) : Option Connection :=
  (c.works[number]?).bind fun w => if w.stage ∈ stages then some (f w) else none

def Connection.step (c : Connection) : ConnectionEvent → Option Connection
  | .message frame => if c.cleanup = .unasked then some (c.message frame) else none
  | .settled number outcome => c.at number [.handling] fun w => c.settle number w outcome
  | .sent number ok => c.at number [.sending] fun w => if ok then c.put number { w with stage := .ended } else c.fail number w
  | .cleared number => c.at number [.ended] fun w => { c.put number { w with stage := .gone } with pending := none }
  | .timeout number => c.at number [.handling, .sending] fun w => (c.put number { w with aborted := true }).terminate
  | .heartbeat => if c.cleanup = .unasked then some c.heartbeat else none
  | .pong => some { c with pong := true }
  | .close => if c.cleanup = .unasked then some c.close else none
  | .cleaned =>
      match c.cleanup with
      | .awaiting none => some c.cleaned
      | .awaiting (some number) => c.at number [.gone] fun _ => c.cleaned
      | .unasked | .done => none

structure Upgrade where
  rawHeaders : List String
  origin : Option String
  protocol : Option String

-- rawHeaders holds names and values in turn.
def headerNames : List String → List String
  | name :: _ :: rest => name :: headerNames rest
  | [name] => [name]
  | [] => []

def Upgrade.origins (u : Upgrade) : ℕ := (headerNames u.rawHeaders).countP fun name => name.toList.map Char.toLower = "origin".toList

def Upgrade.speaks (u : Upgrade) : Bool := u.protocol.any fun header => ((header.toList.splitOn ',').map Ecma.trim).contains "n2f.v1".toList

-- What ws makes of the handshake and accept of the session: no callback, no session, or one.
inductive Handshake where
  | declined
  | unopened
  | opened

-- The closers are the calls of close with the entries they found and their answers.
structure Server where
  origin : String
  closed : Bool
  connections : List Connection
  active : List ℕ
  refusals : List (ℕ × String)
  closers : List (List ℕ × Option Bool)

def Server.start (origin : String) : Server := ⟨origin, false, [], [], [], []⟩

def Server.upgrade (s : Server) (u : Upgrade) (h : Handshake) : Server :=
  if u.origins ≠ 1 || u.origin ≠ some s.origin || !u.speaks then { s with refusals := s.refusals ++ [(403, "Forbidden")] }
  else if s.closed || 64 ≤ s.active.length then { s with refusals := s.refusals ++ [(503, "Service Unavailable")] }
  else
    match h with
    | .declined | .unopened => s
    | .opened => { s with connections := s.connections ++ [Connection.start], active := s.active ++ [s.connections.length] }

def each (f : Connection → Connection) (entries : List ℕ) (connections : List Connection) : List Connection :=
  entries.foldl (fun cs i => cs.modify i f) connections

def Connection.depart (c : Connection) : Connection := c.ask 1001 "server stopping"

def Connection.halt (c : Connection) : Connection := c.stop.terminate

def Server.finished (s : Server) (entry : ℕ) : Bool := s.connections[entry]?.all fun c => c.cleanup = .done

inductive Event where
  | upgrade (u : Upgrade) (h : Handshake)
  | on (connection : ℕ) (e : ConnectionEvent)
  | close
  | expire (closer : ℕ)
  | drained (closer : ℕ)

def Server.after (s : Server) (i : ℕ) (e : ConnectionEvent) (c : Connection) : Server :=
  { s with connections := s.connections.set i c, active := match e with | .cleaned => s.active.erase i | _ => s.active }

def step (s : Server) : Event → Option Server
  | .upgrade u h => some (s.upgrade u h)
  | .on i e => (s.connections[i]?).bind fun c => (c.step e).map (s.after i e)
  | .close =>
      some
        { s with
          closed := true
          connections := each Connection.depart s.active s.connections
          closers := s.closers ++ [(s.active, none)] }
  | .expire closer =>
      match s.closers[closer]? with
      | some (entries, none) =>
          some { s with connections := each Connection.halt entries s.connections, closers := s.closers.set closer (entries, some false) }
      | _ => none
  | .drained closer =>
      match s.closers[closer]? with
      | some (entries, none) =>
          if entries.all s.finished then some { s with closers := s.closers.set closer (entries, some true) } else none
      | _ => none

def machine (origin : String) : Machine Server Event := ⟨Server.start origin, step⟩

end N2F.Socket
