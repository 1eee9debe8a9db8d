import N2F.Http.Policy
import N2F.Http.Server
import N2F.Machine

set_option autoImplicit false

namespace N2F.Http

-- What a handler comes to: a Result, with what JSON.stringify makes of its value,
-- or what it threw or was rejected with.
inductive HandlerResult where
  | ok (text : Except (Given Failure) (Option String))
  | err (e : Given Failure)
  | threw (e : Given Failure)

-- The catch behind the handler turns what it threw into an err.
def HandlerResult.returned : HandlerResult → Returned
  | .ok text => ⟨.ok true, .ok .foreign, .ok true, text⟩
  | .err e | .threw e => refusing e

inductive Stage where
  | waiting
  | reading
  | racing
  | expired
  | left (answer : Answer)
deriving DecidableEq

-- A handler is queued behind Promise.resolve(), runs its body, is pending until its
-- promise settles, and is done once the finally has deleted its work.
inductive Handler where
  | idle
  | queued
  | running
  | pending
  | settled (result : HandlerResult)
  | done (result : HandlerResult)

-- A request that the middleware saw. The last two fields only remember how often
-- its handler was started and what handle wrote.
structure Handling where
  state : RequestState
  req : Request
  res : Response
  stage : Stage
  handler : Handler
  selected : Option (Given Failure)
  termination : Termination
  aborted : Bool
  starts : ℕ
  writes : List Answer

def Handling.arrived (state : RequestState) (req : Request) : Handling :=
  ⟨state, req, ⟨false, false⟩, .waiting, .idle, state.selected, .responseCompleted, false, 0, []⟩

structure Config where
  maxBody : ℕ
  maxActive : ℕ
  positive : 1 ≤ maxActive

def wrote : Answer → Bool
  | .json _ _ | .problem _ _ | .bare _ => true
  | .left | .destroyed | .rejected => false

def Handling.leave (r : Handling) (answer : Answer) : Handling :=
  { r with
    stage := .left answer
    writes := if wrote answer then r.writes ++ [answer] else r.writes
    res := ⟨r.res.destroyed || decide (answer = .destroyed), r.res.headersSent || wrote answer⟩
    termination := if answer = .destroyed then .handlerError else r.termination }

def Handling.conclude (r : Handling) (tried : Except (Given Failure) Answer) : Handling :=
  match tried with
  | .ok answer => r.leave answer
  | .error e => { r with selected := some e }.leave (recover e r.res)

def Handling.answer (r : Handling) (sel : Selection) (result : Returned) : Handling :=
  { r with selected := sel.selected }.conclude (respond sel r.state.scope result r.res)

def Handling.refuse (r : Handling) (e : Given Failure) (protocol : Option ℕ) : Handling := r.answer ⟨some e, protocol⟩ (refusing e)

def Handling.finish (r : Handling) (result : Returned) : Handling :=
  match result.ok with
  | .error e => r.conclude (.error e)
  | .ok true => r.answer ⟨none, none⟩ result
  | .ok false =>
      match result.error with
      | .error e => r.conclude (.error e)
      | .ok e => r.answer ⟨some e, none⟩ result

inductive Slot where
  | keep
  | add
  | delete
deriving DecidableEq

def Handling.ask (isFull : Bool) (r : Handling) : Handling × Slot :=
  if isFull then (r.refuse (.genuine busyFailure) none, .keep) else ({ r with stage := .racing, handler := .queued }, .add)

def unsupportedMedia : Failure := failure .invalid "unsupported media type" "http.unsupported_media_type"

def Handling.call (isFull : Bool) (r : Handling) : Handling × Slot :=
  let sel := routeSelection r.state r.req
  match sel.selected with
  | some e =>
      -- setHeader('Allow', ...) stands outside the try block
      if sel.protocol.isSome && r.res.headersSent then ({ r with selected := some e }.leave .rejected, .keep)
      else (r.refuse e sel.protocol, .keep)
  | none =>
      if !hasBody r.req then r.ask isFull
      else if isJson r.req then ({ r with stage := .reading }, .keep)
      else (r.refuse (.genuine unsupportedMedia) (some 415), .keep)

def Handling.bodyRead (c : Config) (isFull : Bool) (r : Handling) (events : List BodyEvent) : Handling × Slot :=
  match readBody c.maxBody 0 events with
  | none => r.ask isFull
  | some rejected =>
      let e := Given.genuine (bodyFailure rejected)
      let r := { r with selected := some e, termination := if rejected = 408 then .deadline else r.termination }
      -- setHeader('Connection', 'close')
      (if r.res.headersSent then r.conclude (.error .foreign) else r.refuse e (some rejected), .keep)

inductive HandlerEvent where
  | start
  | returned (result : Option HandlerResult)
  | settle (result : HandlerResult)
  | remove

-- A body that returns no promise, or throws, settles at once.
def Handling.advance (r : Handling) : HandlerEvent → Option Handling
  | .start =>
      match r.handler with
      | .queued => some { r with handler := .running, starts := r.starts + 1 }
      | _ => none
  | .returned result =>
      match r.handler with
      | .running => some { r with handler := (result.map Handler.settled).getD .pending }
      | _ => none
  | .settle result =>
      match r.handler with
      | .pending => some { r with handler := .settled result }
      | _ => none
  | .remove =>
      match r.handler with
      | .settled result => some { r with handler := .done result }
      | _ => none

def Handler.result : Handler → Option HandlerResult
  | .settled result | .done result => some result
  | .idle | .queued | .running | .pending => none

inductive RequestEvent where
  | call
  | bodyRead (events : List BodyEvent)
  | handler (e : HandlerEvent)
  | deadline
  | expire
  | proceed
  | close (isFinished : Bool)
  | error
  | destroy
  | commit

inductive Event where
  | arrive (state : RequestState) (req : Request)
  | on (request : ℕ) (e : RequestEvent)

def timedOut : Returned := refusing (.genuine timeoutFailure)

def slotOf : HandlerEvent → Slot
  | .remove => .delete
  | .start | .returned _ | .settle _ => .keep

-- The timer only fires while the race is open: the result of a handler that has
-- settled is taken before the next timer.
def Handling.step (c : Config) (isFull : Bool) (r : Handling) : RequestEvent → Option (Handling × Slot)
  | .call => if r.stage = .waiting then some (r.call isFull) else none
  | .bodyRead events => if r.stage = .reading then some (r.bodyRead c isFull events) else none
  | .handler e => (r.advance e).map fun r => (r, slotOf e)
  | .deadline =>
      if r.stage = .racing ∧ r.handler.result.isNone = true then
        some ({ r with stage := .expired, termination := .deadline, aborted := true }, .keep)
      else none
  | .expire => if r.stage = .expired then some (r.finish timedOut, .keep) else none
  | .proceed =>
      match r.handler.result with
      | some result => if r.stage = .racing then some (r.finish result.returned, .keep) else none
      | none => none
  | .close isFinished =>
      if isFinished then some (r, .keep)
      else some ({ r with res := { r.res with destroyed := true }, termination := .peerClosed, aborted := true }, .keep)
  | .error => some ({ r with termination := .writeError }, .keep)
  | .destroy => some ({ r with res := { r.res with destroyed := true } }, .keep)
  | .commit => if r.res.headersSent then none else some ({ r with res := { r.res with headersSent := true } }, .keep)

structure Server where
  requests : List Handling
  workers : List ℕ

def Server.new : Server := ⟨[], []⟩

def Server.isFull (c : Config) (s : Server) : Bool := c.maxActive ≤ s.workers.length

def Server.apply (s : Server) (i : ℕ) (moved : Handling × Slot) : Server where
  requests := s.requests.set i moved.1
  workers :=
    match moved.2 with
    | .keep => s.workers
    | .add => i :: s.workers
    | .delete => s.workers.erase i

def step (c : Config) (s : Server) : Event → Option Server
  | .arrive state req => some { s with requests := s.requests ++ [.arrived state req] }
  | .on i e => s.requests[i]?.bind fun r => (r.step c (s.isFull c) e).map (s.apply i)

def machine (c : Config) : Machine Server Event := ⟨Server.new, step c⟩

end N2F.Http
