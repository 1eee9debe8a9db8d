import N2F.Provenance.Scope
import N2F.Provenance.Incoming

set_option autoImplicit false

namespace N2F

open Ecma

structure RootSpec where
  workId : Option Str
  origin : Given Origin
  operation : Str
  attribution : Given Attribution
  executor : Given Actor

structure StepSpec where
  workId : Option Str
  operation : Str
  executor : Given Actor
  cause : Option (Given Reference)

structure WorkSpec where
  workId : Str
  operation : Str
  cause : Option (Given Reference)

structure ExecutionSpec where
  executor : Given Actor
  attempt : Number

structure ReplaySpec where
  source : Given Reference
  runId : Option Str
  workId : Option Str
  operation : Str
  attribution : Given Attribution
  executor : Given Actor

def generatedError : Failure :=
  failure .internal "invalid generated provenance ID" "provenance.invalid_generated_id"

def rootWork (s : RootSpec) : Result DraftWork :=
  if !validOrigin s.origin || s.origin = .genuine .replay then .error (invalid "invalid_origin")
  else if s.workId.any (fun id => !validID id) then .error (invalid "invalid_work")
  else
    .ok
      { workId := s.workId
        correlationId := none
        correlationSource := .genuine .local
        causation := none
        origin := some s.origin
        operation := s.operation
        attribution := s.attribution
        depth := some Number.zero
        replay := none }

def childCause (parent : ScopeSnapshot) (cause : Option (Given Reference)) : Result (Given Reference) :=
  match cause with
  | some cause => .ok cause
  | none => (reference (.genuine .scope) parent.scopeId).map .genuine

def ScopeSnapshot.childDraft (p : ScopeSnapshot) (workId : Option Str) (operation : Str) (cause : Given Reference) : DraftWork :=
  { p.work.draft with
    workId := workId
    operation := operation
    depth := p.work.depth.map Number.increment
    causation := some cause }

def childWork (parent : Given Scope) (workId : Option Str) (operation : Str) (cause : Option (Given Reference)) :
    Result DraftWork :=
  match parent with
  | .foreign => .error (invalid "invalid_scope")
  | .genuine parent =>
      let s := parent.snapshot
      if workId.any (fun id => !validID id || id = s.work.workId) then .error (invalid "invalid_work")
      else if s.work.depth.any (is · maxUint32) then .error (invalid "depth_exhausted")
      else
        match childCause s cause with
        | .error e => .error e
        | .ok causation =>
            match validateWork (s.childDraft workId operation causation) true with
            | some e => .error e
            | none => .ok (s.childDraft workId operation causation)

def prepare (parent : Given Scope) (s : WorkSpec) : Result WorkContext :=
  match parent with
  | .foreign => .error (invalid "invalid_scope")
  | .genuine _ =>
      if !validID s.workId then .error (invalid "invalid_work")
      else
        match childWork parent (some s.workId) s.operation s.cause with
        | .error e => .error e
        | .ok w => restoreWork w

inductive Call where
  | now
  | newId
deriving DecidableEq

-- The clock and the generator answer as they please, also by what was called before.
structure Factory where
  clock : List Call → Date
  ids : List Call → Result Str

-- The arguments of #emit.
structure Emission where
  work : DraftWork
  executor : Given Actor
  attempt : Number
  previousAttempt : Option Str
  forbidden : List Str

def Emission.failure (m : Emission) : Option Failure :=
  if !namedActor m.executor then some (invalid "invalid_actor")
  else if refusesAttempt m.attempt then some (invalid "invalid_attempt")
  else validateWork m.work true

def DraftWork.filled (w : DraftWork) (scopeId : Str) : DraftWork :=
  { w with
    workId := some (w.workId.getD scopeId)
    correlationId := some (w.correlationId.getD scopeId)
    replay := w.replay.map fun r => { r with runId := some (r.runId.getD scopeId) } }

def Emission.scope (m : Emission) (scopeId : Str) (ms : ℤ) : DraftScope :=
  { work := m.work.filled scopeId
    scopeId := scopeId
    startedAt := .time ms
    executor := m.executor
    attempt := m.attempt
    previousAttempt := m.previousAttempt }

def Emission.accept (m : Emission) (ms : ℤ) (scopeId : Str) : Result Scope :=
  if !validID scopeId || m.forbidden.contains scopeId then .error generatedError
  else
    match restoreScope (m.scope scopeId ms) with
    | .ok s => .ok s
    | .error _ => .error generatedError

def Factory.emit (f : Factory) (m : Emission) (calls : List Call) : Result Scope × List Call :=
  match m.failure with
  | some e => (.error e, calls)
  | none =>
      let timed := calls ++ [.now]
      match normalizedTime (f.clock calls) with
      | none => (.error (invalid "invalid_time"), timed)
      | some ms =>
          let counted := timed ++ [.newId]
          match f.ids timed with
          | .error e => (.error e, counted)
          | .ok scopeId => (m.accept ms scopeId, counted)

inductive Opening where
  | «open» (s : RootSpec)
  | child (parent : Given Scope) (s : StepSpec)
  | execute (work : Given WorkContext) (s : ExecutionSpec)
  | retry (previous : Given Scope) (executor : Given Actor)
  | replay (s : ReplaySpec)
  | enter (s : RootSpec) (i : Given IncomingResult)

def first : Number := Number.ofInt 1

def openEmission (s : RootSpec) : Result Emission :=
  match rootWork s with
  | .error e => .error e
  | .ok w => .ok ⟨w, s.executor, first, none, []⟩

def childEmission (parent : Given Scope) (s : StepSpec) : Result Emission :=
  match childWork parent s.workId s.operation s.cause, parent with
  | .error e, _ => .error e
  | .ok _, .foreign => .error (invalid "invalid_scope")
  | .ok w, .genuine p =>
      .ok ⟨w, s.executor, first, none,
        p.snapshot.scopeId :: if s.workId = none then [p.snapshot.work.workId] else []⟩

def executeEmission (work : Given WorkContext) (s : ExecutionSpec) : Result Emission :=
  match work with
  | .foreign => .error (invalid "invalid_work")
  | .genuine work => .ok ⟨work.data.draft, s.executor, s.attempt, none, []⟩

def retryEmission (previous : Given Scope) (executor : Given Actor) : Result Emission :=
  match previous with
  | .foreign => .error (invalid "invalid_scope")
  | .genuine previous =>
      let s := previous.snapshot
      if is s.attempt maxUint32 then .error (invalid "attempt_exhausted")
      else .ok ⟨s.work.draft, executor, s.attempt.increment, some s.scopeId, [s.scopeId]⟩

def replayForbidden (source : Given Reference) : List Str :=
  match source with
  | .foreign => []
  | .genuine r => if r.kind = .scope then [r.id] else []

def replayEmission (s : ReplaySpec) : Result Emission :=
  if !validReference s.source || s.runId.any (fun id => !validID id) then .error (invalid "invalid_reference")
  else if s.workId.any (fun id => !validID id || names .work (some id) s.source) then .error (invalid "invalid_work")
  else
    .ok
      { work :=
          { workId := s.workId
            correlationId := none
            correlationSource := .genuine .local
            causation := none
            origin := some (.genuine .replay)
            operation := s.operation
            attribution := s.attribution
            depth := some Number.zero
            replay := some ⟨s.runId, s.source⟩ }
        executor := s.executor
        attempt := first
        previousAttempt := none
        forbidden := replayForbidden s.source }

def DraftWork.continuing (w : DraftWork) (i : IncomingResult) : DraftWork :=
  if i.decision = .continued then
    { w with
      correlationId := i.correlation
      correlationSource := .genuine .external
      causation := i.cause.map .genuine
      origin := none
      depth := none }
  else w

def enterEmission (s : RootSpec) (i : Given IncomingResult) : Result Emission :=
  match i with
  | .foreign => .error (invalid "invalid_incoming_result")
  | .genuine i =>
      match rootWork s with
      | .error e => .error e
      | .ok w => .ok ⟨w.continuing i, s.executor, first, none, []⟩

def Opening.emission : Opening → Result Emission
  | .open s => openEmission s
  | .child parent s => childEmission parent s
  | .execute work s => executeEmission work s
  | .retry previous executor => retryEmission previous executor
  | .replay s => replayEmission s
  | .enter s i => enterEmission s i

def Factory.run (f : Factory) (o : Opening) (calls : List Call) : Result Scope × List Call :=
  match o.emission with
  | .error e => (.error e, calls)
  | .ok m => f.emit m calls

end N2F
