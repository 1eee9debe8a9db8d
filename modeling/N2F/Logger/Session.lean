import N2F.Logger.Delivery
import N2F.Logger.Fields
import N2F.Errors.Registry
import N2F.Ecma.Radix

set_option autoImplicit false

namespace N2F.Logger

open Ecma

structure Console extends Config where
  service : Str
  color : Bool

structure Caught where
  value : Given Failure
  caused : Bool

structure Trace where
  traceId : Str
  spanId : Str
  sampled : Bool

def text (s : String) : Json := .str (str s)

def publicJson (info : PublicInfo) : Json :=
  .obj (present
    [(str "kind", some (text info.kind.text)),
      (str "message", some (text info.message)),
      (str "type", info.type.map text),
      (str "fields", info.fields.map fun fields => .obj (build (fields.map fun m => (str m.1, text m.2))))])

def errorProjection (error : Option Caught) : Option Json :=
  error.map fun error =>
    .obj (present
      [(str "classified", some (.bool error.value.isGenuine)),
        (str "kind", some (text ((error.value.genuine?.map fun f => f.kind.text).getD "internal"))),
        (str "type", (error.value.genuine?.bind fun f => f.type.filter (· ≠ "")).map text),
        (str "public", some (publicJson (publicInfo error.value))),
        (str "has_cause", some (.bool (error.value.isGenuine && error.caused)))])

def actorJson (a : Actor) : Json := .obj (present [(str "kind", some (text a.kind.text)), (str "identity", a.identity.map .str)])

def referenceJson (r : Reference) : Json := .obj [(str "kind", text r.kind.text), (str "id", .str r.id)]

def attributionJson (a : Attribution) : Json :=
  .obj (present
    [(str "initiator", a.initiator.map actorJson), (str "on_behalf_of", a.onBehalfOf.map actorJson),
      (str "tenant", (a.tenant.filter (· ≠ [])).map .str)])

def configurationInvalid : Failure := failure .invalid "invalid logger configuration" "logger.invalid_configuration"

def scopeProjection (scope : Given Scope) : Result Json :=
  match scope with
  | .foreign => .error configurationInvalid
  | .genuine scope =>
      let s := scope.snapshot
      let w := s.work
      .ok (.obj (present
        [(str "scope_id", some (.str s.scopeId)),
          (str "work_id", some (.str w.workId)),
          (str "correlation_id", some (.str w.correlationId)),
          (str "correlation_source", some (text w.correlationSource.text)),
          (str "operation", some (.str w.operation)),
          (str "started_at_ms", some (.num (Number.ofInt s.startedAt))),
          (str "executor", some (actorJson s.executor)),
          (str "attempt", some (.num s.attempt)),
          (str "attribution", some (attributionJson w.attribution)),
          (str "origin", w.origin.map fun o => text o.text),
          (str "depth", w.depth.map .num),
          (str "causation", w.causation.map referenceJson),
          (str "previous_attempt", s.previousAttempt.map .str),
          (str "replay", w.replay.map fun r => .obj [(str "run_id", .str r.runId), (str "source", referenceJson r.source)])]))

def invalidContext : Failure := failure .invalid "invalid telemetry context" "telemetry.invalid_context"

def traceProjection (ref : Given Trace) : Result Json :=
  match ref with
  | .foreign => .error invalidContext
  | .genuine s =>
      .ok (.obj [(str "trace_id", .str s.traceId), (str "span_id", .str s.spanId), (str "sampled", .bool s.sampled)])

structure BoundLogger where
  fields : Properties Json
  scope : Option Json
  error : Option Json
  bad : Bool
  trace : Option Json

def BoundLogger.root : BoundLogger := ⟨[], none, none, false, none⟩

-- { ...value }
def spread : Json → List (Str × Json)
  | .obj members => members
  | .arr elements => elements.zipIdx.map fun (v, i) => (radixText 10 i, v)
  | .str s => s.zipIdx.map fun (u, i) => (radixText 10 i, .str [u])
  | .null | .bool _ | .num _ => []

def merged (bound : Properties Json) (extra : Json) : Properties Json := build (bound ++ spread extra)

def BoundLogger.with (l : BoundLogger) (fields : Field) : BoundLogger :=
  match fields.snapshot [] with
  | some snapshot => { l with fields := merged l.fields snapshot }
  | none => { l with bad := true }

def BoundLogger.withScope (l : BoundLogger) (scope : Given Scope) : Result BoundLogger :=
  (scopeProjection scope).map fun s => { l with scope := some s }

def BoundLogger.withTrace (l : BoundLogger) (ref : Given Trace) : Result BoundLogger :=
  (traceProjection ref).map fun t => { l with trace := some t }

def BoundLogger.withError (l : BoundLogger) (error : Option Caught) : BoundLogger := { l with error := errorProjection error }

-- /[\u007f-\u009f\u2028\u2029]/g
def isConsoleControl (c : Char) : Bool := (0x7F ≤ c.toNat && c.toNat ≤ 0x9F) || c.toNat = 0x2028 || c.toNat = 0x2029

def consoleControls (cs : List Char) : List Char :=
  cs.flatMap fun c => if isConsoleControl c then '\\' :: 'u' :: (Nat.toDigits 16 c.toNat).leftpad 4 '0' else [c]

def escape (s : Str) : List Char := consoleControls ((quote s).drop 1).dropLast

-- Every quotient is far from the next integer, so that the division of doubles
-- rounds down to the same one.
def utcTime (ms : ℕ) : List Char :=
  let padded (width n : ℕ) : List Char := (Nat.toDigits 10 n).leftpad width '0'
  padded 2 (ms / 3600000 % 24) ++ ':' :: padded 2 (ms / 60000 % 60) ++ ':' :: padded 2 (ms / 1000 % 60) ++ '.' :: padded 3 (ms % 1000)

def Level.upperCase : Level → List Char
  | .debug => "DEBUG".toList
  | .info => "INFO".toList
  | .warn => "WARN".toList
  | .error => "ERROR".toList

def escapeCharacter : Char := Char.ofNat 0x1B

def shade : Level → List Char
  | .error => "31".toList
  | .warn => "33".toList
  | .debug | .info => "36".toList

def severityText (level : Level) (color : Bool) : List Char :=
  if color then
    escapeCharacter :: '[' :: shade level ++ 'm' :: level.upperCase ++ escapeCharacter :: "[0m".toList
  else level.upperCase

structure LogRecord where
  timestampMs : ℤ
  level : Level
  message : Str
  fields : Properties Json
  scope : Option Json
  error : Option Json
  trace : Option Json

def consoleLine (k : Console) (r : LogRecord) : Line :=
  utcTime r.timestampMs.toNat ++ ' ' :: severityText r.level k.color ++ ' ' :: escape k.service ++ ' ' :: escape r.message ++
    ' ' :: consoleControls (Json.obj (present
      [(str "fields", some (.obj r.fields)), (str "scope", r.scope), (str "error", r.error), (str "trace", r.trace)])).text ++ ['\n']

structure Emission where
  logger : BoundLogger
  severity : Level
  message : Str
  fields : Field

def Emission.record (e : Emission) (ms : ℤ) : Option LogRecord :=
  (e.fields.snapshot []).map fun extra =>
    { timestampMs := ms
      level := e.severity
      message := e.message
      fields := merged e.logger.fields extra
      scope := e.logger.scope
      error := e.logger.error
      trace := e.logger.trace }

def Emission.encoding (k : Console) (e : Emission) (reading : Date) : Encoding where
  bad := e.logger.bad
  reading := reading
  line := (normalizedTime reading).bind fun ms => (e.record ms).map (consoleLine k)

structure Session where
  runtime : Runtime
  loggers : List BoundLogger
  pending : List (ℕ × Emission)

def Session.start : Session := ⟨Runtime.start, [BoundLogger.root], []⟩

def Session.add (s : Session) (l : BoundLogger) : Session := { s with loggers := s.loggers ++ [l] }

def Session.adds (s : Session) (l : Result BoundLogger) : Session :=
  match l with
  | .ok l => s.add l
  | .error _ => s

-- An emission that is filtered or dropped at once is never encoded.
def Session.emit (k : Console) (s : Session) (e : Emission) : Session :=
  { s with
    runtime := s.runtime.emit k.toConfig e.severity
    pending :=
      if rank e.severity < rank k.level ∨ s.runtime.delivery.closed = true then s.pending else (s.runtime.issued, e) :: s.pending }

def Session.output (k : Console) (s : Session) (e : Event) : Option Session :=
  (step k.toConfig s.runtime e).map fun r => { s with runtime := r }

def Session.encode (k : Console) (s : Session) (number : ℕ) (reading : Date) : Option Session :=
  (s.pending.find? fun p => p.1 = number).bind fun p =>
    ({ s with pending := s.pending.filter fun q => q.1 ≠ number }).output k (.encoded number (p.2.encoding k reading))

inductive Call where
  | with (logger : ℕ) (fields : Field)
  | withScope (logger : ℕ) (scope : Given Scope)
  | withTrace (logger : ℕ) (ref : Given Trace)
  | withError (logger : ℕ) (error : Option Caught)
  | emit (logger : ℕ) (severity : Level) (message : Str) (fields : Field)
  | encode (number : ℕ) (reading : Date)
  | output (e : Event)

def isOutput : Event → Bool
  | .emit _ | .encoded _ _ => false
  | _ => true

def Session.step (k : Console) (s : Session) : Call → Option Session
  | .with logger fields => s.loggers[logger]?.map fun l => s.add (l.with fields)
  | .withScope logger scope => s.loggers[logger]?.map fun l => s.adds (l.withScope scope)
  | .withTrace logger ref => s.loggers[logger]?.map fun l => s.adds (l.withTrace ref)
  | .withError logger error => s.loggers[logger]?.map fun l => s.add (l.withError error)
  | .emit logger severity message fields => s.loggers[logger]?.map fun l => s.emit k ⟨l, severity, message, fields⟩
  | .encode number reading => s.encode k number reading
  | .output e => if isOutput e then s.output k e else none

def session (k : Console) : Machine Session Call := ⟨Session.start, Session.step k⟩

end N2F.Logger
