import N2F.Errors
import N2F.Machine
import N2F.Ecma.Number
import N2F.Ecma.Utf8
import N2F.Provenance.Scope

set_option autoImplicit false

namespace N2F.Logger

open Ecma

inductive Level where
  | debug
  | info
  | warn
  | error
deriving DecidableEq

def rank : Level → ℕ
  | .debug => 10
  | .info => 20
  | .warn => 30
  | .error => 40

-- JSON.stringify leaves no lone surrogate in a line.
abbrev Line := List Char

structure Config where
  level : Level
  capacity : ℕ
  maxBytes : ℕ
  hasFlush : Bool
  roomy : 1 ≤ capacity

-- What an emission finds when it encodes its record: a field refused before, the
-- reading of the clock, and the line unless a field is refused now.
structure Encoding where
  bad : Bool
  reading : Date
  line : Option Line

def Encoding.result (e : Encoding) : Option Line :=
  if e.bad then none
  else
    match normalizedTime e.reading with
    | none => none
    | some _ => e.line

structure Stats where
  accepted : ℕ
  written : ℕ
  dropped : ℕ
  failed : ℕ
deriving DecidableEq

-- Where a call of the sink stands: in its own body, or behind the await.
inductive Stop where
  | inside
  | awaiting
deriving DecidableEq

-- The frames of #pump and #flush that stand at a call of the sink. The last four
-- fields only remember what the sink was given and how it failed.
structure Delivery where
  counts : Stats
  closed : Bool
  queue : List Line
  running : Bool
  done : Bool
  writes : List (Line × Stop)
  flushes : List Stop
  handed : List Line
  flushed : ℕ
  lost : ℕ
  spoiled : ℕ

def Delivery.start : Delivery := ⟨⟨0, 0, 0, 0⟩, false, [], false, false, [], [], [], 0, 0, 0⟩

def Delivery.drop (d : Delivery) : Delivery := { d with counts := { d.counts with dropped := d.counts.dropped + 1 } }

def Delivery.fail (d : Delivery) : Delivery := { d with counts := { d.counts with failed := d.counts.failed + 1 } }

-- #flush up to its first stop: without a flush it awaits undefined.
def Delivery.flush (c : Config) (d : Delivery) : Delivery :=
  if c.hasFlush then { d with flushes := .inside :: d.flushes, flushed := d.flushed + 1 }
  else { d with flushes := .awaiting :: d.flushes }

-- The loop of #pump from its test to its next stop.
def Delivery.pump (c : Config) (d : Delivery) : Delivery :=
  match d.queue with
  | line :: rest => { d with queue := rest, writes := (line, .inside) :: d.writes, handed := d.handed ++ [line] }
  | [] => if d.closed then { d with running := false }.flush c else { d with running := false }

def Delivery.refuses (c : Config) (d : Delivery) (line : Line) : Bool :=
  d.closed || c.maxBytes < (encodeUtf8 line).size || (d.running && c.capacity ≤ d.queue.length)

def Delivery.accept (d : Delivery) (line : Line) : Delivery :=
  { d with counts := { d.counts with accepted := d.counts.accepted + 1 }, queue := d.queue ++ [line] }

def Delivery.write (c : Config) (d : Delivery) (line : Line) : Delivery :=
  if d.refuses c line then d.drop
  else if d.running then d.accept line
  else { d.accept line with running := true }.pump c

def Delivery.written (c : Config) (d : Delivery) (write : Line × Stop) (ok : Bool) : Delivery :=
  let d := { d with writes := d.writes.erase write }
  if ok then { d with counts := { d.counts with written := d.counts.written + 1 } }.pump c
  else { d.fail with lost := d.lost + 1 }.pump c

def Delivery.finish (d : Delivery) (flush : Stop) (ok : Bool) : Delivery :=
  let d := { d with flushes := d.flushes.erase flush, done := true }
  if ok then d else { d.fail with spoiled := d.spoiled + 1 }

def Delivery.close (c : Config) (d : Delivery) : Delivery :=
  if d.closed then d
  else if d.running then { d with closed := true }
  else { d with closed := true }.flush c

inductive Closer where
  | waiting
  | decided (late : Bool)
  | answered (result : Result Unit)

inductive Verdict where
  | accepted (line : Line)
  | dropped
  | unencodable
deriving DecidableEq

-- A runtime of create. Emissions at or above the level have a number; those that
-- are being encoded are open, and each verdict is remembered under its number.
structure Runtime where
  delivery : Delivery
  issued : ℕ
  encoding : List ℕ
  verdicts : List (ℕ × Verdict)
  closers : List Closer

def Runtime.start : Runtime := ⟨Delivery.start, 0, [], [], []⟩

def Runtime.emit (c : Config) (r : Runtime) (severity : Level) : Runtime :=
  if rank severity < rank c.level then r
  else if r.delivery.closed then
    { r with delivery := r.delivery.drop, issued := r.issued + 1, verdicts := r.verdicts ++ [(r.issued, .dropped)] }
  else { r with issued := r.issued + 1, encoding := r.issued :: r.encoding }

def Runtime.encoded (c : Config) (r : Runtime) (number : ℕ) (e : Encoding) : Runtime :=
  let r := { r with encoding := r.encoding.erase number }
  match e.result with
  | none => { r with delivery := r.delivery.fail, verdicts := r.verdicts ++ [(number, .unencodable)] }
  | some line =>
      { r with
        delivery := r.delivery.write c line
        verdicts := r.verdicts ++ [(number, if r.delivery.refuses c line then .dropped else .accepted line)] }

def invalidDeadline : Failure := failure .invalid "invalid flush deadline" "logger.invalid_configuration"

def flushTimeout : Failure := failure .timeout "log flush deadline exceeded" "logger.flush_timeout"

def sinkFailed : Failure := failure .unavailable "log sink failed" "logger.sink"

def validDeadline (timeoutMs : Number) : Bool := timeoutMs.rational.isSome && !timeoutMs.below 0

def Runtime.close (c : Config) (r : Runtime) (timeoutMs : Number) : Runtime :=
  if validDeadline timeoutMs then { r with delivery := r.delivery.close c, closers := r.closers ++ [.waiting] }
  else { r with closers := r.closers ++ [.answered (.error invalidDeadline)] }

def Delivery.answer (d : Delivery) (late : Bool) : Result Unit :=
  if late then .error flushTimeout else if d.counts.failed = 0 then .ok () else .error sinkFailed

-- The steps of the program between two calls into foreign code or out of it: an
-- emission begins and is encoded, a call of the sink returns, throws or settles,
-- a close is called, its race is decided and it is answered.
inductive Event where
  | emit (severity : Level)
  | encoded (number : ℕ) (e : Encoding)
  | writeReturned (line : Line)
  | writeThrew (line : Line)
  | writeSettled (line : Line) (ok : Bool)
  | flushReturned
  | flushThrew
  | flushSettled (ok : Bool)
  | close (timeoutMs : Number)
  | decide (closer : ℕ) (late : Bool)
  | answer (closer : ℕ)

def step (c : Config) (r : Runtime) : Event → Option Runtime
  | .emit severity => some (r.emit c severity)
  | .encoded number e => if number ∈ r.encoding then some (r.encoded c number e) else none
  | .writeReturned line =>
      let d := r.delivery
      if (line, Stop.inside) ∈ d.writes then
        some { r with delivery := { d with writes := (line, .awaiting) :: d.writes.erase (line, .inside) } }
      else none
  | .writeThrew line =>
      if (line, Stop.inside) ∈ r.delivery.writes then some { r with delivery := r.delivery.written c (line, .inside) false } else none
  | .writeSettled line ok =>
      if (line, Stop.awaiting) ∈ r.delivery.writes then some { r with delivery := r.delivery.written c (line, .awaiting) ok } else none
  | .flushReturned =>
      let d := r.delivery
      if Stop.inside ∈ d.flushes then some { r with delivery := { d with flushes := .awaiting :: d.flushes.erase .inside } } else none
  | .flushThrew => if Stop.inside ∈ r.delivery.flushes then some { r with delivery := r.delivery.finish .inside false } else none
  | .flushSettled ok =>
      if Stop.awaiting ∈ r.delivery.flushes ∧ (c.hasFlush = true ∨ ok = true) then
        some { r with delivery := r.delivery.finish .awaiting ok }
      else none
  | .close timeoutMs => some (r.close c timeoutMs)
  | .decide closer late =>
      match r.closers[closer]? with
      | some .waiting =>
          if late ∨ r.delivery.done then some { r with closers := r.closers.set closer (.decided late) } else none
      | _ => none
  | .answer closer =>
      match r.closers[closer]? with
      | some (.decided late) => some { r with closers := r.closers.set closer (.answered (r.delivery.answer late)) }
      | _ => none

def machine (c : Config) : Machine Runtime Event := ⟨Runtime.start, step c⟩

end N2F.Logger
