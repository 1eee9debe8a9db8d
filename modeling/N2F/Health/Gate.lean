import N2F.Machine
import N2F.Ecma.Number

set_option autoImplicit false

namespace N2F.Health

open Ecma

inductive Phase where
  | starting
  | serving
  | draining
deriving DecidableEq

def refusesConfiguration (budgetMs : Number) (checks : ℕ) : Bool :=
  !budgetMs.isInteger || budgetMs.below 1 || budgetMs.above 5000 || decide (16 < checks)

-- What the constructor accepted. Only the number of checks is told, what each does
-- is in the events.
structure Config where
  budgetMs : Number
  checks : ℕ
  valid : refusesConfiguration budgetMs checks = false

-- Where the detached work of a call stands: in the body of a check, at the await of
-- its promise, or past its finally.
inductive Work where
  | calling (check : ℕ)
  | awaiting (check : ℕ)
  | done
deriving DecidableEq

inductive Mark where
  | called (check : ℕ)
  | succeeded (check : ℕ)
deriving DecidableEq

structure Ending where
  result : Bool
  phase : Phase
  aborted : Bool
deriving DecidableEq

-- A call of ready: raced is what the race settles with, canceled the signal of its
-- controller. The phase it began in, its marks and whether its deadline fired are
-- only remembered.
structure Probe where
  signal : Option ℕ
  began : Phase
  work : Work
  canceled : Bool
  raced : Option Bool
  fired : Bool
  marks : List Mark
  ended : Option Ending

structure Gate where
  phase : Phase
  busy : Bool
  aborted : List ℕ
  probes : List Probe
  starts : ℕ

def Gate.new : Gate := ⟨.starting, false, [], [], 0⟩

def Gate.start (s : Gate) : Gate := if s.phase = .starting then { s with phase := .serving, starts := s.starts + 1 } else s

def Gate.drain (s : Gate) : Gate := { s with phase := .draining }

def Gate.isAborted (s : Gate) (signal : Option ℕ) : Bool := signal.any fun signal => s.aborted.contains signal

def Probe.running (p : Probe) : Bool := p.work ≠ .done

def Probe.settle (p : Probe) (result : Bool) : Probe := { p with work := .done, raced := p.raced.or (some result) }

def Probe.stop (p : Probe) : Probe := { p with canceled := true, raced := p.raced.or (some false) }

def Probe.advance (c : Config) (p : Probe) (check : ℕ) : Probe :=
  if check = c.checks then p.settle true
  else if p.canceled then p.settle false
  else { p with work := .calling check, marks := p.marks ++ [.called check] }

def Probe.refused (signal : Option ℕ) (phase : Phase) (aborted : Bool) : Probe :=
  ⟨signal, phase, .done, false, none, false, [], some ⟨false, phase, aborted⟩⟩

def Probe.admitted (c : Config) (signal : Option ℕ) (phase : Phase) : Probe :=
  Probe.advance c ⟨signal, phase, .done, false, none, false, [], none⟩ 0

def Gate.admits (s : Gate) (signal : Option ℕ) : Bool := s.phase = .serving && !s.busy && !s.isAborted signal

def Gate.ready (c : Config) (s : Gate) (signal : Option ℕ) : Gate :=
  if s.admits signal then
    let p := Probe.admitted c signal s.phase
    { s with probes := s.probes ++ [p], busy := p.running }
  else { s with probes := s.probes ++ [.refused signal s.phase (s.isAborted signal)] }

-- An abort event is dispatched once, to the calls that still listen.
def Gate.abort (s : Gate) (signal : ℕ) : Gate :=
  if s.aborted.contains signal then s
  else
    { s with
      aborted := signal :: s.aborted
      probes := s.probes.map fun p => if p.signal = some signal ∧ p.ended = none then p.stop else p }

inductive Outcome where
  | succeeded
  | refused
  | rejected
deriving DecidableEq

inductive ProbeEvent where
  | timeout
  | returned
  | threw
  | settled (outcome : Outcome)
  | answer
deriving DecidableEq

-- The answer follows the decision of the race within the same turn of the event
-- loop, so no timer fires between the two.
def Probe.step (c : Config) (s : Gate) (p : Probe) : ProbeEvent → Option Probe
  | .timeout => if p.ended = none ∧ p.raced = none then some { p.stop with fired := true } else none
  | .returned =>
      match p.work with
      | .calling check => some { p with work := .awaiting check }
      | .awaiting _ | .done => none
  | .threw =>
      match p.work with
      | .calling _ => some (p.settle false)
      | .awaiting _ | .done => none
  | .settled outcome =>
      match p.work with
      | .awaiting check =>
          if outcome = .succeeded then some (Probe.advance c { p with marks := p.marks ++ [.succeeded check] } (check + 1))
          else some (p.settle false)
      | .calling _ | .done => none
  | .answer =>
      match p.raced, p.ended with
      | some raced, none =>
          some { p with ended := some ⟨raced && s.phase = .serving && !s.isAborted p.signal, s.phase, s.isAborted p.signal⟩ }
      | _, _ => none

-- The finally of the work clears busy.
def Gate.put (s : Gate) (i : ℕ) (p q : Probe) : Gate :=
  { s with probes := s.probes.set i q, busy := if p.running && !q.running then false else s.busy }

inductive Event where
  | start
  | drain
  | ready (signal : Option ℕ)
  | abort (signal : ℕ)
  | on (probe : ℕ) (e : ProbeEvent)

def step (c : Config) (s : Gate) : Event → Option Gate
  | .start => some s.start
  | .drain => some s.drain
  | .ready signal => some (s.ready c signal)
  | .abort signal => some (s.abort signal)
  | .on i e => s.probes[i]?.bind fun p => (p.step c s e).map (s.put i p)

def machine (c : Config) : Machine Gate Event := ⟨Gate.new, step c⟩

end N2F.Health
