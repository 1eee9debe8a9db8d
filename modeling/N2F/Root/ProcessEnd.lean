import N2F.Root.ProcessSafety

set_option autoImplicit false

namespace N2F.Root

open Ecma

-- The timers of the process, its forced closes and its own continuations: no handler,
-- session, sink or other party takes part.
def Event.isForced : Event → Bool
  | .sockets (.expire _) | .server (.on _ .call) | .log (.decide _ true) | .log (.answer _) | .disconnect | .next false => true
  | _ => false

def Wait.isWithdrawn : Wait → Bool
  | .database | .telemetry | .log _ | .app => true
  | .sockets _ | .http | .handlers _ => false

structure Awaited (p : Process) : Prop where
  sockets : ∀ closer, p.stage = .closing (.sockets closer) → closer < p.sockets.closers.length
  closing : ∀ closer, p.stage = .closing (.log closer) → closer < p.log.closers.length
  failing : ∀ fault closer, p.stage = .failing fault (.log closer) → closer < p.log.closers.length
  withdrawn : ∀ fault wait, p.stage = .failing fault wait → wait.isWithdrawn = true

def Stage.isOver : Stage → Bool
  | .closed | .failed _ | .leaked _ => true
  | _ => false

def Ends (parts : Parts) (p : Process) : Prop :=
  ∃ events q, (∀ e ∈ events, Event.isForced e = true) ∧ (process parts).run p events = some q ∧ q.stage.isOver = true

def waits (r : Http.Handling) : Bool := r.stage = .waiting

-- The HTTP server waits for the peers of refused upgrades.
def Process.Held (p : Process) : Prop :=
  0 < p.detached ∧ (p.stage = .closing .http ∨ ∃ closer, p.stage = .closing (.sockets closer))

theorem own_held (parts : Parts) (p q : Process) (attached : p.connected = false → p.detached = 0) (held : p.Held) (own : Own parts p q) :
    q.Held := by
  obtain ⟨left, waiting⟩ := held
  cases own with
  | departed closer entries answer lines stage found told => exact ⟨left, .inl rfl⟩
  | disconnected stage gone => exact absurd (attached gone) left.ne'
  | began before after stage order | threw before leak stage order =>
      rw [stage] at waiting
      cases order with
      | _ => simp at waiting
  | abandoned stage =>
      rcases stage with ⟨stage, _⟩ | ⟨fault, stage⟩
      · simp [stage] at waiting
      · simp [stage] at waiting
  | failed fault stage =>
      rcases stage with stage | ⟨_, closer, stage⟩
      · simp [stage] at waiting
      · simp [stage] at waiting
  | unopened stage | listened stage line | unlistened stage has | depart stage sockets moved | drained waited ok stage settled
    | databaseClosed lines stage | telemetryClosed lines stage | logClosed closer result lines stage found told | appClosed lines stage
    | telemetryLeft fault stage | logLeft closer stage =>
      simp [stage] at waiting

def Event.isHangup : Event → Bool
  | .hangup => true
  | _ => false

-- Forced closes do not reach the sockets of refused upgrades.
theorem held_step (parts : Parts) (p q : Process) (e : Event) (attached : p.connected = false → p.detached = 0) (other : e.isHangup = false)
    (held : p.Held) (moved : p.step parts e = some q) : q.Held := by
  cases e with
  | gate e =>
      obtain ⟨_, moved⟩ := Option.ite_none_right_eq_some.mp moved
      obtain ⟨gate, _, rfl⟩ := Option.map_eq_some_iff.mp moved
      exact held
  | server e =>
      obtain ⟨_, moved⟩ := Option.ite_none_right_eq_some.mp moved
      obtain ⟨server, _, rfl⟩ := Option.map_eq_some_iff.mp moved
      exact held
  | sockets e =>
      obtain ⟨_, moved⟩ := Option.ite_none_right_eq_some.mp moved
      obtain ⟨sockets, _, rfl⟩ := Option.map_eq_some_iff.mp moved
      exact ⟨held.1.trans_le (Nat.le_add_right _ _), held.2⟩
  | client e =>
      obtain ⟨c, _, moved⟩ := Option.bind_eq_some_iff.mp moved
      obtain ⟨_, moved⟩ := Option.ite_none_right_eq_some.mp moved
      obtain ⟨client, _, rfl⟩ := Option.map_eq_some_iff.mp moved
      exact held
  | log e =>
      obtain ⟨_, moved⟩ := Option.ite_none_left_eq_some.mp moved
      obtain ⟨log, _, rfl⟩ := Option.map_eq_some_iff.mp moved
      exact held
  | tick ms =>
      cases moved
      exact held
  | diagnostic =>
      obtain ⟨_, moved⟩ := Option.ite_none_left_eq_some.mp moved
      cases moved
      exact held
  | disconnect =>
      obtain ⟨allowed, _⟩ := Option.ite_none_right_eq_some.mp moved
      simp only [Bool.and_eq_true, decide_eq_true_eq] at allowed
      exact absurd allowed.1.2 held.1.ne'
  | hangup => cases other
  | close =>
      rcases close_own parts p q moved with rfl | own
      · exact held
      · exact own_held parts p q attached held own
  | next ok => exact own_held parts p q attached held (next_own parts p q ok moved)

theorem reachable_attached (parts : Parts) (p : Process) (reached : (process parts).Reachable p) : p.connected = false → p.detached = 0 := by
  refine (process parts).invariant (fun p => p.connected = false → p.detached = 0) (fun _ => rfl) (fun p q e _ attached moved => ?_) p reached
  intro apart
  rcases step_parts parts p q e moved with inner | own
  · rcases inner.detached with less | ⟨_, connected⟩
    · rcases inner.connected with same | ⟨_, _, _, whole⟩
      · exact Nat.eq_zero_of_le_zero (less.trans (attached (same.symm.trans apart)).le)
      · exact Nat.eq_zero_of_le_zero (less.trans whole.le)
    · cases connected.symm.trans apart
  · cases own with
    | listened stage line => cases apart
    | _ => exact attached apart

theorem held_run (parts : Parts) (p q : Process) (events : List Event) (reached : (process parts).Reachable p) (held : p.Held)
    (others : ∀ e ∈ events, e.isHangup = false) (ran : (process parts).run p events = some q) : q.Held := by
  induction events generalizing p with
  | nil =>
      injection ran with same
      exact same ▸ held
  | cons e rest ih =>
      obtain ⟨t, moved, later⟩ := Option.bind_eq_some_iff.mp ran
      have held := held_step parts p t e (reachable_attached parts p reached) (others e List.mem_cons_self) held moved
      exact ih t (.next p t e reached moved) held (fun e' member => others e' (List.mem_cons_of_mem e member)) later

def demoStuck : List Event :=
  demoRequests.dropLast ++ [.server (.arrive ⟨none, true, none⟩ ⟨"GET", none, none, none⟩), .close]

end N2F.Root
