import N2F.Root.ProcessInvariant

set_option autoImplicit false

namespace N2F.Root

open Ecma

def Parts.released (parts : Parts) : Wait → List Closable
  | .sockets _ | .http => [.gate, .http, .sockets]
  | .handlers _ => [.gate, .http, .sockets, .handlers]
  | .database => [.gate, .http, .sockets, .handlers] ++ parts.clients ++ parts.databases
  | .telemetry => [.gate, .http, .sockets, .handlers] ++ parts.clients ++ parts.databases ++ [.telemetry]
  | .log _ => [.gate, .http, .sockets, .handlers] ++ parts.clients ++ parts.databases ++ [.telemetry] ++ [.observer] ++ [.log]
  | .app =>
      [.gate, .http, .sockets, .handlers] ++ parts.clients ++ parts.databases ++ [.telemetry] ++ [.observer] ++ [.log] ++ [.app]

def Parts.withdrawn (parts : Parts) : Fault → Wait → List Closable
  | _, .database => parts.databases
  | .database, .telemetry => [.observer] ++ [.telemetry]
  | .database, .log _ | .database, .app => [.observer] ++ [.telemetry] ++ [.log]
  | .listen, .telemetry => parts.databases ++ parts.clients ++ [.observer] ++ [.telemetry]
  | .listen, .log _ => parts.databases ++ parts.clients ++ [.observer] ++ [.telemetry] ++ [.log]
  | .listen, .app => parts.databases ++ parts.clients ++ [.observer] ++ [.telemetry] ++ [.log] ++ [.app]
  | _, .sockets _ | _, .http | _, .handlers _ => []

def Parts.ledger (parts : Parts) : Stage → List Closable
  | .instrumenting | .opening | .connecting | .creating | .listening | .serving | .leaked _ => []
  | .closing wait => parts.released wait
  | .closed => parts.released .app ++ [.diag] ++ parts.contexts
  | .failing fault wait => parts.withdrawn fault wait
  | .failed fault => parts.withdrawn fault .app

theorem ledger_once (parts : Parts) (stage : Stage) : (parts.ledger stage).Nodup := by
  have clients : parts.clients = [] ∨ parts.clients = [.outbound] := by
    rw [Parts.clients]
    split_ifs <;> simp
  have databases : parts.databases = [] ∨ parts.databases = [.database] := by
    rw [Parts.databases]
    split_ifs <;> simp
  have contexts : parts.contexts = [] ∨ parts.contexts = [.contexts] := by
    rw [Parts.contexts]
    split_ifs <;> simp
  have released (wait : Wait) : (parts.released wait).Nodup := by
    cases wait with
    | _ => rcases clients with none | one <;> rcases databases with none' | one' <;> simp [Parts.released, *]
  have withdrawn (fault : Fault) (wait : Wait) : (parts.withdrawn fault wait).Nodup := by
    cases fault with
    | _ => cases wait with
      | _ => rcases clients with none | one <;> rcases databases with none' | one' <;> simp [Parts.withdrawn, *]
  cases stage with
  | closing wait => exact released wait
  | failing fault wait => exact withdrawn fault wait
  | failed fault => exact withdrawn fault .app
  | closed =>
      rcases clients with none | one <;> rcases databases with none' | one' <;> rcases contexts with none'' | one'' <;>
        simp [Parts.ledger, Parts.released, *]
  | _ => exact List.nodup_nil

theorem own_ledger (parts : Parts) (p q : Process) (ledger : p.closings = parts.ledger p.stage) (own : Own parts p q) :
    q.closings = parts.ledger q.stage := by
  cases own with
  | began before after stage order =>
      rw [stage] at ledger
      cases order with
      | _ => exact ledger
  | threw before leak stage order =>
      rw [stage] at ledger
      cases order with
      | _ => exact ledger
  | listened stage line | departed closer entries answer lines stage found told =>
      rw [stage] at ledger
      exact ledger
  | appClosed lines stage | unopened stage | depart stage sockets moved | disconnected stage gone | databaseClosed lines stage | telemetryClosed lines stage
    | logClosed closer result lines stage found told | logLeft closer stage =>
      rw [stage] at ledger
      simp only [ledger]
      rfl
  | unlistened stage has =>
      rw [stage] at ledger
      simp [ledger, Parts.ledger, Parts.withdrawn, Parts.databases, has]
  | abandoned stage =>
      rcases stage with ⟨stage, has⟩ | ⟨fault, stage⟩
      · rw [stage] at ledger
        simp [ledger, Parts.ledger, Parts.withdrawn, Parts.databases, has]
      · rw [stage] at ledger
        cases fault with
        | _ =>
            simp only [ledger]
            rfl
  | drained waited ok stage settled =>
      rw [stage] at ledger
      cases has : parts.hasDatabase with
      | _ => simp [ledger, Parts.ledger, Parts.released, Parts.second, Parts.databases, has]
  | telemetryLeft fault stage =>
      rw [stage] at ledger
      cases fault with
      | _ =>
          simp only [ledger]
          rfl
  | failed fault stage =>
      rcases stage with stage | ⟨rfl, closer, stage⟩
      · rw [stage] at ledger
        exact ledger
      · rw [stage] at ledger
        exact ledger

def Stage.phase : Stage → Health.Phase
  | .serving => .serving
  | .closing _ | .closed => .draining
  | _ => .starting

theorem asks_phase (c : Health.Config) (s t : Health.Gate) (e : Health.Event) (asked : asks e = true)
    (moved : Health.step c s e = some t) : t.phase = s.phase := by
  cases e with
  | start => cases asked
  | drain => cases asked
  | ready signal =>
      cases moved
      rw [Health.Gate.ready]
      split_ifs <;> rfl
  | abort signal =>
      cases moved
      rw [Health.Gate.abort]
      split_ifs <;> rfl
  | on i e =>
      obtain ⟨p, _, moved⟩ := Option.bind_eq_some_iff.mp moved
      obtain ⟨q, _, rfl⟩ := Option.map_eq_some_iff.mp moved
      rfl

theorem own_phase (parts : Parts) (p q : Process) (phase : p.gate.phase = p.stage.phase) (own : Own parts p q) :
    q.gate.phase = q.stage.phase := by
  cases own with
  | listened stage line =>
      rw [stage] at phase
      simp only [Health.Gate.start, phase]
      rfl
  | depart stage sockets moved => rfl
  | began before after stage order =>
      rw [stage] at phase
      cases order with
      | _ => exact phase
  | threw before leak stage order =>
      rw [stage] at phase
      cases order with
      | _ => exact phase
  | abandoned stage =>
      rcases stage with ⟨stage, _⟩ | ⟨fault, stage⟩
      · rw [stage] at phase
        exact phase
      · rw [stage] at phase
        exact phase
  | failed fault stage =>
      rcases stage with stage | ⟨_, closer, stage⟩
      · rw [stage] at phase
        exact phase
      · rw [stage] at phase
        exact phase
  | unopened stage | unlistened stage has | departed closer entries answer lines stage found told
    | disconnected stage gone | drained waited ok stage settled | databaseClosed lines stage | telemetryClosed lines stage
    | logClosed closer result lines stage found told | appClosed lines stage | telemetryLeft fault stage | logLeft closer stage =>
      rw [stage] at phase
      exact phase

def Stage.isSevered : Stage → Bool
  | .closing (.sockets _) | .closing .http => false
  | .closing _ | .closed => true
  | _ => false

def Stage.isDrained : Stage → Bool
  | .closing .database | .closing .telemetry | .closing (.log _) | .closing .app | .closed => true
  | _ => false

structure Severed (p : Process) : Prop where
  called : p.connected = false → p.server.Called
  gone : p.stage.isSevered = true → p.connected = false
  undrained : p.stage.isSevered = false → p.drained = none
  answered : p.stage.isDrained = true → p.drained.isSome = true
  waited : ∀ waited, p.stage = .closing (.handlers waited) → ∀ i ∈ p.server.workers, i ∈ waited
  rested : p.drained = some true → ∀ i ∈ p.server.workers, p.server.settled i = true

theorem inner_severed (parts : Parts) (p q : Process) (whole : Whole parts p) (severed : Severed p) (inner : Inner parts p q) :
    Severed q := by
  have sound := Http.reachable_sound parts.server p.server whole.server
  have alone (apart : p.connected = false) : q.server = p.server ∨ Http.Severed p.server q.server := by
    rcases inner.server with same | ⟨e, open', moved⟩
    · exact .inl same
    · rw [apart] at open'
      exact .inr (Http.severed_step parts.server _ _ e sound (severed.called apart) (open'.resolve_left fun listening => by cases listening) moved)
  have workers (apart : p.connected = false) (i : ℕ) (working : i ∈ q.server.workers) : i ∈ p.server.workers := by
    rcases alone apart with same | shrunk
    · exact same ▸ working
    · exact shrunk.shrinks i working
  have settled (apart : p.connected = false) (i : ℕ) (done : p.server.settled i = true) : q.server.settled i = true := by
    rcases alone apart with same | shrunk
    · exact same ▸ done
    · exact shrunk.settled i done
  have stage := inner.rest.stage
  have drained := inner.rest.drained
  have gone (late : p.stage.isSevered = true) : q.connected = false := by
    rcases inner.connected with kept | ⟨lost, _⟩
    · exact kept.trans (severed.gone late)
    · exact lost
  refine ⟨fun apart => ?_, fun late => gone (stage ▸ late), fun early => ?_, fun late => ?_, fun waited at' i working => ?_,
    fun rested i working => ?_⟩
  · rcases inner.connected with kept | ⟨_, called, kept⟩
    · rcases alone (kept.symm.trans apart) with server | shrunk
      · exact server ▸ severed.called (kept.symm.trans apart)
      · exact shrunk.called
    · exact kept.1 ▸ called
  · rw [drained]
    exact severed.undrained (stage ▸ early)
  · rw [drained]
    exact severed.answered (stage ▸ late)
  · have here := stage.symm.trans at'
    have apart := severed.gone (by rw [here]; rfl)
    exact severed.waited waited here i (workers apart i working)
  · rw [drained] at rested
    have apart : p.connected = false := by
      cases late : p.stage.isSevered with
      | true => exact severed.gone late
      | false =>
          rw [severed.undrained late] at rested
          cases rested
    exact settled apart i (severed.rested rested i (workers apart i working))

theorem drained_severed (stage : Stage) (drained : stage.isDrained = true) : stage.isSevered = true := by
  cases stage with
  | closing wait =>
      cases wait with
      | sockets closer | http => cases drained
      | _ => rfl
  | closed => rfl
  | _ => cases drained

theorem severed_early (p q : Process) (severed : Severed p) (before : p.stage.isSevered = false) (after : q.stage.isSevered = false)
    (connected : q.connected = p.connected) (server : q.server = p.server) (drained : q.drained = p.drained) : Severed q := by
  have none := drained.trans (severed.undrained before)
  refine ⟨fun apart => ?_, fun late => ?_, fun _ => none, fun late => ?_, fun waited at' => ?_, fun some => ?_⟩
  · exact server ▸ severed.called (connected.symm.trans apart)
  · cases after.symm.trans late
  · cases after.symm.trans (drained_severed _ late)
  · rw [at'] at after
    cases after
  · cases none.symm.trans some

theorem own_severed (parts : Parts) (p q : Process) (severed : Severed p) (own : Own parts p q) : Severed q := by
  have same := severed
  obtain ⟨called, gone, undrained, answered, waited, rested⟩ := severed
  cases own with
  | listened stage line =>
      have none := undrained (by rw [stage]; rfl)
      refine ⟨fun lost => ?_, fun late => ?_, fun _ => none, fun late => ?_, fun _ at' => ?_, fun some => ?_⟩
      · cases lost
      · cases late
      · cases late
      · cases at'
      · cases none.symm.trans some
  | disconnected stage apart =>
      refine ⟨called, fun _ => apart, fun early => ?_, fun late => ?_, fun waited at' i working => ?_, rested⟩
      · cases early
      · cases late
      · cases at'
        exact working
  | drained waiting ok stage settled =>
      have apart := gone (by rw [stage]; rfl)
      refine ⟨called, fun _ => apart, fun early => ?_, fun _ => rfl, fun waited at' => ?_, fun yes i working => ?_⟩
      · rw [Parts.second] at early
        split_ifs at early
        · cases early
        · cases early
      · rw [Parts.second] at at'
        split_ifs at at'
        · cases at'
        · cases at'
      · exact settled (Option.some.inj yes) i (waited waiting stage i working)
  | abandoned stage =>
      have before : p.stage.isSevered = false := by
        rcases stage with ⟨stage, _⟩ | ⟨fault, stage⟩
        · rw [stage]; rfl
        · rw [stage]; rfl
      exact severed_early p _ same before rfl rfl rfl rfl
  | failed fault stage =>
      have before : p.stage.isSevered = false := by
        rcases stage with stage | ⟨_, closer, stage⟩
        · rw [stage]; rfl
        · rw [stage]; rfl
      exact severed_early p _ same before rfl rfl rfl rfl
  | began before after stage order =>
      cases order with
      | _ => exact severed_early p _ same (by rw [stage]; rfl) rfl rfl rfl rfl
  | threw before leak stage order =>
      cases order with
      | _ => exact severed_early p _ same (by rw [stage]; rfl) rfl rfl rfl rfl
  | unopened stage | unlistened stage has | telemetryLeft fault stage | logLeft closer stage
    | depart stage sockets moved | departed closer entries answer lines stage found told =>
      exact severed_early p _ same (by rw [stage]; rfl) rfl rfl rfl rfl
  | databaseClosed lines stage | telemetryClosed lines stage | logClosed closer result lines stage found told | appClosed lines stage =>
      refine ⟨called, fun _ => gone (by rw [stage]; rfl), fun early => ?_, fun _ => answered (by rw [stage]; rfl), fun _ at' => ?_, rested⟩
      · cases early
      · cases at'

def Stage.isDeparted : Stage → Bool
  | .closing (.sockets _) => false
  | .closing _ | .closed => true
  | _ => false

structure Departed (p : Process) : Prop where
  closed : p.stage.isClosing = true → p.sockets.closed = true
  ended : p.stage.isDeparted = true → "socket shutdown incomplete\n" ∈ p.diagnostics ∨
    ∀ i < p.sockets.connections.length, Socket.On i Socket.Over p.sockets

theorem departed_closing (stage : Stage) (departed : stage.isDeparted = true) : stage.isClosing = true := by
  cases stage with
  | closing wait | closed => rfl
  | _ => cases departed

theorem inner_departed (parts : Parts) (p q : Process) (departed : Departed p) (inner : Inner parts p q) : Departed q := by
  have stage := inner.rest.stage
  have diagnostics := inner.rest.diagnostics
  refine ⟨fun closing => ?_, fun late => ?_⟩
  · rw [stage] at closing
    rcases inner.sockets with kept | ⟨e, _, moved⟩
    · exact kept ▸ departed.closed closing
    · exact Socket.step_closed _ _ e (departed.closed closing) moved
  · rw [stage] at late
    rw [diagnostics]
    refine (departed.ended late).imp_right fun ended => ?_
    rcases inner.sockets with kept | ⟨e, _, moved⟩
    · exact kept ▸ ended
    · intro i inside
      rw [Socket.closed_length _ _ e (departed.closed (departed_closing _ late)) moved] at inside
      exact Socket.over_step i _ _ e (ended i inside) moved

theorem own_departed (parts : Parts) (p q : Process) (whole : Whole parts p) (departed : Departed p) (own : Own parts p q) :
    Departed q := by
  obtain ⟨closed, ended⟩ := departed
  cases own with
  | depart stage sockets moved =>
      refine ⟨fun _ => ?_, fun late => ?_⟩
      · cases moved
        rfl
      · cases late
  | departed closer entries answer lines stage found told =>
      refine ⟨fun _ => closed (by rw [stage]; rfl), fun _ => ?_⟩
      cases answer with
      | false => exact .inl (List.mem_append_right _ (told rfl))
      | true => exact .inr ((Socket.reachable_closers parts.origin p.sockets whole.sockets).ended closer entries found)
  | disconnected stage gone => exact ⟨fun _ => closed (by rw [stage]; rfl), fun _ => ended (by rw [stage]; rfl)⟩
  | drained waited ok stage settled => exact ⟨fun _ => closed (by rw [stage]; rfl), fun _ => ended (by rw [stage]; rfl)⟩
  | databaseClosed lines stage | telemetryClosed lines stage | logClosed closer result lines stage found told | appClosed lines stage =>
      exact ⟨fun _ => closed (by rw [stage]; rfl), fun _ => (ended (by rw [stage]; rfl)).imp_left (List.mem_append_left _)⟩
  | began before after stage order =>
      cases order with
      | _ =>
          refine ⟨fun late => ?_, fun late => ?_⟩
          · cases late
          · cases late
  | threw | unopened | listened | unlistened | abandoned | telemetryLeft | logLeft | failed =>
      refine ⟨fun late => ?_, fun late => ?_⟩
      · cases late
      · cases late

def Stage.isShut : Stage → Bool
  | .closing (.log _) | .closing .app | .closed | .failing _ (.log _) | .failing _ .app | .failed _ => true
  | _ => false

def Stage.isSilent : Stage → Bool
  | .closing .app | .closed => true
  | _ => false

structure Shut (p : Process) : Prop where
  closed : p.log.delivery.closed = p.stage.isShut
  told : p.stage.isSilent = true → "logging shutdown incomplete\n" ∈ p.diagnostics ∨ Logger.Delivered p.log

theorem inner_shut (parts : Parts) (p q : Process) (whole : Whole parts p) (shut : Shut p) (inner : Inner parts p q) : Shut q := by
  have sound := Logger.reachable_sound parts.log p.log whole.log
  have stage := inner.rest.stage
  have diagnostics := inner.rest.diagnostics
  refine ⟨?_, fun late => ?_⟩
  · rw [stage, ← shut.closed]
    rcases inner.log with kept | ⟨e, other, moved⟩
    · rw [kept]
    · exact Logger.step_open parts.log _ _ e other moved
  · rw [stage] at late
    rw [diagnostics]
    refine (shut.told late).imp_right fun delivered => ?_
    rcases inner.log with kept | ⟨e, _, moved⟩
    · exact kept ▸ delivered
    · exact Logger.delivered_stays parts.log _ _ e sound delivered moved

theorem valid_budget (budget : ℕ) (small : budget ≤ 30000) : Logger.validDeadline (Number.ofInt budget) = true := by
  have value : (Number.ofInt budget).rational = some ((budget : ℤ) : ℚ) := of_int_rational budget (abs_le.mpr ⟨by omega, by omega⟩)
  rw [Logger.validDeadline, value, below_rational _ _ _ value]
  simp

theorem close_shuts (c : Logger.Config) (log : Logger.Runtime) (budget : ℕ) (small : budget ≤ 30000) :
    (log.close c (Number.ofInt budget)).delivery.closed = true := by
  rw [Logger.Runtime.close, if_pos (valid_budget budget small)]
  exact Logger.close_closes c log.delivery

theorem own_shut (parts : Parts) (p q : Process) (whole : Whole parts p) (budgeted : Budgeted parts p) (shut : Shut p)
    (own : Own parts p q) : Shut q := by
  have most := parts.allowed.2
  obtain ⟨closed, told⟩ := shut
  cases own with
  | telemetryClosed lines stage =>
      have within := budgeted.within (by rw [stage]; rfl)
      exact ⟨close_shuts parts.log p.log p.remaining (within.trans most), fun silent => by cases silent⟩
  | telemetryLeft fault stage => exact ⟨close_shuts parts.log p.log parts.shutdownMs most, fun silent => by cases silent⟩
  | logClosed closer result lines stage found said =>
      rw [stage] at closed
      refine ⟨closed, fun _ => ?_⟩
      cases result with
      | error e => exact .inl (List.mem_append_right _ (said rfl))
      | ok u => exact .inr (Logger.reachable_proper parts.log p.log whole.log _ (List.mem_of_getElem? found))
  | appClosed lines stage =>
      have told := told (by rw [stage]; rfl)
      rw [stage] at closed
      exact ⟨closed, fun _ => told.imp_left (List.mem_append_left _)⟩
  | drained waited ok stage settled =>
      rw [stage] at closed
      rw [Parts.second]
      split_ifs
      · exact ⟨closed, fun silent => by cases silent⟩
      · exact ⟨closed, fun silent => by cases silent⟩
  | abandoned stage =>
      rcases stage with ⟨stage, _⟩ | ⟨fault, stage⟩
      · rw [stage] at closed
        exact ⟨closed, fun silent => by cases silent⟩
      · rw [stage] at closed
        exact ⟨closed, fun silent => by cases silent⟩
  | failed fault stage =>
      rcases stage with stage | ⟨_, closer, stage⟩
      · rw [stage] at closed
        exact ⟨closed, fun silent => by cases silent⟩
      · rw [stage] at closed
        exact ⟨closed, fun silent => by cases silent⟩
  | began before after stage order =>
      rw [stage] at closed
      cases order with
      | _ => exact ⟨closed, fun silent => by cases silent⟩
  | threw before leak stage order =>
      rw [stage] at closed
      cases order with
      | _ => exact ⟨closed, fun silent => by cases silent⟩
  | unopened stage | listened stage line | unlistened stage has | depart stage sockets moved
    | departed closer entries answer lines stage found said | disconnected stage gone | databaseClosed lines stage | logLeft closer stage =>
      rw [stage] at closed
      exact ⟨closed, fun silent => by cases silent⟩

theorem left_closed (parts : Parts) (client : HttpClient.Client) (closings : List Closable)
    (before : .outbound ∈ closings → client.closed = true) (freed : .outbound ∈ closings ++ parts.clients) :
    (parts.left client).closed = true := by
  rw [Parts.left]
  split_ifs with outbound
  · rfl
  · rw [Parts.clients, if_neg outbound, List.append_nil] at freed
    exact before freed

theorem own_client (parts : Parts) (p q : Process) (closed : .outbound ∈ p.closings → p.client.closed = true) (own : Own parts p q) :
    .outbound ∈ q.closings → q.client.closed = true := by
  cases own with
  | abandoned stage =>
      intro freed
      refine left_closed parts p.client p.closings closed ?_
      simpa using freed
  | drained waited ok stage settled =>
      intro freed
      refine left_closed parts p.client p.closings closed ?_
      rw [Parts.second] at freed
      split_ifs at freed
      · simpa using freed
      · simpa using freed
  | appClosed lines stage =>
      intro freed
      rw [Parts.contexts] at freed
      refine closed ?_
      split_ifs at freed
      · simpa using freed
      · simpa using freed
  | began | threw | unopened | listened | unlistened | depart | departed | disconnected | databaseClosed | telemetryClosed | logClosed
    | telemetryLeft | logLeft | failed => simpa using closed

theorem inner_client (parts : Parts) (p q : Process) (closed : .outbound ∈ p.closings → p.client.closed = true)
    (inner : Inner parts p q) : .outbound ∈ q.closings → q.client.closed = true := by
  have closings := inner.rest.closings
  rw [closings]
  intro freed
  rcases inner.client with kept | ⟨c, e, _, _, moved⟩
  · exact kept ▸ closed freed
  · exact (HttpClient.step_closed c _ _ e (closed freed) moved).1

structure Coherent (parts : Parts) (p : Process) : Prop where
  whole : Whole parts p
  budgeted : Budgeted parts p
  ledger : p.closings = parts.ledger p.stage
  phase : p.gate.phase = p.stage.phase
  severed : Severed p
  departed : Departed p
  shut : Shut p
  client : .outbound ∈ p.closings → p.client.closed = true

theorem start_coherent (parts : Parts) : Coherent parts (Process.start parts) := by
  have budgeted : Budgeted parts (Process.start parts) := by
    refine ⟨fun _ b member => ?_, fun closing => ?_, fun closing => ?_, fun closing => ?_⟩
    · cases member
    all_goals cases closing
  have severed : Severed (Process.start parts) := by
    refine ⟨fun _ r member => ?_, fun late => ?_, fun _ => rfl, fun late => ?_, fun _ at' => ?_, fun drained => ?_⟩
    · cases member
    · cases late
    · cases late
    · cases at'
    · cases drained
  refine ⟨start_whole parts, budgeted, rfl, rfl, severed, ⟨fun late => ?_, fun late => ?_⟩, ⟨rfl, fun late => ?_⟩, fun freed => ?_⟩
  · cases late
  · cases late
  · cases late
  · cases freed

theorem step_coherent (parts : Parts) (p q : Process) (e : Event) (sound : Coherent parts p) (moved : p.step parts e = some q) :
    Coherent parts q := by
  obtain ⟨whole, budgeted, ledger, phase, severed, departed, shut, client⟩ := sound
  rcases step_parts parts p q e moved with inner | own
  · have stage := inner.rest.stage
    have closings := inner.rest.closings
    refine ⟨inner_whole parts p q whole inner, inner_budgeted parts p q budgeted inner, ?_, ?_, inner_severed parts p q whole severed inner,
      inner_departed parts p q departed inner, inner_shut parts p q whole shut inner, inner_client parts p q client inner⟩
    · rw [closings, stage, ledger]
    · rw [stage, ← phase]
      rcases inner.gate with kept | ⟨e, asked, moved⟩
      · rw [kept]
      · exact asks_phase parts.gate _ _ e asked moved
  · exact ⟨own_whole parts p q whole own, own_budgeted parts p q budgeted own, own_ledger parts p q ledger own,
      own_phase parts p q phase own, own_severed parts p q severed own, own_departed parts p q whole departed own,
      own_shut parts p q whole budgeted shut own, own_client parts p q client own⟩

theorem reachable_coherent (parts : Parts) (p : Process) (reached : (process parts).Reachable p) : Coherent parts p := by
  refine (process parts).invariant (Coherent parts) (start_coherent parts) ?_ p reached
  intro p q e _ sound moved
  exact step_coherent parts p q e sound moved

structure Orderly (parts : Parts) (p : Process) : Prop where
  whole : Whole parts p
  phase : p.gate.phase = p.stage.phase
  ledger : p.closings = parts.ledger p.stage
  once : p.closings.Nodup
  budgeted : Budgeted parts p
  refuses : p.stage.isClosing = true → p.sockets.closed = true
  sessions : p.stage.isDeparted = true → "socket shutdown incomplete\n" ∈ p.diagnostics ∨ Socket.Idle p.sockets
  drained : p.stage.isDrained = true → p.drained = some false ∨
    ∀ r ∈ p.server.requests, r.handler = .idle ∨ r.handler.result.isSome = true
  outbound : .outbound ∈ p.closings → p.client.closed = true
  open' : p.log.delivery.closed = p.stage.isShut
  delivered : p.stage.isSilent = true → "logging shutdown incomplete\n" ∈ p.diagnostics ∨
    p.log.delivery.handed = Logger.acceptedLines p.log.verdicts ∧
      p.log.delivery.counts.written = (Logger.acceptedLines p.log.verdicts).length

theorem process_orderly (parts : Parts) (p : Process) (reached : (process parts).Reachable p) : Orderly parts p := by
  obtain ⟨whole, budgeted, ledger, phase, severed, departed, shut, client⟩ := reachable_coherent parts p reached
  have once : p.closings.Nodup := ledger ▸ ledger_once parts p.stage
  refine ⟨whole, phase, ledger, once, budgeted, departed.closed, fun late => ?_, fun late => ?_, client, shut.closed, fun late => ?_⟩
  · exact (departed.ended late).imp_right (Socket.over_idle parts.origin p.sockets whole.sockets)
  · obtain ⟨ok, answered⟩ := Option.isSome_iff_exists.mp (severed.answered late)
    cases ok with
    | false => exact .inl answered
    | true =>
        have sound := Http.reachable_sound parts.server p.server whole.server
        exact .inr (Http.settled_rests parts.server p.server sound (severed.rested answered))
  · have sound := Logger.reachable_sound parts.log p.log whole.log
    exact (shut.told late).imp_right (Logger.delivered_written parts.log p.log sound)

def demoParts : Parts where
  origin := "http://localhost:3000"
  gate := Health.demoConfig
  server := ⟨1048576, 64, by decide⟩
  outbound := none
  log := Logger.demoConfig
  hasContexts := false
  hasDatabase := true
  shutdownMs := 3000
  allowed := by decide
  address := "127.0.0.1:7300"

def demoRequests : List Event :=
  [.next true, .next true, .next true, .next true, .next true, .server (.arrive ⟨none, true, none⟩ ⟨"GET", none, none, none⟩),
    .server (.arrive ⟨none, true, none⟩ ⟨"GET", some "2", none, some "application/json"⟩), .server (.on 0 .call), .server (.on 1 .call),
    .server (.on 0 (.handler .start)), .close]

def demoShutdown : List Event :=
  [.sockets (.drained 0), .tick 100, .next true, .disconnect, .next true, .server (.on 0 (.handler (.returned (some (.err .foreign))))),
    .server (.on 1 (.bodyRead [.aborted])), .next true, .tick 100, .next true, .next true, .log .flushReturned, .log (.flushSettled true),
    .log (.decide 0 false), .log (.answer 0), .next true, .next true]

def demoRefused : List Event := [.next true, .next true, .next true, .next false]

-- A close while a request is under way, and a start that Nest refuses.
theorem process_orderly_demo :
    (∃ p, (process demoParts).run (Process.start demoParts) (demoRequests ++ demoShutdown) = some p ∧
      p.stage = .closed ∧ p.budgets = [3000, 2900, 2900, 2900, 2800, 2800] ∧ Orderly demoParts p) ∧
    ∃ p, (process demoParts).run (Process.start demoParts) demoRefused = some p ∧
      p.stage = .leaked .app ∧ p.closings = [] ∧ p.log.delivery.closed = false ∧ Orderly demoParts p := by
  have ran : ((process demoParts).run (Process.start demoParts) (demoRequests ++ demoShutdown)).any
      (fun p => decide (p.stage = .closed ∧ p.budgets = [3000, 2900, 2900, 2900, 2800, 2800])) = true := by decide +kernel
  have refused : ((process demoParts).run (Process.start demoParts) demoRefused).any (fun p => decide (p.stage = .leaked .app)) = true := by
    decide +kernel
  obtain ⟨p, reached, whole⟩ := (Option.any_eq_true _ _).mp ran
  obtain ⟨closed, budgets⟩ := of_decide_eq_true whole
  obtain ⟨q, reached', leaked⟩ := (Option.any_eq_true _ _).mp refused
  have leaked := of_decide_eq_true leaked
  have orderly := process_orderly demoParts q ((process demoParts).run_reachable _ _ _ .start reached')
  refine ⟨⟨p, reached, closed, budgets, process_orderly demoParts p ((process demoParts).run_reachable _ _ _ .start reached)⟩,
    q, reached', leaked, ?_, ?_, orderly⟩
  · rw [orderly.ledger, leaked]
    rfl
  · rw [orderly.open', leaked]
    rfl

end N2F.Root
