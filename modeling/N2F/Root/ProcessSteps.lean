import N2F.Root.Process

set_option autoImplicit false

namespace N2F.Root

open Ecma

def Parts.clients (parts : Parts) : List Closable := if parts.outbound.isSome then [.outbound] else []

def Parts.databases (parts : Parts) : List Closable := if parts.hasDatabase then [.database] else []

def Parts.contexts (parts : Parts) : List Closable := if parts.hasContexts then [.contexts] else []

def Parts.left (parts : Parts) (client : HttpClient.Client) : HttpClient.Client := if parts.outbound.isSome then client.close else client

def Parts.second (parts : Parts) : Wait × Closable := if parts.hasDatabase then (.database, .database) else (.telemetry, .telemetry)

theorem close_outbound_eq (parts : Parts) (p : Process) :
    p.closeOutbound parts = { p with client := parts.left p.client, closings := p.closings ++ parts.clients } := by
  rw [Process.closeOutbound, Parts.left, Parts.clients]
  split_ifs
  · rfl
  · rw [List.append_nil]

theorem unless_eq (p : Process) (ok : Bool) (line : String) :
    ∃ lines, p.unless ok line = { p with diagnostics := p.diagnostics ++ lines } ∧ (ok = false → line ∈ lines) := by
  cases ok with
  | true => exact ⟨[], by rw [List.append_nil]; rfl, fun no => by cases no⟩
  | false => exact ⟨[line], rfl, fun _ => List.mem_singleton_self line⟩

structure Still (p q : Process) : Prop where
  stage : q.stage = p.stage
  deadline : q.deadline = p.deadline
  drained : q.drained = p.drained
  closings : q.closings = p.closings
  budgets : q.budgets = p.budgets
  diagnostics : q.diagnostics = p.diagnostics

structure Inner (parts : Parts) (p q : Process) : Prop where
  now : p.now ≤ q.now
  gate : q.gate = p.gate ∨ ∃ e, asks e = true ∧ Health.step parts.gate p.gate e = some q.gate
  server : q.server = p.server ∨ ∃ e, (p.connected = true ∨ e.isSevered = true) ∧ Http.step parts.server p.server e = some q.server
  sockets : q.sockets = p.sockets ∨ ∃ e, permits p.connected e = true ∧ Socket.step p.sockets e = some q.sockets
  client : q.client = p.client ∨ ∃ c e, parts.outbound = some c ∧ calls e = true ∧ c.step p.client e = some q.client
  log : q.log = p.log ∨ ∃ e, e.isClose = false ∧ Logger.step parts.log p.log e = some q.log
  connected : q.connected = p.connected ∨ q.connected = false ∧ p.server.Called ∧ q.server = p.server ∧ p.detached = 0
  detached : q.detached ≤ p.detached ∨ p.connected = true ∧ q.connected = true
  rest : Still p q

-- The phases of a start that goes well, and what throws in them.
inductive Stage.Begins : Stage → Stage → Prop where
  | instrumented : Begins .instrumenting .opening
  | opened : Begins .opening .connecting
  | connected : Begins .connecting .creating
  | created : Begins .creating .listening

inductive Stage.Throws : Stage → Leak → Prop where
  | telemetry : Throws .instrumenting .telemetry
  | outbound : Throws .connecting .outbound
  | app : Throws .creating .app

inductive Own (parts : Parts) (p : Process) : Process → Prop where
  | began (before after : Stage) (stage : p.stage = before) (order : before.Begins after) : Own parts p { p with stage := after }
  | threw (before : Stage) (leak : Leak) (stage : p.stage = before) (order : before.Throws leak) : Own parts p { p with stage := .leaked leak }
  | unopened (stage : p.stage = .opening) :
      Own parts p
        { p with
          stage := .failing .database .telemetry
          closings := p.closings ++ [.observer] ++ [.telemetry]
          budgets := p.budgets ++ [parts.shutdownMs] }
  | listened (stage : p.stage = .listening) (line : String) :
      Own parts p
        { p with stage := .serving, connected := true, gate := p.gate.start, diagnostics := p.diagnostics ++ [line] }
  | unlistened (stage : p.stage = .listening) (has : parts.hasDatabase = true) :
      Own parts p
        { p with
          stage := .failing .listen .database
          closings := p.closings ++ [.database]
          budgets := p.budgets ++ [parts.shutdownMs] }
  | abandoned (stage : p.stage = .listening ∧ parts.hasDatabase = false ∨ ∃ fault, p.stage = .failing fault .database) :
      Own parts p
        { p with
          stage := .failing .listen .telemetry
          client := parts.left p.client
          closings := p.closings ++ parts.clients ++ [.observer] ++ [.telemetry]
          budgets := p.budgets ++ [parts.shutdownMs] }
  | depart (stage : p.stage = .serving) (sockets : Socket.Server) (moved : Socket.step p.sockets .close = some sockets) :
      Own parts p
        { p with
          stage := .closing (.sockets p.sockets.closers.length)
          deadline := p.now + parts.shutdownMs
          gate := p.gate.drain
          sockets := sockets
          closings := p.closings ++ [.gate] ++ [.http] ++ [.sockets]
          budgets := p.budgets ++ [p.now + parts.shutdownMs - p.now] }
  | departed (closer : ℕ) (entries : List ℕ) (answer : Bool) (lines : List String) (stage : p.stage = .closing (.sockets closer))
      (found : p.sockets.closers[closer]? = some (entries, some answer)) (told : answer = false → "socket shutdown incomplete\n" ∈ lines) :
      Own parts p
        { p with stage := .closing .http, budgets := p.budgets ++ [p.remaining], diagnostics := p.diagnostics ++ lines }
  | disconnected (stage : p.stage = .closing .http) (gone : p.connected = false) :
      Own parts p
        { p with
          stage := .closing (.handlers p.server.workers)
          closings := p.closings ++ [.handlers]
          budgets := p.budgets ++ [p.remaining] }
  | drained (waited : List ℕ) (ok : Bool) (stage : p.stage = .closing (.handlers waited))
      (settled : ok = true → ∀ i ∈ waited, p.server.settled i = true) :
      Own parts p
        { p with
          stage := .closing parts.second.1
          client := parts.left p.client
          drained := some ok
          closings := p.closings ++ parts.clients ++ [parts.second.2]
          budgets := p.budgets ++ [p.remaining] }
  | databaseClosed (lines : List String) (stage : p.stage = .closing .database) :
      Own parts p
        { p with
          stage := .closing .telemetry
          closings := p.closings ++ [.telemetry]
          budgets := p.budgets ++ [p.remaining]
          diagnostics := p.diagnostics ++ lines }
  | telemetryClosed (lines : List String) (stage : p.stage = .closing .telemetry) :
      Own parts p
        { p with
          stage := .closing (.log p.log.closers.length)
          log := p.log.close parts.log (Number.ofInt p.remaining)
          closings := p.closings ++ [.observer] ++ [.log]
          budgets := p.budgets ++ [p.remaining]
          diagnostics := p.diagnostics ++ lines }
  | logClosed (closer : ℕ) (result : Result Unit) (lines : List String) (stage : p.stage = .closing (.log closer))
      (found : p.log.closers[closer]? = some (.answered result))
      (told : result.isOk = false → "logging shutdown incomplete\n" ∈ lines) :
      Own parts p
        { p with stage := .closing .app, closings := p.closings ++ [.app], diagnostics := p.diagnostics ++ lines }
  | appClosed (lines : List String) (stage : p.stage = .closing .app) :
      Own parts p
        { p with stage := .closed, closings := p.closings ++ [.diag] ++ parts.contexts, diagnostics := p.diagnostics ++ lines }
  | telemetryLeft (fault : Fault) (stage : p.stage = .failing fault .telemetry) :
      Own parts p
        { p with
          stage := .failing fault (.log p.log.closers.length)
          log := p.log.close parts.log (Number.ofInt parts.shutdownMs)
          closings := p.closings ++ [.log]
          budgets := p.budgets ++ [parts.shutdownMs] }
  | logLeft (closer : ℕ) (stage : p.stage = .failing .listen (.log closer)) :
      Own parts p { p with stage := .failing .listen .app, closings := p.closings ++ [.app] }
  | failed (fault : Fault) (stage : p.stage = .failing fault .app ∨ fault = .database ∧ ∃ closer, p.stage = .failing fault (.log closer)) :
      Own parts p { p with stage := .failed fault }

theorem inner_refl (parts : Parts) (p : Process) : Inner parts p p :=
  ⟨Nat.le_refl _, .inl rfl, .inl rfl, .inl rfl, .inl rfl, .inl rfl, .inl rfl, .inl (Nat.le_refl _), ⟨rfl, rfl, rfl, rfl, rfl, rfl⟩⟩

theorem abandon_own (parts : Parts) (p : Process)
    (stage : p.stage = .listening ∧ parts.hasDatabase = false ∨ ∃ fault, p.stage = .failing fault .database) :
    Own parts p (p.abandon parts) := by
  rw [Process.abandon, close_outbound_eq]
  exact .abandoned stage

theorem after_handlers_own (parts : Parts) (p : Process) (waited : List ℕ) (ok : Bool) (stage : p.stage = .closing (.handlers waited))
    (settled : ok = true → ∀ i ∈ waited, p.server.settled i = true) : Own parts p ({ p with drained := some ok }.afterHandlers parts) := by
  have own : Own parts p _ := .drained waited ok stage settled
  rw [Process.afterHandlers, close_outbound_eq]
  rw [Parts.second] at own
  split_ifs at own ⊢
  · exact own
  · exact own

theorem resume_own (parts : Parts) (p q : Process) (ok : Bool) (wait : Wait) (stage : p.stage = .closing wait)
    (moved : p.resume parts ok wait = some q) : Own parts p q := by
  cases wait with
  | sockets closer =>
      rw [Process.resume] at moved
      split at moved
      · next entries answer found =>
          obtain ⟨lines, same, told⟩ := unless_eq p answer "socket shutdown incomplete\n"
          rw [same] at moved
          cases moved
          exact .departed closer entries answer lines stage found told
      · cases moved
  | http =>
      rw [Process.resume] at moved
      split_ifs at moved with gone
      cases moved
      exact .disconnected stage (Bool.eq_false_of_not_eq_true gone)
  | handlers waited =>
      rw [Process.resume] at moved
      split_ifs at moved with unsettled
      cases moved
      refine after_handlers_own parts p waited ok stage fun yes i member => ?_
      simp only [yes, Bool.true_and, Bool.not_eq_true', Bool.not_eq_false, List.all_eq_true] at unsettled
      exact unsettled i member
  | database =>
      obtain ⟨lines, same, _⟩ := unless_eq p ok "database shutdown incomplete\n"
      rw [Process.resume, same] at moved
      cases moved
      exact .databaseClosed lines stage
  | telemetry =>
      obtain ⟨lines, same, _⟩ := unless_eq p ok "telemetry shutdown incomplete\n"
      rw [Process.resume, same] at moved
      cases moved
      exact .telemetryClosed lines stage
  | log closer =>
      rw [Process.resume] at moved
      split at moved
      · next result found =>
          obtain ⟨lines, same, told⟩ := unless_eq p result.isOk "logging shutdown incomplete\n"
          rw [same] at moved
          cases moved
          exact .logClosed closer result lines stage found told
      · cases moved
  | app =>
      have own (lines : List String) : Own parts p _ := .appClosed lines stage
      rw [Process.resume] at moved
      rw [Parts.contexts] at own
      split_ifs at moved own
      · obtain ⟨lines, same, _⟩ := unless_eq ((p.free .diag).free .contexts) (p.events = 0) (diagnosed p.events)
        cases (congrArg (fun q => some { q with stage := Stage.closed }) same).symm.trans moved
        exact own lines
      · obtain ⟨lines, same, _⟩ := unless_eq (p.free .diag) (p.events = 0) (diagnosed p.events)
        cases (congrArg (fun q => some { q with stage := Stage.closed }) same).symm.trans moved
        rw [List.append_nil] at own
        exact own lines

theorem withdraw_own (parts : Parts) (p q : Process) (fault : Fault) (wait : Wait) (stage : p.stage = .failing fault wait)
    (moved : p.withdraw parts fault wait = some q) : Own parts p q := by
  cases wait with
  | database =>
      cases moved
      exact abandon_own parts p (.inr ⟨fault, stage⟩)
  | telemetry =>
      cases moved
      exact .telemetryLeft fault stage
  | log closer =>
      simp only [Process.withdraw] at moved
      split at moved
      · cases fault with
        | database =>
            cases moved
            exact .failed .database (.inr ⟨rfl, closer, stage⟩)
        | listen =>
            cases moved
            exact .logLeft closer stage
      · cases moved
  | app =>
      cases moved
      exact .failed fault (.inl stage)
  | sockets closer => cases moved
  | http => cases moved
  | handlers waited => cases moved

theorem next_own (parts : Parts) (p q : Process) (ok : Bool) (moved : p.next parts ok = some q) : Own parts p q := by
  rw [Process.next] at moved
  cases stage : p.stage with
  | instrumenting =>
      rw [stage] at moved
      cases moved
      split_ifs
      · exact .began _ _ stage .instrumented
      · exact .threw _ _ stage .telemetry
  | opening =>
      rw [stage] at moved
      cases moved
      rw [Process.afterOpen]
      split_ifs
      · exact .began _ _ stage .opened
      · exact .unopened stage
  | connecting =>
      rw [stage] at moved
      cases moved
      split_ifs
      · exact .began _ _ stage .connected
      · exact .threw _ _ stage .outbound
  | creating =>
      rw [stage] at moved
      cases moved
      split_ifs
      · exact .began _ _ stage .created
      · exact .threw _ _ stage .app
  | listening =>
      rw [stage] at moved
      cases moved
      cases ok with
      | true => exact .listened stage _
      | false =>
          rw [Process.afterListen, if_neg Bool.false_ne_true]
          cases has : parts.hasDatabase with
          | true => exact .unlistened stage has
          | false => exact abandon_own parts p (.inl ⟨stage, has⟩)
  | closing wait =>
      rw [stage] at moved
      exact resume_own parts p q ok wait stage moved
  | failing fault wait =>
      rw [stage] at moved
      exact withdraw_own parts p q fault wait stage moved
  | serving =>
      rw [stage] at moved
      cases moved
  | closed =>
      rw [stage] at moved
      cases moved
  | failed fault | leaked leak =>
      rw [stage] at moved
      cases moved

theorem close_own (parts : Parts) (p q : Process) (moved : p.close parts = some q) : q = p ∨ Own parts p q := by
  rw [Process.close] at moved
  cases stage : p.stage with
  | serving =>
      rw [stage] at moved
      obtain ⟨sockets, asked, rfl⟩ := Option.map_eq_some_iff.mp moved
      exact .inr (.depart stage sockets asked)
  | closing wait =>
      rw [stage] at moved
      cases moved
      exact .inl rfl
  | closed =>
      rw [stage] at moved
      cases moved
      exact .inl rfl
  | instrumenting | opening | connecting | creating | listening | failing fault wait | failed fault | leaked leak =>
      rw [stage] at moved
      cases moved

theorem upgraded_detached (p : Process) (sockets : Socket.Server) (e : Socket.Event) (other : ∀ u h, e ≠ .upgrade u h)
    (moved : Socket.step p.sockets e = some sockets) : (p.upgraded sockets).detached = p.detached := by
  rw [Process.upgraded, Socket.step_refusals p.sockets sockets e other moved, Nat.sub_self, Nat.add_zero]

theorem step_parts (parts : Parts) (p q : Process) (e : Event) (moved : p.step parts e = some q) : Inner parts p q ∨ Own parts p q := by
  have still := inner_refl parts p
  cases e with
  | gate e =>
      obtain ⟨asked, moved⟩ := Option.ite_none_right_eq_some.mp moved
      obtain ⟨gate, stepped, rfl⟩ := Option.map_eq_some_iff.mp moved
      exact .inl ⟨still.now, .inr ⟨e, asked, stepped⟩, still.server, still.sockets, still.client, still.log, still.connected,
        still.detached, ⟨rfl, rfl, rfl, rfl, rfl, rfl⟩⟩
  | server e =>
      obtain ⟨open', moved⟩ := Option.ite_none_right_eq_some.mp moved
      obtain ⟨server, stepped, rfl⟩ := Option.map_eq_some_iff.mp moved
      exact .inl ⟨still.now, still.gate, .inr ⟨e, by simpa using open', stepped⟩, still.sockets, still.client, still.log, .inl rfl,
        still.detached, ⟨rfl, rfl, rfl, rfl, rfl, rfl⟩⟩
  | sockets e =>
      obtain ⟨permitted, moved⟩ := Option.ite_none_right_eq_some.mp moved
      obtain ⟨sockets, stepped, rfl⟩ := Option.map_eq_some_iff.mp moved
      have detached : (p.upgraded sockets).detached ≤ p.detached ∨ p.connected = true ∧ p.connected = true := by
        cases e with
        | upgrade u h => exact .inr ⟨permitted, permitted⟩
        | _ => exact .inl (upgraded_detached p sockets _ (by intro u h same; cases same) stepped).le
      exact .inl ⟨still.now, still.gate, still.server, .inr ⟨e, permitted, stepped⟩, still.client, still.log, still.connected,
        detached, ⟨rfl, rfl, rfl, rfl, rfl, rfl⟩⟩
  | client e =>
      obtain ⟨c, outbound, moved⟩ := Option.bind_eq_some_iff.mp moved
      obtain ⟨called, moved⟩ := Option.ite_none_right_eq_some.mp moved
      obtain ⟨client, stepped, rfl⟩ := Option.map_eq_some_iff.mp moved
      exact .inl ⟨still.now, still.gate, still.server, still.sockets, .inr ⟨c, e, outbound, called, stepped⟩, still.log, still.connected,
        still.detached, ⟨rfl, rfl, rfl, rfl, rfl, rfl⟩⟩
  | log e =>
      obtain ⟨open', moved⟩ := Option.ite_none_left_eq_some.mp moved
      obtain ⟨log, stepped, rfl⟩ := Option.map_eq_some_iff.mp moved
      exact .inl ⟨still.now, still.gate, still.server, still.sockets, still.client, .inr ⟨e, Bool.eq_false_of_not_eq_true open', stepped⟩,
        still.connected, still.detached, ⟨rfl, rfl, rfl, rfl, rfl, rfl⟩⟩
  | tick ms =>
      cases moved
      exact .inl ⟨Nat.le_add_right _ _, still.gate, still.server, still.sockets, still.client, still.log, still.connected,
        still.detached, ⟨rfl, rfl, rfl, rfl, rfl, rfl⟩⟩
  | diagnostic =>
      obtain ⟨_, moved⟩ := Option.ite_none_left_eq_some.mp moved
      cases moved
      exact .inl ⟨still.now, still.gate, still.server, still.sockets, still.client, still.log, still.connected,
        still.detached, ⟨rfl, rfl, rfl, rfl, rfl, rfl⟩⟩
  | disconnect =>
      obtain ⟨allowed, moved⟩ := Option.ite_none_right_eq_some.mp moved
      cases moved
      simp only [Bool.and_eq_true, List.all_eq_true, decide_eq_true_eq] at allowed
      obtain ⟨⟨_, gone⟩, called⟩ := allowed
      exact .inl ⟨still.now, still.gate, still.server, still.sockets, still.client, still.log, .inr ⟨rfl, called, rfl, gone⟩,
        .inl (Nat.le_refl _), ⟨rfl, rfl, rfl, rfl, rfl, rfl⟩⟩
  | hangup =>
      obtain ⟨_, moved⟩ := Option.ite_none_left_eq_some.mp moved
      cases moved
      exact .inl ⟨still.now, still.gate, still.server, still.sockets, still.client, still.log, still.connected,
        .inl (Nat.sub_le _ _), ⟨rfl, rfl, rfl, rfl, rfl, rfl⟩⟩
  | close =>
      rcases close_own parts p q moved with rfl | own
      · exact .inl still
      · exact .inr own
  | next ok => exact .inr (next_own parts p q ok moved)

end N2F.Root
