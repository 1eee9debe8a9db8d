import N2F.Http.Identified
import N2F.Root.Entrance
import N2F.Socket.Conclusion

set_option autoImplicit false

namespace N2F.Root

open Ecma

def Entrance.Holds (e : Entrance) : Holder → Scope → Prop
  | .request i, scope => ∃ v, e.visits[i]? = some v ∧ v.scope = .ok scope
  | .connection i, scope => ∃ session, e.sessions[i]? = some session ∧ session.scope = scope
  | .message i number, scope => ∃ session, e.sessions[i]? = some session ∧ session.messages[number]? = some (.ok scope)

structure Visit.Answered (entry : Entry) (v : Visit) : Prop where
  entered : ∀ scope, v.scope = .ok scope → Entered (entry.root (entry.operation v.arrival)) v.arrival.hint scope.snapshot
  short : ∀ failure, v.scope = .error failure → failure ∈ shortages

structure Session.Begun (entry : Entry) (s : Session) : Prop where
  entered : Entered (entry.root "socket.connection") none s.scope.snapshot
  below : ∀ scope, .ok scope ∈ s.messages → Below s.scope.snapshot (str "socket.message") entry.executor scope.snapshot
  short : ∀ failure, .error failure ∈ s.messages → failure ∈ shortages

structure Session.Attends (s : Session) (c : Socket.Connection) : Prop where
  answers : c.works.length = s.messages.length
  valid : ∀ m ∈ c.works.map Socket.Work.message, m.Valid
  replies : ∀ number body, (number, body) ∈ c.sent → ∃ m scope, (c.works.map Socket.Work.message)[number]? = some m ∧
    s.messages[number]? = some (.ok scope) ∧ m.type = str "ping" ∧ Socket.Message.decode body = .ok (pong s.scope scope m)

structure Entrance.Kept (entry : Entry) (e : Entrance) : Prop where
  gave : e.ids.Gave (entry.instanceId :: e.opened.map fun o => o.2.snapshot.scopeId)
  holds : ∀ holder scope, (holder, scope) ∈ e.opened ↔ e.Holds holder scope
  visits : ∀ v ∈ e.visits, v.Answered entry
  sessions : ∀ s ∈ e.sessions, s.Begun entry
  requests : e.server.requests.length = e.visits.length ∧
    ∀ (i : ℕ) (v : Visit) (r : Http.Handling), e.visits[i]? = some v → e.server.requests[i]? = some r → r.Own (v.state entry) v.arrival.req
  connections : e.sockets.connections.length = e.sessions.length ∧
    ∀ (i : ℕ) (s : Session) (c : Socket.Connection), e.sessions[i]? = some s → e.sockets.connections[i]? = some c → s.Attends c

theorem scope_id_length (scope : Scope) : scope.snapshot.scopeId.length = 36 :=
  ((parse_ok_iff _ _).mp ((valid_id_iff _).mp scope.valid.scopeId)).1

theorem handle_replies (s : Session) (m : Socket.Message) (scope : Result Scope) (response : Result (Option ByteArray)) (body : ByteArray)
    (valid : m.Valid) (same : s.handle m scope = .returned response) (encoded : response.bind Socket.Message.encode = .ok body) :
    ∃ own, scope = .ok own ∧ m.type = str "ping" ∧ Socket.Message.decode body = .ok (pong s.scope own m) := by
  cases scope with
  | error e =>
      cases same
      cases encoded
  | ok own =>
      rw [Session.handle] at same
      split_ifs at same with ping
      · cases same
        cases encoded
      · cases same
        have pongs : (pong s.scope own m).Valid := ⟨valid.id, (by decide +kernel : Socket.messageTypePattern.test (str "pong") = true)⟩
        have short : (str "connection_id").length + (str "scope_id").length ≤ 21 := by decide
        have read := Socket.Message.encode_texts (pong s.scope own m) _ _ s.scope.snapshot.scopeId own.snapshot.scopeId pongs rfl
          (by decide +kernel) (by decide +kernel) (by rw [scope_id_length, scope_id_length]; omega)
        rw [Except.bind, read.1] at encoded
        cases encoded
        exact ⟨own, rfl, not_not.mp ping, read.2⟩

theorem attends_kept (s : Session) (c c' : Socket.Connection) (attends : s.Attends c) (keeps : Socket.Keeps c c') : s.Attends c' := by
  have length : c'.works.length = c.works.length := by
    have same := congrArg List.length keeps.messages
    rwa [List.length_map, List.length_map] at same
  refine ⟨length.trans attends.answers, keeps.messages ▸ attends.valid, ?_⟩
  rw [keeps.sent, keeps.messages]
  exact attends.replies

theorem attends_started (scope : Scope) : Session.Attends ⟨scope, []⟩ Socket.Connection.start :=
  ⟨rfl, fun _ member => absurd member List.not_mem_nil, fun _ _ member => absurd member List.not_mem_nil⟩

theorem attends_handed (s : Session) (c c' : Socket.Connection) (m : Socket.Message) (answer : Result Scope) (attends : s.Attends c)
    (valid : m.Valid) (works : c'.works = c.works ++ [⟨m, .handling, false⟩]) (sent : c'.sent = c.sent) :
    Session.Attends { s with messages := s.messages ++ [answer] } c' := by
  have messages : c'.works.map Socket.Work.message = c.works.map Socket.Work.message ++ [m] := by rw [works, List.map_append]; rfl
  refine ⟨?_, fun m' member => ?_, fun number body member => ?_⟩
  · rw [works, List.length_append, attends.answers, List.length_append]
    rfl
  · rw [messages] at member
    rcases List.mem_append.mp member with old | new
    · exact attends.valid m' old
    · rwa [List.mem_singleton.mp new]
  · rw [sent] at member
    obtain ⟨m', scope, worked, answered, ping, read⟩ := attends.replies number body member
    exact ⟨m', scope, by rw [messages]; exact Roster.join_kept _ _ _ _ worked, Roster.join_kept _ _ _ _ answered, ping, read⟩

theorem attends_settled (s : Session) (c c' : Socket.Connection) (number : ℕ) (w : Socket.Work) (answer : Result Scope) (attends : s.Attends c)
    (found : c.works[number]? = some w) (answered : s.messages[number]? = some answer)
    (moved : c.step (.settled number (s.handle w.message answer)) = some c') : s.Attends c' := by
  obtain ⟨messages, sent⟩ := Socket.settle_sends c c' number _ moved
  have worked : (c.works.map Socket.Work.message)[number]? = some w.message := by rw [List.getElem?_map, found]; rfl
  rcases sent with same | ⟨response, body, handled, encoded, sent⟩
  · exact attends_kept s c c' attends ⟨messages, same⟩
  · have length : c'.works.length = c.works.length := by
      have same := congrArg List.length messages
      rwa [List.length_map, List.length_map] at same
    refine ⟨length.trans attends.answers, messages ▸ attends.valid, fun number' body' member => ?_⟩
    rw [sent] at member
    rw [messages]
    rcases List.mem_append.mp member with old | new
    · exact attends.replies number' body' old
    · cases List.mem_singleton.mp new
      obtain ⟨own, rfl, ping, read⟩ :=
        handle_replies s w.message answer response body (attends.valid _ (List.mem_of_getElem? worked)) handled encoded
      exact ⟨w.message, own, worked, answered, ping, read⟩

theorem record_mem (e : Entrance) (holder h : Holder) (answer : Result Scope) (s : Scope) :
    (h, s) ∈ e.record holder answer ↔ (h, s) ∈ e.opened ∨ h = holder ∧ answer = .ok s := by
  rw [Entrance.record, List.mem_append]
  refine or_congr_right ?_
  cases answer with
  | error e => simp [Except.toOption]
  | ok own => simp [Except.toOption, eq_comm]

theorem record_ids (e : Entrance) (holder : Holder) (answer : Result Scope) (first : Str) :
    first :: (e.record holder answer).map (fun o => o.2.snapshot.scopeId) =
      (first :: e.opened.map fun o => o.2.snapshot.scopeId) ++ given answer := by
  rw [Entrance.record, given, List.map_append, List.cons_append]
  cases answer with
  | error e => rfl
  | ok own => rfl

theorem request_holds (e : Entrance) (v : Visit) (h : Holder) (s : Scope) :
    Entrance.Holds { e with visits := e.visits ++ [v] } h s ↔ e.Holds h s ∨ h = .request e.visits.length ∧ v.scope = .ok s := by
  cases h with
  | request i =>
      constructor
      · rintro ⟨w, found, own⟩
        rcases Roster.join_cases _ _ _ _ found with ⟨rfl, rfl⟩ | ⟨_, old⟩
        · exact .inr ⟨rfl, own⟩
        · exact .inl ⟨w, old, own⟩
      · rintro (⟨w, found, own⟩ | ⟨same, own⟩)
        · exact ⟨w, Roster.join_kept _ _ _ _ found, own⟩
        · cases same
          exact ⟨v, List.getElem?_concat_length, own⟩
  | connection i => exact ⟨.inl, fun holds => holds.resolve_right fun new => Holder.noConfusion new.1⟩
  | message i number => exact ⟨.inl, fun holds => holds.resolve_right fun new => Holder.noConfusion new.1⟩

theorem accept_holds (e : Entrance) (own : Scope) (h : Holder) (s : Scope) :
    Entrance.Holds { e with sessions := e.sessions ++ [⟨own, []⟩] } h s ↔
      e.Holds h s ∨ h = .connection e.sessions.length ∧ (.ok own : Result Scope) = .ok s := by
  cases h with
  | request i => exact ⟨.inl, fun holds => holds.resolve_right fun new => Holder.noConfusion new.1⟩
  | connection i =>
      constructor
      · rintro ⟨session, found, rfl⟩
        rcases Roster.join_cases _ _ _ _ found with ⟨rfl, rfl⟩ | ⟨_, old⟩
        · exact .inr ⟨rfl, rfl⟩
        · exact .inl ⟨session, old, rfl⟩
      · rintro (⟨session, found, same⟩ | ⟨same, scope⟩)
        · exact ⟨session, Roster.join_kept _ _ _ _ found, same⟩
        · cases same
          exact ⟨⟨own, []⟩, List.getElem?_concat_length, Except.ok.inj scope⟩
  | message i number =>
      constructor
      · rintro ⟨session, found, answered⟩
        rcases Roster.join_cases _ _ _ _ found with ⟨_, rfl⟩ | ⟨_, old⟩
        · cases answered
        · exact .inl ⟨session, old, answered⟩
      · rintro (⟨session, found, answered⟩ | ⟨same, _⟩)
        · exact ⟨session, Roster.join_kept _ _ _ _ found, answered⟩
        · cases same

theorem serve_holds (e : Entrance) (i : ℕ) (session : Session) (answer : Result Scope) (here : e.sessions[i]? = some session) (h : Holder)
    (s : Scope) : Entrance.Holds { e with sessions := e.sessions.set i { session with messages := session.messages ++ [answer] } } h s ↔
      e.Holds h s ∨ h = .message i session.messages.length ∧ answer = .ok s := by
  have place := Roster.set_at e.sessions i session { session with messages := session.messages ++ [answer] } here
  cases h with
  | request j => exact ⟨.inl, fun holds => holds.resolve_right fun new => Holder.noConfusion new.1⟩
  | connection j =>
      simp only [Entrance.Holds, place j]
      by_cases own : j = i
      · subst own
        simp [here]
      · simp [own]
  | message j number =>
      simp only [Entrance.Holds, place j]
      by_cases own : j = i
      · subst own
        simp only [if_true, Option.some.injEq, exists_eq_left', here, Holder.message.injEq, true_and]
        constructor
        · intro answered
          rcases Roster.join_cases _ _ _ _ answered with ⟨rfl, same⟩ | ⟨_, old⟩
          · exact .inr ⟨rfl, same.symm⟩
          · exact .inl old
        · rintro (old | ⟨rfl, same⟩)
          · exact Roster.join_kept _ _ _ _ old
          · rw [← same]
            exact List.getElem?_concat_length
      · simp [own]

theorem root_valid (entry : Entry) (name : String) (valid : validOperation (str name) = true) : (entry.root name).Valid :=
  { origin := rfl
    ordinary := fun same => by cases same
    workId := fun id here => by cases here
    operation := valid
    attribution := rfl
    executor := entry.named }

theorem operation_named (entry : Entry) (a : Arrival) : validOperation (str (entry.operation a)) = true := by
  have named : ∀ testRoutes, ∀ route ∈ routes testRoutes, validOperation (str route.2) = true := by decide
  rw [Entry.operation]
  cases found : entry.route a.path with
  | none => exact (by decide : validOperation (str "http.unmatched") = true)
  | some name =>
      obtain ⟨before, after, split, _⟩ := List.lookup_eq_some_iff.mp found
      exact named entry.testRoutes (a.path, name) (split ▸ List.mem_append_right _ (List.mem_cons_self ..))

section

variable (entry : Entry) (e : Entrance) (m : Moment)

theorem enter_answers (name : String) (hint : Option Str) (bounded : e.ids.Bounded) (valid : validOperation (str name) = true) :
    (∀ s, (e.ids.opens (entry.enter name hint) m).1 = .ok s → Entered (entry.root name) hint s.snapshot) ∧
      ∀ f, (e.ids.opens (entry.enter name hint) m).1 = .error f → f ∈ shortages := by
  refine ⟨fun s answered => entry_entered _ (entry.root name) hint [] s rfl answered, fun f failed => ?_⟩
  refine opens_short e.ids _ m f bounded (fun id named => ?_) (entry_once _ hint (root_valid entry name valid)) failed
  rw [entry_names_none] at named
  cases named

theorem child_answers (s : Session) (bounded : e.ids.Bounded) (begun : s.Begun entry) (spent : ¬ e.ids.Gives s.scope.snapshot.scopeId)
    (f : Factory) (calls : List Call) :
    CallsOnce (.child (.genuine s.scope) (stepOf (str "socket.message") entry.executor)) f calls ∧
      (∀ own, (e.ids.opens (.child (.genuine s.scope) (stepOf (str "socket.message") entry.executor)) m).1 = .ok own →
        Below s.scope.snapshot (str "socket.message") entry.executor own.snapshot) ∧
      ∀ f, (e.ids.opens (.child (.genuine s.scope) (stepOf (str "socket.message") entry.executor)) m).1 = .error f → f ∈ shortages := by
  have shallow (d : Number) (known : s.scope.snapshot.work.depth = some d) : is d maxUint32 = false := by
    cases known.symm.trans begun.entered.depth
    decide +kernel
  have once := child_once s.scope (str "socket.message") entry.executor (by decide) entry.named shallow
  refine ⟨once f calls, fun own answered => ?_, fun failure failed => ?_⟩
  · exact child_below (e.ids.factory m) [] _ s.scope own _ _ (Prod.ext answered rfl)
  · refine opens_short e.ids _ m failure bounded (fun id named => ?_) once failed
    rw [child_names s.scope _ _ begun.entered.workId begun.entered.replay id named]
    exact spent

theorem request_kept (t : Entrance) (a : Arrival) (kept : e.Kept entry) (moved : e.request entry a m = some t) : t.Kept entry := by
  dsimp only [Entrance.request] at moved
  obtain ⟨server, stepped, rfl⟩ := Option.map_eq_some_iff.mp moved
  cases stepped
  have answers := enter_answers entry e m (entry.operation a) a.hint kept.gave.bounded (operation_named entry a)
  have gave := opens_gave e.ids _ m _ kept.gave (entry_once _ a.hint (root_valid entry _ (operation_named entry a)))
  rw [← Entry.enter] at gave
  generalize e.ids.opens (entry.enter (entry.operation a) a.hint) m = answer at answers gave
  refine ⟨?_, fun h s => ?_, fun v member => ?_, kept.sessions, ⟨?_, fun i v r visited found => ?_⟩, kept.connections⟩
  · rw [record_ids]
    exact gave
  · exact (record_mem e _ h answer.1 s).trans ((or_congr_left (kept.holds h s)).trans (request_holds e ⟨a, answer.1⟩ h s).symm)
  · rcases List.mem_append.mp member with old | new
    · exact kept.visits v old
    · rw [List.mem_singleton.mp new]
      exact ⟨answers.1, answers.2⟩
  · rw [List.length_append, List.length_append, kept.requests.1]
    rfl
  · have level := kept.requests.1
    rcases Roster.join_cases _ _ _ _ visited with ⟨rfl, rfl⟩ | ⟨inside, old⟩
    · rcases Roster.join_cases _ _ _ _ found with ⟨_, rfl⟩ | ⟨inside, _⟩
      · exact Http.arrived_own _ _
      · omega
    · rcases Roster.join_cases _ _ _ _ found with ⟨rfl, _⟩ | ⟨_, there⟩
      · omega
      · exact kept.requests.2 i v r old there

theorem on_kept (server : Http.Server) (i : ℕ) (moved : Http.RequestEvent) (kept : e.Kept entry)
    (stepped : Http.step entry.server e.server (.on i moved) = some server) : Entrance.Kept entry { e with server := server } := by
  refine ⟨kept.gave, kept.holds, kept.visits, kept.sessions, ⟨?_, fun j v q visited found => ?_⟩, kept.connections⟩
  · obtain ⟨r, _, moved⟩ := Option.bind_eq_some_iff.mp stepped
    obtain ⟨moved, _, rfl⟩ := Option.map_eq_some_iff.mp moved
    exact List.length_set.trans kept.requests.1
  · rcases Http.step_own entry.server e.server server _ j q stepped found with ⟨_, _, same, _⟩ | ⟨r, here, own⟩
    · cases same
    · exact own _ _ (kept.requests.2 j v r visited here)

theorem sockets_kept (sockets : Socket.Server) (kept : e.Kept entry) (length : sockets.connections.length = e.sockets.connections.length)
    (attends : ∀ (i : ℕ) (s : Session), e.sessions[i]? = some s → Socket.On i s.Attends e.sockets → Socket.On i s.Attends sockets) :
    Entrance.Kept entry { e with sockets := sockets } := by
  refine ⟨kept.gave, kept.holds, kept.visits, kept.sessions, kept.requests, length.trans kept.connections.1, fun i s c here found => ?_⟩
  have level := kept.connections.1
  have inside := (List.getElem?_eq_some_iff.mp here).1
  have before := List.getElem?_eq_getElem (level.symm ▸ inside : i < e.sockets.connections.length)
  obtain ⟨c', found', attended⟩ := attends i s here ⟨_, before, kept.connections.2 i s _ here before⟩
  cases found.symm.trans found'
  exact attended

theorem untouched_kept (u : Socket.Upgrade) (h : Socket.Handshake) (kept : e.Kept entry) (none : h ≠ .opened) :
    Entrance.Kept entry { e with sockets := e.sockets.upgrade u h } := by
  have same := Socket.unopened_keeps e.sockets u h none
  refine sockets_kept entry e _ kept (congrArg List.length same) fun i s here attends => ?_
  rwa [Socket.On, same]

theorem accept_kept (u : Socket.Upgrade) (kept : e.Kept entry) (admits : e.sockets.admits u = true) : (e.accept entry u m).Kept entry := by
  have valid : validOperation (str "socket.connection") = true := by decide
  have answers := enter_answers entry e m "socket.connection" none kept.gave.bounded valid
  have gave := opens_gave e.ids _ m _ kept.gave (entry_once _ none (root_valid entry _ valid))
  rw [← Entry.enter] at gave
  rw [Entrance.accept]
  generalize e.ids.opens (entry.enter "socket.connection" none) m = answer at answers gave
  obtain ⟨answer, ids⟩ := answer
  cases answer with
  | error failure =>
      have short : given (.error failure) = [] := rfl
      rw [short, List.append_nil] at gave
      exact untouched_kept entry { e with ids := ids } u .unopened { kept with gave := gave } (fun same => by cases same)
  | ok scope =>
      have opened := Socket.admitted_opens e.sockets u admits
      refine ⟨?_, fun h s => ?_, kept.visits, fun s member => ?_, kept.requests, ⟨?_, fun i s c here found => ?_⟩⟩
      · rw [record_ids]
        exact gave
      · exact (record_mem e _ h _ s).trans ((or_congr_left (kept.holds h s)).trans (accept_holds e scope h s).symm)
      · rcases List.mem_append.mp member with old | new
        · exact kept.sessions s old
        · rw [List.mem_singleton.mp new]
          exact ⟨answers.1 scope rfl, fun _ member => absurd member List.not_mem_nil, fun _ member => absurd member List.not_mem_nil⟩
      · dsimp only
        rw [opened, List.length_append, List.length_append, kept.connections.1]
        rfl
      · have level := kept.connections.1
        dsimp only at found
        rw [opened] at found
        rcases Roster.join_cases _ _ _ _ here with ⟨rfl, rfl⟩ | ⟨inside, old⟩
        · rcases Roster.join_cases _ _ _ _ found with ⟨_, rfl⟩ | ⟨inside, _⟩
          · exact attends_started scope
          · omega
        · rcases Roster.join_cases _ _ _ _ found with ⟨rfl, _⟩ | ⟨_, there⟩
          · omega
          · exact kept.connections.2 i s c old there

theorem upgrade_kept (u : Socket.Upgrade) (completes : Bool) (kept : e.Kept entry) : (e.upgrade entry u completes m).Kept entry := by
  rw [Entrance.upgrade]
  split_ifs with admitted
  · exact accept_kept entry e m u kept (Bool.and_eq_true .. ▸ admitted).2
  · exact untouched_kept entry e u .declined kept (fun same => by cases same)

theorem callback_at (s t : Socket.Server) (i : ℕ) (moved : Socket.ConnectionEvent) (c : Socket.Connection)
    (found : s.connections[i]? = some c) (stepped : Socket.step s (.on i moved) = some t) :
    ∃ c', c.step moved = some c' ∧ t.connections = s.connections.set i c' := by
  obtain ⟨d, here, went⟩ := Option.bind_eq_some_iff.mp stepped
  cases found.symm.trans here
  obtain ⟨c', stood, rfl⟩ := Option.map_eq_some_iff.mp went
  exact ⟨c', stood, rfl⟩

theorem callback_kept (sockets : Socket.Server) (i : ℕ) (c c' : Socket.Connection) (kept : e.Kept entry)
    (found : e.sockets.connections[i]? = some c) (same : sockets.connections = e.sockets.connections.set i c')
    (attends : ∀ s : Session, e.sessions[i]? = some s → s.Attends c → s.Attends c') :
    Entrance.Kept entry { e with sockets := sockets } := by
  refine sockets_kept entry e sockets kept (same ▸ List.length_set) fun j s here held => ?_
  obtain ⟨d, there, attended⟩ := held
  rw [Socket.On, same]
  by_cases own : i = j
  · subst own
    cases found.symm.trans there
    exact ⟨c', Roster.set_self _ i c c' found, attends s here attended⟩
  · exact ⟨d, (List.getElem?_set_ne own).trans there, attended⟩

theorem serve_kept (sockets : Socket.Server) (i : ℕ) (c c' : Socket.Connection) (session : Session) (message : Socket.Message)
    (kept : e.Kept entry) (here : e.sessions[i]? = some session) (found : e.sockets.connections[i]? = some c)
    (same : sockets.connections = e.sockets.connections.set i c') (valid : message.Valid)
    (works : c'.works = c.works ++ [⟨message, .handling, false⟩]) (sent : c'.sent = c.sent) :
    Entrance.Kept entry { e.serve entry i session m with sockets := sockets } := by
  have begun := kept.sessions session (List.mem_of_getElem? here)
  have held : (Holder.connection i, session.scope) ∈ e.opened := (kept.holds _ _).mpr ⟨session, here, rfl⟩
  have spent : ¬ e.ids.Gives session.scope.snapshot.scopeId := fun gives =>
    List.lt_irrefl _ (kept.gave.earlier _ (List.mem_cons_of_mem _ (List.mem_map_of_mem held)) _ gives)
  have answers := fun f calls => child_answers entry e m session kept.gave.bounded begun spent f calls
  have gave := opens_gave e.ids _ m _ kept.gave fun f calls => (answers f calls).1
  have answers := (answers (e.ids.factory m) []).2
  rw [Entrance.serve]
  generalize e.ids.opens (.child (.genuine session.scope) (stepOf (str "socket.message") entry.executor)) m = answer at answers gave
  have attended := attends_handed session c c' message answer.1 (kept.connections.2 i session c here found) valid works sent
  refine ⟨?_, fun h s => ?_, kept.visits, fun s member => ?_, kept.requests, ⟨?_, fun j s d there found' => ?_⟩⟩
  · rw [record_ids]
    exact gave
  · exact (record_mem e _ h answer.1 s).trans ((or_congr_left (kept.holds h s)).trans (serve_holds e i session answer.1 here h s).symm)
  · rcases List.mem_or_eq_of_mem_set member with old | rfl
    · exact kept.sessions s old
    · refine ⟨begun.entered, fun own member => ?_, fun failure member => ?_⟩
      · rcases List.mem_append.mp member with old | new
        · exact begun.below own old
        · exact answers.1 own (List.mem_singleton.mp new).symm
      · rcases List.mem_append.mp member with old | new
        · exact begun.short failure old
        · exact answers.2 failure (List.mem_singleton.mp new).symm
  · dsimp only
    rw [same, List.length_set, List.length_set, kept.connections.1]
  · dsimp only at found'
    rw [same] at found'
    rcases Roster.set_cases _ _ _ _ _ there with ⟨rfl, rfl⟩ | ⟨other, old⟩
    · rw [Roster.set_self _ _ c c' found] at found'
      cases found'
      exact attended
    · rw [List.getElem?_set_ne fun own => other own.symm] at found'
      exact kept.connections.2 j s d old found'

theorem message_kept (t : Entrance) (i : ℕ) (frame : Socket.Frame) (kept : e.Kept entry) (moved : e.message entry i frame m = some t) :
    t.Kept entry := by
  obtain ⟨c, found, moved⟩ := Option.bind_eq_some_iff.mp moved
  obtain ⟨session, here, moved⟩ := Option.bind_eq_some_iff.mp moved
  obtain ⟨sockets, stepped, rfl⟩ := Option.map_eq_some_iff.mp moved
  obtain ⟨c', went, same⟩ := callback_at _ _ i _ c found stepped
  obtain ⟨_, own⟩ := Option.ite_none_right_eq_some.mp went
  obtain rfl := Option.some.inj own
  rcases Socket.message_hands c frame with ⟨none, keeps⟩ | ⟨message, handed, valid, works, sent⟩
  · rw [none]
    exact callback_kept entry e sockets i c _ kept found same fun s _ attends => attends_kept s c _ attends keeps
  · rw [handed]
    exact serve_kept entry e m sockets i c _ session message kept here found same valid works sent

theorem settle_kept (t : Entrance) (i number : ℕ) (kept : e.Kept entry) (moved : e.settle i number = some t) : t.Kept entry := by
  obtain ⟨c, found, moved⟩ := Option.bind_eq_some_iff.mp moved
  obtain ⟨session, here, moved⟩ := Option.bind_eq_some_iff.mp moved
  obtain ⟨w, worked, moved⟩ := Option.bind_eq_some_iff.mp moved
  obtain ⟨answer, answered, moved⟩ := Option.bind_eq_some_iff.mp moved
  obtain ⟨sockets, stepped, rfl⟩ := Option.map_eq_some_iff.mp moved
  obtain ⟨c', went, same⟩ := callback_at _ _ i _ c found stepped
  refine callback_kept entry e sockets i c c' kept found same fun s there attends => ?_
  cases here.symm.trans there
  exact attends_settled session c c' number w answer attends worked answered went

theorem aside_kept (sockets : Socket.Server) (moved : Socket.Event) (kept : e.Kept entry) (aside : isAside moved = true)
    (stepped : Socket.step e.sockets moved = some sockets) : Entrance.Kept entry { e with sockets := sockets } := by
  refine sockets_kept entry e sockets kept ?_ fun i s _ held => ?_
  · cases Socket.step_moved _ _ _ stepped with
    | upgrade u h same => cases aside
    | on i event c c' found went same => exact same ▸ List.length_set
    | depart same active => exact same ▸ Socket.each_length ..
    | halt closer entries same active => exact same ▸ Socket.each_length ..
    | drained closer same active => exact congrArg List.length same
  · refine Socket.on_step s.Attends i _ _ moved (fun c attends => ?_) (fun c attends => ?_) (fun c event c' attends own went => ?_) held stepped
    · exact attends_kept s c _ attends ⟨rfl, rfl⟩
    · exact attends_kept s c _ attends ⟨(Socket.stop_keeps c).messages, (Socket.stop_keeps c).sent⟩
    · subst own
      refine attends_kept s c c' attends (Socket.aside_keeps c c' event went (fun frame same => ?_) fun number outcome same => ?_)
      · subst same
        cases aside
      · subst same
        cases aside

theorem step_kept (t : Entrance) (a : Entrance.Event) (kept : e.Kept entry) (moved : e.step entry a = some t) : t.Kept entry := by
  cases a with
  | request a m => exact request_kept entry e m t a kept moved
  | on i event =>
      obtain ⟨server, stepped, rfl⟩ := Option.map_eq_some_iff.mp moved
      exact on_kept entry e server i event kept stepped
  | upgrade u completes m =>
      obtain rfl := Option.some.inj moved
      exact upgrade_kept entry e m u completes kept
  | message i frame m => exact message_kept entry e m t i frame kept moved
  | settle i number => exact settle_kept entry e t i number kept moved
  | socket event =>
      obtain ⟨aside, moved⟩ := Option.ite_none_right_eq_some.mp moved
      obtain ⟨sockets, stepped, rfl⟩ := Option.map_eq_some_iff.mp moved
      exact aside_kept entry e sockets event kept aside stepped

theorem start_kept : (Entrance.start entry).Kept entry := by
  have none : V7.new.Gave [] :=
    ⟨new_bounded, .nil, fun _ member => absurd member List.not_mem_nil, fun _ member => absurd member List.not_mem_nil⟩
  have booted : V7.new.newId entry.boot.now entry.boot.entropy = (.ok entry.instanceId, (Entrance.start entry).ids) := Prod.ext entry.booted rfl
  refine ⟨gave_next V7.new _ ⟨.invalid, entry.boot⟩ _ [] none booted, fun h s => ⟨fun member => absurd member List.not_mem_nil, ?_⟩,
    fun _ member => absurd member List.not_mem_nil, fun _ member => absurd member List.not_mem_nil, ⟨rfl, fun i v r visited => ?_⟩,
    ⟨rfl, fun i s c here => ?_⟩⟩
  · cases h with
    | request i => exact fun ⟨v, found, _⟩ => by cases found
    | connection i => exact fun ⟨session, found, _⟩ => by cases found
    | message i number => exact fun ⟨session, found, _⟩ => by cases found
  · cases visited
  · cases here

theorem reachable_kept (reached : (entrance entry).Reachable e) : e.Kept entry := by
  refine (entrance entry).invariant (Entrance.Kept entry) (start_kept entry) (fun s t a _ kept moved => ?_) e reached
  exact step_kept entry s t a kept moved

end

structure Entrance.Identifies (entry : Entry) (e : Entrance) : Prop where
  increasing : (entry.instanceId :: e.opened.map fun o => o.2.snapshot.scopeId).Pairwise (· < ·)
  canonical : ∀ id ∈ entry.instanceId :: e.opened.map (fun o => o.2.snapshot.scopeId), parse id = .ok id ∧ version id = some 7
  opened : ∀ holder scope, (holder, scope) ∈ e.opened ↔ e.Holds holder scope
  alone : ∀ holder other a b, e.Holds holder a → e.Holds other b → a.snapshot.scopeId = b.snapshot.scopeId → holder = other
  requests : ∀ (i : ℕ) (r : Http.Handling), e.server.requests[i]? = some r → ∃ v : Visit, e.visits[i]? = some v ∧ v.Answered entry ∧
    r.req = v.arrival.req ∧ r.state = v.state entry
  documents : ∀ (i : ℕ) (r : Http.Handling) status document ids, e.server.requests[i]? = some r → .problem status document ∈ r.writes →
    document.ids = some ids → ∃ scope, e.Holds (.request i) scope ∧ ids = requestIds scope
  sessions : ∀ (i : ℕ) (c : Socket.Connection), e.sockets.connections[i]? = some c → ∃ s : Session, e.sessions[i]? = some s ∧ s.Begun entry
  replies : ∀ (i : ℕ) (c : Socket.Connection) number body, e.sockets.connections[i]? = some c → (number, body) ∈ c.sent → ∃ w scope own, c.works[number]? = some w ∧
    e.Holds (.connection i) scope ∧ e.Holds (.message i number) own ∧ Socket.Message.decode body = .ok (pong scope own w.message)

theorem opened_alone (opened : List (Holder × Scope)) (increasing : (opened.map fun o => o.2.snapshot.scopeId).Pairwise (· < ·))
    (a b : Holder × Scope) (here : a ∈ opened) (there : b ∈ opened) (same : a.2.snapshot.scopeId = b.2.snapshot.scopeId) : a = b := by
  obtain ⟨i, inside, rfl⟩ := List.getElem_of_mem here
  obtain ⟨j, within, rfl⟩ := List.getElem_of_mem there
  have ordered (k l : ℕ) (first : k < opened.length) (second : l < opened.length) (less : k < l) :
      opened[k].2.snapshot.scopeId < opened[l].2.snapshot.scopeId := by
    exact List.pairwise_iff_getElem.mp (List.pairwise_map.mp increasing) k l first second less
  rcases Nat.lt_trichotomy i j with less | rfl | more
  · exact absurd (same ▸ ordered i j inside within less) (List.lt_irrefl _)
  · rfl
  · exact absurd (same ▸ ordered j i within inside more) (List.lt_irrefl _)

theorem entrance_identifies (entry : Entry) (e : Entrance) (reached : (entrance entry).Reachable e) : e.Identifies entry := by
  have kept := reachable_kept entry e reached
  have visited (i : ℕ) (r : Http.Handling) (found : e.server.requests[i]? = some r) :
      ∃ v, e.visits[i]? = some v ∧ r.Own (v.state entry) v.arrival.req := by
    have inside := (List.getElem?_eq_some_iff.mp found).1
    rw [kept.requests.1] at inside
    have here := List.getElem?_eq_getElem inside
    exact ⟨_, here, kept.requests.2 i _ r here found⟩
  have attended (i : ℕ) (c : Socket.Connection) (found : e.sockets.connections[i]? = some c) :
      ∃ s, e.sessions[i]? = some s ∧ s.Attends c := by
    have inside := (List.getElem?_eq_some_iff.mp found).1
    rw [kept.connections.1] at inside
    have here := List.getElem?_eq_getElem inside
    exact ⟨_, here, kept.connections.2 i _ c here found⟩
  refine ⟨kept.gave.increasing, kept.gave.canonical, kept.holds, fun h h' a b here there same => ?_, fun i r found => ?_,
    fun i r status document ids found member named => ?_, fun i c found => ?_, fun i c number body found member => ?_⟩
  · have once := opened_alone e.opened (List.pairwise_cons.mp kept.gave.increasing).2 (h, a) (h', b) ((kept.holds h a).mpr here)
      ((kept.holds h' b).mpr there) same
    exact congrArg Prod.fst once
  · obtain ⟨v, here, own⟩ := visited i r found
    exact ⟨v, here, kept.visits v (List.mem_of_getElem? here), own.read, own.kept⟩
  · obtain ⟨v, here, own⟩ := visited i r found
    rcases own.writes _ member with none | same
    · cases none.symm.trans named
    · obtain ⟨scope, answered, rfl⟩ := Option.map_eq_some_iff.mp (same.symm.trans named)
      cases entered : v.scope with
      | error failure =>
          rw [entered] at answered
          cases answered
      | ok scope =>
          rw [entered] at answered
          cases answered
          exact ⟨scope, ⟨v, here, entered⟩, rfl⟩
  · obtain ⟨s, here, _⟩ := attended i c found
    exact ⟨s, here, kept.sessions s (List.mem_of_getElem? here)⟩
  · obtain ⟨s, here, attends⟩ := attended i c found
    obtain ⟨message, own, worked, answered, _, read⟩ := attends.replies number body member
    obtain ⟨w, found, rfl⟩ := List.getElem?_map .. ▸ worked |> Option.map_eq_some_iff.mp
    exact ⟨w, s.scope, own, found, ⟨s, here, rfl⟩, ⟨s, here, answered⟩, read⟩

def demoMoment (ms : ℕ) : Moment := ⟨.time ms, ⟨.ofInt ms, some (Vector.replicate 10 7)⟩⟩

def demoExecutor : Actor := ⟨.service, some (str "n2f"), .inr ⟨nofun, str "n2f", rfl, by decide⟩⟩

def demoInstance : Str :=
  (V7.new.newId (demoMoment 0).call.now (demoMoment 0).call.entropy).1.toOption.getD []

theorem demo_booted : (V7.new.newId (demoMoment 0).call.now (demoMoment 0).call.entropy).1 = .ok demoInstance := by
  decide +kernel

theorem demo_named : namedActor (.genuine demoExecutor) = true := by
  decide

def demoVisitor : Attribution where
  initiator := some anonymous
  onBehalfOf := none
  tenant := none
  delegated := rfl
  tenantValid := rfl

def demoEntrance : Entry where
  boot := (demoMoment 0).call
  instanceId := demoInstance
  booted := demo_booted
  testRoutes := false
  executor := demoExecutor
  named := demo_named
  attribution := demoVisitor
  server := ⟨1048576, 64, Nat.succ_pos _⟩
  origin := "https://n2f.example"

def demoArrival : Arrival :=
  ⟨"/livez", [(str "X-Correlation-ID", str "0189F7F0-0000-7000-8000-000000000001")], ⟨"POST", none, none, none⟩⟩

def demoEntries : List Entrance.Event :=
  [.request demoArrival (demoMoment 0), .on 0 .call, .upgrade Socket.demoUpgrade true (demoMoment 5),
    .message 0 ⟨Socket.demoRaw, false⟩ (demoMoment 5), .settle 0 0]

def showsCorrelation (correlation : Str) : Answer → Bool
  | .problem status document => status = 405 && document.ids.any fun ids => ids.correlationId = correlation
  | .json _ _ | .bare _ | .left | .destroyed | .rejected => false

def Entrance.shows (e : Entrance) : Bool :=
  e.opened.length = 3 && (e.server.requests.flatMap Http.Handling.writes).any (showsCorrelation (str "0189f7f0-0000-7000-8000-000000000001")) &&
    e.sockets.connections.any fun c => c.sent.length = 1

theorem entrance_identifies_demo : ∃ e : Entrance, e.Identifies demoEntrance ∧ e.shows = true := by
  have ran : ((entrance demoEntrance).run (entrance demoEntrance).start demoEntries).any Entrance.shows = true := by decide +kernel
  obtain ⟨e, ended, shows⟩ := (Option.any_eq_true _ _).mp ran
  exact ⟨e, entrance_identifies demoEntrance e ((entrance demoEntrance).run_reachable _ e demoEntries .start ended), shows⟩

end N2F.Root
