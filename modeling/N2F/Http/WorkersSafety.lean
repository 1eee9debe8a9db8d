import N2F.Http.WorkersInvariant

set_option autoImplicit false

namespace N2F.Http

def Server.unsettled (s : Server) : List ℕ :=
  (List.range s.requests.length).filter fun i => s.requests[i]?.any fun r => r.handler.unsettled

theorem unsettled_bound (c : Config) (s : Server) (sound : Sound c s) : s.unsettled.length ≤ s.workers.length := by
  refine (List.subperm_of_subset (List.nodup_range.filter _) fun i member => ?_).length_le
  obtain ⟨r, here, unsettled⟩ := (Option.any_eq_true _ _).mp (List.mem_filter.mp member).2
  exact (sound.held i).mpr ⟨r, here, unsettled_working r.handler unsettled⟩

def Handling.asks (c : Config) (r : Handling) : RequestEvent → Bool
  | .call => r.stage = .waiting && (routeSelection r.state r.req).selected.isNone && !hasBody r.req
  | .bodyRead events => r.stage = .reading && (readBody c.maxBody 0 events).isNone
  | _ => false

def busyAnswer (r : Handling) : Answer :=
  if r.res.destroyed then .left
  else if r.res.headersSent then .destroyed
  else .problem 503 ⟨projected (publicInfo (.genuine busyFailure)), r.state.scope⟩

theorem asks_step (c : Config) (isFull : Bool) (r : Handling) (e : RequestEvent) (asks : r.asks c e = true) :
    r.step c isFull e = some (r.ask isFull) := by
  cases e with
  | call =>
      simp only [Handling.asks, Bool.and_eq_true, decide_eq_true_eq, Option.isNone_iff_eq_none] at asks
      obtain ⟨⟨waiting, selected⟩, bare⟩ := asks
      rw [Handling.step, if_pos waiting, Handling.call, selected]
      exact congrArg some (if_pos bare)
  | bodyRead events =>
      simp only [Handling.asks, Bool.and_eq_true, decide_eq_true_eq, Option.isNone_iff_eq_none] at asks
      rw [Handling.step, if_pos asks.1, Handling.bodyRead, asks.2]
  | handler e => cases asks
  | deadline => cases asks
  | expire => cases asks
  | proceed => cases asks
  | close isFinished => cases asks
  | error => cases asks
  | destroy => cases asks
  | commit => cases asks

theorem asks_early (c : Config) (r : Handling) (e : RequestEvent) (asks : r.asks c e = true) :
    r.stage = .waiting ∨ r.stage = .reading := by
  cases e with
  | call =>
      simp only [Handling.asks, Bool.and_eq_true, decide_eq_true_eq] at asks
      exact .inl asks.1.1
  | bodyRead events =>
      simp only [Handling.asks, Bool.and_eq_true, decide_eq_true_eq] at asks
      exact .inr asks.1
  | handler e => cases asks
  | deadline => cases asks
  | expire => cases asks
  | proceed => cases asks
  | close isFinished => cases asks
  | error => cases asks
  | destroy => cases asks
  | commit => cases asks

theorem refuse_busy (r : Handling) : (r.refuse (.genuine busyFailure) none).stage = .left (busyAnswer r) := by
  obtain ⟨state, req, ⟨destroyed, headersSent⟩, stage, handler, selected, termination, aborted, starts, writes⟩ := r
  cases destroyed with
  | true => rfl
  | false =>
      cases headersSent with
      | true => rfl
      | false => rfl

theorem step_request (c : Config) (i : ℕ) (P : Handling → Prop)
    (kept : ∀ isFull r q e slot, P r → Moved isFull r e q slot → P q) (s t : Server) (e : Event)
    (holds : ∃ r, s.requests[i]? = some r ∧ P r) (moved : step c s e = some t) : ∃ q, t.requests[i]? = some q ∧ P q := by
  obtain ⟨r, found, holds⟩ := holds
  cases e with
  | arrive state req =>
      cases moved
      exact ⟨r, Roster.join_kept _ _ _ _ found, holds⟩
  | on j e =>
      obtain ⟨p, here, moved⟩ := Option.bind_eq_some_iff.mp moved
      obtain ⟨⟨q, slot⟩, stepped, same⟩ := Option.map_eq_some_iff.mp moved
      rw [← same]
      by_cases own : j = i
      · subst own
        cases here.symm.trans found
        exact ⟨q, Roster.set_self s.requests j r q found, kept _ r q e slot holds (step_moved c _ r q e slot stepped)⟩
      · exact ⟨r, (List.getElem?_set_ne own).trans found, holds⟩

theorem moved_turned (answer : Answer) (writes : List Answer) (isFull : Bool) (r q : Handling) (e : RequestEvent) (slot : Slot)
    (turned : r.stage = .left answer ∧ r.handler = .idle ∧ r.starts = 0 ∧ r.writes = writes) (moved : Moved isFull r e q slot) :
    q.stage = .left answer ∧ q.handler = .idle ∧ q.starts = 0 ∧ q.writes = writes := by
  obtain ⟨stage, handler, starts, written⟩ := turned
  cases moved with
  | ended e q answer opened ends => exact absurd stage (opened _)
  | reads waiting => cases waiting.symm.trans stage
  | asked e early free =>
      rcases early with waiting | reading
      · cases waiting.symm.trans stage
      · cases reading.symm.trans stage
  | handled e q advanced => exact absurd handler (advance_advanced r q e advanced).before
  | expired racing => cases racing.symm.trans stage
  | aside e q same => exact ⟨same.stage.trans stage, same.handler.trans handler, same.starts.trans starts, same.writes.trans written⟩

theorem moved_destroyed (writes : List Answer) (isFull : Bool) (r q : Handling) (e : RequestEvent) (slot : Slot)
    (gone : r.res.destroyed = true ∧ r.writes = writes) (moved : Moved isFull r e q slot) :
    q.res.destroyed = true ∧ q.writes = writes := by
  obtain ⟨destroyed, written⟩ := gone
  cases moved with
  | ended e q answer opened ends =>
      refine ⟨ends.destroyed destroyed, ?_⟩
      by_cases writes : wrote answer = true
      · rw [ends.fresh writes] at destroyed
        cases destroyed
      · rw [ends.writes, if_neg writes]
        exact written
  | reads waiting => exact ⟨destroyed, written⟩
  | asked e early free => exact ⟨destroyed, written⟩
  | handled e q advanced =>
      have step := advance_advanced r q e advanced
      exact ⟨by rw [step.res]; exact destroyed, step.writes.trans written⟩
  | expired racing => exact ⟨destroyed, written⟩
  | aside e q same => exact ⟨same.destroyed destroyed, same.writes.trans written⟩

def Past (r : Handling) : Prop := r.stage = .expired ∨ ∃ answer, r.stage = .left answer

theorem moved_past (isFull : Bool) (r q : Handling) (e : RequestEvent) (slot : Slot) (past : Past r) (moved : Moved isFull r e q slot) :
    Past q := by
  have late (stage : Stage) (here : r.stage = stage) : stage = .expired ∨ ∃ answer, stage = .left answer := here ▸ past
  cases moved with
  | ended e q answer opened ends => exact .inr ⟨answer, ends.stage⟩
  | reads waiting => simpa using late _ waiting
  | asked e early free =>
      rcases early with waiting | reading
      · simpa using late _ waiting
      · simpa using late _ reading
  | handled e q advanced =>
      rw [Past, (advance_advanced r q e advanced).stage]
      exact past
  | expired racing => simpa using late _ racing
  | aside e q same =>
      rw [Past, same.stage]
      exact past

def nothing : HandlerResult := .ok (.ok none)

def Handler.forget : Handler → Handler
  | .settled _ => .settled nothing
  | .done _ => .done nothing
  | .idle => .idle
  | .queued => .queued
  | .running => .running
  | .pending => .pending

def Handling.forget (r : Handling) : Handling := { r with handler := r.handler.forget }

def Server.forget (i : ℕ) (s : Server) : Server := { s with requests := s.requests.modify i Handling.forget }

def RequestEvent.forget : RequestEvent → RequestEvent
  | .handler (.settle _) => .handler (.settle nothing)
  | .handler (.returned result) => .handler (.returned (result.map fun _ => nothing))
  | e => e

def Event.forget (i : ℕ) : Event → Event
  | .arrive state req => .arrive state req
  | .on j e => .on j (if j = i then e.forget else e)

theorem conclude_forget (r : Handling) (tried : Except (Given Failure) Answer) : r.forget.conclude tried = (r.conclude tried).forget := by
  cases tried with
  | ok answer => rfl
  | error e => rfl

theorem advance_forget (c : Config) (isFull : Bool) (r : Handling) (e : HandlerEvent) :
    (r.step c isFull (.handler e)).map (Prod.map Handling.forget id) = r.forget.step c isFull (RequestEvent.handler e).forget := by
  obtain ⟨state, req, res, stage, handler, selected, termination, aborted, starts, writes⟩ := r
  cases e with
  | start => cases handler <;> rfl
  | returned result => cases handler <;> cases result <;> rfl
  | settle result => cases handler <;> rfl
  | remove => cases handler <;> rfl

theorem past_closed (r : Handling) (past : Past r) : r.stage ≠ .waiting ∧ r.stage ≠ .reading ∧ r.stage ≠ .racing := by
  rcases past with stage | ⟨answer, stage⟩
  · rw [stage]
    exact ⟨nofun, nofun, nofun⟩
  · rw [stage]
    exact ⟨nofun, nofun, nofun⟩

theorem step_forget (c : Config) (isFull : Bool) (r : Handling) (e : RequestEvent) (past : Past r) :
    (r.step c isFull e).map (Prod.map Handling.forget id) = r.forget.step c isFull e.forget := by
  obtain ⟨waiting, reading, racing⟩ := past_closed r past
  cases e with
  | call =>
      have waiting' : r.forget.stage ≠ .waiting := waiting
      simp only [RequestEvent.forget, Handling.step, if_neg waiting, if_neg waiting', Option.map_none]
  | bodyRead events =>
      have reading' : r.forget.stage ≠ .reading := reading
      simp only [RequestEvent.forget, Handling.step, if_neg reading, if_neg reading', Option.map_none]
  | handler e => exact advance_forget c isFull r e
  | deadline =>
      have racing' : r.forget.stage ≠ .racing := racing
      simp only [RequestEvent.forget, Handling.step, racing, racing', false_and, if_false, Option.map_none]
  | expire =>
      by_cases expired : r.stage = .expired
      · have expired' : r.forget.stage = .expired := expired
        simp only [RequestEvent.forget, Handling.step, if_pos expired, if_pos expired', Option.map_some]
        exact congrArg (fun q => some (q, Slot.keep)) (conclude_forget _ _).symm
      · have expired' : r.forget.stage ≠ .expired := expired
        simp only [RequestEvent.forget, Handling.step, if_neg expired, if_neg expired', Option.map_none]
  | proceed =>
      have racing' : r.forget.stage ≠ .racing := racing
      simp only [RequestEvent.forget, Handling.step, if_neg racing, if_neg racing']
      cases r.handler.result <;> cases r.forget.handler.result <;> rfl
  | close isFinished => cases isFinished <;> rfl
  | error => rfl
  | destroy => rfl
  | commit =>
      obtain ⟨state, req, ⟨destroyed, headersSent⟩, stage, handler, selected, termination, aborted, starts, writes⟩ := r
      cases headersSent <;> rfl

theorem server_blind (c : Config) (i : ℕ) :
    (machine c).Blind (fun s => ∃ r, s.requests[i]? = some r ∧ Past r) (Server.forget i) (Event.forget i) := by
  intro s e ⟨r, found, past⟩
  cases e with
  | arrive state req =>
      have inside := (List.getElem?_eq_some_iff.mp found).1
      simp only [machine, step, Event.forget, Server.forget, Option.map_some, Roster.modify_join s.requests i _ _ inside]
  | on j e =>
      by_cases own : j = i
      · subst own
        have forgotten : (s.forget j).requests[j]? = some r.forget := by
          rw [Server.forget, List.getElem?_modify_eq, found]
          rfl
        simp only [machine, step, Event.forget, if_true, found, forgotten, Option.bind_some]
        rw [show (s.forget j).isFull c = s.isFull c from rfl, ← step_forget c (s.isFull c) r e past, Option.map_map, Option.map_map]
        refine congrArg (fun f => Option.map f (r.step c (s.isFull c) e)) (funext fun moved => ?_)
        simp only [Function.comp_apply, Server.forget, Server.apply, Prod.map, Roster.modify_set_self, id]
      · have same : (s.forget i).requests[j]? = s.requests[j]? := List.getElem?_modify_ne _ _ fun clash => own clash.symm
        simp only [machine, step, Event.forget, if_neg own, same]
        cases s.requests[j]? with
        | none => rfl
        | some p =>
            rw [Option.bind_some, Option.bind_some, Option.map_map, show (s.forget i).isFull c = s.isFull c from rfl]
            refine congrArg (fun f => Option.map f (p.step c (s.isFull c) e)) (funext fun moved => ?_)
            simp only [Function.comp_apply, Server.forget, Server.apply, Roster.modify_set_ne s.requests i j _ _ own]

def Handling.shown (r : Handling) : Handling := { r with handler := .idle, starts := 0 }

theorem advance_shown (r q : Handling) (e : HandlerEvent) (advanced : r.advance e = some q) : q.shown = r.shown := by
  obtain ⟨state, req, res, stage, handler, selected, termination, aborted, starts, writes⟩ := r
  cases e <;> cases handler <;> cases advanced <;> rfl

theorem handler_inert (c : Config) (s t : Server) (i : ℕ) (e : HandlerEvent) (moved : step c s (.on i (.handler e)) = some t) :
    t.requests.map Handling.shown = s.requests.map Handling.shown := by
  obtain ⟨r, found, moved⟩ := Option.bind_eq_some_iff.mp moved
  obtain ⟨⟨q, slot⟩, stepped, same⟩ := Option.map_eq_some_iff.mp moved
  obtain ⟨r', advanced, paired⟩ := Option.map_eq_some_iff.mp stepped
  cases paired
  rw [← same]
  refine List.ext_getElem? fun j => ?_
  rw [List.getElem?_map, List.getElem?_map]
  by_cases own : i = j
  · subst own
    rw [Server.apply, Roster.set_self s.requests i r q found, found, Option.map_some, Option.map_some, advance_shown r q e advanced]
  · rw [Server.apply, List.getElem?_set_ne own]

structure Safe (c : Config) (s : Server) : Prop where
  bounded : s.unsettled.length ≤ c.maxActive
  busy : ∀ (i : ℕ) (r : Handling) (e : RequestEvent), s.requests[i]? = some r → r.asks c e = true → s.unsettled.length = c.maxActive →
    ∃ t, step c s (.on i e) = some t ∧ ∀ actions u, (machine c).run t actions = some u →
      ∃ q, u.requests[i]? = some q ∧ q.stage = .left (busyAnswer r) ∧ q.handler = .idle ∧ q.starts = 0 ∧
        q.writes = if wrote (busyAnswer r) then [busyAnswer r] else []
  once : ∀ r ∈ s.requests, r.starts ≤ 1
  single : ∀ r ∈ s.requests, r.writes.length ≤ 1
  silent : ∀ (i : ℕ) (r : Handling), s.requests[i]? = some r → r.res.destroyed = true → ∀ actions t, (machine c).run s actions = some t →
    ∃ q, t.requests[i]? = some q ∧ q.res.destroyed = true ∧ q.writes = r.writes
  inert : ∀ i e t, step c s (.on i (.handler e)) = some t → t.requests.map Handling.shown = s.requests.map Handling.shown
  late : ∀ (i : ℕ) (r : Handling), s.requests[i]? = some r → Past r → ∀ first second : List Event,
    first.map (Event.forget i) = second.map (Event.forget i) →
      ((machine c).run s first).map (Server.forget i) = ((machine c).run s second).map (Server.forget i)

theorem run_request (c : Config) (i : ℕ) (P : Handling → Prop) (kept : ∀ isFull r q e slot, P r → Moved isFull r e q slot → P q)
    (s t : Server) (actions : List Event) (holds : ∃ r, s.requests[i]? = some r ∧ P r) (ran : (machine c).run s actions = some t) :
    ∃ q, t.requests[i]? = some q ∧ P q :=
  (machine c).run_keeps (fun s => ∃ r, s.requests[i]? = some r ∧ P r) (fun u v e holds moved => step_request c i P kept u v e holds moved)
    s t actions holds ran

theorem full_of_unsettled (c : Config) (s : Server) (sound : Sound c s) (full : s.unsettled.length = c.maxActive) : s.isFull c = true :=
  decide_eq_true (full ▸ unsettled_bound c s sound)

theorem busy_turned (c : Config) (s : Server) (i : ℕ) (r : Handling) (e : RequestEvent) (sound : Sound c s)
    (found : s.requests[i]? = some r) (asks : r.asks c e = true) (full : s.isFull c = true) :
    ∃ t, step c s (.on i e) = some t ∧ ∃ q, t.requests[i]? = some q ∧ q.stage = .left (busyAnswer r) ∧ q.handler = .idle ∧
      q.starts = 0 ∧ q.writes = if wrote (busyAnswer r) then [busyAnswer r] else [] := by
  have good := sound.good r (List.mem_of_getElem? found)
  have early := asks_early c r e asks
  have idle := good.early early
  have starts := good.starts
  rw [idle] at starts
  have unwritten := good.unwritten fun answer left => by
    rcases early with waiting | reading
    · cases waiting.symm.trans left
    · cases reading.symm.trans left
  obtain ⟨answer, ends⟩ := answer_ends r ⟨some (.genuine busyFailure), none⟩ (refusing (.genuine busyFailure))
  have stage := refuse_busy r
  have same : busyAnswer r = answer := Stage.left.inj (stage.symm.trans ends.stage)
  refine ⟨s.apply i (r.ask (s.isFull c)), ?_, r.refuse (.genuine busyFailure) none, ?_, stage, ends.handler.trans idle,
    ends.starts.trans starts, ?_⟩
  · rw [step, found, Option.bind_some, asks_step c (s.isFull c) r e asks]
    rfl
  · rw [full]
    exact Roster.set_self s.requests i r _ found
  · rw [same]
    exact ends.writes.trans (by rw [unwritten]; rfl)

theorem server_safe (c : Config) (s : Server) (reached : (machine c).Reachable s) : Safe c s := by
  have sound := reachable_sound c s reached
  refine ⟨(unsettled_bound c s sound).trans sound.bound, fun i r e found asks full => ?_, fun r member => ?_,
    fun r member => (sound.good r member).single, fun i r found destroyed actions t ran => ?_, fun i e t moved => handler_inert c s t i e moved,
    fun i r found past first second alike => ?_⟩
  · obtain ⟨t, stepped, turned⟩ := busy_turned c s i r e sound found asks (full_of_unsettled c s sound full)
    exact ⟨t, stepped, fun actions u ran => run_request c i _ (moved_turned _ _) t u actions turned ran⟩
  · rw [(sound.good r member).starts]
    split_ifs
    · exact Nat.le_refl 1
    · exact Nat.zero_le 1
  · exact run_request c i _ (moved_destroyed r.writes) s t actions ⟨r, found, destroyed, rfl⟩ ran
  · exact (machine c).blind_runs _ (Server.forget i) (Event.forget i) (server_blind c i)
      (fun u v e holds moved => step_request c i Past moved_past u v e holds moved) s first second ⟨r, found, past⟩ alike

theorem demo_positive : 1 ≤ 1 := Nat.le_refl 1

def demoConfig : Config := ⟨1024, 1, demo_positive⟩

def demoState : RequestState := ⟨none, true, none⟩

def demoGet : Request := ⟨"GET", none, none, none⟩

def demoEvents : List Event := [.arrive demoState demoGet, .on 0 .call, .on 0 (.handler .start), .arrive demoState demoGet]

theorem server_safe_demo : Safe demoConfig
    ⟨[{ Handling.arrived demoState demoGet with stage := .racing, handler := .running, starts := 1 }, .arrived demoState demoGet], [0]⟩ :=
  server_safe demoConfig _ ((machine demoConfig).run_reachable _ _ demoEvents .start rfl)

end N2F.Http
