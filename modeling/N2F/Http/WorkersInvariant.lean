import N2F.Http.Workers
import N2F.Roster
import Mathlib.Data.List.Nodup
import Mathlib.Data.List.Perm.Subperm

set_option autoImplicit false

namespace N2F.Http

structure Ends (r q : Handling) (answer : Answer) : Prop where
  stage : q.stage = .left answer
  handler : q.handler = r.handler
  starts : q.starts = r.starts
  writes : q.writes = if wrote answer then r.writes ++ [answer] else r.writes
  fresh : wrote answer = true → r.res = ⟨false, false⟩
  destroyed : r.res.destroyed = true → q.res.destroyed = true

theorem respond_fresh (sel : Selection) (scope : Option RequestIds) (result : Returned) (res : Response) (answer : Answer)
    (responded : respond sel scope result res = .ok answer) (writes : wrote answer = true) : res = ⟨false, false⟩ := by
  obtain ⟨destroyed, headersSent⟩ := res
  rw [respond] at responded
  cases destroyed with
  | true =>
      rw [if_pos rfl] at responded
      cases responded
      cases writes
  | false =>
      cases headersSent with
      | true => cases responded
      | false => rfl

theorem respond_undestroyed (sel : Selection) (scope : Option RequestIds) (result : Returned) (res : Response) (e : Given Failure)
    (thrown : respond sel scope result res = .error e) : res.destroyed = false := by
  obtain ⟨destroyed, headersSent⟩ := res
  cases destroyed with
  | true =>
      rw [respond, if_pos rfl] at thrown
      cases thrown
  | false => rfl

theorem recover_fresh (e : Given Failure) (res : Response) (undestroyed : res.destroyed = false ∨ res.headersSent = true)
    (writes : wrote (recover e res) = true) : res = ⟨false, false⟩ := by
  obtain ⟨destroyed, headersSent⟩ := res
  cases headersSent with
  | true => cases writes
  | false =>
      cases destroyed with
      | true => simp at undestroyed
      | false => rfl

theorem leave_destroyed (r : Handling) (answer : Answer) (destroyed : r.res.destroyed = true) :
    (r.leave answer).res.destroyed = true := by
  simp [Handling.leave, destroyed]

theorem conclude_ends (r : Handling) (tried : Except (Given Failure) Answer)
    (whole : ∀ answer, tried = .ok answer → wrote answer = true → r.res = ⟨false, false⟩)
    (thrown : ∀ e, tried = .error e → r.res.destroyed = false ∨ r.res.headersSent = true) :
    ∃ answer, Ends r (r.conclude tried) answer := by
  cases tried with
  | ok answer => exact ⟨answer, rfl, rfl, rfl, rfl, whole answer rfl, leave_destroyed r answer⟩
  | error e => exact ⟨recover e r.res, rfl, rfl, rfl, rfl, recover_fresh e r.res (thrown e rfl), leave_destroyed _ _⟩

theorem answer_ends (r : Handling) (sel : Selection) (result : Returned) : ∃ answer, Ends r (r.answer sel result) answer := by
  obtain ⟨answer, ends⟩ := conclude_ends { r with selected := sel.selected } (respond sel r.state.scope result r.res)
    (fun answer responded writes => respond_fresh sel _ result r.res answer responded writes)
    (fun e failed => .inl (respond_undestroyed sel _ result r.res e failed))
  exact ⟨answer, ends.stage, ends.handler, ends.starts, ends.writes, ends.fresh, ends.destroyed⟩

def Legible (result : Returned) : Prop := result.ok = .ok true ∨ result.ok = .ok false ∧ ∃ e, result.error = .ok e

theorem handler_legible (result : HandlerResult) : Legible result.returned := by
  cases result with
  | ok text => exact .inl rfl
  | err e => exact .inr ⟨rfl, e, rfl⟩
  | threw e => exact .inr ⟨rfl, e, rfl⟩

theorem timed_out_legible : Legible timedOut := .inr ⟨rfl, _, rfl⟩

theorem finish_ends (r : Handling) (result : Returned) (legible : Legible result) : ∃ answer, Ends r (r.finish result) answer := by
  rw [Handling.finish]
  rcases legible with ok | ⟨ok, e, error⟩
  · rw [ok]
    exact answer_ends r _ result
  · rw [ok, error]
    exact answer_ends r _ result

theorem committed_ends (r : Handling) (e : Given Failure) (committed : r.res.headersSent = true) :
    ∃ answer, Ends r (r.conclude (.error e)) answer :=
  conclude_ends r (.error e) nofun fun _ _ => .inr committed

structure Aside (r q : Handling) : Prop where
  stage : q.stage = r.stage
  handler : q.handler = r.handler
  starts : q.starts = r.starts
  writes : q.writes = r.writes
  destroyed : r.res.destroyed = true → q.res.destroyed = true

inductive Moved (isFull : Bool) (r : Handling) : RequestEvent → Handling → Slot → Prop where
  | ended (e : RequestEvent) (q : Handling) (answer : Answer) (opened : ∀ other, r.stage ≠ .left other) (ends : Ends r q answer) :
      Moved isFull r e q .keep
  | reads (waiting : r.stage = .waiting) : Moved isFull r .call { r with stage := .reading } .keep
  | asked (e : RequestEvent) (early : r.stage = .waiting ∨ r.stage = .reading) (free : isFull = false) :
      Moved isFull r e { r with stage := .racing, handler := .queued } .add
  | handled (e : HandlerEvent) (q : Handling) (advanced : r.advance e = some q) : Moved isFull r (.handler e) q (slotOf e)
  | expired (racing : r.stage = .racing) :
      Moved isFull r .deadline { r with stage := .expired, termination := .deadline, aborted := true } .keep
  | aside (e : RequestEvent) (q : Handling) (same : Aside r q) : Moved isFull r e q .keep

theorem ask_moved (isFull : Bool) (r : Handling) (e : RequestEvent) (early : r.stage = .waiting ∨ r.stage = .reading) :
    Moved isFull r e (r.ask isFull).1 (r.ask isFull).2 := by
  cases isFull with
  | true =>
      obtain ⟨answer, ends⟩ := answer_ends r ⟨some (.genuine busyFailure), none⟩ (refusing (.genuine busyFailure))
      refine .ended e _ answer (fun other left => ?_) ends
      rcases early with stage | stage
      · cases stage.symm.trans left
      · cases stage.symm.trans left
  | false => exact .asked e early rfl

theorem call_moved (isFull : Bool) (r : Handling) (waiting : r.stage = .waiting) :
    Moved isFull r .call (r.call isFull).1 (r.call isFull).2 := by
  have opened (other : Answer) (left : r.stage = .left other) : False := by cases waiting.symm.trans left
  rw [Handling.call]
  cases selected : (routeSelection r.state r.req).selected with
  | some e =>
      dsimp only
      by_cases thrown : ((routeSelection r.state r.req).protocol.isSome && r.res.headersSent) = true
      · rw [if_pos thrown]
        exact .ended _ _ _ opened ⟨rfl, rfl, rfl, rfl, nofun, leave_destroyed _ _⟩
      · rw [if_neg thrown]
        obtain ⟨answer, ends⟩ := answer_ends r ⟨some e, (routeSelection r.state r.req).protocol⟩ (refusing e)
        exact .ended _ _ answer opened ends
  | none =>
      dsimp only
      by_cases bare : (!hasBody r.req) = true
      · rw [if_pos bare]
        exact ask_moved isFull r .call (.inl waiting)
      · rw [if_neg bare]
        by_cases json : isJson r.req = true
        · rw [if_pos json]
          exact .reads waiting
        · rw [if_neg json]
          obtain ⟨answer, ends⟩ := answer_ends r ⟨some (.genuine unsupportedMedia), some 415⟩ (refusing (.genuine unsupportedMedia))
          exact .ended _ _ answer opened ends

theorem body_read_moved (c : Config) (isFull : Bool) (r : Handling) (events : List BodyEvent) (reading : r.stage = .reading) :
    Moved isFull r (.bodyRead events) (r.bodyRead c isFull events).1 (r.bodyRead c isFull events).2 := by
  have opened (other : Answer) (left : r.stage = .left other) : False := by cases reading.symm.trans left
  rw [Handling.bodyRead]
  cases readBody c.maxBody 0 events with
  | none => exact ask_moved isFull r _ (.inr reading)
  | some rejected =>
      dsimp only
      by_cases committed : r.res.headersSent = true
      · rw [if_pos committed]
        obtain ⟨answer, ends⟩ := committed_ends { r with
          selected := some (.genuine (bodyFailure rejected)), termination := if rejected = 408 then .deadline else r.termination } .foreign
          committed
        exact .ended _ _ answer opened ⟨ends.stage, ends.handler, ends.starts, ends.writes, ends.fresh, ends.destroyed⟩
      · rw [if_neg committed]
        obtain ⟨answer, ends⟩ := answer_ends { r with
          selected := some (.genuine (bodyFailure rejected)), termination := if rejected = 408 then .deadline else r.termination }
          ⟨some (.genuine (bodyFailure rejected)), some rejected⟩ (refusing (.genuine (bodyFailure rejected)))
        exact .ended _ _ answer opened ⟨ends.stage, ends.handler, ends.starts, ends.writes, ends.fresh, ends.destroyed⟩

theorem step_moved (c : Config) (isFull : Bool) (r q : Handling) (e : RequestEvent) (slot : Slot)
    (moved : r.step c isFull e = some (q, slot)) : Moved isFull r e q slot := by
  cases e with
  | call =>
      simp only [Handling.step, Option.ite_none_right_eq_some, Option.some.injEq] at moved
      obtain ⟨waiting, same⟩ := moved
      have whole := call_moved isFull r waiting
      rwa [same] at whole
  | bodyRead events =>
      simp only [Handling.step, Option.ite_none_right_eq_some, Option.some.injEq] at moved
      obtain ⟨reading, same⟩ := moved
      have whole := body_read_moved c isFull r events reading
      rwa [same] at whole
  | handler e =>
      obtain ⟨r', advanced, same⟩ := Option.map_eq_some_iff.mp moved
      cases same
      exact .handled e q advanced
  | deadline =>
      simp only [Handling.step, Option.ite_none_right_eq_some, Option.some.injEq, Prod.mk.injEq] at moved
      obtain ⟨⟨racing, _⟩, rfl, rfl⟩ := moved
      exact .expired racing
  | expire =>
      simp only [Handling.step, Option.ite_none_right_eq_some, Option.some.injEq, Prod.mk.injEq] at moved
      obtain ⟨expired, rfl, rfl⟩ := moved
      obtain ⟨answer, ends⟩ := finish_ends r timedOut timed_out_legible
      exact .ended _ _ answer (fun other left => by cases expired.symm.trans left) ends
  | proceed =>
      simp only [Handling.step] at moved
      split at moved
      · next result settled =>
          simp only [Option.ite_none_right_eq_some, Option.some.injEq, Prod.mk.injEq] at moved
          obtain ⟨racing, rfl, rfl⟩ := moved
          obtain ⟨answer, ends⟩ := finish_ends r result.returned (handler_legible result)
          exact .ended _ _ answer (fun other left => by cases racing.symm.trans left) ends
      · cases moved
  | close isFinished =>
      rw [Handling.step] at moved
      split_ifs at moved
      · cases moved
        exact .aside _ _ ⟨rfl, rfl, rfl, rfl, id⟩
      · cases moved
        exact .aside _ _ ⟨rfl, rfl, rfl, rfl, fun _ => rfl⟩
  | error =>
      cases moved
      exact .aside _ _ ⟨rfl, rfl, rfl, rfl, id⟩
  | destroy =>
      cases moved
      exact .aside _ _ ⟨rfl, rfl, rfl, rfl, fun _ => rfl⟩
  | commit =>
      rw [Handling.step] at moved
      split_ifs at moved
      cases moved
      exact .aside _ _ ⟨rfl, rfl, rfl, rfl, id⟩

def Handler.working : Handler → Bool
  | .queued | .running | .pending | .settled _ => true
  | .idle | .done _ => false

def Handler.unsettled : Handler → Bool
  | .running | .pending => true
  | .idle | .queued | .settled _ | .done _ => false

def Handler.begun : Handler → Bool
  | .running | .pending | .settled _ | .done _ => true
  | .idle | .queued => false

theorem unsettled_working (h : Handler) (unsettled : h.unsettled = true) : h.working = true := by
  cases h with
  | running => rfl
  | pending => rfl
  | idle => cases unsettled
  | queued => cases unsettled
  | settled result => cases unsettled
  | done result => cases unsettled

structure Good (r : Handling) : Prop where
  early : r.stage = .waiting ∨ r.stage = .reading → r.handler = .idle
  asked : r.stage = .racing ∨ r.stage = .expired → r.handler ≠ .idle
  starts : r.starts = if r.handler.begun then 1 else 0
  unwritten : (∀ answer, r.stage ≠ .left answer) → r.writes = []
  single : r.writes.length ≤ 1

structure Advanced (r q : Handling) (slot : Slot) : Prop where
  res : q.res = r.res
  stage : q.stage = r.stage
  writes : q.writes = r.writes
  before : r.handler ≠ .idle
  after : q.handler ≠ .idle
  starts : r.starts = (if r.handler.begun then 1 else 0) → q.starts = if q.handler.begun then 1 else 0
  slot : (slot = .keep ∧ r.handler.working = true ∧ q.handler.working = true) ∨
    slot = .delete ∧ r.handler.working = true ∧ q.handler.working = false

theorem advance_advanced (r q : Handling) (e : HandlerEvent) (moved : r.advance e = some q) : Advanced r q (slotOf e) := by
  cases e with
  | start =>
      rw [Handling.advance] at moved
      split at moved
      · next standing =>
          cases moved
          refine ⟨rfl, rfl, rfl, by rw [standing]; nofun, nofun, fun starts => ?_, .inl ⟨rfl, by rw [standing]; rfl, rfl⟩⟩
          rw [standing] at starts
          exact congrArg (· + 1) starts
      · cases moved
  | returned result =>
      rw [Handling.advance] at moved
      split at moved
      · next standing =>
          cases moved
          refine ⟨rfl, rfl, rfl, by rw [standing]; nofun, ?_, fun starts => ?_, .inl ⟨rfl, by rw [standing]; rfl, ?_⟩⟩
          · cases result <;> nofun
          · rw [standing] at starts
            cases result <;> exact starts
          · cases result <;> rfl
      · cases moved
  | settle result =>
      rw [Handling.advance] at moved
      split at moved
      · next standing =>
          cases moved
          refine ⟨rfl, rfl, rfl, by rw [standing]; nofun, nofun, fun starts => ?_, .inl ⟨rfl, by rw [standing]; rfl, rfl⟩⟩
          rw [standing] at starts
          exact starts
      · cases moved
  | remove =>
      rw [Handling.advance] at moved
      split at moved
      · next result standing =>
          cases moved
          refine ⟨rfl, rfl, rfl, by rw [standing]; nofun, nofun, fun starts => ?_, .inr ⟨rfl, by rw [standing]; rfl, rfl⟩⟩
          rw [standing] at starts
          exact starts
      · cases moved

theorem arrived_good (state : RequestState) (req : Request) : Good (.arrived state req) := by
  refine ⟨fun _ => rfl, fun asked => ?_, rfl, fun _ => rfl, Nat.zero_le 1⟩
  rcases asked with stage | stage
  · cases stage
  · cases stage

theorem moved_good (isFull : Bool) (r q : Handling) (e : RequestEvent) (slot : Slot) (good : Good r)
    (moved : Moved isFull r e q slot) : Good q := by
  cases moved with
  | ended e q answer opened ends =>
      refine ⟨fun early => ?_, fun asked => ?_, ?_, fun opened => absurd ends.stage (opened answer), ?_⟩
      · rw [ends.stage] at early
        simp at early
      · rw [ends.stage] at asked
        simp at asked
      · rw [ends.starts, ends.handler]
        exact good.starts
      · rw [ends.writes, good.unwritten opened]
        split_ifs
        · exact Nat.le_refl 1
        · exact Nat.zero_le 1
  | reads waiting =>
      refine ⟨fun _ => good.early (.inl waiting), fun asked => ?_, good.starts, fun _ => good.unwritten fun answer left => ?_, good.single⟩
      · simp at asked
      · cases waiting.symm.trans left
  | asked e early free =>
      have idle := good.early early
      have starts := good.starts
      rw [idle] at starts
      refine ⟨fun early => ?_, fun _ => nofun, starts, fun _ => good.unwritten fun answer left => ?_, good.single⟩
      · simp at early
      · rcases early with stage | stage
        · cases stage.symm.trans left
        · cases stage.symm.trans left
  | handled e q advanced =>
      have step := advance_advanced r q e advanced
      refine ⟨fun early => ?_, fun _ => step.after, step.starts good.starts, fun opened => ?_, ?_⟩
      · rw [step.stage] at early
        exact absurd (good.early early) step.before
      · rw [step.stage] at opened
        rw [step.writes]
        exact good.unwritten opened
      · rw [step.writes]
        exact good.single
  | expired racing =>
      refine ⟨fun early => ?_, fun _ => good.asked (.inl racing), good.starts, fun _ => good.unwritten fun answer left => ?_, good.single⟩
      · simp at early
      · cases racing.symm.trans left
  | aside e q same =>
      obtain ⟨stage, handler, starts, writes, _⟩ := same
      refine ⟨?_, ?_, ?_, ?_, ?_⟩
      · rw [stage, handler]
        exact good.early
      · rw [stage, handler]
        exact good.asked
      · rw [starts, handler]
        exact good.starts
      · rw [stage, writes]
        exact good.unwritten
      · rw [writes]
        exact good.single

inductive SlotMoved (isFull : Bool) (before after : Bool) : Slot → Prop where
  | keep (same : after = before) : SlotMoved isFull before after .keep
  | add (idle : before = false) (working : after = true) (free : isFull = false) : SlotMoved isFull before after .add
  | delete (working : before = true) (done : after = false) : SlotMoved isFull before after .delete

theorem moved_slot (isFull : Bool) (r q : Handling) (e : RequestEvent) (slot : Slot) (good : Good r)
    (moved : Moved isFull r e q slot) : SlotMoved isFull r.handler.working q.handler.working slot := by
  cases moved with
  | ended e q answer opened ends => exact .keep (congrArg Handler.working ends.handler)
  | reads waiting => exact .keep rfl
  | asked e early free => exact .add (by rw [good.early early]; rfl) rfl free
  | handled e q advanced =>
      rcases (advance_advanced r q e advanced).slot with ⟨same, before, after⟩ | ⟨same, before, after⟩
      · rw [same]
        exact .keep (after.trans before.symm)
      · rw [same]
        exact .delete before after
  | expired racing => exact .keep rfl
  | aside e q same => exact .keep (congrArg Handler.working same.handler)

structure Sound (c : Config) (s : Server) : Prop where
  good : ∀ r ∈ s.requests, Good r
  distinct : s.workers.Nodup
  bound : s.workers.length ≤ c.maxActive
  held : ∀ i, i ∈ s.workers ↔ ∃ r, s.requests[i]? = some r ∧ r.handler.working = true

theorem held_set (s : Server) (i j : ℕ) (q : Handling) (other : j ≠ i) :
    (∃ p, (s.requests.set i q)[j]? = some p ∧ p.handler.working = true) ↔ ∃ p, s.requests[j]? = some p ∧ p.handler.working = true := by
  rw [List.getElem?_set_ne fun own => other own.symm]

theorem held_self (s : Server) (i : ℕ) (r q : Handling) (found : s.requests[i]? = some r) :
    (∃ p, (s.requests.set i q)[i]? = some p ∧ p.handler.working = true) ↔ q.handler.working = true := by
  rw [Roster.set_self s.requests i r q found]
  simp

theorem apply_sound (c : Config) (s : Server) (i : ℕ) (r q : Handling) (e : RequestEvent) (slot : Slot) (sound : Sound c s)
    (found : s.requests[i]? = some r) (moved : Moved (s.isFull c) r e q slot) : Sound c (s.apply i (q, slot)) := by
  have good := sound.good r (List.mem_of_getElem? found)
  have every : ∀ p ∈ s.requests.set i q, Good p := by
    intro p member
    rcases List.mem_or_eq_of_mem_set member with old | new
    · exact sound.good p old
    · rw [new]
      exact moved_good _ r q e slot good moved
  have own : i ∈ s.workers ↔ r.handler.working = true := by
    rw [sound.held i, found]
    simp
  cases moved_slot _ r q e slot good moved with
  | keep same =>
      refine ⟨every, sound.distinct, sound.bound, fun j => ?_⟩
      by_cases here : j = i
      · subst here
        exact (own.trans (by rw [same])).trans (held_self s j r q found).symm
      · exact (sound.held j).trans (held_set s i j q here).symm
  | add idle working free =>
      have fresh : i ∉ s.workers := by
        rw [own, idle]
        nofun
      have room : s.workers.length < c.maxActive := by
        simpa [Server.isFull] using free
      refine ⟨every, List.nodup_cons.mpr ⟨fresh, sound.distinct⟩, room, fun j => ?_⟩
      by_cases here : j = i
      · subst here
        exact ⟨fun _ => (held_self s j r q found).mpr working, fun _ => List.mem_cons_self⟩
      · refine Iff.trans ?_ (held_set s i j q here).symm
        rw [← sound.held j]
        exact ⟨fun member => (List.mem_cons.mp member).resolve_left here, List.mem_cons_of_mem i⟩
  | delete working done =>
      refine ⟨every, sound.distinct.erase i, (List.length_erase_le).trans sound.bound, fun j => ?_⟩
      refine (sound.distinct.mem_erase_iff).trans ?_
      by_cases here : j = i
      · subst here
        refine ⟨fun kept => absurd rfl kept.1, fun still => ?_⟩
        rw [(held_self s j r q found).mp still] at done
        cases done
      · exact ⟨fun kept => (held_set s i j q here).mpr ((sound.held j).mp kept.2),
          fun still => ⟨here, (sound.held j).mpr ((held_set s i j q here).mp still)⟩⟩

theorem step_sound (c : Config) (s t : Server) (e : Event) (sound : Sound c s) (moved : step c s e = some t) : Sound c t := by
  cases e with
  | arrive state req =>
      cases moved
      refine ⟨fun r member => ?_, sound.distinct, sound.bound, fun i => (sound.held i).trans ?_⟩
      · rcases List.mem_append.mp member with old | new
        · exact sound.good r old
        · rw [List.mem_singleton.mp new]
          exact arrived_good state req
      · constructor
        · rintro ⟨r, here, working⟩
          exact ⟨r, Roster.join_kept _ _ _ _ here, working⟩
        · rintro ⟨r, here, working⟩
          rcases Roster.join_cases s.requests i _ r here with ⟨_, same⟩ | ⟨_, old⟩
          · rw [same] at working
            cases working
          · exact ⟨r, old, working⟩
  | on i e =>
      obtain ⟨r, found, moved⟩ := Option.bind_eq_some_iff.mp moved
      obtain ⟨⟨q, slot⟩, stepped, same⟩ := Option.map_eq_some_iff.mp moved
      rw [← same]
      exact apply_sound c s i r q e slot sound found (step_moved c _ r q e slot stepped)

theorem reachable_sound (c : Config) (s : Server) (reached : (machine c).Reachable s) : Sound c s := by
  refine (machine c).invariant (Sound c) ?_ (fun s t e _ sound moved => step_sound c s t e sound moved) s reached
  refine ⟨fun r member => ?_, List.nodup_nil, Nat.zero_le _, fun i => ?_⟩
  · cases member
  · constructor
    · intro member
      cases member
    · rintro ⟨r, here, _⟩
      cases here

end N2F.Http
