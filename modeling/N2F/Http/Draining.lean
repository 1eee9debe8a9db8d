import N2F.Http.WorkersInvariant

set_option autoImplicit false

namespace N2F.Http

def Server.Called (s : Server) : Prop := ∀ r ∈ s.requests, r.stage ≠ .waiting

def BodyEvent.isEnd : BodyEvent → Bool
  | .ended => true
  | .data _ | .aborted | .failed | .timer => false

def Event.isSevered : Event → Bool
  | .arrive _ _ => false
  | .on _ (.bodyRead events) => !events.any BodyEvent.isEnd
  | .on _ _ => true

theorem read_body_ends (max size : ℕ) (events : List BodyEvent) (whole : readBody max size events = none) :
    events.any BodyEvent.isEnd = true := by
  induction events generalizing size with
  | nil => cases whole
  | cons event rest ih =>
      cases event with
      | data length =>
          rw [readBody] at whole
          split_ifs at whole
          exact ih _ whole
      | ended => rfl
      | aborted => cases whole
      | failed => cases whole
      | timer => cases whole

theorem adds_early (c : Config) (isFull : Bool) (r q : Handling) (e : RequestEvent) (moved : r.step c isFull e = some (q, .add)) :
    r.stage = .waiting ∨ ∃ events, e = .bodyRead events ∧ readBody c.maxBody 0 events = none := by
  cases e with
  | call => exact .inl (Option.ite_none_right_eq_some.mp moved).1
  | bodyRead events =>
      refine .inr ⟨events, rfl, ?_⟩
      obtain ⟨_, same⟩ := Option.ite_none_right_eq_some.mp moved
      cases whole : readBody c.maxBody 0 events with
      | none => rfl
      | some rejected =>
          rw [Handling.bodyRead, whole] at same
          cases same
  | handler e =>
      obtain ⟨r', _, same⟩ := Option.map_eq_some_iff.mp moved
      cases e with
      | _ => cases same
  | deadline =>
      rw [Handling.step] at moved
      split_ifs at moved
      cases moved
  | expire =>
      rw [Handling.step] at moved
      split_ifs at moved
      cases moved
  | proceed =>
      rw [Handling.step] at moved
      split at moved
      · split_ifs at moved
        cases moved
      · cases moved
  | close isFinished =>
      rw [Handling.step] at moved
      split_ifs at moved
      · cases moved
      · cases moved
  | error => cases moved
  | destroy => cases moved
  | commit =>
      rw [Handling.step] at moved
      split_ifs at moved
      cases moved

theorem moved_called (isFull : Bool) (r q : Handling) (e : RequestEvent) (slot : Slot) (called : r.stage ≠ .waiting)
    (moved : Moved isFull r e q slot) : q.stage ≠ .waiting := by
  cases moved with
  | ended e q answer opened ends =>
      rw [ends.stage]
      exact fun standing => by cases standing
  | reads waiting => exact absurd waiting called
  | asked e early free => exact fun standing => by cases standing
  | handled e q advanced => rwa [(advance_advanced r q e advanced).stage]
  | expired racing => exact fun standing => by cases standing
  | aside e q same => rwa [same.stage]

theorem advance_settled (r q : Handling) (e : HandlerEvent) (settled : r.handler.result.isSome = true) (moved : r.advance e = some q) :
    q.handler.result.isSome = true := by
  cases e with
  | start =>
      rw [Handling.advance] at moved
      split at moved
      · next standing =>
          rw [standing] at settled
          cases settled
      · cases moved
  | returned result =>
      rw [Handling.advance] at moved
      split at moved
      · next standing =>
          rw [standing] at settled
          cases settled
      · cases moved
  | settle result =>
      rw [Handling.advance] at moved
      split at moved
      · cases moved
        rfl
      · cases moved
  | remove =>
      rw [Handling.advance] at moved
      split at moved
      · cases moved
        rfl
      · cases moved

theorem moved_settled (isFull : Bool) (r q : Handling) (e : RequestEvent) (slot : Slot) (good : Good r)
    (settled : r.handler.result.isSome = true) (moved : Moved isFull r e q slot) : q.handler.result.isSome = true := by
  cases moved with
  | ended e q answer opened ends => rwa [ends.handler]
  | reads waiting => exact settled
  | asked e early free =>
      rw [good.early early] at settled
      cases settled
  | handled e q advanced => exact advance_settled r q e settled advanced
  | expired racing => exact settled
  | aside e q same => rwa [same.handler]

def Server.settled (s : Server) (i : ℕ) : Bool := s.requests[i]?.any fun r => r.handler.result.isSome

structure Severed (s t : Server) : Prop where
  called : t.Called
  shrinks : ∀ i ∈ t.workers, i ∈ s.workers
  settled : ∀ i, s.settled i = true → t.settled i = true

theorem severed_step (c : Config) (s t : Server) (e : Event) (sound : Sound c s) (called : s.Called) (severed : e.isSevered = true)
    (moved : step c s e = some t) : Severed s t := by
  cases e with
  | arrive state req => cases severed
  | on i e =>
      obtain ⟨r, found, moved⟩ := Option.bind_eq_some_iff.mp moved
      obtain ⟨⟨q, slot⟩, stepped, same⟩ := Option.map_eq_some_iff.mp moved
      have member := List.mem_of_getElem? found
      have change := step_moved c _ r q e slot stepped
      subst same
      refine ⟨fun p there => ?_, fun j working => ?_, fun j settled => ?_⟩
      · rcases List.mem_or_eq_of_mem_set there with old | new
        · exact called p old
        · exact new ▸ moved_called _ r q e slot (called r member) change
      · cases slot with
        | keep => exact working
        | delete => exact List.mem_of_mem_erase working
        | add =>
            rcases adds_early c _ r q e stepped with waiting | ⟨events, rfl, whole⟩
            · exact absurd waiting (called r member)
            · rw [Event.isSevered, read_body_ends c.maxBody 0 events whole] at severed
              cases severed
      · obtain ⟨p, there, done⟩ := (Option.any_eq_true _ _).mp settled
        refine (Option.any_eq_true _ _).mpr ?_
        by_cases own : j = i
        · subst own
          cases found.symm.trans there
          exact ⟨q, Roster.set_self s.requests j r q found, moved_settled _ r q e slot (sound.good r member) done change⟩
        · exact ⟨p, (List.getElem?_set_ne fun same => own same.symm).trans there, done⟩

theorem settled_rests (c : Config) (s : Server) (sound : Sound c s) (settled : ∀ i ∈ s.workers, s.settled i = true) (r : Handling)
    (member : r ∈ s.requests) : r.handler = .idle ∨ r.handler.result.isSome = true := by
  obtain ⟨i, inside, rfl⟩ := List.getElem_of_mem member
  have found := List.getElem?_eq_getElem inside
  by_cases working : s.requests[i].handler.working = true
  · obtain ⟨r, here, done⟩ := (Option.any_eq_true _ _).mp (settled i ((sound.held i).mpr ⟨_, found, working⟩))
    cases found.symm.trans here
    exact .inr done
  · cases standing : s.requests[i].handler with
    | idle => exact .inl rfl
    | done result => exact .inr rfl
    | queued => exact absurd (by rw [standing]; rfl) working
    | running => exact absurd (by rw [standing]; rfl) working
    | pending => exact absurd (by rw [standing]; rfl) working
    | settled result => exact absurd (by rw [standing]; rfl) working

end N2F.Http
