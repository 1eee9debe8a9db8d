import N2F.Http.WorkersInvariant

set_option autoImplicit false

namespace N2F

def Answer.Names (scope : Option RequestIds) : Answer → Prop
  | .problem _ document => document.ids = none ∨ document.ids = scope
  | .json _ _ | .bare _ | .left | .destroyed | .rejected => True

theorem respond_names (sel : Selection) (scope : Option RequestIds) (result : Returned) (res : Response) (answer : Answer)
    (responded : respond sel scope result res = .ok answer) : answer.Names scope := by
  rw [respond] at responded
  split_ifs at responded
  · cases responded
    trivial
  · split at responded
    · cases responded
      exact .inr rfl
    · split at responded
      · cases responded
      · cases responded
        trivial
      · cases text : result.text with
        | error e =>
            rw [text] at responded
            cases responded
        | ok text' =>
            rw [text] at responded
            cases responded
            trivial

theorem recover_names (e : Given Failure) (scope : Option RequestIds) (res : Response) : (recover e res).Names scope := by
  rw [recover]
  split_ifs
  · trivial
  · exact .inl rfl

end N2F

namespace N2F.Http

structure Handling.Own (state : RequestState) (req : Request) (r : Handling) : Prop where
  kept : r.state = state
  read : r.req = req
  writes : ∀ answer ∈ r.writes, answer.Names state.scope

section

variable (state : RequestState) (req : Request) (r : Handling)

theorem leave_own (answer : Answer) (own : r.Own state req) (names : answer.Names state.scope) : (r.leave answer).Own state req := by
  refine ⟨own.kept, own.read, fun written member => ?_⟩
  rw [Handling.leave] at member
  dsimp only at member
  split_ifs at member
  · rcases List.mem_append.mp member with old | new
    · exact own.writes written old
    · rwa [List.mem_singleton.mp new]
  · exact own.writes written member

theorem conclude_own (tried : Except (Given Failure) Answer) (own : r.Own state req)
    (names : ∀ answer, tried = .ok answer → answer.Names state.scope) : (r.conclude tried).Own state req := by
  cases tried with
  | ok answer => exact leave_own state req r answer own (names answer rfl)
  | error e => exact leave_own state req _ _ ⟨own.kept, own.read, own.writes⟩ (recover_names e _ _)

theorem answer_own (sel : Selection) (result : Returned) (own : r.Own state req) : (r.answer sel result).Own state req := by
  refine conclude_own state req _ _ ⟨own.kept, own.read, own.writes⟩ fun answer responded => ?_
  rw [own.kept] at responded
  exact respond_names sel _ result r.res answer responded

theorem finish_own (result : Returned) (own : r.Own state req) : (r.finish result).Own state req := by
  have thrown (e : Given Failure) : (r.conclude (.error e)).Own state req :=
    conclude_own state req r _ own fun answer same => by cases same
  rw [Handling.finish]
  split
  · exact thrown _
  · exact answer_own state req r _ _ own
  · split
    · exact thrown _
    · exact answer_own state req r _ _ own

theorem ask_own (isFull : Bool) (own : r.Own state req) : (r.ask isFull).1.Own state req := by
  cases isFull with
  | true => exact answer_own state req r _ _ own
  | false => exact ⟨own.kept, own.read, own.writes⟩

theorem call_own (isFull : Bool) (own : r.Own state req) : (r.call isFull).1.Own state req := by
  rw [Handling.call]
  cases (routeSelection r.state r.req).selected with
  | some e =>
      dsimp only
      split_ifs
      · exact leave_own state req _ _ ⟨own.kept, own.read, own.writes⟩ trivial
      · exact answer_own state req r _ _ own
  | none =>
      dsimp only
      split_ifs
      · exact ask_own state req r isFull own
      · exact ⟨own.kept, own.read, own.writes⟩
      · exact answer_own state req r _ _ own

theorem body_read_own (c : Config) (isFull : Bool) (events : List BodyEvent) (own : r.Own state req) :
    (r.bodyRead c isFull events).1.Own state req := by
  rw [Handling.bodyRead]
  cases readBody c.maxBody 0 events with
  | none => exact ask_own state req r isFull own
  | some rejected =>
      dsimp only
      by_cases sent : r.res.headersSent = true
      · rw [if_pos sent]
        exact conclude_own state req _ _ ⟨own.kept, own.read, own.writes⟩ fun answer same => by cases same
      · rw [if_neg sent]
        exact answer_own state req _ _ _ ⟨own.kept, own.read, own.writes⟩

theorem advance_own (q : Handling) (e : HandlerEvent) (own : r.Own state req) (moved : r.advance e = some q) : q.Own state req := by
  cases e with
  | start =>
      simp only [Handling.advance] at moved
      split at moved
      · cases moved
        exact ⟨own.kept, own.read, own.writes⟩
      · cases moved
  | returned result =>
      simp only [Handling.advance] at moved
      split at moved
      · cases moved
        exact ⟨own.kept, own.read, own.writes⟩
      · cases moved
  | settle result =>
      simp only [Handling.advance] at moved
      split at moved
      · cases moved
        exact ⟨own.kept, own.read, own.writes⟩
      · cases moved
  | remove =>
      simp only [Handling.advance] at moved
      split at moved
      · cases moved
        exact ⟨own.kept, own.read, own.writes⟩
      · cases moved

theorem handling_step_own (c : Config) (isFull : Bool) (q : Handling) (e : RequestEvent) (slot : Slot) (own : r.Own state req)
    (moved : r.step c isFull e = some (q, slot)) : q.Own state req := by
  cases e with
  | call =>
      obtain ⟨_, same⟩ := Option.ite_none_right_eq_some.mp moved
      have called : (r.call isFull).1 = q := congrArg Prod.fst (Option.some.inj same)
      exact called ▸ call_own state req r isFull own
  | bodyRead events =>
      obtain ⟨_, same⟩ := Option.ite_none_right_eq_some.mp moved
      have bodied : (r.bodyRead c isFull events).1 = q := congrArg Prod.fst (Option.some.inj same)
      exact bodied ▸ body_read_own state req r c isFull events own
  | handler e =>
      obtain ⟨r', advanced, same⟩ := Option.map_eq_some_iff.mp moved
      cases same
      exact advance_own state req r q e own advanced
  | deadline =>
      obtain ⟨_, same⟩ := Option.ite_none_right_eq_some.mp moved
      cases same
      exact ⟨own.kept, own.read, own.writes⟩
  | expire =>
      obtain ⟨_, same⟩ := Option.ite_none_right_eq_some.mp moved
      cases same
      exact finish_own state req r _ own
  | proceed =>
      simp only [Handling.step] at moved
      split at moved
      · obtain ⟨_, same⟩ := Option.ite_none_right_eq_some.mp moved
        cases same
        exact finish_own state req r _ own
      · cases moved
  | close isFinished =>
      simp only [Handling.step] at moved
      split_ifs at moved
      · cases moved
        exact own
      · cases moved
        exact ⟨own.kept, own.read, own.writes⟩
  | error =>
      cases moved
      exact ⟨own.kept, own.read, own.writes⟩
  | destroy =>
      cases moved
      exact ⟨own.kept, own.read, own.writes⟩
  | commit =>
      simp only [Handling.step] at moved
      split_ifs at moved
      cases moved
      exact ⟨own.kept, own.read, own.writes⟩

end

theorem step_own (c : Config) (s t : Server) (e : Event) (i : ℕ) (q : Handling) (moved : step c s e = some t)
    (found : t.requests[i]? = some q) :
    (∃ state req, e = .arrive state req ∧ i = s.requests.length ∧ q = .arrived state req) ∨
      ∃ r, s.requests[i]? = some r ∧ ∀ state req, r.Own state req → q.Own state req := by
  cases e with
  | arrive state req =>
      cases moved
      rcases Roster.join_cases _ _ _ _ found with ⟨place, same⟩ | ⟨_, here⟩
      · exact .inl ⟨state, req, rfl, place, same⟩
      · exact .inr ⟨q, here, fun _ _ => id⟩
  | on j e =>
      obtain ⟨r, here, moved⟩ := Option.bind_eq_some_iff.mp moved
      obtain ⟨⟨p, slot⟩, stepped, rfl⟩ := Option.map_eq_some_iff.mp moved
      rcases Roster.set_cases _ _ _ _ _ found with ⟨rfl, rfl⟩ | ⟨_, there⟩
      · exact .inr ⟨r, here, fun state req own => handling_step_own state req r c _ q e slot own stepped⟩
      · exact .inr ⟨q, there, fun _ _ => id⟩

theorem arrived_own (state : RequestState) (req : Request) : (Handling.arrived state req).Own state req :=
  ⟨rfl, rfl, fun answer member => by cases member⟩

end N2F.Http
