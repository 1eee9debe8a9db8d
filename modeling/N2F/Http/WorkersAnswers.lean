import N2F.Http.WorkersSafety

set_option autoImplicit false

namespace N2F.Http

def concluded (tried : Except (Given Failure) Answer) (res : Response) : Answer :=
  match tried with
  | .ok answer => answer
  | .error e => recover e res

theorem conclude_stage (r : Handling) (tried : Except (Given Failure) Answer) :
    (r.conclude tried).stage = .left (concluded tried r.res) := by
  cases tried with
  | ok answer => rfl
  | error e => rfl

theorem finish_stage (r : Handling) (result : Returned) :
    (r.finish result).stage = .left (concluded (finishWork r.state.scope result r.res) r.res) := by
  rw [Handling.finish, finishWork]
  cases result.ok with
  | error e => rfl
  | ok value =>
      cases value with
      | true => exact conclude_stage _ _
      | false =>
          cases result.error with
          | error e => rfl
          | ok e => exact conclude_stage _ _

theorem handle_concluded (x : Exchange) (admitted : ((routeSelection x.state x.req).protocol.isSome && x.res.headersSent) = false) :
    handle x true = concluded (attempt x) x.res := by
  rw [handle, if_pos rfl, handleTracked, admitted, if_neg Bool.false_ne_true]
  rfl

def Answered (c : Config) (state : RequestState) (req : Request) (answer : Answer) : Prop :=
  ∃ x : Exchange, x.state = state ∧ x.req = req ∧ x.maxBody = c.maxBody ∧ handle x true = answer

def Accounted (c : Config) (state : RequestState) (req : Request) : Stage → Prop
  | .waiting => True
  | .reading => (routeSelection state req).selected = none ∧ hasBody req = true ∧ isJson req = true
  | .racing | .expired => ∃ events, bodySelection (routeSelection state req) req c.maxBody events = (⟨none, none⟩, false)
  | .left answer => Answered c state req answer

theorem unselected_protocol (state : RequestState) (req : Request) (selected : (routeSelection state req).selected = none) :
    routeSelection state req = ⟨none, none⟩ := by
  rw [routeSelection] at selected ⊢
  split_ifs at selected ⊢
  rw [show unroutable state = none from selected]

theorem ask_accounted (c : Config) (isFull : Bool) (r : Handling) (events : List BodyEvent)
    (free : bodySelection (routeSelection r.state r.req) r.req c.maxBody events = (⟨none, none⟩, false))
    (selected : (routeSelection r.state r.req).selected = none) : Accounted c r.state r.req (r.ask isFull).1.stage := by
  cases isFull with
  | false => exact ⟨events, free⟩
  | true =>
      have stage : (r.ask true).1.stage = .left _ := conclude_stage _ _
      rw [stage]
      refine ⟨⟨r.state, r.req, c.maxBody, events, true, .deadline, r.res⟩, rfl, rfl, rfl, ?_⟩
      rw [handle_concluded _ (by rw [unselected_protocol r.state r.req selected]; rfl)]
      simp only [attempt, Exchange.read, free]
      rfl

theorem call_accounted (c : Config) (isFull : Bool) (r : Handling) : Accounted c r.state r.req (r.call isFull).1.stage := by
  rw [Handling.call]
  cases selected : (routeSelection r.state r.req).selected with
  | some e =>
      have read (events : List BodyEvent) : bodySelection (routeSelection r.state r.req) r.req c.maxBody events =
          (routeSelection r.state r.req, false) := by
        rw [bodySelection, selected]
        rfl
      dsimp only
      by_cases thrown : ((routeSelection r.state r.req).protocol.isSome && r.res.headersSent) = true
      · rw [if_pos thrown]
        refine ⟨⟨r.state, r.req, c.maxBody, [], false, .deadline, r.res⟩, rfl, rfl, rfl, ?_⟩
        exact if_pos thrown
      · rw [if_neg thrown, Handling.refuse, Handling.answer, conclude_stage]
        refine ⟨⟨r.state, r.req, c.maxBody, [], false, .deadline, r.res⟩, rfl, rfl, rfl, ?_⟩
        rw [handle_concluded _ (Bool.of_not_eq_true thrown)]
        have own : routeSelection r.state r.req = ⟨some e, (routeSelection r.state r.req).protocol⟩ := by rw [← selected]
        simp only [attempt, Exchange.read, read, selected, Option.isSome_some, Bool.false_and, Bool.false_eq_true, if_false, if_true]
        rw [own]
        rfl
  | none =>
      dsimp only
      by_cases bare : (!hasBody r.req) = true
      · rw [if_pos bare]
        refine ask_accounted c isFull r [] ?_ selected
        rw [Bool.not_eq_true'] at bare
        rw [bodySelection, bare, Bool.and_false, unselected_protocol r.state r.req selected]
        rfl
      · rw [if_neg bare]
        have body : hasBody r.req = true := by simpa using bare
        by_cases json : isJson r.req = true
        · rw [if_pos json]
          exact ⟨selected, body, json⟩
        · rw [if_neg json, Handling.refuse, Handling.answer, conclude_stage]
          refine ⟨⟨r.state, r.req, c.maxBody, [], false, .deadline, r.res⟩, rfl, rfl, rfl, ?_⟩
          rw [handle_concluded _ (by rw [unselected_protocol r.state r.req selected]; rfl)]
          rw [Bool.not_eq_true] at json
          simp only [attempt, Exchange.read, bodySelection, selected, body, json, Option.isNone_none, Bool.and_self, Bool.not_false, if_true]
          rfl

theorem body_read_accounted (c : Config) (isFull : Bool) (r : Handling) (events : List BodyEvent)
    (selected : (routeSelection r.state r.req).selected = none) (body : hasBody r.req = true) (json : isJson r.req = true) :
    Accounted c r.state r.req (r.bodyRead c isFull events).1.stage := by
  have sel := unselected_protocol r.state r.req selected
  rw [Handling.bodyRead]
  cases outcome : readBody c.maxBody 0 events with
  | none =>
      refine ask_accounted c isFull r events ?_ selected
      simp only [bodySelection, sel, body, json, outcome, Option.isNone_none, Bool.and_self, Bool.not_true, Bool.false_eq_true, if_false,
        if_true]
  | some rejected =>
      have read : bodySelection (routeSelection r.state r.req) r.req c.maxBody events =
          (⟨some (.genuine (bodyFailure rejected)), some rejected⟩, true) := by
        simp only [bodySelection, sel, body, json, outcome, Option.isNone_none, Bool.and_self, Bool.not_true, Bool.false_eq_true, if_false,
          if_true]
      dsimp only
      by_cases committed : r.res.headersSent = true
      · rw [if_pos committed, conclude_stage]
        refine ⟨⟨r.state, r.req, c.maxBody, events, false, .deadline, r.res⟩, rfl, rfl, rfl, ?_⟩
        rw [handle_concluded _ (by rw [sel]; rfl)]
        simp only [attempt, Exchange.read, read, committed, Bool.and_self, if_true]
      · rw [if_neg committed, Handling.refuse, Handling.answer, conclude_stage]
        refine ⟨⟨r.state, r.req, c.maxBody, events, false, .deadline, r.res⟩, rfl, rfl, rfl, ?_⟩
        rw [handle_concluded _ (by rw [sel]; rfl)]
        simp only [attempt, Exchange.read, read, committed, Bool.and_false, Bool.false_eq_true, if_false, Option.isSome_some, if_true]
        rfl

theorem finish_accounted (c : Config) (r : Handling) (settled : Settled) (events : List BodyEvent)
    (free : bodySelection (routeSelection r.state r.req) r.req c.maxBody events = (⟨none, none⟩, false))
    (selected : (routeSelection r.state r.req).selected = none) : Accounted c r.state r.req (r.finish settled.result).stage := by
  rw [finish_stage]
  refine ⟨⟨r.state, r.req, c.maxBody, events, false, settled, r.res⟩, rfl, rfl, rfl, ?_⟩
  rw [handle_concluded _ (by rw [unselected_protocol r.state r.req selected]; rfl)]
  simp only [attempt, Exchange.read, free]
  rfl

theorem free_selected (state : RequestState) (req : Request) (maxBody : ℕ) (events : List BodyEvent)
    (free : bodySelection (routeSelection state req) req maxBody events = (⟨none, none⟩, false)) :
    (routeSelection state req).selected = none := by
  cases selected : (routeSelection state req).selected with
  | none => rfl
  | some e =>
      rw [bodySelection, selected] at free
      have same : routeSelection state req = ⟨none, none⟩ := congrArg Prod.fst free
      rw [same] at selected
      cases selected

def Same (r q : Handling) : Prop := q.state = r.state ∧ q.req = r.req

theorem conclude_same (r : Handling) (tried : Except (Given Failure) Answer) : Same r (r.conclude tried) := by
  cases tried with
  | ok answer => exact ⟨rfl, rfl⟩
  | error e => exact ⟨rfl, rfl⟩

theorem answer_same (r : Handling) (sel : Selection) (result : Returned) : Same r (r.answer sel result) :=
  conclude_same { r with selected := sel.selected } _

theorem finish_same (r : Handling) (result : Returned) : Same r (r.finish result) := by
  rw [Handling.finish]
  split
  · exact conclude_same r _
  · exact answer_same r _ _
  · split
    · exact conclude_same r _
    · exact answer_same r _ _

theorem ask_same (isFull : Bool) (r : Handling) : Same r (r.ask isFull).1 := by
  cases isFull with
  | true => exact answer_same r _ _
  | false => exact ⟨rfl, rfl⟩

theorem call_same (isFull : Bool) (r : Handling) : Same r (r.call isFull).1 := by
  rw [Handling.call]
  split
  · split_ifs
    · exact ⟨rfl, rfl⟩
    · exact answer_same r _ _
  · split_ifs
    · exact ask_same isFull r
    · exact ⟨rfl, rfl⟩
    · exact answer_same r _ _

theorem body_read_same (c : Config) (isFull : Bool) (r : Handling) (events : List BodyEvent) : Same r (r.bodyRead c isFull events).1 := by
  rw [Handling.bodyRead]
  split
  · exact ask_same isFull r
  · dsimp only
    by_cases committed : r.res.headersSent = true
    · rw [if_pos committed]
      exact conclude_same { r with selected := _, termination := _ } _
    · rw [if_neg committed]
      exact answer_same { r with selected := _, termination := _ } _ _

theorem advance_same (r q : Handling) (e : HandlerEvent) (advanced : r.advance e = some q) : Same r q := by
  obtain ⟨state, req, res, stage, handler, selected, termination, aborted, starts, writes⟩ := r
  cases e <;> cases handler <;> cases advanced <;> exact ⟨rfl, rfl⟩

theorem step_accounted (c : Config) (isFull : Bool) (r q : Handling) (e : RequestEvent) (slot : Slot)
    (held : Accounted c r.state r.req r.stage) (moved : r.step c isFull e = some (q, slot)) :
    Same r q ∧ Accounted c r.state r.req q.stage := by
  cases e with
  | call =>
      simp only [Handling.step, Option.ite_none_right_eq_some, Option.some.injEq] at moved
      obtain ⟨_, same⟩ := moved
      have whole := call_accounted c isFull r
      have kept := call_same isFull r
      rw [same] at whole kept
      exact ⟨kept, whole⟩
  | bodyRead events =>
      simp only [Handling.step, Option.ite_none_right_eq_some, Option.some.injEq] at moved
      obtain ⟨reading, same⟩ := moved
      rw [reading] at held
      obtain ⟨selected, body, json⟩ := held
      have whole := body_read_accounted c isFull r events selected body json
      have kept := body_read_same c isFull r events
      rw [same] at whole kept
      exact ⟨kept, whole⟩
  | handler e =>
      obtain ⟨r', advanced, same⟩ := Option.map_eq_some_iff.mp moved
      cases same
      refine ⟨advance_same r q e advanced, ?_⟩
      rw [(advance_advanced r q e advanced).stage]
      exact held
  | deadline =>
      simp only [Handling.step, Option.ite_none_right_eq_some, Option.some.injEq, Prod.mk.injEq] at moved
      obtain ⟨⟨racing, _⟩, rfl, rfl⟩ := moved
      rw [racing] at held
      exact ⟨⟨rfl, rfl⟩, held⟩
  | expire =>
      simp only [Handling.step, Option.ite_none_right_eq_some, Option.some.injEq, Prod.mk.injEq] at moved
      obtain ⟨expired, rfl, rfl⟩ := moved
      rw [expired] at held
      obtain ⟨events, free⟩ := held
      exact ⟨finish_same r _, finish_accounted c r .deadline events free (free_selected _ _ _ _ free)⟩
  | proceed =>
      simp only [Handling.step] at moved
      split at moved
      · next result settled =>
          simp only [Option.ite_none_right_eq_some, Option.some.injEq, Prod.mk.injEq] at moved
          obtain ⟨racing, rfl, rfl⟩ := moved
          rw [racing] at held
          obtain ⟨events, free⟩ := held
          exact ⟨finish_same r _, finish_accounted c r (.returned result.returned) events free (free_selected _ _ _ _ free)⟩
      · cases moved
  | close isFinished =>
      rw [Handling.step] at moved
      split_ifs at moved
      · cases moved
        exact ⟨⟨rfl, rfl⟩, held⟩
      · cases moved
        exact ⟨⟨rfl, rfl⟩, held⟩
  | error =>
      cases moved
      exact ⟨⟨rfl, rfl⟩, held⟩
  | destroy =>
      cases moved
      exact ⟨⟨rfl, rfl⟩, held⟩
  | commit =>
      rw [Handling.step] at moved
      split_ifs at moved
      cases moved
      exact ⟨⟨rfl, rfl⟩, held⟩

theorem reachable_accounted (c : Config) (s : Server) (reached : (machine c).Reachable s) :
    ∀ r ∈ s.requests, Accounted c r.state r.req r.stage := by
  refine (machine c).invariant (fun s => ∀ r ∈ s.requests, Accounted c r.state r.req r.stage) (fun r member => ?_)
    (fun s t e _ held moved => ?_) s reached
  · cases member
  cases e with
  | arrive state req =>
      cases moved
      intro r member
      rcases List.mem_append.mp member with old | new
      · exact held r old
      · rw [List.mem_singleton.mp new]
        trivial
  | on i e =>
      obtain ⟨r, found, moved⟩ := Option.bind_eq_some_iff.mp moved
      obtain ⟨⟨q, slot⟩, stepped, same⟩ := Option.map_eq_some_iff.mp moved
      rw [← same]
      intro p member
      rcases List.mem_or_eq_of_mem_set member with old | new
      · exact held p old
      · obtain ⟨⟨state, req⟩, accounted⟩ := step_accounted c _ r q e slot (held r (List.mem_of_getElem? found)) stepped
        rw [new, state, req]
        exact accounted

end N2F.Http
