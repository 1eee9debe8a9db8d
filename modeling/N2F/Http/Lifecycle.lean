import N2F.Http.Policy
import N2F.Http.Server
import N2F.Machine

set_option autoImplicit false

namespace N2F

structure Completion where
  facts : CompletionFacts
  classification : Classification
  elapsedNs : ℤ
deriving DecidableEq

structure Output where
  throws : Completion → Bool
  received : List Completion

structure Active where
  started : ℤ
  outputs : List Output
  done : Bool
  failed : ℕ

def Output.accept (o : Output) (c : Completion) : Output := { o with received := o.received ++ [c] }

def invalidDuration : Failure := failure .invalid "invalid observation duration" "telemetry.invalid_duration"

def Active.finish (a : Active) (facts : CompletionFacts) (now : ℤ) : Result Bool × Active :=
  match classifyCompletion facts with
  | .error e => (.error e, a)
  | .ok classification =>
      if a.done then (.ok false, a)
      else if now - a.started < 0 then (.error invalidDuration, a)
      else
        let completion : Completion := ⟨facts, classification, now - a.started⟩
        (.ok true,
          { a with
            done := true
            outputs := a.outputs.map fun o => o.accept completion
            failed := a.failed + a.outputs.countP fun o => o.throws completion })

inductive HandleStage where
  | idle
  | reading
  | working
  | expired
  | left
deriving DecidableEq

-- One exchange between the middleware and its close. The last two fields only
-- remember: the terminal facts the server recorded until the completion was
-- delivered, and whether the close that delivered it cut the response off.
structure Life where
  active : Active
  clock : ℤ
  stage : HandleStage
  selected : Option (Given Failure)
  termination : Termination
  aborted : Bool
  status : ℕ
  headersSent : Bool
  handed : Bool
  destroyed : Bool
  finishSeen : Bool
  errorSeen : Bool
  closed : Bool
  facts : List Termination
  cut : Bool

structure LifeSetting where
  state : RequestState
  req : Request
  maxBody : ℕ
  started : ℤ
  outputs : List (Completion → Bool)

def LifeSetting.start (c : LifeSetting) : Life :=
  { active := ⟨c.started, c.outputs.map fun throws => ⟨throws, []⟩, false, 0⟩
    clock := c.started
    stage := .idle
    selected := c.state.selected
    termination := .responseCompleted
    aborted := false
    status := 200
    headersSent := false
    handed := false
    destroyed := false
    finishSeen := false
    errorSeen := false
    closed := false
    facts := []
    cut := false }

def Life.record (s : Life) (t : Termination) : Life :=
  { s with termination := t, facts := if s.active.done then s.facts else s.facts ++ [t] }

-- The catch block of handle.
def Life.caught (s : Life) (e : Given Failure) : Life :=
  if s.headersSent then { s with selected := some e, destroyed := true, stage := .left }.record .handlerError
  else { s with selected := some e, status := 500, headersSent := true, stage := .left }

def Selection.statusCode (sel : Selection) : ℕ :=
  match sel.selected with
  | some e => (overridden sel.protocol (projected (publicInfo e))).status
  | none => 200

-- The end of the try block of handle, with what it may throw.
def Life.answer (s : Life) (sel : Selection) (result : Returned) : Life :=
  match respond sel none result ⟨s.destroyed, s.headersSent⟩ with
  | .ok (.json status _) | .ok (.problem status _) =>
      { s with selected := sel.selected, status := status, headersSent := true, stage := .left }
  | .ok _ => { s with selected := sel.selected, stage := .left }
  | .error e => { s with selected := sel.selected, status := sel.statusCode }.caught e

def Life.work (s : Life) (busy : Bool) : Life :=
  if busy then s.answer ⟨some (.genuine busyFailure), none⟩ (refusing (.genuine busyFailure))
  else { s with stage := .working }

def Life.settle (s : Life) (result : Returned) : Life :=
  match result.ok with
  | .error e => s.caught e
  | .ok true => s.answer ⟨none, none⟩ result
  | .ok false =>
      match result.error with
      | .error e => s.caught e
      | .ok e => s.answer ⟨some e, none⟩ result

def LifeSetting.call (c : LifeSetting) (s : Life) (busy : Bool) : Life :=
  let sel := routeSelection c.state c.req
  match sel.selected with
  | some e =>
      if sel.protocol.isSome && s.headersSent then { s with selected := some e, stage := .left }
      else s.answer sel (refusing e)
  | none =>
      if !hasBody c.req then s.work busy
      else if isJson c.req then { s with stage := .reading }
      else s.answer (bodySelection sel c.req c.maxBody []).1 (refusing .foreign)

def LifeSetting.bodyRead (c : LifeSetting) (s : Life) (events : List BodyEvent) (busy : Bool) : Life :=
  match readBody c.maxBody 0 events with
  | none => s.work busy
  | some rejected =>
      let e := Given.genuine (bodyFailure rejected)
      let s' := if rejected = 408 then { s with selected := some e }.record .deadline else { s with selected := some e }
      -- setHeader('Connection', 'close')
      if s'.headersSent then s'.caught .foreign else s'.answer ⟨some e, some rejected⟩ (refusing e)

-- The timer, whose result handle only sees later.
def Life.deadline (s : Life) : Life := { s with aborted := true, stage := .expired }.record .deadline

def Life.expire (s : Life) : Life := s.answer ⟨some (.genuine timeoutFailure), none⟩ (refusing (.genuine timeoutFailure))

-- kindOf(error) ?? 'internal'
def shownKind : Given Failure → Given Kind
  | .genuine f => .genuine f.kind
  | .foreign => .genuine .internal

def Life.completionFacts (s : Life) : CompletionFacts :=
  { status := if s.headersSent then some s.status else none
    failureKind := s.selected.map shownKind
    termination := .genuine s.termination }

def Life.peerClosed (s : Life) : Life :=
  { s with termination := .peerClosed, aborted := true, cut := if s.active.done then s.cut else true }

def Life.report (s : Life) (now : ℤ) : Life :=
  { s with active := (s.active.finish s.completionFacts now).2, clock := now }

-- The listener of the three response events.
def Life.finish (s : Life) (closing : Bool) (now : ℤ) : Life :=
  if closing && !s.handed then s.peerClosed.report now else s.report now

inductive LifeEvent where
  | call (busy : Bool)
  | bodyRead (events : List BodyEvent) (busy : Bool)
  | settle (result : Returned)
  | deadline
  | expire
  | commit (status : ℕ)
  | hand
  | destroy
  | finish (now : ℤ)
  | error (now : ℤ)
  | close (now : ℤ)

def LifeSetting.step (c : LifeSetting) (s : Life) : LifeEvent → Option Life
  | .call busy => if s.stage = .idle then some (c.call s busy) else none
  | .bodyRead events busy => if s.stage = .reading then some (c.bodyRead s events busy) else none
  | .settle result => if s.stage = .working then some (s.settle result) else none
  | .deadline => if s.stage = .working then some s.deadline else none
  | .expire => if s.stage = .expired then some s.expire else none
  | .commit status =>
      if s.headersSent = false ∧ 200 ≤ status ∧ status ≤ 599 then some { s with headersSent := true, status := status } else none
  | .hand => if s.headersSent then some { s with handed := true } else none
  | .destroy => some { s with destroyed := true }
  | .finish now =>
      if s.handed ∧ s.finishSeen = false ∧ s.closed = false ∧ s.clock ≤ now then some ({ s with finishSeen := true }.finish false now)
      else none
  | .error now =>
      if s.errorSeen = false ∧ s.closed = false ∧ s.clock ≤ now then
        some (({ s with errorSeen := true }.record .writeError).finish false now)
      else none
  | .close now => if s.closed = false ∧ s.clock ≤ now then some ({ s with closed := true }.finish true now) else none

def LifeSetting.machine (c : LifeSetting) : Machine Life LifeEvent := ⟨c.start, c.step⟩

def Life.verdict (s : Life) : Termination :=
  match s.facts with
  | t :: _ => t
  | [] => if s.cut then .peerClosed else .responseCompleted

def Life.Delivered (s : Life) (c : Completion) : Prop := ∀ o ∈ s.active.outputs, o.received = [c]

def Life.Concludes (s : Life) : Prop :=
  s.closed = true → ∃ c, s.Delivered c ∧ c.facts.termination = .genuine s.verdict ∧
    (s.facts.head? = some .handlerError → c.classification.outcome = .failed)

-- An event that puts a later fact in the place of a terminal fact that no output
-- has been given yet.
def LifeSetting.Overwrites (c : LifeSetting) (s : Life) (e : LifeEvent) : Prop :=
  s.active.done = false ∧
    match e with
    | .error _ => s.facts ≠ []
    | .close _ => s.facts ≠ [] ∧ s.handed = false
    | .expire => s.headersSent = true ∧ s.destroyed = false
    | .bodyRead events _ => s.headersSent = true ∧ readBody c.maxBody 0 events = some 408
    | _ => False

def Life.Committed (s : Life) : Prop := s.headersSent = true → 200 ≤ s.status ∧ s.status ≤ 599

structure Advance (s t : Life) (facts : List Termination) : Prop where
  active : t.active = s.active
  clock : t.clock = s.clock
  handed : t.handed = s.handed
  closed : t.closed = s.closed
  cut : t.cut = s.cut
  recorded : t.facts = if s.active.done then s.facts else s.facts ++ facts
  termination : t.termination = facts.getLast?.getD s.termination
  sent : s.headersSent = true → t.headersSent = true
  committed : s.Committed → t.Committed

theorem advance_trans (s t u : Life) (first second : List Termination) (here : Advance s t first) (there : Advance t u second) :
    Advance s u (first ++ second) where
  active := there.active.trans here.active
  clock := there.clock.trans here.clock
  handed := there.handed.trans here.handed
  closed := there.closed.trans here.closed
  cut := there.cut.trans here.cut
  recorded := by
    rw [there.recorded, here.active, here.recorded]
    split_ifs
    · rfl
    · rw [List.append_assoc]
  termination := by
    rw [there.termination, here.termination, List.getLast?_append]
    cases second.getLast? <;> rfl
  sent := fun sent => there.sent (here.sent sent)
  committed := fun committed => there.committed (here.committed committed)

theorem record_advance (s : Life) (t : Termination) : Advance s (s.record t) [t] :=
  ⟨rfl, rfl, rfl, rfl, rfl, rfl, rfl, id, id⟩

theorem still_advance (s t : Life) (same : t = { s with selected := t.selected, stage := t.stage, aborted := t.aborted, destroyed := t.destroyed }) :
    Advance s t [] := by
  rw [same]
  exact ⟨rfl, rfl, rfl, rfl, rfl, by simp, rfl, id, id⟩

theorem status_of_bounds (kind : Kind) : 200 ≤ statusOf kind ∧ statusOf kind ≤ 599 := by
  cases kind <;> decide

def Selection.Known (sel : Selection) : Prop := ∀ code, sel.protocol = some code → code ∈ [400, 405, 408, 413, 415]

theorem status_code_bounds (sel : Selection) (known : sel.Known) : 200 ≤ sel.statusCode ∧ sel.statusCode ≤ 599 := by
  rw [Selection.statusCode]
  cases sel.selected with
  | none => exact ⟨Nat.le_refl 200, (by decide : 200 ≤ 599)⟩
  | some e =>
      cases given : sel.protocol with
      | none => exact status_of_bounds _
      | some code =>
          have listed := known code given
          simp only [List.mem_cons, List.not_mem_nil, or_false] at listed
          simp only [overridden]
          omega

theorem respond_status (sel : Selection) (result : Returned) (res : Response) (answer : Answer)
    (responded : respond sel none result res = .ok answer) :
    answer = .left ∨ (∃ text, answer = .json sel.statusCode text) ∨ ∃ document, answer = .problem sel.statusCode document := by
  rw [respond] at responded
  split_ifs at responded with destroyed sent
  · cases responded
    exact .inl rfl
  · cases selected : sel.selected with
    | some e =>
        simp only [selected, Except.ok.injEq] at responded
        subst responded
        right
        right
        exact ⟨_, by rw [Selection.statusCode, selected]⟩
    | none =>
        have usual : sel.statusCode = 200 := by rw [Selection.statusCode, selected]
        simp only [selected] at responded
        rw [usual]
        right
        left
        cases again : result.okAgain with
        | error e => simp [again] at responded
        | ok value =>
            cases value with
            | false =>
                simp only [again, Except.ok.injEq] at responded
                exact ⟨_, responded.symm⟩
            | true =>
                simp only [again] at responded
                cases given : result.text with
                | error e => simp [given, Except.map] at responded
                | ok text =>
                    simp only [given, Except.map, Except.ok.injEq] at responded
                    exact ⟨_, responded.symm⟩

def Life.lost (s : Life) : List Termination := if s.headersSent then [.handlerError] else []

theorem caught_advance (s : Life) (e : Given Failure) : Advance s (s.caught e) s.lost := by
  by_cases sent : s.headersSent = true
  · rw [Life.caught, Life.lost, if_pos sent, if_pos sent]
    have still : Advance s { s with selected := some e, destroyed := true, stage := .left } [] := still_advance s _ rfl
    exact advance_trans _ _ _ _ _ still (record_advance _ .handlerError)
  · rw [Life.caught, Life.lost, if_neg sent, if_neg sent]
    have internal : 200 ≤ 500 ∧ 500 ≤ 599 := by decide
    exact ⟨rfl, rfl, rfl, rfl, rfl, by simp, rfl, fun _ => rfl, fun _ _ => internal⟩

theorem caught_left (s : Life) (e : Given Failure) : (s.caught e).stage = .left := by
  rw [Life.caught]
  split_ifs <;> rfl

theorem answer_left (s : Life) (sel : Selection) (result : Returned) : (s.answer sel result).stage = .left := by
  rw [Life.answer]
  split
  · rfl
  · rfl
  · rfl
  · exact caught_left _ _

theorem answer_facts (s : Life) (sel : Selection) (result : Returned) :
    ∃ facts, (facts = [] ∨ facts = [.handlerError] ∧ s.headersSent = true ∧ s.destroyed = false) ∧
      (sel.Known → Advance s (s.answer sel result) facts) := by
  cases responded : respond sel none result ⟨s.destroyed, s.headersSent⟩ with
  | ok answer =>
      refine ⟨[], .inl rfl, fun known => ?_⟩
      have bounds := status_code_bounds sel known
      rcases respond_status sel result _ answer responded with rfl | ⟨text, rfl⟩ | ⟨document, rfl⟩
      · simp only [Life.answer, responded]
        exact still_advance s _ rfl
      · simp only [Life.answer, responded]
        exact ⟨rfl, rfl, rfl, rfl, rfl, by simp, rfl, fun _ => rfl, fun _ _ => bounds⟩
      · simp only [Life.answer, responded]
        exact ⟨rfl, rfl, rfl, rfl, rfl, by simp, rfl, fun _ => rfl, fun _ _ => bounds⟩
  | error e =>
      refine ⟨s.lost, ?_, fun known => ?_⟩
      · cases sent : s.headersSent with
        | false => exact .inl (by simp [Life.lost, sent])
        | true =>
            cases destroyed : s.destroyed with
            | false => exact .inr ⟨by simp [Life.lost, sent], rfl, rfl⟩
            | true =>
                rw [respond_destroyed _ _ _ _ destroyed] at responded
                cases responded
      · simp only [Life.answer, responded]
        have selected : Advance s { s with selected := sel.selected, status := sel.statusCode } [] :=
          ⟨rfl, rfl, rfl, rfl, rfl, by simp, rfl, id, fun _ _ => status_code_bounds sel known⟩
        exact advance_trans _ _ _ _ _ selected (caught_advance _ e)

def HandleStage.Over (stage : HandleStage) : Prop := stage = .expired ∨ stage = .left

structure Pending (s : Life) : Prop where
  received : ∀ o ∈ s.active.outputs, o.received = []
  uncut : s.cut = false
  unclosed : s.closed = false
  termination : s.termination = s.facts.head?.getD .responseCompleted
  single : s.facts.length ≤ 1
  past : s.facts ≠ [] → s.stage.Over

def Reported (s : Life) : Prop :=
  ∃ c, s.Delivered c ∧ c.facts.termination = .genuine s.verdict ∧
    (s.facts.head? = some .handlerError → c.classification.outcome = .failed)

structure Standing (s : Life) : Prop where
  handed : s.handed = true → s.headersSent = true
  committed : s.Committed
  clock : s.active.started ≤ s.clock
  pending : s.active.done = false → Pending s
  reported : s.active.done = true → Reported s

theorem standing_concludes (s : Life) (standing : Standing s) : s.Concludes := by
  intro closed
  cases done : s.active.done with
  | false =>
      have unclosed := (standing.pending done).unclosed
      rw [closed] at unclosed
      cases unclosed
  | true => exact standing.reported done

theorem advance_standing (s t : Life) (facts : List Termination) (advance : Advance s t facts) (standing : Standing s)
    (once : s.active.done = false → (s.facts ++ facts).length ≤ 1 ∧ (s.facts ++ facts ≠ [] → t.stage.Over)) : Standing t where
  handed := fun handed => advance.sent (standing.handed (advance.handed ▸ handed))
  committed := advance.committed standing.committed
  clock := by
    rw [advance.active, advance.clock]
    exact standing.clock
  pending := by
    rw [advance.active]
    intro done
    have before := standing.pending done
    obtain ⟨single, past⟩ := once done
    have recorded : t.facts = s.facts ++ facts := by rw [advance.recorded, done]; rfl
    refine ⟨?_, ?_, ?_, ?_, ?_, ?_⟩
    · rw [advance.active]
      exact before.received
    · rw [advance.cut]
      exact before.uncut
    · rw [advance.closed]
      exact before.unclosed
    · rw [advance.termination, before.termination, recorded]
      cases known : s.facts with
      | nil =>
          rw [known, List.nil_append] at single
          match facts, single with
          | [], _ => rfl
          | [_], _ => rfl
      | cons fact rest =>
          rw [known, List.length_append, List.length_cons] at single
          have none : facts = [] := List.eq_nil_of_length_eq_zero (by omega)
          rw [none]
          rfl
    · rw [recorded]
      exact single
    · rw [recorded]
      exact past
  reported := by
    rw [advance.active]
    intro done
    have recorded : t.facts = s.facts := by rw [advance.recorded, done]; rfl
    obtain ⟨c, delivered, termination, failed⟩ := standing.reported done
    have verdict : t.verdict = s.verdict := by rw [Life.verdict, Life.verdict, recorded, advance.cut]
    refine ⟨c, ?_, ?_, ?_⟩
    · rw [Life.Delivered, advance.active]
      exact delivered
    · rw [verdict]
      exact termination
    · rw [recorded]
      exact failed

theorem start_standing (c : LifeSetting) : Standing c.start where
  handed := nofun
  committed := nofun
  clock := Int.le_refl c.started
  pending := fun _ => ⟨by simp [LifeSetting.start], rfl, rfl, rfl, Nat.zero_le 1, nofun⟩
  reported := nofun

theorem running_facts (s : Life) (standing : Standing s) (done : s.active.done = false) (running : ¬ s.stage.Over) : s.facts = [] := by
  by_contra recorded
  exact running ((standing.pending done).past recorded)

theorem answer_standing (s : Life) (sel : Selection) (result : Returned) (known : sel.Known) (standing : Standing s)
    (first : s.active.done = false → s.facts = [] ∨ ¬ (s.headersSent = true ∧ s.destroyed = false)) : Standing (s.answer sel result) := by
  obtain ⟨facts, shape, advance⟩ := answer_facts s sel result
  apply advance_standing s _ facts (advance known) standing
  intro done
  refine ⟨?_, fun _ => .inr (answer_left s sel result)⟩
  rcases shape with rfl | ⟨rfl, sent, destroyed⟩
  · rw [List.append_nil]
    exact (standing.pending done).single
  · rcases first done with none | free
    · rw [none]
      exact Nat.le_refl 1
    · exact absurd ⟨sent, destroyed⟩ free

theorem caught_standing (s : Life) (e : Given Failure) (standing : Standing s)
    (first : s.active.done = false → s.facts = [] ∨ s.headersSent = false) : Standing (s.caught e) := by
  apply advance_standing s _ s.lost (caught_advance s e) standing
  intro done
  refine ⟨?_, fun _ => .inr (caught_left s e)⟩
  rcases first done with none | unsent
  · rw [none, Life.lost]
    split_ifs <;> decide
  · rw [Life.lost, unsent, if_neg Bool.false_ne_true, List.append_nil]
    exact (standing.pending done).single

theorem still_standing (s t : Life) (same : t = { s with selected := t.selected, stage := t.stage, aborted := t.aborted, destroyed := t.destroyed })
    (standing : Standing s) (onward : s.stage.Over → t.stage.Over) : Standing t := by
  apply advance_standing s t [] (still_advance s t same) standing
  intro done
  rw [List.append_nil]
  have before := standing.pending done
  exact ⟨before.single, fun recorded => onward (before.past recorded)⟩

theorem work_standing (s : Life) (busy : Bool) (standing : Standing s) (running : ¬ s.stage.Over) : Standing (s.work busy) := by
  rw [Life.work]
  split_ifs
  · exact answer_standing s _ _ nofun standing fun done => .inl (running_facts s standing done running)
  · exact still_standing s _ rfl standing fun past => absurd past running

theorem settle_standing (s : Life) (result : Returned) (standing : Standing s) (running : ¬ s.stage.Over) : Standing (s.settle result) := by
  have first (done : s.active.done = false) : s.facts = [] := running_facts s standing done running
  have caught (e : Given Failure) : Standing (s.caught e) := caught_standing s e standing fun done => .inl (first done)
  have answer (sel : Selection) (known : sel.Known) : Standing (s.answer sel result) :=
    answer_standing s sel result known standing fun done => .inl (first done)
  rw [Life.settle]
  split
  · exact caught _
  · exact answer _ nofun
  · split
    · exact caught _
    · exact answer _ nofun

theorem route_known (state : RequestState) (req : Request) : (routeSelection state req).Known := by
  rw [routeSelection]
  split_ifs
  · intro code same
    cases same
    decide
  · intro code same
    cases same

theorem call_standing (c : LifeSetting) (s : Life) (busy : Bool) (standing : Standing s) (running : ¬ s.stage.Over) :
    Standing (c.call s busy) := by
  have answer (sel : Selection) (result : Returned) (known : sel.Known) : Standing (s.answer sel result) :=
    answer_standing s sel result known standing fun done => .inl (running_facts s standing done running)
  rw [LifeSetting.call]
  split
  · split_ifs
    · exact still_standing s _ rfl standing fun _ => .inr rfl
    · exact answer _ _ (route_known c.state c.req)
  · split_ifs with absent json
    · exact work_standing s busy standing running
    · exact still_standing s _ rfl standing fun past => absurd past running
    · apply answer
      simp only [bodySelection, json, Bool.not_false, if_true]
      split_ifs
      · intro code same
        cases same
        decide
      · exact route_known c.state c.req

theorem body_read_standing (c : LifeSetting) (s : Life) (events : List BodyEvent) (busy : Bool) (standing : Standing s)
    (running : ¬ s.stage.Over) (first : ¬ c.Overwrites s (.bodyRead events busy)) : Standing (c.bodyRead s events busy) := by
  rw [LifeSetting.bodyRead]
  cases read : readBody c.maxBody 0 events with
  | none => exact work_standing s busy standing running
  | some rejected =>
      have known (e : Given Failure) : (⟨some e, some rejected⟩ : Selection).Known := by
        intro code same
        cases same
        exact read_body_code c.maxBody 0 events rejected read
      by_cases late : rejected = 408
      · have recorded : Advance s ({ s with selected := some (.genuine (bodyFailure rejected)) }.record .deadline) [.deadline] :=
          advance_trans s _ _ [] [.deadline] (still_advance s _ rfl) (record_advance _ .deadline)
        simp only [if_pos late]
        by_cases sent : s.headersSent = true
        · rw [if_pos (recorded.sent sent)]
          apply advance_standing s _ _ (advance_trans s _ _ _ _ recorded (caught_advance _ .foreign)) standing
          intro done
          rw [late] at read
          exact absurd ⟨done, sent, read⟩ first
        · have unsent : ¬ ({ s with selected := some (.genuine (bodyFailure rejected)) }.record .deadline).headersSent = true := sent
          rw [if_neg unsent]
          obtain ⟨facts, shape, advance⟩ := answer_facts
            ({ s with selected := some (.genuine (bodyFailure rejected)) }.record .deadline)
            ⟨some (.genuine (bodyFailure rejected)), some rejected⟩ (refusing (.genuine (bodyFailure rejected)))
          have quiet : facts = [] := by
            rcases shape with none | ⟨_, committed, _⟩
            · exact none
            · exact absurd committed sent
          subst quiet
          apply advance_standing s _ _ (advance_trans s _ _ _ _ recorded (advance (known _))) standing
          intro done
          rw [running_facts s standing done running]
          exact ⟨Nat.le_refl 1, fun _ => .inr (answer_left _ _ _)⟩
      · have selected : Standing { s with selected := some (.genuine (bodyFailure rejected)) } :=
          still_standing s _ rfl standing fun past => absurd past running
        have none (done : s.active.done = false) : s.facts = [] := running_facts s standing done running
        simp only [if_neg late]
        split_ifs
        · exact caught_standing _ _ selected fun done => .inl (none done)
        · exact answer_standing _ _ _ (known _) selected fun done => .inl (none done)

theorem completion_accepted (s : Life) (committed : s.Committed) (complete : s.termination = .responseCompleted → s.headersSent = true) :
    classifyCompletion s.completionFacts = .ok (classified s.completionFacts s.termination) := by
  apply classify_ok s.completionFacts s.termination rfl
  · intro status given
    by_cases sent : s.headersSent = true
    · rw [Life.completionFacts, if_pos sent] at given
      cases given
      exact committed sent
    · rw [Life.completionFacts, if_neg sent] at given
      cases given
  · intro kind given
    simp only [Life.completionFacts, Option.map_eq_some_iff] at given
    obtain ⟨e, -, rfl⟩ := given
    cases e <;> rfl
  · intro completed
    rw [Life.completionFacts, if_pos (complete completed)]
    rfl

theorem report_delivers (s : Life) (now : ℤ) (committed : s.Committed) (complete : s.termination = .responseCompleted → s.headersSent = true)
    (done : s.active.done = false) (received : ∀ o ∈ s.active.outputs, o.received = []) (later : s.active.started ≤ now) :
    (s.report now).active.done = true ∧
      (s.report now).Delivered ⟨s.completionFacts, classified s.completionFacts s.termination, now - s.active.started⟩ := by
  have forward : ¬ now - s.active.started < 0 := by omega
  simp only [Life.report, Life.Delivered, Active.finish, completion_accepted s committed complete, done, if_neg forward,
    Bool.false_eq_true, if_false, true_and]
  intro o listed
  obtain ⟨before, member, rfl⟩ := List.mem_map.mp listed
  rw [Output.accept, received before member]
  rfl

theorem finish_started (a : Active) (facts : CompletionFacts) (now : ℤ) : (a.finish facts now).2.started = a.started := by
  rw [Active.finish]
  cases classifyCompletion facts with
  | error e => rfl
  | ok classification =>
      dsimp only
      split_ifs <;> rfl

theorem report_done (s : Life) (now : ℤ) (done : s.active.done = true) : (s.report now).active = s.active := by
  rw [Life.report, Active.finish]
  cases classifyCompletion s.completionFacts with
  | error e => rfl
  | ok classification => simp only [done, if_true]

theorem reported_same (s t : Life) (active : t.active = s.active) (facts : t.facts = s.facts) (cut : t.cut = s.cut)
    (reported : Reported s) : Reported t := by
  obtain ⟨c, delivered, termination, failed⟩ := reported
  refine ⟨c, ?_, ?_, ?_⟩
  · rw [Life.Delivered, active]
    exact delivered
  · rw [Life.verdict, facts, cut]
    exact termination
  · rw [facts]
    exact failed

theorem verdict_head (s : Life) (t : Termination) (first : s.facts.head? = some t) : s.verdict = t := by
  rw [Life.verdict]
  cases known : s.facts with
  | nil => simp [known] at first
  | cons fact rest => simpa [known] using first

theorem report_standing (s : Life) (now : ℤ) (handed : s.handed = true → s.headersSent = true) (committed : s.Committed)
    (later : s.active.started ≤ now) (first : s.active.done = false → (∀ o ∈ s.active.outputs, o.received = []) ∧
      s.termination = s.verdict ∧ (s.termination = .responseCompleted → s.headersSent = true))
    (again : s.active.done = true → Reported s) : Standing (s.report now) := by
  cases done : s.active.done with
  | true =>
      have same := report_done s now done
      refine ⟨handed, committed, ?_, ?_, fun _ => reported_same s _ same rfl rfl (again done)⟩
      · rw [Life.report, finish_started]
        exact later
      · rw [same, done]
        nofun
  | false =>
      obtain ⟨received, verdict, complete⟩ := first done
      obtain ⟨past, delivered⟩ := report_delivers s now committed complete done received later
      refine ⟨handed, committed, ?_, ?_, fun _ => ⟨_, delivered, ?_, ?_⟩⟩
      · rw [Life.report, finish_started]
        exact later
      · rw [past]
        nofun
      · exact congrArg Given.genuine verdict
      · intro lost
        have named : s.termination = .handlerError := verdict.trans (verdict_head s _ lost)
        simp only [named, classified, terminationOutcome]

theorem handed_standing (s t : Life) (now : ℤ) (same : t = { s with finishSeen := t.finishSeen, closed := t.closed }) (standing : Standing s)
    (later : s.clock ≤ now) (handed : s.handed = true) : Standing (t.report now) := by
  have sent := standing.handed handed
  rw [same]
  apply report_standing
  · exact fun _ => sent
  · exact standing.committed
  · exact Int.le_trans standing.clock later
  · intro done
    have before := standing.pending done
    refine ⟨before.received, ?_, fun _ => sent⟩
    simp only [Life.verdict, before.termination, before.uncut]
    cases s.facts <;> rfl
  · exact fun done => reported_same s _ rfl rfl rfl (standing.reported done)

theorem error_standing (s : Life) (now : ℤ) (standing : Standing s) (later : s.clock ≤ now)
    (first : s.active.done = false → s.facts = []) : Standing (({ s with errorSeen := true }.record .writeError).report now) := by
  apply report_standing
  · exact standing.handed
  · exact standing.committed
  · exact Int.le_trans standing.clock later
  · intro done
    refine ⟨(standing.pending done).received, ?_, nofun⟩
    have done' : s.active.done = false := done
    simp [Life.record, Life.verdict, done', first done]
  · intro done
    have facts : ({ s with errorSeen := true }.record .writeError).facts = s.facts := if_pos done
    exact reported_same s _ rfl facts rfl (standing.reported done)

theorem cut_standing (s : Life) (now : ℤ) (standing : Standing s) (later : s.clock ≤ now)
    (first : s.active.done = false → s.facts = []) : Standing ({ s with closed := true }.peerClosed.report now) := by
  apply report_standing
  · exact standing.handed
  · exact standing.committed
  · exact Int.le_trans standing.clock later
  · intro done
    refine ⟨(standing.pending done).received, ?_, nofun⟩
    have done' : s.active.done = false := done
    simp [Life.peerClosed, Life.verdict, done', first done]
  · intro done
    have cut : ({ s with closed := true } : Life).peerClosed.cut = s.cut := if_pos done
    exact reported_same s _ rfl rfl cut (standing.reported done)

theorem step_standing (c : LifeSetting) (s t : Life) (e : LifeEvent) (standing : Standing s) (first : ¬ c.Overwrites s e)
    (moved : c.step s e = some t) : Standing t := by
  cases e with
  | call busy =>
      simp only [LifeSetting.step, Option.ite_none_right_eq_some, Option.some.injEq] at moved
      obtain ⟨stage, rfl⟩ := moved
      exact call_standing c s busy standing (by simp [stage, HandleStage.Over])
  | bodyRead events busy =>
      simp only [LifeSetting.step, Option.ite_none_right_eq_some, Option.some.injEq] at moved
      obtain ⟨stage, rfl⟩ := moved
      exact body_read_standing c s events busy standing (by simp [stage, HandleStage.Over]) first
  | settle result =>
      simp only [LifeSetting.step, Option.ite_none_right_eq_some, Option.some.injEq] at moved
      obtain ⟨stage, rfl⟩ := moved
      exact settle_standing s result standing (by simp [stage, HandleStage.Over])
  | deadline =>
      simp only [LifeSetting.step, Option.ite_none_right_eq_some, Option.some.injEq] at moved
      obtain ⟨stage, rfl⟩ := moved
      have recorded : Advance s s.deadline [.deadline] :=
        advance_trans s _ _ [] [.deadline] (still_advance s _ rfl) (record_advance { s with aborted := true, stage := .expired } .deadline)
      apply advance_standing s _ _ recorded standing
      intro done
      rw [running_facts s standing done (by simp [stage, HandleStage.Over])]
      exact ⟨Nat.le_refl 1, fun _ => .inl rfl⟩
  | expire =>
      simp only [LifeSetting.step, Option.ite_none_right_eq_some, Option.some.injEq] at moved
      obtain ⟨stage, rfl⟩ := moved
      exact answer_standing s _ _ nofun standing fun done => .inr fun open' => first ⟨done, open'⟩
  | commit status =>
      simp only [LifeSetting.step, Option.ite_none_right_eq_some, Option.some.injEq] at moved
      obtain ⟨⟨_, bounds⟩, rfl⟩ := moved
      have advance : Advance s { s with headersSent := true, status := status } [] :=
        ⟨rfl, rfl, rfl, rfl, rfl, by simp, rfl, fun _ => rfl, fun _ _ => bounds⟩
      apply advance_standing s _ [] advance standing
      intro done
      rw [List.append_nil]
      exact ⟨(standing.pending done).single, (standing.pending done).past⟩
  | hand =>
      simp only [LifeSetting.step, Option.ite_none_right_eq_some, Option.some.injEq] at moved
      obtain ⟨sent, rfl⟩ := moved
      refine ⟨fun _ => sent, standing.committed, standing.clock, fun done => ?_, fun done => ?_⟩
      · have before := standing.pending done
        exact ⟨before.received, before.uncut, before.unclosed, before.termination, before.single, before.past⟩
      · exact reported_same s _ rfl rfl rfl (standing.reported done)
  | destroy =>
      cases moved
      exact still_standing s _ rfl standing id
  | finish now =>
      simp only [LifeSetting.step, Option.ite_none_right_eq_some, Option.some.injEq] at moved
      obtain ⟨⟨handed, _, _, later⟩, rfl⟩ := moved
      exact handed_standing s _ now rfl standing later handed
  | error now =>
      simp only [LifeSetting.step, Option.ite_none_right_eq_some, Option.some.injEq] at moved
      obtain ⟨⟨_, _, later⟩, rfl⟩ := moved
      apply error_standing s now standing later
      intro done
      by_contra recorded
      exact first ⟨done, recorded⟩
  | close now =>
      simp only [LifeSetting.step, Option.ite_none_right_eq_some, Option.some.injEq] at moved
      obtain ⟨⟨_, later⟩, rfl⟩ := moved
      by_cases handed : s.handed = true
      · have whole : ({ s with closed := true } : Life).finish true now = ({ s with closed := true } : Life).report now := by
          simp [Life.finish, handed]
        rw [whole]
        exact handed_standing s _ now rfl standing later handed
      · rw [Bool.not_eq_true] at handed
        have cut : ({ s with closed := true } : Life).finish true now = ({ s with closed := true } : Life).peerClosed.report now := by
          simp [Life.finish, handed]
        rw [cut]
        apply cut_standing s now standing later
        intro done
        by_contra recorded
        exact first ⟨done, recorded, handed⟩

theorem exchange_concludes (c : LifeSetting) (s : Life) (reached : c.machine.ReachableBy (fun s e => ¬ c.Overwrites s e) s) :
    s.Concludes := by
  have standing : Standing s := by
    apply c.machine.invariant_by (fun s e => ¬ c.Overwrites s e) Standing (start_standing c) _ s reached
    intro s t e standing first moved
    exact step_standing c s t e standing first moved
  exact standing_concludes s standing

def demoLife : LifeSetting :=
  { state := ⟨none, true, none⟩
    req := ⟨"GET", none, none, none⟩
    maxBody := 1024
    started := 0
    outputs := [fun _ => false] }

def demoExchange (later : List LifeEvent) : List LifeEvent := [.call false, .commit 200, .settle (refusing .foreign)] ++ later

theorem exchange_concludes_demo : ∃ s, demoLife.machine.run demoLife.start (demoExchange [.hand, .close 5]) = some s ∧ s.Concludes := by
  let allowed (s : Life) (e : LifeEvent) : Prop := ¬ demoLife.Overwrites s e
  have called : demoLife.machine.ReachableBy allowed _ := .next _ _ (.call false) .start (fun overwrites => overwrites.2) rfl
  have committed : demoLife.machine.ReachableBy allowed _ := .next _ _ (.commit 200) called (fun overwrites => overwrites.2) rfl
  have settled : demoLife.machine.ReachableBy allowed _ :=
    .next _ _ (.settle (refusing .foreign)) committed (fun overwrites => overwrites.2) rfl
  have handed : demoLife.machine.ReachableBy allowed _ := .next _ _ .hand settled (fun overwrites => overwrites.2) rfl
  have closed : demoLife.machine.ReachableBy allowed _ := .next _ _ (.close 5) handed (fun overwrites => nomatch overwrites.2.2) rfl
  exact ⟨_, rfl, exchange_concludes demoLife _ closed⟩

theorem handler_error_canceled : ∃ s, demoLife.machine.Reachable s ∧ ¬ s.Concludes ∧ s.facts = [.handlerError] ∧
    s.active.outputs.map (fun o => o.received.map fun c => (c.facts.termination, c.classification.outcome)) =
      [[(.genuine .peerClosed, .canceled)]] := by
  have ran : ∃ s, demoLife.machine.run demoLife.start (demoExchange [.close 5]) = some s ∧ s.closed = true ∧ s.facts = [.handlerError] ∧
      s.active.outputs.map (fun o => o.received.map fun c => (c.facts.termination, c.classification.outcome)) =
        [[(.genuine .peerClosed, .canceled)]] := ⟨_, rfl, rfl, rfl, rfl⟩
  obtain ⟨s, ran, closed, facts, outcome⟩ := ran
  refine ⟨s, demoLife.machine.run_reachable _ _ _ .start ran, fun concludes => ?_, facts, outcome⟩
  obtain ⟨c, delivered, termination, _⟩ := concludes closed
  obtain ⟨o, rest, only⟩ : ∃ o rest, s.active.outputs = o :: rest := by
    cases outputs : s.active.outputs with
    | nil => simp [outputs] at outcome
    | cons o rest => exact ⟨o, rest, rfl⟩
  have received := delivered o (by simp [only])
  have verdict : s.verdict = .handlerError := verdict_head s _ (by rw [facts]; rfl)
  rw [verdict] at termination
  simp [only, received, termination] at outcome

end N2F
