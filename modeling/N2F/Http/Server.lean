import N2F.Http.Problem
import N2F.Ecma.Text

set_option autoImplicit false

namespace N2F

open Ecma

structure Request where
  method : String
  contentLength : Option String
  transferEncoding : Option String
  contentType : Option String

structure RequestIds where
  requestId : Str
  correlationId : Str
deriving DecidableEq

structure RequestState where
  selected : Option (Given Failure)
  routed : Bool
  scope : Option RequestIds

inductive BodyEvent where
  | data (length : ℕ)
  | ended
  | aborted
  | failed
  | timer

-- How the body is rejected, if it is; the timer fires when nothing else does.
def readBody (max : ℕ) : ℕ → List BodyEvent → Option ℕ
  | size, .data length :: rest => if max < size + length then some 413 else readBody max (size + length) rest
  | _, .ended :: _ => none
  | _, .aborted :: _ | _, .failed :: _ => some 400
  | _, .timer :: _ | _, [] => some 408

-- What reading and serializing the value a handler answered with comes to: each
-- read of a property and JSON.stringify can throw anything.
structure Returned where
  ok : Except (Given Failure) Bool
  error : Except (Given Failure) (Given Failure)
  okAgain : Except (Given Failure) Bool
  text : Except (Given Failure) (Option String)

inductive Settled where
  | returned (result : Returned)
  | threw (e : Given Failure)
  | deadline

-- err(error)
def refusing (e : Given Failure) : Returned := ⟨.ok false, .ok e, .ok false, .ok (some "null")⟩

def timeoutFailure : Failure := failure .timeout "request timed out" "http.timeout"

def Settled.result : Settled → Returned
  | .returned result => result
  | .threw e => refusing e
  | .deadline => refusing (.genuine timeoutFailure)

structure Response where
  destroyed : Bool
  headersSent : Bool

structure Document where
  problem : Problem
  ids : Option RequestIds
deriving DecidableEq

inductive Answer where
  | json (status : ℕ) (text : Option String)
  | problem (status : ℕ) (document : Document)
  | bare (status : ℕ)
  | left
  | destroyed
  | rejected
deriving DecidableEq

structure Selection where
  selected : Option (Given Failure)
  protocol : Option ℕ

def unroutable (st : RequestState) : Option (Given Failure) :=
  match st.selected with
  | some e => some e
  | none => if st.routed then none else some (.genuine (failure .notFound "route not found" "http.not_found"))

def routeSelection (st : RequestState) (req : Request) : Selection :=
  if (unroutable st).isNone && !(["GET", "HEAD"].contains req.method) then
    ⟨some (.genuine (failure .invalid "method not allowed" "http.method_not_allowed")), some 405⟩
  else ⟨unroutable st, none⟩

def hasBody (req : Request) : Bool := req.contentLength.getD "0" ≠ "0" || req.transferEncoding.getD "" ≠ ""

def isJson (req : Request) : Bool :=
  req.contentType.any fun type => trim (type.toList.takeWhile (· ≠ ';')) = "application/json".toList

def bodyFailure (rejected : ℕ) : Failure :=
  failure .invalid
    (if rejected = 408 then "request body timed out" else if rejected = 413 then "request body too large" else "invalid request body")
    (if rejected = 408 then "http.request_timeout" else if rejected = 413 then "http.body_too_large" else "http.invalid_body")

def bodySelection (sel : Selection) (req : Request) (maxBody : ℕ) (events : List BodyEvent) : Selection × Bool :=
  if sel.selected.isNone && hasBody req then
    if !isJson req then
      (⟨some (.genuine (failure .invalid "unsupported media type" "http.unsupported_media_type")), some 415⟩, false)
    else
      match readBody maxBody 0 events with
      | some rejected => (⟨some (.genuine (bodyFailure rejected)), some rejected⟩, true)
      | none => (sel, false)
  else (sel, false)

def overridden (protocol : Option ℕ) (p : Problem) : Problem :=
  match protocol with
  | none => p
  | some code =>
      { p with
        status := code
        title := some
          (if code = 405 then "Method Not Allowed"
          else if code = 408 then "Request Timeout"
          else if code = 413 then "Payload Too Large"
          else "Unsupported Media Type") }

-- The writing of the response; its type is set before the value is serialized
-- and cannot be set once the headers are sent.
def respond (sel : Selection) (scope : Option RequestIds) (result : Returned) (res : Response) : Except (Given Failure) Answer :=
  if res.destroyed then .ok .left
  else if res.headersSent then .error .foreign
  else
    match sel.selected with
    | some e =>
        let body := overridden sel.protocol (projected (publicInfo e))
        .ok (.problem body.status ⟨body, scope⟩)
    | none =>
        match result.okAgain with
        | .error e => .error e
        | .ok false => .ok (.json 200 (some "null"))
        | .ok true => result.text.map (.json 200)

structure Exchange where
  state : RequestState
  req : Request
  maxBody : ℕ
  events : List BodyEvent
  busy : Bool
  settled : Settled
  res : Response

def Exchange.read (x : Exchange) : Selection × Bool := bodySelection (routeSelection x.state x.req) x.req x.maxBody x.events

def busyFailure : Failure := failure .unavailable "server busy" "http.busy"

def finishWork (scope : Option RequestIds) (result : Returned) (res : Response) : Except (Given Failure) Answer :=
  match result.ok with
  | .error e => .error e
  | .ok true => respond ⟨none, none⟩ scope result res
  | .ok false =>
      match result.error with
      | .error e => .error e
      | .ok e => respond ⟨some e, none⟩ scope result res

-- The try block.
def attempt (x : Exchange) : Except (Given Failure) Answer :=
  let (sel, closes) := x.read
  if closes && x.res.headersSent then .error .foreign
  else if sel.selected.isSome then respond sel x.state.scope x.settled.result x.res
  else if x.busy then respond ⟨some (.genuine busyFailure), none⟩ x.state.scope x.settled.result x.res
  else finishWork x.state.scope x.settled.result x.res

-- The catch block.
def recover (e : Given Failure) (res : Response) : Answer :=
  if res.headersSent then .destroyed else .problem 500 ⟨projected (publicInfo e), none⟩

-- A request the middleware saw; the Allow header is set outside the try block.
def handleTracked (x : Exchange) : Answer :=
  if (routeSelection x.state x.req).protocol.isSome && x.res.headersSent then .rejected
  else
    match attempt x with
    | .ok answer => answer
    | .error e => recover e x.res

def handle (x : Exchange) (tracked : Bool) : Answer := if tracked then handleTracked x else .bare 500

def reasonPhrase : ℕ → Option String
  | 400 => some "Bad Request"
  | 401 => some "Unauthorized"
  | 403 => some "Forbidden"
  | 404 => some "Not Found"
  | 405 => some "Method Not Allowed"
  | 408 => some "Request Timeout"
  | 409 => some "Conflict"
  | 413 => some "Payload Too Large"
  | 415 => some "Unsupported Media Type"
  | 429 => some "Too Many Requests"
  | 500 => some "Internal Server Error"
  | 503 => some "Service Unavailable"
  | _ => none

def Labelled (status : ℕ) (p : Problem) : Prop := p.status = status ∧ p.title = reasonPhrase status

def Answer.Agrees (answer : Answer) : Prop := ∀ status document, answer = .problem status document → Labelled status document.problem

theorem projected_labelled (info : PublicInfo) : Labelled (projected info).status (projected info) := by
  obtain ⟨kind, message, type, fields⟩ := info
  cases kind <;> exact ⟨rfl, rfl⟩

theorem overridden_labelled_iff (code : ℕ) (p : Problem) (known : code ∈ [400, 405, 408, 413, 415]) :
    Labelled (overridden (some code) p).status (overridden (some code) p) ↔ code ≠ 400 := by
  simp only [List.mem_cons, List.not_mem_nil, or_false] at known
  rcases known with rfl | rfl | rfl | rfl | rfl
  · simp [Labelled, overridden, reasonPhrase]
  · simp [Labelled, overridden, reasonPhrase]
  · simp [Labelled, overridden, reasonPhrase]
  · simp [Labelled, overridden, reasonPhrase]
  · simp [Labelled, overridden, reasonPhrase]

theorem read_body_code (max size : ℕ) (events : List BodyEvent) (code : ℕ) (rejected : readBody max size events = some code) :
    code ∈ [400, 405, 408, 413, 415] := by
  induction events generalizing size with
  | nil =>
      cases rejected
      decide
  | cons event rest ih =>
      cases event with
      | data length =>
          rw [readBody] at rejected
          split_ifs at rejected
          · cases rejected
            decide
          · exact ih _ rejected
      | ended => cases rejected
      | aborted =>
          cases rejected
          decide
      | failed =>
          cases rejected
          decide
      | timer =>
          cases rejected
          decide

theorem read_protocol (x : Exchange) (code : ℕ) (protocol : x.read.1.protocol = some code) :
    x.read.1.selected.isSome = true ∧ code ∈ [400, 405, 408, 413, 415] := by
  have routed (code : ℕ) (here : (routeSelection x.state x.req).protocol = some code) :
      (routeSelection x.state x.req).selected.isSome = true ∧ code = 405 := by
    rw [routeSelection] at here ⊢
    split_ifs at here ⊢
    exact ⟨rfl, (Option.some.inj here).symm⟩
  have before (here : (routeSelection x.state x.req).protocol = some code) :
      (routeSelection x.state x.req).selected.isSome = true ∧ code ∈ [400, 405, 408, 413, 415] := by
    obtain ⟨given, rfl⟩ := routed code here
    exact ⟨given, by decide⟩
  rw [Exchange.read, bodySelection] at protocol ⊢
  split_ifs at protocol ⊢
  · cases protocol
    exact ⟨rfl, by decide⟩
  · cases read : readBody x.maxBody 0 x.events with
    | some rejected =>
        simp only [read, Option.some.injEq] at protocol ⊢
        subst protocol
        exact ⟨rfl, read_body_code _ _ _ _ read⟩
    | none =>
        simp only [read] at protocol ⊢
        exact before protocol
  · exact before protocol

def Exchange.Runs (x : Exchange) : Prop := x.read.1.selected = none ∧ x.busy = false

def Returned.thrown (result : Returned) (destroyed : Bool) : Option (Given Failure) :=
  match result.ok with
  | .error e => some e
  | .ok false =>
      match result.error with
      | .error e => some e
      | .ok _ => none
  | .ok true =>
      if destroyed then none
      else
        match result.okAgain with
        | .error e => some e
        | .ok false => none
        | .ok true =>
            match result.text with
            | .error e => some e
            | .ok _ => none

def Exchange.Malformed (x : Exchange) : Prop := x.read.1.protocol = some 400 ∧ x.res.destroyed = false

def Exchange.Leaks (x : Exchange) : Prop := x.Runs ∧ ∃ e, x.settled.result.thrown x.res.destroyed = some e ∧ ¬ Opaque e

def Exchange.Serializes (x : Exchange) (e : Given Failure) : Prop :=
  x.Runs ∧ x.res = ⟨false, false⟩ ∧ x.settled.result.ok = .ok true ∧ x.settled.result.okAgain = .ok true ∧
    x.settled.result.text = .error e

theorem recover_agrees_iff (e : Given Failure) (res : Response) (uncommitted : res.headersSent = false) :
    (recover e res).Agrees ↔ Opaque e := by
  rw [recover, uncommitted]
  constructor
  · intro agrees f known
    have status := (agrees 500 _ rfl).1
    subst known
    by_contra shown
    rw [projected_status, publicInfo, if_neg shown] at status
    cases kind : f.kind <;> simp_all [statusOf]
  · rintro hidden status document same
    cases same
    rw [opaque_problem e hidden]
    exact ⟨rfl, rfl⟩

theorem respond_destroyed (sel : Selection) (scope : Option RequestIds) (result : Returned) (res : Response)
    (destroyed : res.destroyed = true) : respond sel scope result res = .ok .left := if_pos destroyed

theorem respond_committed (sel : Selection) (scope : Option RequestIds) (result : Returned) (res : Response) (answer : Answer)
    (committed : res.headersSent = true) (responded : respond sel scope result res = .ok answer) : answer = .left := by
  by_cases destroyed : res.destroyed = true
  · rw [respond_destroyed sel scope result res destroyed] at responded
    exact (Except.ok.inj responded).symm
  · rw [respond, if_neg destroyed, if_pos committed] at responded
    cases responded

theorem respond_selected (e : Given Failure) (protocol : Option ℕ) (scope : Option RequestIds) (result : Returned) (res : Response)
    (destroyed : res.destroyed = false) (uncommitted : res.headersSent = false) :
    respond ⟨some e, protocol⟩ scope result res =
      .ok (.problem (overridden protocol (projected (publicInfo e))).status ⟨overridden protocol (projected (publicInfo e)), scope⟩) := by
  rw [respond, destroyed, uncommitted]
  rfl

theorem finish_work_committed (scope : Option RequestIds) (result : Returned) (res : Response) (answer : Answer)
    (committed : res.headersSent = true) (finished : finishWork scope result res = .ok answer) : answer = .left := by
  rw [finishWork] at finished
  split at finished
  · cases finished
  · exact respond_committed _ _ _ _ answer committed finished
  · split at finished
    · cases finished
    · exact respond_committed _ _ _ _ answer committed finished

theorem committed_writes_nothing (x : Exchange) (committed : x.res.headersSent = true) : (handleTracked x).Agrees := by
  rw [handleTracked]
  split_ifs
  · nofun
  · cases tried : attempt x with
    | error e =>
        simp only [recover, committed, if_true]
        nofun
    | ok answer =>
        have left : answer = .left := by
          simp only [attempt] at tried
          split_ifs at tried
          · exact respond_committed _ _ _ _ answer committed tried
          · exact respond_committed _ _ _ _ answer committed tried
          · exact finish_work_committed _ _ _ answer committed tried
        rw [left]
        nofun

theorem selected_agrees_iff (e : Given Failure) (protocol : Option ℕ) (scope : Option RequestIds) (result : Returned)
    (res : Response) (uncommitted : res.headersSent = false) (known : ∀ code, protocol = some code → code ∈ [400, 405, 408, 413, 415]) :
    ∃ answer, respond ⟨some e, protocol⟩ scope result res = .ok answer ∧
      (answer.Agrees ↔ ¬ (protocol = some 400 ∧ res.destroyed = false)) := by
  by_cases destroyed : res.destroyed = true
  · refine ⟨.left, respond_destroyed _ _ _ _ destroyed, ?_⟩
    simp [Answer.Agrees, destroyed]
  · rw [Bool.not_eq_true] at destroyed
    refine ⟨_, respond_selected e protocol scope result res destroyed uncommitted, ?_⟩
    have labelled : ((Answer.problem (overridden protocol (projected (publicInfo e))).status
          ⟨overridden protocol (projected (publicInfo e)), scope⟩).Agrees) ↔
        Labelled (overridden protocol (projected (publicInfo e))).status (overridden protocol (projected (publicInfo e))) := by
      constructor
      · exact fun agrees => agrees _ _ rfl
      · rintro whole status document same
        cases same
        exact whole
    rw [labelled]
    cases protocol with
    | none => simp [overridden, projected_labelled]
    | some code => simp [overridden_labelled_iff code _ (known code rfl), destroyed]

theorem finish_work_cases (scope : Option RequestIds) (result : Returned) (res : Response) (uncommitted : res.headersSent = false) :
    match result.thrown res.destroyed with
    | some e => finishWork scope result res = .error e
    | none => ∃ answer, finishWork scope result res = .ok answer ∧ answer.Agrees := by
  rw [Returned.thrown, finishWork]
  cases result.ok with
  | error e => rfl
  | ok value =>
      cases value with
      | false =>
          cases result.error with
          | error e => rfl
          | ok e =>
              obtain ⟨answer, responded, agrees⟩ := selected_agrees_iff e none scope result res uncommitted nofun
              exact ⟨answer, responded, agrees.mpr (by simp)⟩
      | true =>
          by_cases destroyed : res.destroyed = true
          · simp only [destroyed, if_true]
            exact ⟨.left, respond_destroyed _ _ _ _ destroyed, nofun⟩
          · simp only [respond, destroyed, uncommitted, if_false, Bool.false_eq_true]
            cases result.okAgain with
            | error e => rfl
            | ok again =>
                cases again with
                | false => exact ⟨_, rfl, nofun⟩
                | true =>
                    cases result.text with
                    | error e => rfl
                    | ok text => exact ⟨_, rfl, nofun⟩

theorem handle_uncommitted (x : Exchange) (uncommitted : x.res.headersSent = false) :
    handle x true = match attempt x with
      | .ok answer => answer
      | .error e => recover e x.res := by
  simp [handle, handleTracked, uncommitted]

theorem not_running_agrees_iff (x : Exchange) (uncommitted : x.res.headersSent = false) (idle : ¬ x.Runs) :
    (handle x true).Agrees ↔ ¬ x.Malformed := by
  rw [handle_uncommitted x uncommitted]
  cases given : x.read.1.selected with
  | some e =>
      obtain ⟨answer, responded, agrees⟩ := selected_agrees_iff e x.read.1.protocol x.state.scope x.settled.result x.res uncommitted
        fun code protocol => (read_protocol x code protocol).2
      have same : (⟨some e, x.read.1.protocol⟩ : Selection) = x.read.1 := by rw [← given]
      rw [same] at responded
      have tried : attempt x = .ok answer := by simpa [attempt, uncommitted, given] using responded
      simpa only [tried, Exchange.Malformed] using agrees
  | none =>
      have busy : x.busy = true := by
        by_contra free
        exact idle ⟨given, by simpa using free⟩
      obtain ⟨answer, responded, agrees⟩ := selected_agrees_iff (.genuine busyFailure) none x.state.scope x.settled.result x.res
        uncommitted nofun
      have tried : attempt x = .ok answer := by simpa [attempt, uncommitted, given, busy] using responded
      have formed : ¬ x.Malformed := by
        rintro ⟨protocol, _⟩
        have some := (read_protocol x 400 protocol).1
        simp [given] at some
      simpa [tried, formed] using agrees

theorem running_answer (x : Exchange) (uncommitted : x.res.headersSent = false) (runs : x.Runs) :
    attempt x = finishWork x.state.scope x.settled.result x.res := by
  simp [attempt, uncommitted, runs.1, runs.2]

theorem serializes_thrown (x : Exchange) (e : Given Failure) (serializes : x.Serializes e) :
    x.settled.result.thrown x.res.destroyed = some e := by
  obtain ⟨_, res, ok, again, text⟩ := serializes
  simp [Returned.thrown, ok, again, text, res]

theorem tracked_agrees_iff (x : Exchange) : (∀ tracked, (handle x tracked).Agrees) ↔ (handle x true).Agrees := by
  constructor
  · exact fun all => all true
  · intro agrees tracked
    cases tracked with
    | true => exact agrees
    | false => nofun

theorem handle_labels_iff (x : Exchange) :
    ((∀ tracked, (handle x tracked).Agrees) ∧ ∀ e, x.Serializes e → handle x true = .problem 500 ⟨internalProblem, none⟩) ↔
      ¬ (x.res.headersSent = false ∧ (x.Malformed ∨ x.Leaks)) := by
  rw [tracked_agrees_iff]
  by_cases committed : x.res.headersSent = true
  · have quiet : ∀ e, ¬ x.Serializes e := by
      rintro e ⟨_, res, _⟩
      simp [res] at committed
    simp [handle, committed_writes_nothing x committed, committed, quiet]
  · rw [Bool.not_eq_true] at committed
    by_cases runs : x.Runs
    · have formed : ¬ x.Malformed := by
        rintro ⟨protocol, _⟩
        have given := (read_protocol x 400 protocol).1
        simp [runs.1] at given
      have outcome := finish_work_cases x.state.scope x.settled.result x.res committed
      rw [handle_uncommitted x committed, running_answer x committed runs]
      cases thrown : x.settled.result.thrown x.res.destroyed with
      | some e =>
          simp only [thrown] at outcome
          have leaks : x.Leaks ↔ ¬ Opaque e := by simp [Exchange.Leaks, runs, thrown]
          simp only [outcome, recover_agrees_iff e x.res committed, committed, formed, leaks, true_and, false_or, not_not,
            and_iff_left_iff_imp]
          intro hidden e' _
          simp only [recover, committed, opaque_problem e hidden, Bool.false_eq_true, if_false]
      | none =>
          simp only [thrown] at outcome
          obtain ⟨answer, finished, agrees⟩ := outcome
          have leaks : ¬ x.Leaks := by simp [Exchange.Leaks, thrown]
          have quiet : ∀ e, ¬ x.Serializes e := by
            intro e serializes
            rw [serializes_thrown x e serializes] at thrown
            cases thrown
          simp [finished, agrees, formed, leaks, quiet]
    · have quiet : ∀ e, ¬ x.Serializes e := fun e serializes => runs serializes.1
      have leaks : ¬ x.Leaks := fun leaking => runs leaking.1
      simp [not_running_agrees_iff x committed runs, quiet, leaks, committed]

def demoRequest (contentLength contentType : Option String) (events : List BodyEvent) (answer : Returned) : Exchange :=
  ⟨⟨none, true, none⟩, ⟨"GET", contentLength, none, contentType⟩, 1024, events, false, .returned answer, ⟨false, false⟩⟩

def conflictThrown : Returned := ⟨.ok true, .ok .foreign, .ok true, .error (.genuine (failure .conflict "taken" "account.taken"))⟩

theorem labels_disagree :
    (∃ document, handle (demoRequest none none [] conflictThrown) true = .problem 500 document ∧ document.problem.status = 409) ∧
    ∃ document, handle (demoRequest (some "2") (some "application/json") [.aborted] conflictThrown) true = .problem 400 document ∧
      document.problem.title = some "Unsupported Media Type" :=
  ⟨⟨_, rfl, rfl⟩, ⟨_, rfl, rfl⟩⟩

end N2F
