import N2F.Ecma.Text
import N2F.Errors
import N2F.Machine

set_option autoImplicit false

namespace N2F.HttpClient

open Ecma

abbrev Bytes := List UInt8

def fail (kind : Kind) (code : String) : Failure := failure kind "outbound HTTP operation failed" ("httpclient." ++ code)

structure Response where
  status : ℕ
  body : Bytes
  contentType : Str
deriving DecidableEq

inductive Cause where
  | timer
  | caller
  | close
deriving DecidableEq

-- The response of a call. Node delivered the chunks in received; once the response
-- is cut short it delivers no more of it.
structure Incoming where
  status : Option ℕ
  contentType : Option Str
  chunks : List Bytes
  size : ℕ
  complete : Bool
  received : List Bytes
  cut : Bool
  ended : Bool
deriving DecidableEq

-- What resolved the promise of a call: an error remembers who had aborted it and
-- whether the timer had fired.
inductive Settlement where
  | unsent
  | oversize
  | ended
  | errored (cause : Option Cause) (timedOut : Bool)
deriving DecidableEq

structure Exchange where
  timedOut : Bool
  aborted : Bool
  armed : Bool
  listening : Bool
  response : Option Incoming
  promise : Option (Result Response)
  cause : Option Cause
  settlement : Option Settlement
  freed : ℕ

def Exchange.start (listening : Bool) : Exchange := ⟨false, false, true, listening, none, none, none, none, 0⟩

def Exchange.resolve (e : Exchange) (r : Result Response) (how : Settlement) : Exchange :=
  if e.promise.isSome then e else { e with promise := some r, settlement := some how }

-- controller.abort()
def Exchange.stop (e : Exchange) (cause : Cause) : Exchange :=
  if e.aborted then e else { e with aborted := true, cause := some cause }

def Exchange.lost (e : Exchange) : Failure :=
  if e.timedOut then fail .timeout "timeout" else if e.aborted then fail .canceled "canceled" else fail .unavailable "network"

def Exchange.errored (e : Exchange) : Exchange := e.resolve (.error e.lost) (.errored e.cause e.timedOut)

def Incoming.result (r : Incoming) : Result Response :=
  let status := r.status.getD 0
  if status < 200 || 599 < status || !r.complete then .error (fail .unavailable "protocol")
  else .ok ⟨status, r.chunks.flatten, r.contentType.getD []⟩

def Incoming.start (status : Option ℕ) (contentType : Option Str) : Incoming := ⟨status, contentType, [], 0, false, [], false, false⟩

-- The data listener.
def Exchange.data (maxResponse : ℕ) (e : Exchange) (r : Incoming) (chunk : Bytes) : Exchange :=
  let r' : Incoming := { r with size := r.size + chunk.length, received := r.received ++ [chunk] }
  if maxResponse < r'.size then
    { e with response := some { r' with cut := true } }.resolve (.error (fail .unavailable "response_too_large")) .oversize
  else { e with response := some { r' with chunks := r.chunks ++ [chunk] } }

-- The end listener.
def Exchange.finish (e : Exchange) (r : Incoming) (complete : Bool) : Exchange :=
  let r' : Incoming := { r with ended := true, complete := complete }
  { e with response := some r' }.resolve r'.result .ended

inductive ExchangeEvent where
  | requestError
  | response (status : Option ℕ) (contentType : Option Str)
  | data (chunk : Bytes)
  | responseError
  | ends (complete : Bool)
  | cut
  | timer
  | abort
  | resume

def Exchange.step (maxResponse : ℕ) (e : Exchange) : ExchangeEvent → Option Exchange
  | .requestError => some e.errored
  | .response status contentType =>
      if e.response.isNone then some { e with response := some (.start status contentType) } else none
  | .data chunk => e.response.bind fun r =>
      if r.ended || r.cut || e.aborted then none else some (e.data maxResponse r chunk)
  | .responseError => if e.response.isSome then some e.errored else none
  | .ends complete => e.response.bind fun r => if r.ended || r.cut then none else some (e.finish r complete)
  | .cut => e.response.bind fun r => if r.ended then none else some { e with response := some { r with cut := true } }
  | .timer => if e.armed then some ({ e with timedOut := true, armed := false }.stop .timer) else none
  | .abort => if e.listening then some ({ e with listening := false }.stop .caller) else none
  | .resume =>
      if e.promise.isSome && e.freed = 0 then some { e with armed := false, listening := false, freed := e.freed + 1 } else none

def ExchangeEvent.isResume : ExchangeEvent → Bool
  | .resume => true
  | _ => false

inductive Exchange.Turn (maxResponse : ℕ) (e : Exchange) : ExchangeEvent → Exchange → Prop where
  | errored (event : ExchangeEvent) (other : event.isResume = false) : Turn maxResponse e event e.errored
  | response (status : Option ℕ) (contentType : Option Str) (absent : e.response = none) :
      Turn maxResponse e (.response status contentType) { e with response := some (.start status contentType) }
  | data (chunk : Bytes) (r : Incoming) (here : e.response = some r) (running : r.ended = false) (uncut : r.cut = false) :
      Turn maxResponse e (.data chunk) (e.data maxResponse r chunk)
  | ends (complete : Bool) (r : Incoming) (here : e.response = some r) (running : r.ended = false) (uncut : r.cut = false) :
      Turn maxResponse e (.ends complete) (e.finish r complete)
  | cut (r : Incoming) (here : e.response = some r) (running : r.ended = false) :
      Turn maxResponse e .cut { e with response := some { r with cut := true } }
  | timer : Turn maxResponse e .timer ({ e with timedOut := true, armed := false }.stop .timer)
  | abort : Turn maxResponse e .abort ({ e with listening := false }.stop .caller)
  | resume (answered : e.promise ≠ none) (first : e.freed = 0) :
      Turn maxResponse e .resume { e with armed := false, listening := false, freed := e.freed + 1 }

theorem exchange_turn (maxResponse : ℕ) (e e' : Exchange) (event : ExchangeEvent) (moved : e.step maxResponse event = some e') :
    e.Turn maxResponse event e' := by
  cases event with
  | requestError =>
      cases moved
      exact .errored .requestError rfl
  | response status contentType =>
      simp only [Exchange.step, Option.ite_none_right_eq_some, Option.some.injEq, Option.isNone_iff_eq_none] at moved
      obtain ⟨absent, rfl⟩ := moved
      exact .response status contentType absent
  | data chunk =>
      obtain ⟨r, here, moved⟩ := Option.bind_eq_some_iff.mp moved
      simp only [Option.ite_none_left_eq_some, Option.some.injEq, Bool.or_eq_true, not_or, Bool.not_eq_true] at moved
      obtain ⟨⟨⟨running, uncut⟩, _⟩, rfl⟩ := moved
      exact .data chunk r here running uncut
  | responseError =>
      simp only [Exchange.step, Option.ite_none_right_eq_some, Option.some.injEq] at moved
      obtain ⟨_, rfl⟩ := moved
      exact .errored .responseError rfl
  | ends complete =>
      obtain ⟨r, here, moved⟩ := Option.bind_eq_some_iff.mp moved
      simp only [Option.ite_none_left_eq_some, Option.some.injEq, Bool.or_eq_true, not_or, Bool.not_eq_true] at moved
      obtain ⟨⟨running, uncut⟩, rfl⟩ := moved
      exact .ends complete r here running uncut
  | cut =>
      obtain ⟨r, here, moved⟩ := Option.bind_eq_some_iff.mp moved
      simp only [Option.ite_none_left_eq_some, Option.some.injEq, Bool.not_eq_true] at moved
      obtain ⟨running, rfl⟩ := moved
      exact .cut r here running
  | timer =>
      simp only [Exchange.step, Option.ite_none_right_eq_some, Option.some.injEq] at moved
      obtain ⟨_, rfl⟩ := moved
      exact .timer
  | abort =>
      simp only [Exchange.step, Option.ite_none_right_eq_some, Option.some.injEq] at moved
      obtain ⟨_, rfl⟩ := moved
      exact .abort
  | resume =>
      simp only [Exchange.step, Option.ite_none_right_eq_some, Option.some.injEq, Bool.and_eq_true, decide_eq_true_eq] at moved
      obtain ⟨⟨answered, first⟩, rfl⟩ := moved
      exact .resume (Option.ne_none_iff_isSome.mpr answered) first

inductive Settled (maxResponse : ℕ) (response : Option Incoming) : Result Response → Settlement → Prop where
  | unsent : Settled maxResponse response (.error (fail .invalid "request")) .unsent
  | oversize (r : Incoming) (here : response = some r) (large : maxResponse < r.size) :
      Settled maxResponse response (.error (fail .unavailable "response_too_large")) .oversize
  | protocol (r : Incoming) (here : response = some r) (ended : r.ended = true) :
      Settled maxResponse response (.error (fail .unavailable "protocol")) .ended
  | ok (r : Incoming) (status : ℕ) (contentType : Str) (here : response = some r) (ended : r.ended = true) (complete : r.complete = true)
      (least : 200 ≤ status) (most : status ≤ 599) (given : r.status = some status) (bounded : r.size ≤ maxResponse) :
      Settled maxResponse response (.ok ⟨status, r.received.flatten, contentType⟩) .ended
  | timeout (cause : Cause) : Settled maxResponse response (.error (fail .timeout "timeout")) (.errored (some cause) true)
  | canceled (cause : Cause) (other : cause ≠ .timer) :
      Settled maxResponse response (.error (fail .canceled "canceled")) (.errored (some cause) false)
  | network : Settled maxResponse response (.error (fail .unavailable "network")) (.errored none false)

structure Incoming.Sound (maxResponse : ℕ) (r : Incoming) : Prop where
  size : r.size = r.received.flatten.length
  retained : r.chunks.flatten.length ≤ maxResponse
  whole : r.size ≤ maxResponse → r.chunks = r.received
  overrun : maxResponse < r.size → r.cut = true
  apart : r.ended = true → r.cut = false

structure Exchange.Flags (e : Exchange) : Prop where
  aborted : e.aborted = e.cause.isSome
  timed : e.cause = some .timer → e.timedOut = true
  untimed : e.timedOut = true → e.aborted = true

structure Exchange.Core (maxResponse : ℕ) (e : Exchange) : Prop where
  flags : e.Flags
  incoming : ∀ r, e.response = some r → r.Sound maxResponse
  answered : ∀ p how, e.promise = some p → e.settlement = some how → Settled maxResponse e.response p how
  both : e.promise.isSome = e.settlement.isSome
  freed : e.freed ≤ 1
  disarmed : e.freed = 1 → e.promise ≠ none ∧ e.armed = false ∧ e.listening = false

structure Exchange.Sound (maxResponse : ℕ) (e : Exchange) : Prop where
  core : e.Core maxResponse
  large : ∀ r, e.response = some r → maxResponse < r.size → e.promise ≠ none
  ended : ∀ r, e.response = some r → r.ended = true → e.promise ≠ none

theorem settled_start (maxResponse : ℕ) (response : Option Incoming) (p : Result Response) (how : Settlement)
    (settled : Settled maxResponse none p how) : Settled maxResponse response p how := by
  cases settled with
  | unsent => exact .unsent
  | oversize r here _ => cases here
  | protocol r here _ => cases here
  | ok r _ _ here _ _ _ _ _ _ => cases here
  | timeout cause => exact .timeout cause
  | canceled cause other => exact .canceled cause other
  | network => exact .network

theorem settled_grows (maxResponse : ℕ) (r r' : Incoming) (p : Result Response) (how : Settlement) (grows : r.size ≤ r'.size)
    (frozen : r.ended = false) (settled : Settled maxResponse (some r) p how) : Settled maxResponse (some r') p how := by
  have past (s : Incoming) (here : some r = some s) (ended : s.ended = true) : False := by
    rw [← Option.some.inj here, frozen] at ended
    cases ended
  cases settled with
  | unsent => exact .unsent
  | oversize s here large => exact .oversize r' rfl (large.trans_le (Option.some.inj here ▸ grows))
  | protocol s here ended => exact (past s here ended).elim
  | ok s _ _ here ended _ _ _ _ _ => exact (past s here ended).elim
  | timeout cause => exact .timeout cause
  | canceled cause other => exact .canceled cause other
  | network => exact .network

theorem start_sound (maxResponse : ℕ) (listening : Bool) : (Exchange.start listening).Sound maxResponse := by
  refine ⟨⟨⟨rfl, nofun, nofun⟩, nofun, nofun, rfl, Nat.zero_le 1, nofun⟩, nofun, nofun⟩

theorem resolve_rest (e : Exchange) (r : Result Response) (how : Settlement) :
    (e.resolve r how).response = e.response ∧ (e.resolve r how).promise ≠ none ∧ (e.resolve r how).cause = e.cause ∧
      (e.resolve r how).timedOut = e.timedOut ∧ (e.resolve r how).freed = e.freed := by
  by_cases resolved : e.promise.isSome = true
  · rw [Exchange.resolve, if_pos resolved]
    exact ⟨rfl, Option.ne_none_iff_isSome.mpr resolved, rfl, rfl, rfl⟩
  · rw [Exchange.resolve, if_neg resolved]
    exact ⟨rfl, Option.some_ne_none r, rfl, rfl, rfl⟩

theorem resolve_sound (maxResponse : ℕ) (e : Exchange) (r : Result Response) (how : Settlement) (core : e.Core maxResponse)
    (settled : e.promise = none → Settled maxResponse e.response r how) : (e.resolve r how).Sound maxResponse := by
  obtain ⟨_, answered, _⟩ := resolve_rest e r how
  refine ⟨?_, fun _ _ _ => answered, fun _ _ _ => answered⟩
  by_cases resolved : e.promise.isSome = true
  · rwa [Exchange.resolve, if_pos resolved]
  · rw [Exchange.resolve, if_neg resolved]
    have pending : e.promise = none := by simpa using resolved
    have flags := core.flags
    refine ⟨⟨flags.aborted, flags.timed, flags.untimed⟩, core.incoming, ?_, rfl, core.freed, fun freed => absurd pending (core.disarmed freed).1⟩
    intro p how' given reason
    cases given
    cases reason
    exact settled pending

theorem lost_settled (maxResponse : ℕ) (e : Exchange) (flags : e.Flags) :
    Settled maxResponse e.response (.error e.lost) (.errored e.cause e.timedOut) := by
  rw [Exchange.lost]
  cases cause : e.cause with
  | none =>
      have running : e.aborted = false := by rw [flags.aborted, cause]; rfl
      have untimed : e.timedOut = false := by
        by_contra fired
        cases running.symm.trans (flags.untimed (by simpa using fired))
      rw [untimed, running]
      exact .network
  | some who =>
      have aborted : e.aborted = true := by rw [flags.aborted, cause]; rfl
      cases fired : e.timedOut with
      | true => exact .timeout who
      | false =>
          rw [aborted]
          refine .canceled who fun timer => ?_
          rw [timer] at cause
          cases fired.symm.trans (flags.timed cause)

theorem errored_sound (maxResponse : ℕ) (e : Exchange) (sound : e.Sound maxResponse) : e.errored.Sound maxResponse :=
  resolve_sound maxResponse e _ _ sound.core fun _ => lost_settled maxResponse e sound.core.flags

theorem replace_core (maxResponse : ℕ) (e : Exchange) (r r' : Incoming) (core : e.Core maxResponse) (here : e.response = some r)
    (running : r.ended = false) (grows : r.size ≤ r'.size) (sound : r'.Sound maxResponse) :
    { e with response := some r' }.Core maxResponse := by
  have flags := core.flags
  refine ⟨⟨flags.aborted, flags.timed, flags.untimed⟩, ?_, ?_, core.both, core.freed, core.disarmed⟩
  · intro s same
    cases same
    exact sound
  · intro p how given reason
    have settled := core.answered p how given reason
    rw [here] at settled
    exact settled_grows maxResponse r r' p how grows running settled

theorem data_sound (maxResponse : ℕ) (e : Exchange) (r : Incoming) (chunk : Bytes) (sound : e.Sound maxResponse)
    (here : e.response = some r) (running : r.ended = false) (uncut : r.cut = false) : (e.data maxResponse r chunk).Sound maxResponse := by
  have before := sound.core.incoming r here
  have size : r.size + chunk.length = (r.received ++ [chunk]).flatten.length := by
    rw [before.size, List.flatten_append, List.length_append, List.flatten_singleton]
  have small : r.size ≤ maxResponse := by
    by_contra large
    cases uncut.symm.trans (before.overrun (Nat.not_le.mp large))
  by_cases large : maxResponse < r.size + chunk.length
  · rw [Exchange.data, if_pos large]
    apply resolve_sound
    · apply replace_core maxResponse e r _ sound.core here running (Nat.le_add_right _ _)
      refine ⟨size, before.retained, fun fits => absurd fits (Nat.not_le.mpr large), fun _ => rfl, fun ended => ?_⟩
      cases running.symm.trans ended
    · exact fun _ => .oversize _ rfl large
  · rw [Exchange.data, if_neg large]
    have whole := before.whole small
    refine ⟨replace_core maxResponse e r _ sound.core here running (Nat.le_add_right _ _) ?_, ?_, ?_⟩
    · refine ⟨size, ?_, fun _ => congrArg (· ++ [chunk]) whole, fun past => absurd past large, fun _ => uncut⟩
      rw [whole, ← size]
      exact Nat.not_lt.mp large
    · intro s same past
      cases same
      exact absurd past large
    · intro s same ended
      cases same
      cases running.symm.trans ended

theorem finish_sound (maxResponse : ℕ) (e : Exchange) (r : Incoming) (complete : Bool) (sound : e.Sound maxResponse)
    (here : e.response = some r) (running : r.ended = false) (uncut : r.cut = false) : (e.finish r complete).Sound maxResponse := by
  have before := sound.core.incoming r here
  have small : r.size ≤ maxResponse := by
    by_contra large
    cases uncut.symm.trans (before.overrun (Nat.not_le.mp large))
  rw [Exchange.finish]
  apply resolve_sound
  · exact replace_core maxResponse e r _ sound.core here running (Nat.le_refl _)
      ⟨before.size, before.retained, before.whole, before.overrun, fun _ => uncut⟩
  · intro _
    rw [Incoming.result]
    split_ifs with refused
    · exact .protocol _ rfl rfl
    · simp only [Bool.or_eq_true, decide_eq_true_eq, Bool.not_eq_true', not_or, Bool.not_eq_false] at refused
      obtain ⟨⟨least, most⟩, whole⟩ := refused
      have given : r.status = some (r.status.getD 0) := by
        cases present : r.status with
        | none =>
            rw [present] at least
            exact absurd (by decide : (none : Option ℕ).getD 0 < 200) least
        | some status => rfl
      have body : r.chunks.flatten = r.received.flatten := by rw [before.whole small]
      dsimp only
      rw [body]
      exact .ok { r with ended := true, complete := complete } _ _ rfl rfl whole (Nat.not_lt.mp least) (Nat.not_lt.mp most) given small

theorem flagged_sound (maxResponse : ℕ) (e e' : Exchange) (sound : e.Sound maxResponse) (flags : e'.Flags)
    (same : e'.response = e.response ∧ e'.promise = e.promise ∧ e'.settlement = e.settlement ∧ e'.freed = e.freed)
    (armed : e.armed = false → e'.armed = false) (listening : e.listening = false → e'.listening = false) : e'.Sound maxResponse := by
  obtain ⟨response, promise, settlement, freed⟩ := same
  refine ⟨⟨flags, ?_, ?_, ?_, ?_, ?_⟩, ?_, ?_⟩
  · rw [response]
    exact sound.core.incoming
  · rw [response, promise, settlement]
    exact sound.core.answered
  · rw [promise, settlement]
    exact sound.core.both
  · rw [freed]
    exact sound.core.freed
  · intro past
    rw [freed] at past
    obtain ⟨answered, disarmed, deaf⟩ := sound.core.disarmed past
    exact ⟨promise ▸ answered, armed disarmed, listening deaf⟩
  · rw [response, promise]
    exact sound.large
  · rw [response, promise]
    exact sound.ended

theorem stop_sound (maxResponse : ℕ) (e : Exchange) (cause : Cause) (other : cause ≠ .timer) (sound : e.Sound maxResponse) :
    (e.stop cause).Sound maxResponse := by
  by_cases aborted : e.aborted = true
  · rwa [Exchange.stop, if_pos aborted]
  · rw [Exchange.stop, if_neg aborted]
    have flags : { e with aborted := true, cause := some cause }.Flags :=
      ⟨rfl, fun timer => absurd (Option.some.inj timer) other, fun _ => rfl⟩
    exact flagged_sound maxResponse e _ sound flags ⟨rfl, rfl, rfl, rfl⟩ id id

theorem timer_sound (maxResponse : ℕ) (e : Exchange) (sound : e.Sound maxResponse) :
    ({ e with timedOut := true, armed := false }.stop .timer).Sound maxResponse := by
  have flags := sound.core.flags
  by_cases aborted : e.aborted = true
  · rw [Exchange.stop, if_pos aborted]
    have flags' : { e with timedOut := true, armed := false }.Flags := ⟨flags.aborted, fun _ => rfl, fun _ => aborted⟩
    exact flagged_sound maxResponse e _ sound flags' ⟨rfl, rfl, rfl, rfl⟩ (fun _ => rfl) id
  · rw [Exchange.stop, if_neg aborted]
    have flags' : { e with timedOut := true, armed := false, aborted := true, cause := some .timer }.Flags :=
      ⟨rfl, fun _ => rfl, fun _ => rfl⟩
    exact flagged_sound maxResponse e _ sound flags' ⟨rfl, rfl, rfl, rfl⟩ (fun _ => rfl) id

theorem response_sound (maxResponse : ℕ) (e : Exchange) (status : Option ℕ) (contentType : Option Str) (sound : e.Sound maxResponse)
    (absent : e.response = none) : { e with response := some (.start status contentType) }.Sound maxResponse := by
  have flags := sound.core.flags
  have empty : (Incoming.start status contentType).Sound maxResponse :=
    ⟨rfl, Nat.zero_le _, fun _ => rfl, fun large => absurd large (Nat.not_lt_zero _), nofun⟩
  refine ⟨⟨⟨flags.aborted, flags.timed, flags.untimed⟩, ?_, ?_, sound.core.both, sound.core.freed, sound.core.disarmed⟩, ?_, ?_⟩
  · intro r same
    cases same
    exact empty
  · intro p how given reason
    have settled := sound.core.answered p how given reason
    rw [absent] at settled
    exact settled_start maxResponse _ p how settled
  · intro r same large
    cases same
    exact absurd large (Nat.not_lt_zero _)
  · intro r same ended
    cases same
    cases ended

theorem cut_sound (maxResponse : ℕ) (e : Exchange) (r : Incoming) (sound : e.Sound maxResponse) (here : e.response = some r)
    (running : r.ended = false) : { e with response := some { r with cut := true } }.Sound maxResponse := by
  have before := sound.core.incoming r here
  refine ⟨?_, ?_, ?_⟩
  · have lost : { r with cut := true }.Sound maxResponse :=
      ⟨before.size, before.retained, before.whole, fun _ => rfl, fun ended => by cases running.symm.trans ended⟩
    exact replace_core maxResponse e r _ sound.core here running (Nat.le_refl _) lost
  · intro s same large
    cases same
    exact sound.large r here large
  · intro s same ended
    cases same
    cases running.symm.trans ended

theorem resume_sound (maxResponse : ℕ) (e : Exchange) (sound : e.Sound maxResponse) (answered : e.promise ≠ none) (first : e.freed = 0) :
    { e with armed := false, listening := false, freed := e.freed + 1 }.Sound maxResponse := by
  have flags := sound.core.flags
  have once : e.freed + 1 ≤ 1 := by omega
  exact ⟨⟨⟨flags.aborted, flags.timed, flags.untimed⟩, sound.core.incoming, sound.core.answered, sound.core.both, once,
    fun _ => ⟨answered, rfl, rfl⟩⟩, sound.large, sound.ended⟩

theorem exchange_step_sound (maxResponse : ℕ) (e e' : Exchange) (event : ExchangeEvent) (sound : e.Sound maxResponse)
    (moved : e.step maxResponse event = some e') : e'.Sound maxResponse := by
  cases exchange_turn maxResponse e e' event moved with
  | errored event other => exact errored_sound maxResponse e sound
  | response status contentType absent => exact response_sound maxResponse e status contentType sound absent
  | data chunk r here running uncut => exact data_sound maxResponse e r chunk sound here running uncut
  | ends complete r here running uncut => exact finish_sound maxResponse e r complete sound here running uncut
  | cut r here running => exact cut_sound maxResponse e r sound here running
  | timer => exact timer_sound maxResponse e sound
  | abort =>
      have flags := sound.core.flags
      have deaf : { e with listening := false }.Sound maxResponse :=
        flagged_sound maxResponse e _ sound ⟨flags.aborted, flags.timed, flags.untimed⟩ ⟨rfl, rfl, rfl, rfl⟩ id fun _ => rfl
      exact stop_sound maxResponse _ .caller nofun deaf
  | resume answered first => exact resume_sound maxResponse e sound answered first

end N2F.HttpClient
