import N2F.Ecma.Radix
import N2F.HttpClient.Exchange
import N2F.Roster
import Mathlib.Data.List.Nodup

set_option autoImplicit false

namespace N2F.HttpClient

open Ecma

structure TraceSnapshot where
  traceId : Str
  spanId : Str
  sampled : Bool
deriving DecidableEq

structure Request where
  method : Str
  path : Str
  body : Option Bytes
  trace : Option (Given TraceSnapshot)

-- A client that was created, with what new URL makes of a path against its base:
-- the origin of the target, or none where it throws.
structure Setting where
  origin : Str
  resolve : Str → Option Str
  maxRequest : ℕ
  maxResponse : ℕ
  bearer : Str

structure Outgoing where
  method : Str
  path : Str
  headers : List (Str × Str)
  body : Bytes
deriving DecidableEq

def traceparent (t : TraceSnapshot) : Str :=
  str "00-" ++ t.traceId ++ str "-" ++ t.spanId ++ str "-" ++ (if t.sampled then str "01" else str "00")

def Setting.headers (c : Setting) (input : Request) : List (Str × Str) :=
  [(str "accept", str "application/json"), (str "content-type", str "application/json")] ++
    (if c.bearer = [] then [] else [(str "authorization", str "Bearer " ++ c.bearer)]) ++
    (match input.trace with | some (.genuine t) => [(str "traceparent", traceparent t)] | _ => []) ++
    [(str "content-length", radixText 10 (input.body.getD []).length)]

def Setting.outgoing (c : Setting) (input : Request) : Outgoing := ⟨input.method, input.path, c.headers input, input.body.getD []⟩

def methods : List Str := [str "GET", str "HEAD", str "POST", str "PUT", str "PATCH", str "DELETE", str "OPTIONS"]

def Setting.refusesRequest (c : Setting) (input : Request) : Bool :=
  !methods.contains input.method || !(str "/").isPrefixOf input.path || (str "//").isPrefixOf input.path ||
    input.path.any (oneOf "\\\r\n#") || c.maxRequest < (input.body.getD []).length

structure Client where
  closed : Bool
  active : List ℕ
  calls : List Exchange
  requests : List Outgoing
  refused : List Failure

def Setting.refusals (c : Setting) (s : Client) (input : Request) (signal : Option Bool) : List (Bool × Failure) :=
  [(s.closed, fail .unavailable "closed"),
    (64 ≤ s.active.length, fail .rateLimited "busy"),
    (signal = some true, fail .canceled "canceled"),
    (c.refusesRequest input, fail .invalid "request"),
    (c.resolve input.path ≠ some c.origin, fail .invalid "request"),
    (input.trace = some .foreign, fail .invalid "trace")]

-- The driver may throw before it sends anything.
def admitted (signal : Option Bool) (throws : Bool) : Exchange :=
  if throws then (Exchange.start signal.isSome).resolve (.error (fail .invalid "request")) .unsent else .start signal.isSome

def Setting.call (c : Setting) (s : Client) (input : Request) (signal : Option Bool) (throws : Bool) : Client :=
  match refusal (c.refusals s input signal) with
  | some e => { s with refused := s.refused ++ [e] }
  | none =>
      { s with
        active := s.active ++ [s.calls.length]
        calls := s.calls ++ [admitted signal throws]
        requests := s.requests ++ [c.outgoing input] }

def Client.close (s : Client) : Client :=
  { s with
    closed := true
    calls := s.calls.mapIdx fun k e => if s.active.contains k then e.stop .close else e }

inductive ClientEvent where
  | call (input : Request) (signal : Option Bool) (throws : Bool)
  | event (k : ℕ) (e : ExchangeEvent)
  | close

def Setting.step (c : Setting) (s : Client) : ClientEvent → Option Client
  | .call input signal throws => some (c.call s input signal throws)
  | .event k e => s.calls[k]?.bind fun x => (x.step c.maxResponse e).map fun x' =>
      { s with calls := s.calls.set k x', active := if e.isResume then s.active.erase k else s.active }
  | .close => some s.close

def Setting.machine (c : Setting) : Machine Client ClientEvent := ⟨⟨false, [], [], [], []⟩, c.step⟩

structure Client.Sound (c : Setting) (s : Client) : Prop where
  each : ∀ (k : ℕ) (x : Exchange), s.calls[k]? = some x → x.Sound c.maxResponse
  apart : s.active.Nodup
  slots : ∀ k : ℕ, k ∈ s.active ↔ ∃ x : Exchange, s.calls[k]? = some x ∧ x.freed = 0
  bounded : s.active.length ≤ 64

theorem admitted_sound (maxResponse : ℕ) (signal : Option Bool) (throws : Bool) :
    (admitted signal throws).Sound maxResponse ∧ (admitted signal throws).freed = 0 := by
  have start := start_sound maxResponse signal.isSome
  cases throws with
  | false => exact ⟨start, rfl⟩
  | true => exact ⟨resolve_sound maxResponse _ _ _ start.core fun _ => .unsent, rfl⟩

theorem call_sound (c : Setting) (s : Client) (input : Request) (signal : Option Bool) (throws : Bool) (sound : s.Sound c) :
    (c.call s input signal throws).Sound c := by
  rw [Setting.call]
  cases refused : refusal (c.refusals s input signal) with
  | some e => exact ⟨sound.each, sound.apart, sound.slots, sound.bounded⟩
  | none =>
      have free : ¬ 64 ≤ s.active.length := by
        have checked := (refusal_none_iff _).mp refused (64 ≤ s.active.length, fail .rateLimited "busy") (by simp [Setting.refusals])
        simpa using checked
      obtain ⟨fresh, unfreed⟩ := admitted_sound c.maxResponse signal throws
      refine ⟨?_, ?_, ?_, ?_⟩
      · intro k x here
        rcases Roster.join_cases s.calls k _ x here with ⟨_, rfl⟩ | ⟨_, old⟩
        · exact fresh
        · exact sound.each k x old
      · rw [List.nodup_append]
        refine ⟨sound.apart, List.nodup_singleton _, fun k listed newest only same => ?_⟩
        rw [List.mem_singleton.mp only] at same
        obtain ⟨x, here, _⟩ := (sound.slots k).mp listed
        rw [same, List.getElem?_eq_none (Nat.le_refl _)] at here
        cases here
      · intro k
        rw [List.mem_append, sound.slots, List.mem_singleton]
        constructor
        · rintro (⟨x, old, unfreed'⟩ | rfl)
          · exact ⟨x, Roster.join_kept s.calls k _ x old, unfreed'⟩
          · exact ⟨_, by simp, unfreed⟩
        · rintro ⟨x, here, unfreed'⟩
          rcases Roster.join_cases s.calls k _ x here with ⟨same, _⟩ | ⟨_, old⟩
          · exact .inr same
          · exact .inl ⟨x, old, unfreed'⟩
      · rw [List.length_append, List.length_singleton]
        omega

theorem stop_rest (e : Exchange) (cause : Cause) :
    (e.stop cause).promise = e.promise ∧ (e.stop cause).freed = e.freed ∧ (e.stop cause).timedOut = e.timedOut ∧
      (e.stop cause).settlement = e.settlement := by
  by_cases aborted : e.aborted = true
  · rw [Exchange.stop, if_pos aborted]
    exact ⟨rfl, rfl, rfl, rfl⟩
  · rw [Exchange.stop, if_neg aborted]
    exact ⟨rfl, rfl, rfl, rfl⟩

theorem close_at (s : Client) (k : ℕ) (x : Exchange) (here : s.close.calls[k]? = some x) :
    ∃ old, s.calls[k]? = some old ∧ (x = old ∨ x = old.stop .close) := by
  rw [Client.close, List.getElem?_mapIdx] at here
  obtain ⟨old, found, rfl⟩ := Option.map_eq_some_iff.mp here
  refine ⟨old, found, ?_⟩
  split_ifs
  · exact .inr rfl
  · exact .inl rfl

theorem close_sound (c : Setting) (s : Client) (sound : s.Sound c) : s.close.Sound c := by
  refine ⟨?_, sound.apart, ?_, sound.bounded⟩
  · intro k x here
    obtain ⟨old, found, same | stopped⟩ := close_at s k x here
    · exact same ▸ sound.each k old found
    · exact stopped ▸ stop_sound c.maxResponse old .close nofun (sound.each k old found)
  · intro k
    change k ∈ s.active ↔ _
    rw [sound.slots]
    constructor
    · rintro ⟨old, found, unfreed⟩
      have here : s.close.calls[k]? = some (if s.active.contains k then old.stop .close else old) := by
        rw [Client.close, List.getElem?_mapIdx, found]
        rfl
      refine ⟨_, here, ?_⟩
      split_ifs
      · exact (stop_rest old .close).2.1.trans unfreed
      · exact unfreed
    · rintro ⟨x, here, unfreed⟩
      obtain ⟨old, found, same | stopped⟩ := close_at s k x here
      · exact ⟨old, found, same ▸ unfreed⟩
      · rw [stopped, (stop_rest old .close).2.1] at unfreed
        exact ⟨old, found, unfreed⟩

structure Kept (x x' : Exchange) (freed : ℕ) : Prop where
  promise : ∀ p, x.promise = some p → x'.promise = some p
  freed : x'.freed = x.freed + freed

theorem resolve_kept (x y : Exchange) (r : Result Response) (how : Settlement) (same : y.promise = x.promise ∧ y.freed = x.freed) :
    Kept x (y.resolve r how) 0 := by
  refine ⟨fun p answered => ?_, (resolve_rest y r how).2.2.2.2.trans same.2⟩
  rw [← same.1] at answered
  have resolved : y.promise.isSome = true := by rw [answered]; rfl
  rwa [Exchange.resolve, if_pos resolved]

theorem stop_kept (x y : Exchange) (cause : Cause) (same : y.promise = x.promise ∧ y.freed = x.freed) : Kept x (y.stop cause) 0 := by
  obtain ⟨promise, freed, _⟩ := stop_rest y cause
  exact ⟨fun p answered => (promise.trans same.1).trans answered, freed.trans same.2⟩

theorem data_kept (maxResponse : ℕ) (x : Exchange) (r : Incoming) (chunk : Bytes) : Kept x (x.data maxResponse r chunk) 0 := by
  by_cases large : maxResponse < r.size + chunk.length
  · rw [Exchange.data, if_pos large]
    exact resolve_kept x _ _ _ ⟨rfl, rfl⟩
  · rw [Exchange.data, if_neg large]
    exact ⟨fun _ => id, rfl⟩

theorem step_kept (maxResponse : ℕ) (x x' : Exchange) (e : ExchangeEvent) (moved : x.step maxResponse e = some x') :
    Kept x x' (if e.isResume then 1 else 0) := by
  cases exchange_turn maxResponse x x' e moved with
  | errored e other =>
      rw [other]
      exact resolve_kept x _ _ _ ⟨rfl, rfl⟩
  | data chunk r _ _ _ => exact data_kept maxResponse x r chunk
  | ends complete r _ _ _ => exact resolve_kept x _ _ _ ⟨rfl, rfl⟩
  | timer | abort => exact stop_kept x _ _ ⟨rfl, rfl⟩
  | response _ _ _ | cut _ _ _ | resume _ _ => exact ⟨fun _ => id, rfl⟩

theorem event_sound (c : Setting) (s : Client) (k : ℕ) (x x' : Exchange) (e : ExchangeEvent) (sound : s.Sound c)
    (here : s.calls[k]? = some x) (moved : x.step c.maxResponse e = some x') :
    Client.Sound c { s with calls := s.calls.set k x', active := if e.isResume then s.active.erase k else s.active } := by
  have next := exchange_step_sound c.maxResponse x x' e (sound.each k x here) moved
  have kept := step_kept c.maxResponse x x' e moved
  have now := Roster.set_at s.calls k x x' here
  refine ⟨?_, ?_, ?_, ?_⟩
  · intro j y there
    rcases Roster.set_cases s.calls k j x' y there with ⟨_, rfl⟩ | ⟨_, old⟩
    · exact next
    · exact sound.each j y old
  · dsimp only
    split_ifs
    · exact sound.apart.erase k
    · exact sound.apart
  · intro j
    dsimp only
    rw [now j]
    cases resumes : e.isResume with
    | false =>
        rw [resumes, if_neg Bool.false_ne_true] at kept
        rw [if_neg Bool.false_ne_true, sound.slots]
        by_cases same : j = k
        · rw [if_pos same, same, here]
          simp [kept.freed]
        · rw [if_neg same]
    | true =>
        rw [resumes, if_pos rfl] at kept
        rw [if_pos rfl, sound.apart.mem_erase_iff, sound.slots]
        by_cases same : j = k
        · rw [if_pos same]
          simp [same, kept.freed]
        · rw [if_neg same]
          exact and_iff_right same
  · dsimp only
    split_ifs
    · exact (List.length_erase_le).trans sound.bounded
    · exact sound.bounded

theorem client_step_sound (c : Setting) (s t : Client) (event : ClientEvent) (sound : s.Sound c) (moved : c.step s event = some t) :
    t.Sound c := by
  cases event with
  | call input signal throws =>
      cases moved
      exact call_sound c s input signal throws sound
  | event k e =>
      obtain ⟨x, here, moved⟩ := Option.bind_eq_some_iff.mp moved
      obtain ⟨x', stepped, rfl⟩ := Option.map_eq_some_iff.mp moved
      exact event_sound c s k x x' e sound here stepped
  | close =>
      cases moved
      exact close_sound c s sound

theorem client_sound (c : Setting) (s : Client) (reached : c.machine.Reachable s) : s.Sound c := by
  apply c.machine.invariant (Client.Sound c) _ _ s reached
  · refine ⟨?_, List.nodup_nil, fun k => ⟨fun listed => absurd listed List.not_mem_nil, ?_⟩, Nat.zero_le 64⟩
    · intro k x here
      cases here
    · intro joined
      obtain ⟨x, here, _⟩ := joined
      cases here
  · intro s t event _ sound moved
    exact client_step_sound c s t event sound moved

end N2F.HttpClient
