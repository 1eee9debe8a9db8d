import N2F.Logger.Session

set_option autoImplicit false

namespace N2F.Logger

open Ecma

-- What is left of an emission, a session or a call without the contents of secrets.
-- A bound logger only keeps snapshots, so nothing in it is blanked.
def Emission.blank (e : Emission) : Emission := { e with fields := e.fields.blank }

def Session.blank (s : Session) : Session := { s with pending := s.pending.map fun p => (p.1, p.2.blank) }

def Call.blank : Call → Call
  | .with logger fields => .with logger fields.blank
  | .emit logger severity message fields => .emit logger severity message fields.blank
  | .withScope logger scope => .withScope logger scope
  | .withTrace logger ref => .withTrace logger ref
  | .withError logger error => .withError logger error
  | .encode number reading => .encode number reading
  | .output e => .output e

theorem with_blank (l : BoundLogger) (fields : Field) : l.with fields.blank = l.with fields := by
  rw [BoundLogger.with, BoundLogger.with, snapshot_blank]

theorem encoding_blank (k : Console) (e : Emission) (reading : Date) : e.blank.encoding k reading = e.encoding k reading := by
  have record (ms : ℤ) : e.blank.record ms = e.record ms := by
    rw [Emission.record, Emission.record, Emission.blank, snapshot_blank]
  simp only [Emission.encoding, record]
  rfl

theorem emit_blank (k : Console) (s : Session) (e : Emission) : (s.emit k e).blank = s.blank.emit k e.blank := by
  by_cases dropped : rank e.severity < rank k.level ∨ s.runtime.delivery.closed = true
  · have blank : rank e.blank.severity < rank k.level ∨ s.blank.runtime.delivery.closed = true := dropped
    rw [Session.emit, Session.emit, if_pos dropped, if_pos blank]
    rfl
  · have blank : ¬ (rank e.blank.severity < rank k.level ∨ s.blank.runtime.delivery.closed = true) := dropped
    rw [Session.emit, Session.emit, if_neg dropped, if_neg blank]
    rfl

theorem adds_blank (s : Session) (l : Result BoundLogger) : (s.adds l).blank = s.blank.adds l := by
  cases l with
  | ok l => rfl
  | error e => rfl

theorem output_blank (k : Console) (s : Session) (e : Event) : (s.output k e).map Session.blank = s.blank.output k e := by
  rw [Session.output, Session.output, Option.map_map]
  rfl

theorem find_blank (pending : List (ℕ × Emission)) (number : ℕ) :
    (pending.map fun p => (p.1, p.2.blank)).find? (fun p => p.1 = number) =
      (pending.find? fun p => p.1 = number).map fun p => (p.1, p.2.blank) := by
  rw [List.find?_map]
  rfl

theorem filter_blank (pending : List (ℕ × Emission)) (number : ℕ) :
    (pending.map fun p => (p.1, p.2.blank)).filter (fun p => p.1 ≠ number) =
      (pending.filter fun p => p.1 ≠ number).map fun p => (p.1, p.2.blank) := by
  rw [List.filter_map]
  rfl

theorem encode_blank (k : Console) (s : Session) (number : ℕ) (reading : Date) :
    (s.encode k number reading).map Session.blank = s.blank.encode k number reading := by
  rw [Session.encode, Session.encode]
  have found := find_blank s.pending number
  have others := filter_blank s.pending number
  cases here : s.pending.find? fun p => p.1 = number with
  | none =>
      rw [here] at found
      rw [show s.blank.pending.find? _ = _ from found]
      rfl
  | some p =>
      rw [here] at found
      rw [show s.blank.pending.find? _ = _ from found, Option.bind_some, Option.map_some, Option.bind_some, output_blank,
        encoding_blank]
      rw [show s.blank.pending.filter _ = _ from others]
      rfl

theorem session_blind (k : Console) : (session k).Blind (fun _ => True) Session.blank Call.blank := by
  intro s c _
  have here (logger : ℕ) : s.blank.loggers[logger]? = s.loggers[logger]? := rfl
  cases c with
  | «with» logger fields =>
      simp only [session, Session.step, Call.blank, Option.map_map, here, with_blank]
      rfl
  | withScope logger scope =>
      simp only [session, Session.step, Call.blank, Option.map_map, here, Function.comp_def, adds_blank]
  | withTrace logger ref =>
      simp only [session, Session.step, Call.blank, Option.map_map, here, Function.comp_def, adds_blank]
  | withError logger error =>
      simp only [session, Session.step, Call.blank, Option.map_map, here]
      rfl
  | emit logger severity message fields =>
      simp only [session, Session.step, Call.blank, Option.map_map, here, Function.comp_def, emit_blank]
      rfl
  | encode number reading => exact encode_blank k s number reading
  | output e =>
      simp only [session, Session.step, Call.blank]
      by_cases foreign : isOutput e = true
      · rw [if_pos foreign, if_pos foreign, output_blank]
      · rw [if_neg foreign, if_neg foreign]
        rfl

theorem secrets_unseen (k : Console) (first second : List Call) (alike : first.map Call.blank = second.map Call.blank) :
    ((session k).run Session.start first).map Session.runtime = ((session k).run Session.start second).map Session.runtime := by
  have same := (session k).blind_runs _ Session.blank Call.blank (session_blind k) (fun _ _ _ _ _ => trivial) Session.start first second
    trivial alike
  have runtimes := congrArg (Option.map Session.runtime) same
  rw [Option.map_map, Option.map_map] at runtimes
  exact runtimes

theorem demo_roomy : 1 ≤ 1 := Nat.le_refl 1

def demoConsole : Console := ⟨⟨.info, 1, 1000, false, demo_roomy⟩, str "api", false⟩

def demoCalls (content : Str) : List Call :=
  [.with 0 (.record 0 true [(str "token", true, some (.secret content))]),
    .emit 1 .info (str "hi") (.record 0 true [(str "tried", true, some (.array 1 [some (.secret content)]))]), .encode 0 (.time 0)]

theorem secrets_unseen_demo : ((session demoConsole).run Session.start (demoCalls (str "a"))).map Session.runtime =
    ((session demoConsole).run Session.start (demoCalls (str "other"))).map Session.runtime :=
  secrets_unseen demoConsole _ _ rfl

example : ((session demoConsole).run Session.start (demoCalls (str "a"))).map (fun s => s.runtime.delivery.handed) =
    some ["00:00:00.000 INFO api hi \x7b\"fields\":\x7b\"token\":\"[REDACTED]\",\"tried\":[\"[REDACTED]\"]\x7d\x7d\n".toList] := by
  decide +kernel

theorem output_runtime (k : Console) (s t : Session) (e : Event) (moved : s.output k e = some t) :
    step k.toConfig s.runtime e = some t.runtime := by
  obtain ⟨r, stepped, same⟩ := Option.map_eq_some_iff.mp moved
  rw [stepped, ← same]

theorem session_runtime (k : Console) : (machine k.toConfig).Simulates (session k) Session.runtime := by
  refine ⟨rfl, fun s t c _ moved => ?_⟩
  cases c with
  | «with» logger fields =>
      obtain ⟨l, _, same⟩ := Option.map_eq_some_iff.mp moved
      exact .inl (same ▸ rfl)
  | withScope logger scope =>
      obtain ⟨l, _, same⟩ := Option.map_eq_some_iff.mp moved
      left
      rw [← same]
      cases l.withScope scope <;> rfl
  | withTrace logger ref =>
      obtain ⟨l, _, same⟩ := Option.map_eq_some_iff.mp moved
      left
      rw [← same]
      cases l.withTrace ref <;> rfl
  | withError logger error =>
      obtain ⟨l, _, same⟩ := Option.map_eq_some_iff.mp moved
      exact .inl (same ▸ rfl)
  | emit logger severity message fields =>
      obtain ⟨l, _, same⟩ := Option.map_eq_some_iff.mp moved
      exact .inr ⟨.emit severity, by rw [← same]; rfl⟩
  | encode number reading =>
      obtain ⟨p, _, stepped⟩ := Option.bind_eq_some_iff.mp moved
      exact .inr ⟨_, output_runtime k { s with pending := s.pending.filter fun q => q.1 ≠ number } t _ stepped⟩
  | output e =>
      by_cases foreign : isOutput e = true
      · exact .inr ⟨e, output_runtime k s t e ((if_pos foreign).symm.trans moved)⟩
      · cases (if_neg foreign).symm.trans moved

end N2F.Logger
