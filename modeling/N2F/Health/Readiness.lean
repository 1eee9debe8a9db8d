import N2F.Health.Gate
import N2F.Roster

set_option autoImplicit false

namespace N2F.Health

open Ecma

def passed (checks : ℕ) : List Mark := (List.range checks).flatMap fun check => [.called check, .succeeded check]

theorem passed_succ (checks : ℕ) : passed (checks + 1) = passed checks ++ [.called checks] ++ [.succeeded checks] := by
  simp [passed, List.range_succ]

structure Probe.Good (c : Config) (p : Probe) : Prop where
  began : p.ended = none → p.began = .serving
  called : ∀ check, p.work = .calling check → p.marks = passed check ++ [.called check]
  awaited : ∀ check, p.work = .awaiting check → p.marks = passed check ++ [.called check]
  won : p.raced = some true → p.work = .done ∧ p.marks = passed c.checks ∧ p.fired = false
  fired : p.fired = true → p.raced ≠ none
  honest : ∀ e, p.ended = some e → e.result = true →
    p.raced = some true ∧ p.began = .serving ∧ e.phase = .serving ∧ e.aborted = false

theorem settled_false (raced : Option Bool) (won : raced.or (some false) = some true) : raced = some true := by
  cases raced with
  | none => cases won
  | some result => exact won

theorem settle_false_good (c : Config) (p : Probe) (good : p.Good c) (live : p.running = true) : (p.settle false).Good c := by
  refine ⟨good.began, nofun, nofun, fun won => ?_, fun fired => ?_, fun e ended yes => ?_⟩
  · have before := good.won (settled_false p.raced won)
    rw [Probe.running, before.1] at live
    cases live
  · cases raced : p.raced with
    | none => exact absurd raced (good.fired fired)
    | some result => simp [Probe.settle, raced]
  · have before := good.won (good.honest e ended yes).1
    rw [Probe.running, before.1] at live
    cases live

theorem stop_good (c : Config) (p : Probe) (good : p.Good c) (unended : p.ended = none) : p.stop.Good c := by
  refine ⟨good.began, good.called, good.awaited, fun won => good.won (settled_false p.raced won), fun fired => ?_, fun e ended => ?_⟩
  · cases raced : p.raced with
    | none => exact absurd raced (good.fired fired)
    | some result => simp [Probe.stop, raced]
  · cases unended.symm.trans ended

theorem advance_good (c : Config) (p : Probe) (check : ℕ) (good : p.Good c) (reached : p.marks = passed check)
    (undecided : p.raced ≠ some true) : (p.advance c check).Good c := by
  have unanswered (e : Ending) (ended : p.ended = some e) (yes : e.result = true) : False := undecided (good.honest e ended yes).1
  have lost (fired : p.fired = true) : p.raced = some false := by
    cases raced : p.raced with
    | none => exact absurd raced (good.fired fired)
    | some result =>
        cases result with
        | true => exact absurd raced undecided
        | false => rfl
  have settled (result : Bool) (fired : p.fired = true) : p.raced.or (some result) ≠ none := by simp [lost fired]
  rw [Probe.advance]
  by_cases last : check = c.checks
  · rw [if_pos last]
    refine ⟨good.began, nofun, nofun, fun won => ⟨rfl, by rw [← last]; exact reached, ?_⟩, settled true,
      fun e ended yes => (unanswered e ended yes).elim⟩
    by_contra late
    have fired := lost (Bool.of_not_eq_false late)
    rw [Probe.settle, fired] at won
    cases won
  · rw [if_neg last]
    by_cases canceled : p.canceled = true
    · rw [if_pos canceled]
      exact ⟨good.began, nofun, nofun, fun won => absurd (settled_false p.raced won) undecided, settled false,
        fun e ended yes => (unanswered e ended yes).elim⟩
    · rw [if_neg canceled]
      refine ⟨good.began, fun other same => ?_, nofun, fun won => absurd won undecided, good.fired,
        fun e ended yes => (unanswered e ended yes).elim⟩
      cases same
      exact congrArg (· ++ [Mark.called check]) reached

theorem running_open (c : Config) (p : Probe) (good : p.Good c) (live : p.work ≠ .done) : p.raced ≠ some true :=
  fun won => live (good.won won).1

inductive Probe.Moves (c : Config) (s : Gate) (p : Probe) : ProbeEvent → Probe → Prop where
  | timeout (unended : p.ended = none) (undecided : p.raced = none) : Moves c s p .timeout { p.stop with fired := true }
  | returned (check : ℕ) (standing : p.work = .calling check) : Moves c s p .returned { p with work := .awaiting check }
  | threw (check : ℕ) (standing : p.work = .calling check) : Moves c s p .threw (p.settle false)
  | succeeded (check : ℕ) (standing : p.work = .awaiting check) :
      Moves c s p (.settled .succeeded) (Probe.advance c { p with marks := p.marks ++ [.succeeded check] } (check + 1))
  | failed (outcome : Outcome) (check : ℕ) (standing : p.work = .awaiting check) (other : outcome ≠ .succeeded) :
      Moves c s p (.settled outcome) (p.settle false)
  | answer (raced : Bool) (decided : p.raced = some raced) (unended : p.ended = none) :
      Moves c s p .answer
        { p with ended := some ⟨raced && s.phase = .serving && !s.isAborted p.signal, s.phase, s.isAborted p.signal⟩ }

theorem probe_moves (c : Config) (s : Gate) (p q : Probe) (e : ProbeEvent) (moved : p.step c s e = some q) : p.Moves c s e q := by
  cases e with
  | timeout =>
      rw [Probe.step] at moved
      split_ifs at moved with pending
      cases moved
      exact .timeout pending.1 pending.2
  | returned =>
      rw [Probe.step] at moved
      split at moved
      · next check standing =>
          cases moved
          exact .returned check standing
      · cases moved
      · cases moved
  | threw =>
      rw [Probe.step] at moved
      split at moved
      · next check standing =>
          cases moved
          exact .threw check standing
      · cases moved
      · cases moved
  | settled outcome =>
      rw [Probe.step] at moved
      split at moved
      · next check standing =>
          by_cases success : outcome = .succeeded
          · rw [if_pos success] at moved
            cases moved
            exact success ▸ .succeeded check standing
          · rw [if_neg success] at moved
            cases moved
            exact .failed outcome check standing success
      · cases moved
      · cases moved
  | answer =>
      rw [Probe.step] at moved
      split at moved
      · next raced decided unended =>
          cases moved
          exact .answer raced decided unended
      · cases moved

theorem step_good (c : Config) (s : Gate) (p q : Probe) (e : ProbeEvent) (good : p.Good c) (moved : p.step c s e = some q) :
    q.Good c := by
  cases probe_moves c s p q e moved with
  | timeout unended undecided =>
      have stopped := stop_good c p good unended
      refine ⟨stopped.began, stopped.called, stopped.awaited, fun won => ?_, fun _ => ?_, stopped.honest⟩
      · rw [Probe.stop, undecided] at won
        cases won
      · simp [Probe.stop, undecided]
  | returned check standing =>
      refine ⟨good.began, nofun, fun other same => ?_, fun won => ?_, good.fired, good.honest⟩
      · cases same
        exact good.called check standing
      · cases standing.symm.trans (good.won won).1
  | threw check standing => exact settle_false_good c p good (by rw [Probe.running, standing]; rfl)
  | succeeded check standing =>
      have undecided := running_open c p good (by rw [standing]; nofun)
      have marked : ({ p with marks := p.marks ++ [.succeeded check], work := .done } : Probe).Good c :=
        ⟨good.began, nofun, nofun, fun won => absurd won undecided, good.fired, good.honest⟩
      exact advance_good c { p with marks := p.marks ++ [.succeeded check], work := .done } (check + 1) marked
        (by rw [passed_succ, good.awaited check standing]) undecided
  | failed outcome check standing _ => exact settle_false_good c p good (by rw [Probe.running, standing]; rfl)
  | answer raced decided unended =>
      refine ⟨nofun, good.called, good.awaited, good.won, good.fired, fun e ended yes => ?_⟩
      cases ended
      simp only [Bool.and_eq_true, decide_eq_true_eq, Bool.not_eq_true'] at yes
      exact ⟨decided.trans (congrArg some yes.1.1), good.began unended, yes.1.2, yes.2⟩

theorem step_running (c : Config) (s : Gate) (p q : Probe) (e : ProbeEvent) (moved : p.step c s e = some q)
    (live : q.running = true) : p.running = true := by
  cases probe_moves c s p q e moved with
  | timeout _ _ | answer _ _ _ => exact live
  | returned _ standing | threw _ standing | succeeded _ standing | failed _ _ standing _ =>
      rw [Probe.running, standing]
      rfl

structure Owned (s : Gate) : Prop where
  single : ∀ (i j : ℕ) (p q : Probe), s.probes[i]? = some p → s.probes[j]? = some q → p.running = true → q.running = true → i = j
  busy : s.busy = true ↔ ∃ (i : ℕ) (p : Probe), s.probes[i]? = some p ∧ p.running = true

structure Sound (c : Config) (s : Gate) : Prop where
  good : ∀ p ∈ s.probes, p.Good c
  owned : Owned s

theorem idle_joined (s t : Gate) (p : Probe) (owned : Owned s) (idle : p.running = false) (joined : t.probes = s.probes ++ [p])
    (busy : t.busy = s.busy) : Owned t := by
  have older (i : ℕ) (q : Probe) (here : t.probes[i]? = some q) (live : q.running = true) : s.probes[i]? = some q := by
    rw [joined] at here
    rcases Roster.join_cases s.probes i p q here with ⟨_, same⟩ | ⟨_, old⟩
    · rw [same, idle] at live
      cases live
    · exact old
  refine ⟨fun i j q r here there live live' => owned.single i j q r (older i q here live) (older j r there live') live live', ?_⟩
  rw [busy, owned.busy]
  constructor
  · rintro ⟨i, q, here, live⟩
    refine ⟨i, q, ?_, live⟩
    rw [joined]
    exact Roster.join_kept s.probes i p q here
  · rintro ⟨i, q, here, live⟩
    exact ⟨i, q, older i q here live, live⟩

theorem fresh_joined (s t : Gate) (p : Probe) (owned : Owned s) (free : s.busy = false) (joined : t.probes = s.probes ++ [p])
    (busy : t.busy = p.running) : Owned t := by
  have newest (i : ℕ) (q : Probe) (here : t.probes[i]? = some q) (live : q.running = true) : i = s.probes.length ∧ q = p := by
    rw [joined] at here
    rcases Roster.join_cases s.probes i p q here with same | ⟨_, old⟩
    · exact same
    · rw [owned.busy.mpr ⟨i, q, old, live⟩] at free
      cases free
  refine ⟨fun i j q r here there live live' => (newest i q here live).1.trans (newest j r there live').1.symm, ?_⟩
  rw [busy]
  constructor
  · intro live
    refine ⟨s.probes.length, p, ?_, live⟩
    rw [joined, List.getElem?_append_right (Nat.le_refl _), Nat.sub_self, List.getElem?_cons_zero]
  · rintro ⟨i, q, here, live⟩
    rw [← (newest i q here live).2]
    exact live

theorem put_owned (s : Gate) (i : ℕ) (p q : Probe) (owned : Owned s) (found : s.probes[i]? = some p)
    (later : q.running = true → p.running = true) : Owned (s.put i p q) := by
  have before (j : ℕ) (r : Probe) (here : (s.put i p q).probes[j]? = some r) (live : r.running = true) :
      ∃ old, s.probes[j]? = some old ∧ old.running = true := by
    rcases Roster.set_cases s.probes i j q r here with ⟨same, moved⟩ | ⟨_, old⟩
    · exact ⟨p, same ▸ found, later (moved ▸ live)⟩
    · exact ⟨r, old, live⟩
  refine ⟨fun j k r r' here there live live' => ?_, ?_⟩
  · obtain ⟨old, here, live⟩ := before j r here live
    obtain ⟨old', there, live'⟩ := before k r' there live'
    exact owned.single j k old old' here there live live'
  · have put : (s.put i p q).busy = if p.running && !q.running then false else s.busy := rfl
    rw [put]
    by_cases ends : (p.running && !q.running) = true
    · rw [if_pos ends]
      simp only [Bool.and_eq_true, Bool.not_eq_true'] at ends
      constructor
      · nofun
      · rintro ⟨j, r, here, live⟩
        rcases Roster.set_cases s.probes i j q r here with ⟨_, moved⟩ | ⟨other, old⟩
        · rw [moved, ends.2] at live
          cases live
        · exact absurd (owned.single j i r p old found live ends.1) other
    · rw [if_neg ends, owned.busy]
      constructor
      · rintro ⟨j, r, here, live⟩
        by_cases same : j = i
        · subst same
          have own : r = p := Option.some.inj (here.symm.trans found)
          subst own
          refine ⟨j, q, Roster.set_self s.probes j r q found, ?_⟩
          by_contra idle
          exact ends (by rw [live, Bool.of_not_eq_true idle]; rfl)
        · refine ⟨j, r, ?_, live⟩
          exact (List.getElem?_set_ne fun own => same own.symm).trans here
      · rintro ⟨j, r, here, live⟩
        obtain ⟨old, here, live⟩ := before j r here live
        exact ⟨j, old, here, live⟩

theorem refused_good (c : Config) (signal : Option ℕ) (phase : Phase) (aborted : Bool) : (Probe.refused signal phase aborted).Good c :=
  ⟨nofun, nofun, nofun, nofun, nofun, fun e ended yes => by cases ended; cases yes⟩

theorem admitted_good (c : Config) (signal : Option ℕ) : (Probe.admitted c signal .serving).Good c :=
  advance_good c _ 0 ⟨fun _ => rfl, nofun, nofun, nofun, nofun, nofun⟩ rfl nofun

theorem admits_parts (s : Gate) (signal : Option ℕ) (admits : s.admits signal = true) :
    s.phase = .serving ∧ s.busy = false ∧ s.isAborted signal = false := by
  simpa [Gate.admits, and_assoc] using admits

theorem abort_owned (s : Gate) (signal : ℕ) (owned : Owned s) : Owned (s.abort signal) := by
  rw [Gate.abort]
  by_cases again : s.aborted.contains signal = true
  · rw [if_pos again]
    exact owned
  · rw [if_neg again]
    have runs (p : Probe) : (if p.signal = some signal ∧ p.ended = none then p.stop else p).running = p.running := by
      split_ifs <;> rfl
    have each (i : ℕ) (f : Probe → Probe) (here : ∀ p, (f p).running = p.running) :
        (∃ q, (s.probes.map f)[i]? = some q ∧ q.running = true) ↔ ∃ p, s.probes[i]? = some p ∧ p.running = true := by
      rw [List.getElem?_map]
      cases s.probes[i]? with
      | none => simp
      | some p => simp [here]
    refine ⟨fun i j p q here there live live' => ?_, owned.busy.trans (exists_congr fun i => ((each i _ runs).symm))⟩
    obtain ⟨old, here, live⟩ := (each i _ runs).mp ⟨p, here, live⟩
    obtain ⟨old', there, live'⟩ := (each j _ runs).mp ⟨q, there, live'⟩
    exact owned.single i j old old' here there live live'

theorem abort_good (c : Config) (s : Gate) (signal : ℕ) (good : ∀ p ∈ s.probes, p.Good c) : ∀ p ∈ (s.abort signal).probes, p.Good c := by
  rw [Gate.abort]
  by_cases again : s.aborted.contains signal = true
  · rw [if_pos again]
    exact good
  · rw [if_neg again]
    intro q member
    obtain ⟨p, inside, same⟩ := List.mem_map.mp member
    rw [← same]
    by_cases listens : p.signal = some signal ∧ p.ended = none
    · rw [if_pos listens]
      exact stop_good c p (good p inside) listens.2
    · rw [if_neg listens]
      exact good p inside

theorem step_sound (c : Config) (s t : Gate) (e : Event) (sound : Sound c s) (moved : step c s e = some t) : Sound c t := by
  cases e with
  | start =>
      cases moved
      rw [Gate.start]
      split_ifs
      · exact ⟨sound.good, sound.owned.single, sound.owned.busy⟩
      · exact sound
  | drain =>
      cases moved
      exact ⟨sound.good, sound.owned.single, sound.owned.busy⟩
  | ready signal =>
      cases moved
      rw [Gate.ready]
      by_cases admits : s.admits signal = true
      · rw [if_pos admits]
        obtain ⟨serving, free, _⟩ := admits_parts s signal admits
        refine ⟨fun p member => ?_, fresh_joined s _ _ sound.owned free rfl rfl⟩
        rcases List.mem_append.mp member with old | new
        · exact sound.good p old
        · rw [List.mem_singleton.mp new, serving]
          exact admitted_good c signal
      · rw [if_neg admits]
        refine ⟨fun p member => ?_, idle_joined s _ _ sound.owned rfl rfl rfl⟩
        rcases List.mem_append.mp member with old | new
        · exact sound.good p old
        · rw [List.mem_singleton.mp new]
          exact refused_good c signal _ _
  | abort signal =>
      cases moved
      exact ⟨abort_good c s signal sound.good, abort_owned s signal sound.owned⟩
  | on i e =>
      obtain ⟨p, found, moved⟩ := Option.bind_eq_some_iff.mp moved
      obtain ⟨q, stepped, same⟩ := Option.map_eq_some_iff.mp moved
      rw [← same]
      have inside := List.mem_of_getElem? found
      refine ⟨fun r member => ?_, put_owned s i p q sound.owned found (step_running c s p q e stepped)⟩
      rcases List.mem_or_eq_of_mem_set member with old | new
      · exact sound.good r old
      · rw [new]
        exact step_good c s p q e (sound.good p inside) stepped

theorem new_sound (c : Config) : Sound c Gate.new := by
  refine ⟨fun p member => ?_, fun i j p q here => ?_, ?_⟩
  · cases member
  · cases here
  · constructor
    · intro busy
      cases busy
    · rintro ⟨i, p, here, _⟩
      cases here

theorem reachable_sound (c : Config) (s : Gate) (reached : (machine c).Reachable s) : Sound c s :=
  (machine c).invariant (Sound c) (new_sound c) (fun s t e _ sound moved => step_sound c s t e sound moved) s reached

structure Drained (s t : Gate) : Prop where
  phase : t.phase = .draining
  starts : t.starts = s.starts
  answers : ∀ (i : ℕ) (q : Probe) (e : Ending), t.probes[i]? = some q → q.ended = some e → e.result = true →
    ∃ p, s.probes[i]? = some p ∧ p.ended = some e

theorem step_ended (c : Config) (s : Gate) (p q : Probe) (e : ProbeEvent) (ending : Ending) (moved : p.step c s e = some q)
    (ended : q.ended = some ending) (yes : ending.result = true) : p.ended = some ending ∨ s.phase = .serving := by
  cases probe_moves c s p q e moved with
  | timeout _ _ | returned _ _ | threw _ _ | failed _ _ _ _ => exact .inl ended
  | succeeded check _ =>
      rw [Probe.advance] at ended
      split_ifs at ended
      · exact .inl ended
      · exact .inl ended
      · exact .inl ended
  | answer raced _ _ =>
      cases ended
      simp only [Bool.and_eq_true, decide_eq_true_eq] at yes
      exact .inr yes.1.2

theorem drained_step (c : Config) (r s t : Gate) (e : Event) (drained : Drained r s) (moved : step c s e = some t) : Drained r t := by
  have phase := drained.phase
  cases e with
  | start =>
      cases moved
      rw [Gate.start, if_neg (by rw [phase]; nofun)]
      exact drained
  | drain =>
      cases moved
      exact ⟨rfl, drained.starts, drained.answers⟩
  | ready signal =>
      cases moved
      rw [Gate.ready, if_neg (by simp [Gate.admits, phase])]
      refine ⟨phase, drained.starts, fun i q ending here ended yes => ?_⟩
      rcases Roster.join_cases s.probes i _ q here with ⟨_, same⟩ | ⟨_, old⟩
      · rw [same] at ended
        cases ended
        cases yes
      · exact drained.answers i q ending old ended yes
  | abort signal =>
      cases moved
      rw [Gate.abort]
      split_ifs
      · exact drained
      · refine ⟨phase, drained.starts, fun i q ending here ended yes => ?_⟩
        rw [List.getElem?_map] at here
        obtain ⟨p, found, same⟩ := Option.map_eq_some_iff.mp here
        refine drained.answers i p ending found ?_ yes
        rw [← same] at ended
        split_ifs at ended
        · exact ended
        · exact ended
  | on i e =>
      obtain ⟨p, found, moved⟩ := Option.bind_eq_some_iff.mp moved
      obtain ⟨q, stepped, same⟩ := Option.map_eq_some_iff.mp moved
      rw [← same]
      refine ⟨phase, drained.starts, fun j q' ending here ended yes => ?_⟩
      rcases Roster.set_cases s.probes i j q q' here with ⟨own, now⟩ | ⟨_, old⟩
      · rw [now] at ended
        rcases step_ended c s p q e ending stepped ended yes with before | serving
        · exact drained.answers j p ending (own ▸ found) before yes
        · cases phase.symm.trans serving
      · exact drained.answers j q' ending old ended yes

structure Safe (c : Config) (s : Gate) : Prop where
  single : ∀ (i j : ℕ) (p q : Probe), s.probes[i]? = some p → s.probes[j]? = some q → p.running = true → q.running = true → i = j
  ready : ∀ p ∈ s.probes, ∀ e, p.ended = some e → e.result = true →
    p.began = .serving ∧ e.phase = .serving ∧ p.marks = passed c.checks ∧ p.fired = false ∧ e.aborted = false
  drained : s.phase = .draining → ∀ actions t, (machine c).run s actions = some t → Drained s t
  admitted : s.phase = .serving → (∀ p ∈ s.probes, p.running = false) → ∀ signal, s.isAborted signal = false →
    ∃ t, step c s (.ready signal) = some t ∧ t.probes = s.probes ++ [Probe.admitted c signal .serving]

theorem gate_safe (c : Config) (s : Gate) (reached : (machine c).Reachable s) : Safe c s := by
  have sound := reachable_sound c s reached
  refine ⟨sound.owned.single, fun p member e ended yes => ?_, fun draining actions t ran => ?_, fun serving idle signal unaborted => ?_⟩
  · obtain ⟨won, began, phase, aborted⟩ := (sound.good p member).honest e ended yes
    obtain ⟨_, marks, fired⟩ := (sound.good p member).won won
    exact ⟨began, phase, marks, fired, aborted⟩
  · have starts : Drained s s := ⟨draining, rfl, fun i q e here ended _ => ⟨q, here, ended⟩⟩
    exact (machine c).run_keeps (Drained s) (fun u v e drained moved => drained_step c s u v e drained moved) s t actions starts ran
  · have free : s.busy = false := by
      by_contra taken
      obtain ⟨i, p, here, live⟩ := sound.owned.busy.mp (Bool.of_not_eq_false taken)
      rw [idle p (List.mem_of_getElem? here)] at live
      cases live
    have admits : s.admits signal = true := by simp [Gate.admits, serving, free, unaborted]
    refine ⟨s.ready c signal, rfl, ?_⟩
    rw [Gate.ready, if_pos admits, serving]

theorem second_accepted : refusesConfiguration (Number.ofInt 1000) 1 = false := by
  have value := of_int_rational 1000 (by norm_num)
  rw [refusesConfiguration, Number.isInteger, below_rational _ _ _ value, above_rational _ _ _ value, value]
  norm_num

def demoConfig : Config := ⟨Number.ofInt 1000, 1, second_accepted⟩

def demoEvents : List Event := [.start, .ready none, .on 0 .returned, .on 0 (.settled .succeeded), .on 0 .answer]

def demoProbe : Probe := ⟨none, .serving, .done, false, some true, false, [.called 0, .succeeded 0], some ⟨true, .serving, false⟩⟩

theorem gate_safe_demo : Safe demoConfig ⟨.serving, false, [], [demoProbe], 1⟩ :=
  gate_safe demoConfig _ ((machine demoConfig).run_reachable _ _ demoEvents .start rfl)

end N2F.Health
