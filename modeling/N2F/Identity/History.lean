import N2F.Identity.Principal
import Mathlib.Logic.Function.Iterate

set_option autoImplicit false

namespace N2F.Identity

open Ecma

structure Call where
  status : Status
  expected : Number
  time : Number

def Principal.call (p : Principal) (c : Call) : Result Principal :=
  match c.status with
  | .suspended => p.suspend c.expected c.time
  | .active => p.activate c.expected c.time

def Principal.after (p : Principal) : List Call → Principal
  | [] => p
  | c :: rest =>
      match p.call c with
      | .ok q => q.after rest
      | .error _ => p.after rest

def Principal.successes (p : Principal) : List Call → List Call
  | [] => []
  | c :: rest =>
      match p.call c with
      | .ok q => c :: q.successes rest
      | .error _ => p.successes rest

def Status.other : Status → Status
  | .active => .suspended
  | .suspended => .active

theorem other_of_ne (s t : Status) (differs : s ≠ t) : s = t.other := by
  cases s <;> cases t <;> first | rfl | exact absurd rfl differs

theorem restore_state (p : Principal) : restore (some p.state.draft) = .ok p := by
  unfold restore
  simp only [p.valid.accepted, ↓reduceDIte]
  split
  · next failed =>
      rw [show p.state.draft.id = p.state.id from rfl, p.valid.normal] at failed
      cases failed
  · next id parsed =>
      have same : p.state.id = id := Except.ok.inj (p.valid.normal.symm.trans parsed)
      subst same
      rfl

def Current (p : Principal) (c : Call) : Prop := c.expected.strictEquals p.state.version = true

def Timely (p : Principal) (c : Call) : Prop :=
  c.time.isSafeInteger = true ∧ numeral p.state.updatedAtMs ≤ numeral c.time ∧ numeral c.time ≤ 253402300799999

structure Answers (p : Principal) (c : Call) : Prop where
  success : (∃ q, p.call c = .ok q) ↔
    Current p c ∧ c.status ≠ p.state.status ∧ Timely p c ∧ numeral p.state.version < 2147483647
  version : ¬ Current p c → p.call c = .error (refused "version_conflict")
  state : Current p c → c.status = p.state.status → p.call c = .error (refused "state_conflict")
  time : Current p c → c.status ≠ p.state.status → ¬ Timely p c → p.call c = .error invalid
  ceiling : Current p c → c.status ≠ p.state.status → Timely p c → numeral p.state.version = 2147483647 →
    p.call c = .error (refused "version_exhausted")

theorem call_transition (p : Principal) (c : Call) : p.call c = p.transition c.status c.expected c.time := by
  obtain ⟨status, expected, time⟩ := c
  cases status <;> rfl

theorem timely_untimely (p : Principal) (c : Call) : untimely p.state c.time = false ↔ Timely p c :=
  timely_iff p.state c.time p.accepted.updated

theorem spent_ceiling (p : Principal) : spent p.state = true ↔ numeral p.state.version = 2147483647 :=
  spent_iff p.state p.accepted.counted

theorem call_guards (p : Principal) (c : Call) : p.call c =
    if !c.expected.strictEquals p.state.version then .error (refused "version_conflict")
    else if c.status = p.state.status then .error (refused "state_conflict")
    else if timely : untimely p.state c.time = false then
      if below : spent p.state = false then .ok ⟨p.state.moved c.status c.time, moved_valid p.state c.status c.time p.valid timely below⟩
      else .error (refused "version_exhausted")
    else .error invalid := by
  rw [call_transition, Principal.transition, restore_state]
  exact if_neg nofun

theorem call_answers (p : Principal) (c : Call) : Answers p c := by
  have guards := call_guards p c
  have most := p.bounded.most
  have timely := timely_untimely p c
  have ceiling := spent_ceiling p
  by_cases current : c.expected.strictEquals p.state.version = true
  · rw [current, Bool.not_true, if_neg Bool.false_ne_true] at guards
    by_cases differs : c.status = p.state.status
    · rw [if_pos differs] at guards
      refine ⟨⟨fun success => ?_, fun meets => absurd differs meets.2.1⟩, fun stale => absurd current stale, fun _ _ => guards,
        fun _ other => absurd differs other, fun _ other => absurd differs other⟩
      obtain ⟨q, answered⟩ := success
      cases guards.symm.trans answered
    · rw [if_neg differs] at guards
      by_cases late : untimely p.state c.time = false
      · rw [dif_pos late] at guards
        have inTime := timely.mp late
        by_cases below : spent p.state = false
        · rw [dif_pos below] at guards
          have under : numeral p.state.version ≠ 2147483647 := fun spent => by rw [ceiling.mpr spent] at below; cases below
          exact ⟨⟨fun _ => ⟨current, differs, inTime, by omega⟩, fun _ => ⟨_, guards⟩⟩, fun stale => absurd current stale,
            fun _ same => absurd same differs, fun _ _ early => absurd inTime early, fun _ _ _ spent => absurd spent under⟩
        · rw [dif_neg below] at guards
          have full : numeral p.state.version = 2147483647 := ceiling.mp (Bool.of_not_eq_false below)
          refine ⟨⟨fun success => ?_, fun meets => ?_⟩, fun stale => absurd current stale, fun _ same => absurd same differs,
            fun _ _ early => absurd inTime early, fun _ _ _ _ => guards⟩
          · obtain ⟨q, answered⟩ := success
            cases guards.symm.trans answered
          · omega
      · rw [dif_neg late] at guards
        have early : ¬ Timely p c := fun inTime => late (timely.mpr inTime)
        refine ⟨⟨fun success => ?_, fun meets => absurd meets.2.2.1 early⟩, fun stale => absurd current stale,
          fun _ same => absurd same differs, fun _ _ _ => guards, fun _ _ inTime => absurd inTime early⟩
        obtain ⟨q, answered⟩ := success
        cases guards.symm.trans answered
  · rw [Bool.not_eq_true] at current
    rw [current, Bool.not_false, if_pos rfl] at guards
    have stale : ¬ Current p c := fun now => by rw [Current, current] at now; cases now
    refine ⟨⟨fun success => ?_, fun meets => absurd meets.1 stale⟩, fun _ => guards, fun now => absurd now stale,
      fun now => absurd now stale, fun now => absurd now stale⟩
    obtain ⟨q, answered⟩ := success
    cases guards.symm.trans answered

structure Moved (p : Principal) (c : Call) (q : Principal) : Prop where
  state : q.state = p.state.moved c.status c.time
  status : q.state.status = p.state.status.other
  expected : c.expected.rational = some (numeral p.state.version : ℚ)
  version : numeral q.state.version = numeral p.state.version + 1
  updated : numeral p.state.updatedAtMs ≤ numeral q.state.updatedAtMs

theorem call_moved (p q : Principal) (c : Call) (answered : p.call c = .ok q) : Moved p c q := by
  obtain ⟨current, differs, timely, below⟩ := (call_answers p c).success.mp ⟨q, answered⟩
  have counted := numeral_rational _ p.accepted.counted
  have guards := call_guards p c
  have late := (timely_untimely p c).mpr timely
  have under : spent p.state = false := by
    by_contra full
    have most := (spent_ceiling p).mp (Bool.of_not_eq_false full)
    omega
  rw [if_neg (by rw [show c.expected.strictEquals p.state.version = true from current]; exact Bool.false_ne_true), if_neg differs,
    dif_pos late, dif_pos under] at guards
  have same := Except.ok.inj (answered.symm.trans guards)
  have state : q.state = p.state.moved c.status c.time := congrArg Principal.state same
  have version := (moved_version p.state c.status c.time p.accepted under).1
  refine ⟨state, ?_, (equal_rational _ _ _ counted).mp current, ?_, ?_⟩
  · rw [state]
    exact other_of_ne _ _ differs
  · rw [state, numeral, version, Option.getD_some, Rat.num_intCast]
  · rw [state]
    exact timely.2.1

theorem after_success (p q : Principal) (c : Call) (rest : List Call) (answered : p.call c = .ok q) :
    p.after (c :: rest) = q.after rest ∧ p.successes (c :: rest) = c :: q.successes rest := by
  simp only [Principal.after, Principal.successes, answered, and_self]

theorem after_refusal (p : Principal) (c : Call) (rest : List Call) (e : Failure) (answered : p.call c = .error e) :
    p.after (c :: rest) = p.after rest ∧ p.successes (c :: rest) = p.successes rest := by
  simp only [Principal.after, Principal.successes, answered, and_self]

structure Kept (p q : Principal) (count : ℕ) : Prop where
  id : q.state.id = p.state.id
  kind : q.state.kind = p.state.kind
  displayName : q.state.displayName = p.state.displayName
  created : q.state.createdAtMs = p.state.createdAtMs
  version : numeral q.state.version = numeral p.state.version + count
  status : q.state.status = Status.other^[count] p.state.status
  updated : numeral p.state.updatedAtMs ≤ numeral q.state.updatedAtMs

theorem moved_kept (p q r : Principal) (c : Call) (count : ℕ) (moved : Moved p c q) (kept : Kept q r count) : Kept p r (count + 1) := by
  have version := moved.version
  have total := kept.version
  refine ⟨?_, ?_, ?_, ?_, by omega, ?_, moved.updated.trans kept.updated⟩
  · rw [kept.id, moved.state, Snapshot.moved]
  · rw [kept.kind, moved.state, Snapshot.moved]
  · rw [kept.displayName, moved.state, Snapshot.moved]
  · rw [kept.created, moved.state, Snapshot.moved]
  · rw [kept.status, moved.status, Function.iterate_succ_apply]

theorem after_kept (p : Principal) (calls : List Call) : Kept p (p.after calls) (p.successes calls).length := by
  induction calls generalizing p with
  | nil => exact ⟨rfl, rfl, rfl, rfl, (add_zero _).symm, rfl, le_refl _⟩
  | cons c rest ih =>
      cases answer : p.call c with
      | error e =>
          rw [(after_refusal p c rest e answer).1, (after_refusal p c rest e answer).2]
          exact ih p
      | ok q =>
          rw [(after_success p q c rest answer).1, (after_success p q c rest answer).2, List.length_cons]
          exact moved_kept p q _ c _ (call_moved p q c answer) (ih q)

theorem successes_expected (p : Principal) (calls : List Call) (c : Call) (among : c ∈ p.successes calls) :
    ∃ n : ℤ, c.expected.rational = some (n : ℚ) ∧ numeral p.state.version ≤ n := by
  induction calls generalizing p with
  | nil => cases among
  | cons d rest ih =>
      cases answer : p.call d with
      | error e =>
          rw [(after_refusal p d rest e answer).2] at among
          exact ih p among
      | ok q =>
          rw [(after_success p q d rest answer).2] at among
          have moved := call_moved p q d answer
          cases among with
          | head => exact ⟨_, moved.expected, le_refl _⟩
          | tail _ later =>
              obtain ⟨n, value, above⟩ := ih q later
              have version := moved.version
              exact ⟨n, value, by omega⟩

theorem successes_differ (p : Principal) (calls : List Call) :
    (p.successes calls).Pairwise fun c d => c.expected.strictEquals d.expected = false := by
  induction calls generalizing p with
  | nil => exact List.Pairwise.nil
  | cons c rest ih =>
      cases answer : p.call c with
      | error e =>
          rw [(after_refusal p c rest e answer).2]
          exact ih p
      | ok q =>
          rw [(after_success p q c rest answer).2]
          refine List.Pairwise.cons (fun d later => ?_) (ih q)
          have moved := call_moved p q c answer
          have version := moved.version
          obtain ⟨n, value, above⟩ := successes_expected q rest d later
          rw [← Bool.not_eq_true, equal_rational _ _ _ value, moved.expected, Option.some.injEq]
          intro same
          have equal : numeral p.state.version = n := by exact_mod_cast same
          omega

structure Lifecycle (p : Principal) (calls : List Call) : Prop where
  kept : Kept p (p.after calls) (p.successes calls).length
  ceiling : numeral (p.after calls).state.version ≤ 2147483647
  monotone : ∀ earlier later, calls = earlier ++ later →
    numeral (p.after earlier).state.updatedAtMs ≤ numeral (p.after calls).state.updatedAtMs
  range : numeral (p.after calls).state.createdAtMs ≤ numeral (p.after calls).state.updatedAtMs ∧
    numeral (p.after calls).state.updatedAtMs ≤ 253402300799999
  answers : ∀ c, Answers (p.after calls) c
  once : (p.successes calls).Pairwise fun c d => c.expected.strictEquals d.expected = false
  restored : restore (some (p.after calls).snapshot.draft) = .ok (p.after calls)

theorem after_append (p : Principal) (earlier later : List Call) : p.after (earlier ++ later) = (p.after earlier).after later := by
  induction earlier generalizing p with
  | nil => rfl
  | cons c rest ih =>
      cases answer : p.call c with
      | error e => rw [List.cons_append, (after_refusal p c _ e answer).1, (after_refusal p c rest e answer).1, ih]
      | ok q => rw [List.cons_append, (after_success p q c _ answer).1, (after_success p q c rest answer).1, ih]

theorem principal_lifecycle (p : Principal) (calls : List Call) : Lifecycle p calls where
  kept := after_kept p calls
  ceiling := (p.after calls).bounded.most
  monotone earlier later split := by
    rw [split, after_append]
    exact (after_kept (p.after earlier) later).updated
  range := ⟨(p.after calls).bounded.forward, (p.after calls).bounded.last⟩
  answers c := call_answers (p.after calls) c
  once := successes_differ p calls
  restored := restore_state (p.after calls)

end N2F.Identity
