import Mathlib.Data.Nat.Notation

set_option autoImplicit false

-- A state machine whose partial step answers whether an action is possible.
structure Machine (State Action : Type) where
  start : State
  step : State → Action → Option State

namespace Machine

variable {State Action State' Action' : Type}

inductive Reachable (m : Machine State Action) : State → Prop where
  | start : Reachable m m.start
  | next (s t : State) (a : Action) (reached : Reachable m s) (moved : m.step s a = some t) : Reachable m t

def run (m : Machine State Action) (s : State) : List Action → Option State
  | [] => some s
  | a :: rest => (m.step s a).bind fun t => m.run t rest

theorem invariant (m : Machine State Action) (I : State → Prop) (starts : I m.start)
    (kept : ∀ s t a, m.Reachable s → I s → m.step s a = some t → I t) (s : State) (reached : m.Reachable s) : I s := by
  induction reached with
  | start => exact starts
  | next s t a reached moved ih => exact kept s t a reached ih moved

-- The states of the runs whose steps all meet a condition on state and action.
inductive ReachableBy (m : Machine State Action) (allowed : State → Action → Prop) : State → Prop where
  | start : ReachableBy m allowed m.start
  | next (s t : State) (a : Action) (reached : ReachableBy m allowed s) (meets : allowed s a) (moved : m.step s a = some t) :
      ReachableBy m allowed t

theorem invariant_by (m : Machine State Action) (allowed : State → Action → Prop) (I : State → Prop) (starts : I m.start)
    (kept : ∀ s t a, I s → allowed s a → m.step s a = some t → I t) (s : State) (reached : m.ReachableBy allowed s) : I s := by
  induction reached with
  | start => exact starts
  | next s t a reached meets moved ih => exact kept s t a ih meets moved

theorem run_reachable (m : Machine State Action) (s t : State) (actions : List Action) (reached : m.Reachable s)
    (ran : m.run s actions = some t) : m.Reachable t := by
  induction actions generalizing s with
  | nil =>
      injection ran with same
      rwa [← same]
  | cons a rest ih =>
      obtain ⟨u, moved, later⟩ := Option.bind_eq_some_iff.mp ran
      exact ih u (.next s u a reached moved) later

theorem run_keeps (m : Machine State Action) (I : State → Prop) (kept : ∀ s t a, I s → m.step s a = some t → I t) (s t : State)
    (actions : List Action) (holds : I s) (ran : m.run s actions = some t) : I t := by
  induction actions generalizing s with
  | nil =>
      injection ran with same
      rwa [← same]
  | cons a rest ih =>
      obtain ⟨u, moved, later⟩ := Option.bind_eq_some_iff.mp ran
      exact ih u (kept s u a holds moved) later

-- Every step of m is a step of n on the projected states, or none at all.
def Simulates (n : Machine State' Action') (m : Machine State Action) (f : State → State') : Prop :=
  f m.start = n.start ∧
    ∀ s t a, m.Reachable s → m.step s a = some t → f t = f s ∨ ∃ b, n.step (f s) b = some (f t)

theorem simulates_reachable (n : Machine State' Action') (m : Machine State Action) (f : State → State')
    (simulates : n.Simulates m f) (s : State) (reached : m.Reachable s) : n.Reachable (f s) := by
  induction reached with
  | start =>
      rw [simulates.1]
      exact .start
  | next s t a reached moved ih =>
      rcases simulates.2 s t a reached moved with same | ⟨b, moved'⟩
      · rwa [same]
      · exact .next (f s) (f t) b ih moved'

def Meets (m : Machine State Action) (allowed : State → Action → Prop) (s : State) : List Action → Prop
  | [] => True
  | a :: rest => allowed s a ∧ ∀ t, m.step s a = some t → m.Meets allowed t rest

theorem meets_all (m : Machine State Action) (allowed : State → Action → Prop) (s : State) (actions : List Action)
    (always : ∀ a ∈ actions, ∀ s, allowed s a) : m.Meets allowed s actions := by
  induction actions generalizing s with
  | nil => trivial
  | cons a rest ih =>
      refine ⟨always a List.mem_cons_self s, fun t _ => ih t fun b later => always b (List.mem_cons_of_mem a later)⟩

theorem run_reachable_by (m : Machine State Action) (allowed : State → Action → Prop) (s t : State) (actions : List Action)
    (reached : m.ReachableBy allowed s) (meets : m.Meets allowed s actions) (ran : m.run s actions = some t) : m.ReachableBy allowed t := by
  induction actions generalizing s with
  | nil =>
      injection ran with same
      rwa [← same]
  | cons a rest ih =>
      obtain ⟨u, moved, later⟩ := Option.bind_eq_some_iff.mp ran
      exact ih u (.next s u a reached meets.1 moved) (meets.2 u moved) later

theorem run_mono (m : Machine State Action) (I : State → Prop) (f : State → ℕ) (kept : ∀ s t a, I s → m.step s a = some t → I t)
    (grows : ∀ s t a, I s → m.step s a = some t → f s ≤ f t) (s t : State) (actions : List Action) (holds : I s)
    (ran : m.run s actions = some t) : f s ≤ f t := by
  induction actions generalizing s with
  | nil =>
      injection ran with same
      exact Nat.le_of_eq (congrArg f same)
  | cons a rest ih =>
      obtain ⟨u, moved, later⟩ := Option.bind_eq_some_iff.mp ran
      exact Nat.le_trans (grows s u a holds moved) (ih u (kept s u a holds moved) later)

theorem run_steady_iff (m : Machine State Action) (allowed : State → Action → Prop) (I : State → Prop) (f : State → ℕ)
    (kept : ∀ s t a, I s → m.step s a = some t → I t) (grows : ∀ s t a, I s → m.step s a = some t → f s ≤ f t)
    (steady : ∀ s t a, I s → m.step s a = some t → (f t = f s ↔ allowed s a)) (s t : State) (actions : List Action) (holds : I s)
    (ran : m.run s actions = some t) : f t = f s ↔ m.Meets allowed s actions := by
  induction actions generalizing s with
  | nil =>
      injection ran with same
      exact ⟨fun _ => trivial, fun _ => congrArg f same.symm⟩
  | cons a rest ih =>
      obtain ⟨u, moved, later⟩ := Option.bind_eq_some_iff.mp ran
      have holds' := kept s u a holds moved
      have first := grows s u a holds moved
      have rest_grows := run_mono m I f kept grows u t rest holds' later
      have tail := ih u holds' later
      constructor
      · intro same
        refine ⟨(steady s u a holds moved).mp (by omega), ?_⟩
        intro v other
        rw [moved] at other
        injection other with own
        exact own ▸ tail.mp (by omega)
      · intro meets
        exact (tail.mpr (meets.2 u moved)).trans ((steady s u a holds moved).mpr meets.1)

-- What the machine does not notice where I holds: a step of the erased state by the
-- erased action is the erased step.
def Blind (m : Machine State Action) (I : State → Prop) (f : State → State) (g : Action → Action) : Prop :=
  ∀ s a, I s → (m.step s a).map f = m.step (f s) (g a)

theorem blind_run (m : Machine State Action) (I : State → Prop) (f : State → State) (g : Action → Action) (blind : m.Blind I f g)
    (kept : ∀ s t a, I s → m.step s a = some t → I t) (s : State) (actions : List Action) (holds : I s) :
    (m.run s actions).map f = m.run (f s) (actions.map g) := by
  induction actions generalizing s with
  | nil => rfl
  | cons a rest ih =>
      rw [List.map_cons, run, run, ← blind s a holds]
      cases moved : m.step s a with
      | none => rfl
      | some t => exact ih t (kept s t a holds moved)

theorem blind_runs (m : Machine State Action) (I : State → Prop) (f : State → State) (g : Action → Action) (blind : m.Blind I f g)
    (kept : ∀ s t a, I s → m.step s a = some t → I t) (s : State) (first second : List Action) (holds : I s)
    (alike : first.map g = second.map g) : (m.run s first).map f = (m.run s second).map f := by
  rw [blind_run m I f g blind kept s first holds, blind_run m I f g blind kept s second holds, alike]

end Machine
