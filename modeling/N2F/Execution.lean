import N2F.Machine
import Mathlib.Data.Nat.Basic
import Mathlib.Order.Basic

set_option autoImplicit false

namespace Machine

variable {State Action : Type}

structure Execution (m : Machine State Action) where
  states : ℕ → State
  actions : ℕ → Option Action
  starts : states 0 = m.start
  moves : ∀ n, match actions n with
    | none => states (n + 1) = states n
    | some a => m.step (states n) a = some (states (n + 1))

variable {m : Machine State Action}

theorem Execution.next (x : m.Execution) (n : ℕ) :
    x.states (n + 1) = x.states n ∨ ∃ a, x.actions n = some a ∧ m.step (x.states n) a = some (x.states (n + 1)) := by
  have moves := x.moves n
  cases action : x.actions n with
  | none =>
      rw [action] at moves
      exact .inl moves
  | some a =>
      rw [action] at moves
      exact .inr ⟨a, rfl, moves⟩

theorem Execution.reachable (x : m.Execution) (n : ℕ) : m.Reachable (x.states n) := by
  induction n with
  | zero =>
      rw [x.starts]
      exact .start
  | succ n ih =>
      rcases x.next n with same | ⟨a, _, moved⟩
      · rwa [same]
      · exact .next (x.states n) (x.states (n + 1)) a ih moved

theorem Execution.keeps (x : m.Execution) (I : State → Prop)
    (kept : ∀ s t a, I s → m.step s a = some t → I t) (n k : ℕ) (later : n ≤ k) (holds : I (x.states n)) : I (x.states k) := by
  induction k, later using Nat.le_induction with
  | base => exact holds
  | succ k _ ih =>
      rcases x.next k with same | ⟨a, _, moved⟩
      · rwa [same]
      · exact kept (x.states k) (x.states (k + 1)) a ih moved

theorem Execution.response (x : m.Execution) (I : State → Prop) (awaited : Action → Prop)
    (kept : ∀ s t a, I s → ¬ awaited a → m.step s a = some t → I t) (n : ℕ) (holds : I (x.states n))
    (comes : ∃ k a, n ≤ k ∧ x.actions k = some a ∧ awaited a) :
    ∃ k a, n ≤ k ∧ awaited a ∧ I (x.states k) ∧ m.step (x.states k) a = some (x.states (k + 1)) := by
  obtain ⟨k, a, later, action, is⟩ := comes
  obtain ⟨d, rfl⟩ := Nat.exists_eq_add_of_le later
  clear later
  induction d generalizing n with
  | zero =>
      have moves := x.moves n
      rw [Nat.add_zero] at action
      rw [action] at moves
      exact ⟨n, a, Nat.le_refl n, is, holds, moves⟩
  | succ d ih =>
      have onward : n + (d + 1) = n + 1 + d := by omega
      rw [onward] at action
      rcases x.next n with same | ⟨b, action', moved⟩
      · obtain ⟨k, a, later, found⟩ := ih (n + 1) (by rwa [same]) action
        exact ⟨k, a, by omega, found⟩
      · by_cases now : awaited b
        · exact ⟨n, b, Nat.le_refl n, now, holds, moved⟩
        · obtain ⟨k, a, later, found⟩ := ih (n + 1) (kept _ _ b holds now moved) action
          exact ⟨k, a, by omega, found⟩

end Machine
