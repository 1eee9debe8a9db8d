import Mathlib.Data.Nat.Notation

set_option autoImplicit false

-- A list of parties, each known by its place: one of them moves or a new one joins.
namespace Roster

variable {α : Type}

theorem set_cases (parties : List α) (i j : ℕ) (moved found : α) (here : (parties.set i moved)[j]? = some found) :
    (j = i ∧ found = moved) ∨ (j ≠ i ∧ parties[j]? = some found) := by
  by_cases same : i = j
  · subst same
    rw [List.getElem?_set_self'] at here
    obtain ⟨old, _, now⟩ := Option.map_eq_some_iff.mp here
    exact .inl ⟨rfl, now.symm⟩
  · rw [List.getElem?_set_ne same] at here
    exact .inr ⟨fun own => same own.symm, here⟩

theorem join_cases (parties : List α) (j : ℕ) (newest found : α) (here : (parties ++ [newest])[j]? = some found) :
    (j = parties.length ∧ found = newest) ∨ (j < parties.length ∧ parties[j]? = some found) := by
  rcases Nat.lt_trichotomy j parties.length with inside | same | outside
  · rw [List.getElem?_append_left inside] at here
    exact .inr ⟨inside, here⟩
  · subst same
    rw [List.getElem?_append_right (Nat.le_refl _), Nat.sub_self] at here
    exact .inl ⟨rfl, (Option.some.inj here).symm⟩
  · rw [List.getElem?_eq_none (by rw [List.length_append, List.length_singleton]; exact outside)] at here
    cases here

theorem set_self (parties : List α) (i : ℕ) (old moved : α) (found : parties[i]? = some old) :
    (parties.set i moved)[i]? = some moved :=
  List.getElem?_set_self (List.getElem?_eq_some_iff.mp found).1

theorem set_at (parties : List α) (i : ℕ) (old moved : α) (found : parties[i]? = some old) (j : ℕ) :
    (parties.set i moved)[j]? = if j = i then some moved else parties[j]? := by
  by_cases same : j = i
  · subst same
    rw [if_pos rfl]
    exact set_self parties j old moved found
  · rw [if_neg same]
    exact List.getElem?_set_ne fun own => same own.symm

theorem set_kept (parties : List α) (i j : ℕ) (moved found : α) (other : moved ≠ found) (here : (parties.set i moved)[j]? = some found) :
    parties[j]? = some found := by
  rcases set_cases parties i j moved found here with ⟨_, same⟩ | ⟨_, there⟩
  · exact absurd same.symm other
  · exact there

theorem join_kept (parties : List α) (j : ℕ) (newest found : α) (here : parties[j]? = some found) :
    (parties ++ [newest])[j]? = some found := by
  rw [List.getElem?_append_left (List.getElem?_eq_some_iff.mp here).1]
  exact here

theorem modify_set_self (parties : List α) (i : ℕ) (f : α → α) (moved : α) :
    (parties.set i moved).modify i f = (parties.modify i f).set i (f moved) := by
  induction parties generalizing i with
  | nil => simp
  | cons first rest ih =>
      cases i with
      | zero => rfl
      | succ i => simpa using ih i

theorem modify_set_ne (parties : List α) (i j : ℕ) (f : α → α) (moved : α) (apart : j ≠ i) :
    (parties.set j moved).modify i f = (parties.modify i f).set j moved := by
  induction parties generalizing i j with
  | nil => simp
  | cons first rest ih =>
      cases i with
      | zero =>
          cases j with
          | zero => exact absurd rfl apart
          | succ j => rfl
      | succ i =>
          cases j with
          | zero => rfl
          | succ j => simpa using ih i j fun same => apart (congrArg (· + 1) same)

theorem modify_join (parties : List α) (i : ℕ) (f : α → α) (newest : α) (inside : i < parties.length) :
    (parties ++ [newest]).modify i f = parties.modify i f ++ [newest] := by
  induction parties generalizing i with
  | nil => cases inside
  | cons first rest ih =>
      cases i with
      | zero => rfl
      | succ i => simpa using ih i (Nat.lt_of_succ_lt_succ inside)

end Roster
