import Mathlib.Control.Monad.Basic

set_option autoImplicit false

-- Programs over a state: what holds of a value where the state ends without a
-- complaint, and two programs that nobody can tell apart by the state.
namespace Stateful

variable {S α β γ δ : Type}

def Sound (quiet : S → Prop) (p : StateM S α) (P : α → Prop) : Prop := ∀ s, quiet (p s).2 → quiet s ∧ P (p s).1

def Alike (p : StateM S α) (q : StateM S β) (R : α → β → Prop) : Prop := ∀ s, (p s).2 = (q s).2 ∧ R (p s).1 (q s).1

variable {quiet : S → Prop}

theorem sound_pure (a : α) (P : α → Prop) (holds : P a) : Sound quiet (pure a) P := fun _ still => ⟨still, holds⟩

theorem sound_bind (p : StateM S α) (f : α → StateM S β) (P : α → Prop) (Q : β → Prop) (first : Sound quiet p P)
    (next : ∀ a, Sound quiet (f a) fun b => P a → Q b) : Sound quiet (p >>= f) Q := by
  intro s still
  obtain ⟨between, later⟩ := next (p s).1 (p s).2 still
  obtain ⟨before, holds⟩ := first s between
  exact ⟨before, later holds⟩

theorem alike_pure (a : α) (b : β) (R : α → β → Prop) (holds : R a b) : Alike (pure a : StateM S α) (pure b) R := fun _ => ⟨rfl, holds⟩

theorem alike_bind (p : StateM S α) (q : StateM S β) (f : α → StateM S γ) (g : β → StateM S δ) (R : α → β → Prop) (T : γ → δ → Prop)
    (first : Alike p q R) (next : ∀ a b, R a b → Alike (f a) (g b) T) : Alike (p >>= f) (q >>= g) T := by
  intro s
  obtain ⟨state, related⟩ := first s
  have later := next (p s).1 (q s).1 related (p s).2
  refine ⟨later.1.trans ?_, ?_⟩
  · exact congrArg (fun t => (g (q s).1 t).2) state
  · have same : (q >>= g) s = g (q s).1 (p s).2 := congrArg (g (q s).1) state.symm
    rw [same]
    exact later.2

theorem alike_same (p q : StateM S α) (f : α → StateM S γ) (g : α → StateM S δ) (T : γ → δ → Prop) (first : Alike p q Eq)
    (next : ∀ a, Alike (f a) (g a) T) : Alike (p >>= f) (q >>= g) T :=
  alike_bind p q f g Eq T first fun a _ same => same ▸ next a

theorem alike_run (p : StateM S α) (q : StateM S β) (R : α → β → Prop) (alike : Alike p q R) (s : S) :
    ∃ a b t, p s = (a, t) ∧ q s = (b, t) ∧ R a b :=
  ⟨(p s).1, (q s).1, (p s).2, rfl, Prod.ext rfl (alike s).1.symm, (alike s).2⟩

end Stateful
