import N2F.Operation

set_option autoImplicit false

namespace Operation

variable {State Call Answer Error Refusal Value : Type}

-- What a program may rely on and what it owes, over a state that others move on
-- between its awaits. The answers say something of the state they are given in, a call
-- is owed something of the state it is made in, and so are errors and results.
structure Reliance (State Call Answer Error Value : Type) where
  later : State → State → Prop
  relies : State → Call → Answer → Prop
  calls : State → Call → Prop
  throws : State → Error → Prop
  returns : State → Value → Prop
  unmoved : ∀ s, later s s
  onward : ∀ s t u, later s t → later t u → later s u
  thrown : ∀ s t e, later s t → throws s e → throws t e
  returned : ∀ s t v, later s t → returns s v → returns t v

def Reliance.ends (k : Reliance State Call Answer Error Value) (s : State) : Except Error Value → Prop
  | .ok v => k.returns s v
  | .error e => k.throws s e

def Program.Meets (k : Reliance State Call Answer Error Value) : Program Call Answer Error Value → State → Prop
  | .done r, s => k.ends s r
  | .call c next, s => ∀ t, k.later s t → k.calls t c ∧ ∀ a, k.relies t c a → (next a).Meets k t

-- The same of a run, whose refusal hides the error it is made of.
def Run.Meets (k : Reliance State Call Answer Error Value) (p : Protocol Call Answer Error Refusal)
    (r : Run Call Answer Error Refusal Value) (s : State) : Prop :=
  match r.point with
  | .awaiting c next => (Program.call c next).Meets k s
  | .ready q => q.Meets k s
  | .settled x => k.ends s x
  | .concluded (.ok v) => k.returns s v
  | .concluded (.error f) => ∃ aborted e, f = p.refuse aborted e ∧ k.throws s e

def Run.asks (p : Protocol Call Answer Error Refusal) (r : Run Call Answer Error Refusal Value) : Event Answer Error → Option Call
  | .resume =>
      match r.point with
      | .ready (.call c _) => if p.guarded c && r.stopped then none else some c
      | _ => none
  | _ => none

theorem ends_later (k : Reliance State Call Answer Error Value) (s t : State) (r : Except Error Value) (later : k.later s t)
    (ends : k.ends s r) : k.ends t r := by
  cases r with
  | ok v => exact k.returned s t v later ends
  | error e => exact k.thrown s t e later ends

theorem program_later (k : Reliance State Call Answer Error Value) (program : Program Call Answer Error Value) (s t : State)
    (later : k.later s t) (meets : program.Meets k s) : program.Meets k t := by
  cases program with
  | done r => exact ends_later k s t r later meets
  | call c next => exact fun u onward => meets u (k.onward s t u later onward)

theorem run_later (k : Reliance State Call Answer Error Value) (p : Protocol Call Answer Error Refusal)
    (r : Run Call Answer Error Refusal Value) (s t : State) (later : k.later s t) (meets : r.Meets k p s) : r.Meets k p t := by
  obtain ⟨point, deadline, aborted, log⟩ := r
  cases point with
  | awaiting c next => exact program_later k (.call c next) s t later meets
  | ready q => exact program_later k q s t later meets
  | settled x => exact ends_later k s t x later meets
  | concluded x =>
      cases x with
      | ok v => exact k.returned s t v later meets
      | error f =>
          obtain ⟨aborted, e, same, thrown⟩ := meets
          exact ⟨aborted, e, same, k.thrown s t e later thrown⟩

theorem begin_meets (k : Reliance State Call Answer Error Value) (p : Protocol Call Answer Error Refusal)
    (program : Program Call Answer Error Value) (s : State) (meets : program.Meets k s) : (begin program).Meets k p s := meets

theorem interrupt_meets (k : Reliance State Call Answer Error Value) (p : Protocol Call Answer Error Refusal)
    (r : Run Call Answer Error Refusal Value) (s : State) (canceled : k.throws s p.canceled) (meets : r.Meets k p s) :
    (r.interrupt p).Meets k p s := by
  obtain ⟨point, deadline, aborted, log⟩ := r
  cases point with
  | awaiting c next =>
      by_cases guarded : p.guarded c = true
      · have same : Run.interrupt ⟨.awaiting c next, deadline, aborted, log⟩ p =
            ⟨.ready (.done (.error p.canceled)), deadline, aborted, log⟩ := if_pos guarded
        rw [same]
        exact canceled
      · have same : Run.interrupt ⟨.awaiting c next, deadline, aborted, log⟩ p = ⟨.awaiting c next, deadline, aborted, log⟩ :=
          if_neg guarded
        rwa [same]
  | ready q => exact meets
  | settled x => exact meets
  | concluded x => exact meets

theorem advance_meets (k : Reliance State Call Answer Error Value) (p : Protocol Call Answer Error Refusal)
    (r : Run Call Answer Error Refusal Value) (q : Program Call Answer Error Value) (s : State) (canceled : k.throws s p.canceled)
    (meets : q.Meets k s) : (r.advance p q).Meets k p s := by
  cases q with
  | done x => exact meets
  | call c next =>
      rw [Run.advance]
      split_ifs
      · exact canceled
      · exact meets

theorem step_meets (k : Reliance State Call Answer Error Value) (p : Protocol Call Answer Error Refusal) (caller : Bool)
    (r r' : Run Call Answer Error Refusal Value) (e : Event Answer Error) (s : State) (canceled : k.throws s p.canceled)
    (answered : ∀ c next a, r.point = .awaiting c next → e = .answer (.ok a) → k.relies s c a)
    (failed : ∀ x, e = .answer (.error x) → k.throws s x) (meets : r.Meets k p s) (moved : step p caller r e = some r') :
    r'.Meets k p s := by
  cases e with
  | deadline =>
      rw [step] at moved
      split at moved
      · cases moved
      · injection moved with same
        exact same ▸ interrupt_meets k p _ s canceled meets
  | abort =>
      obtain ⟨_, same⟩ := Option.ite_none_right_eq_some.mp moved
      injection same with same
      exact same ▸ interrupt_meets k p _ s canceled meets
  | answer x =>
      cases x with
      | ok a =>
          rw [step] at moved
          split at moved
          · next c next here =>
              obtain ⟨_, same⟩ := Option.ite_none_right_eq_some.mp moved
              injection same with same
              rw [Run.Meets, here] at meets
              exact same ▸ (meets s (k.unmoved s)).2 a (answered c next a here rfl)
          · cases moved
      | error x =>
          rw [step] at moved
          split at moved
          · injection moved with same
            exact same ▸ failed x rfl
          · cases moved
  | resume =>
      rw [step] at moved
      split at moved
      · next q here =>
          injection moved with same
          rw [Run.Meets, here] at meets
          exact same ▸ advance_meets k p r q s canceled meets
      · cases moved
  | finish =>
      rw [step] at moved
      split at moved
      · next x here =>
          injection moved with same
          rw [Run.Meets, here] at meets
          rw [← same]
          cases x with
          | ok v => exact meets
          | error e => exact ⟨r.aborted, e, rfl, meets⟩
      · cases moved

theorem asks_meets (k : Reliance State Call Answer Error Value) (p : Protocol Call Answer Error Refusal)
    (r : Run Call Answer Error Refusal Value) (e : Event Answer Error) (s : State) (c : Call) (meets : r.Meets k p s)
    (asked : r.asks p e = some c) : k.calls s c := by
  cases e with
  | resume =>
      rw [Run.asks] at asked
      split at asked
      · next d next here =>
          split_ifs at asked
          injection asked with same
          rw [Run.Meets, here] at meets
          exact same ▸ (meets s (k.unmoved s)).1
      · cases asked
  | deadline | abort | answer _ | finish => cases asked

end Operation
