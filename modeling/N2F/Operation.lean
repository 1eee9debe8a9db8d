import N2F.Machine
import Mathlib.Data.List.Induction

set_option autoImplicit false

namespace Operation

variable {Call Answer Error Refusal Value : Type}

-- An asynchronous function: it returns, throws, or awaits the answer to a call.
inductive Program (Call Answer Error Value : Type) where
  | done (r : Except Error Value)
  | call (c : Call) (next : Answer → Program Call Answer Error Value)

def Program.After : List (Call × Answer) → Program Call Answer Error Value → Program Call Answer Error Value → Prop
  | [], p, q => p = q
  | (c', a) :: rest, p, q =>
      match p with
      | .done _ => False
      | .call c next => c = c' ∧ After rest (next a) q

-- A guarded call throws when the signal is already aborted and is given up when the
-- abort comes first. The refusal depends on whether the caller aborted.
structure Protocol (Call Answer Error Refusal : Type) where
  guarded : Call → Bool
  suits : Call → Answer → Bool
  canceled : Error
  refuse : Bool → Error → Refusal

inductive Entry (Call Answer : Type) where
  | called (c : Call)
  | answered (c : Call) (a : Answer)
  | failed (c : Call)
  | deadline
  | aborted

def Entry.stops : Entry Call Answer → Bool
  | .deadline | .aborted => true
  | _ => false

def exchanges (log : List (Entry Call Answer)) : List (Call × Answer) :=
  log.filterMap fun e =>
    match e with
    | .answered c a => some (c, a)
    | _ => none

def calls (log : List (Entry Call Answer)) : List Call :=
  log.filterMap fun e =>
    match e with
    | .called c => some c
    | _ => none

-- Between a settled await and its continuation other callbacks may run.
inductive Point (Call Answer Error Refusal Value : Type) where
  | awaiting (c : Call) (next : Answer → Program Call Answer Error Value)
  | ready (p : Program Call Answer Error Value)
  | settled (r : Except Error Value)
  | concluded (r : Except Refusal Value)

structure Run (Call Answer Error Refusal Value : Type) where
  point : Point Call Answer Error Refusal Value
  deadline : Bool
  aborted : Bool
  log : List (Entry Call Answer)

inductive Event (Answer Error : Type) where
  | deadline
  | abort
  | answer (a : Except Error Answer)
  | resume
  | finish

def Run.stopped (r : Run Call Answer Error Refusal Value) : Bool := r.deadline || r.aborted

def Run.note (r : Run Call Answer Error Refusal Value) (e : Entry Call Answer) : Run Call Answer Error Refusal Value :=
  { r with log := r.log ++ [e] }

def Run.interrupt (r : Run Call Answer Error Refusal Value) (p : Protocol Call Answer Error Refusal) :
    Run Call Answer Error Refusal Value :=
  match r.point with
  | .awaiting c _ => if p.guarded c then { r with point := .ready (.done (.error p.canceled)) } else r
  | _ => r

def Run.advance (r : Run Call Answer Error Refusal Value) (p : Protocol Call Answer Error Refusal) :
    Program Call Answer Error Value → Run Call Answer Error Refusal Value
  | .done s => { r with point := .settled s }
  | .call c next =>
      if p.guarded c && r.stopped then { r with point := .settled (.error p.canceled) }
      else { r with point := .awaiting c next }.note (.called c)

def Protocol.conclude (p : Protocol Call Answer Error Refusal) (aborted : Bool) : Except Error Value → Except Refusal Value
  | .ok v => .ok v
  | .error e => .error (p.refuse aborted e)

-- The timer is cleared when the operation ends; there is no abort without a caller's signal.
def step (p : Protocol Call Answer Error Refusal) (caller : Bool) (r : Run Call Answer Error Refusal Value) :
    Event Answer Error → Option (Run Call Answer Error Refusal Value)
  | .deadline =>
      match r.point with
      | .concluded _ => none
      | _ => some (({ r with deadline := true }.note .deadline).interrupt p)
  | .abort => if caller then some (({ r with aborted := true }.note .aborted).interrupt p) else none
  | .answer (.ok a) =>
      match r.point with
      | .awaiting c next => if p.suits c a then some ({ r with point := .ready (next a) }.note (.answered c a)) else none
      | _ => none
  | .answer (.error e) =>
      match r.point with
      | .awaiting c _ => some ({ r with point := .ready (.done (.error e)) }.note (.failed c))
      | _ => none
  | .resume =>
      match r.point with
      | .ready q => some (r.advance p q)
      | _ => none
  | .finish =>
      match r.point with
      | .settled s => some { r with point := .concluded (p.conclude r.aborted s) }
      | _ => none

def begin (program : Program Call Answer Error Value) : Run Call Answer Error Refusal Value := ⟨.ready program, false, false, []⟩

def machine (p : Protocol Call Answer Error Refusal) (caller : Bool) (program : Program Call Answer Error Value) :
    Machine (Run Call Answer Error Refusal Value) (Event Answer Error) := ⟨begin program, step p caller⟩

theorem after_append (p q s : Program Call Answer Error Value) (first second : List (Call × Answer)) (before : p.After first q)
    (later : q.After second s) : p.After (first ++ second) s := by
  induction first generalizing p with
  | nil =>
      obtain rfl : p = q := before
      exact later
  | cons e rest ih =>
      obtain ⟨c, a⟩ := e
      cases p with
      | done r => exact before.elim
      | call c' next => exact ⟨before.1, ih (next a) before.2⟩

theorem after_answer (p : Program Call Answer Error Value) (log : List (Call × Answer)) (c : Call)
    (next : Answer → Program Call Answer Error Value) (a : Answer) (before : p.After log (.call c next)) :
    p.After (log ++ [(c, a)]) (next a) :=
  after_append p (.call c next) (next a) log [(c, a)] before ⟨rfl, rfl⟩

theorem exchanges_note (log : List (Entry Call Answer)) (e : Entry Call Answer) (other : ∀ c a, e ≠ .answered c a) :
    exchanges (log ++ [e]) = exchanges log := by
  cases e with
  | answered c a => exact absurd rfl (other c a)
  | _ => simp [exchanges]

theorem exchanges_answered (log : List (Entry Call Answer)) (c : Call) (a : Answer) :
    exchanges (log ++ [.answered c a]) = exchanges log ++ [(c, a)] := by
  simp [exchanges]

theorem calls_note (log : List (Entry Call Answer)) (e : Entry Call Answer) (other : ∀ c, e ≠ .called c) :
    calls (log ++ [e]) = calls log := by
  cases e with
  | called c => exact absurd rfl (other c)
  | _ => simp [calls]

theorem calls_called (log : List (Entry Call Answer)) (c : Call) : calls (log ++ [.called c]) = calls log ++ [c] := by
  simp [calls]

theorem done_after (s : Except Error Value) (log : List (Call × Answer)) (q : Program Call Answer Error Value)
    (after : (Program.done s).After log q) : log = [] ∧ q = .done s := by
  cases log with
  | nil => exact ⟨rfl, Eq.symm after⟩
  | cons e rest => exact after.elim

theorem call_after (c : Call) (next : Answer → Program Call Answer Error Value) (log : List (Call × Answer))
    (q : Program Call Answer Error Value) (after : (Program.call c next).After log q) :
    log = [] ∧ q = .call c next ∨ ∃ a rest, log = (c, a) :: rest ∧ (next a).After rest q := by
  cases log with
  | nil => exact .inl ⟨rfl, Eq.symm after⟩
  | cons e rest =>
      obtain ⟨c', a⟩ := e
      obtain ⟨rfl, later⟩ := after
      exact .inr ⟨a, rest, rfl, later⟩

theorem after_cons (c : Call) (a : Answer) (rest : List (Call × Answer)) (p q : Program Call Answer Error Value)
    (after : p.After ((c, a) :: rest) q) : ∃ next, p = .call c next ∧ (next a).After rest q := by
  cases p with
  | done r => exact after.elim
  | call c' next =>
      obtain ⟨rfl, later⟩ := after
      exact ⟨next, rfl, later⟩

def Along (program : Program Call Answer Error Value) (cs : List Call) : Prop :=
  ∃ log q, program.After log q ∧ (cs = log.map Prod.fst ∨ ∃ c next, q = .call c next ∧ cs = log.map Prod.fst ++ [c])

theorem done_along (s : Except Error Value) (cs : List Call) (along : Along (.done s : Program Call Answer Error Value) cs) : cs = [] := by
  obtain ⟨log, q, after, same | ⟨c, next, pending, same⟩⟩ := along
  · rw [same, (done_after s log q after).1]
    rfl
  · rw [(done_after s log q after).2] at pending
    cases pending

theorem call_along (c : Call) (next : Answer → Program Call Answer Error Value) (cs : List Call) (along : Along (.call c next) cs) :
    cs = [] ∨ cs = [c] ∨ ∃ a rest, cs = c :: rest ∧ Along (next a) rest := by
  obtain ⟨log, q, after, same⟩ := along
  rcases call_after c next log q after with ⟨rfl, rfl⟩ | ⟨a, rest, rfl, later⟩
  · rcases same with same | ⟨c', next', pending, same⟩
    · exact .inl same
    · injection pending with own
      exact .inr (.inl (own ▸ same))
  · right
    right
    rcases same with same | ⟨c', next', pending, same⟩
    · exact ⟨a, _, same, rest, q, later, .inl rfl⟩
    · exact ⟨a, _, same, rest, q, later, .inr ⟨c', next', pending, rfl⟩⟩

def Program.Calls (P : Call → Prop) : Program Call Answer Error Value → Prop
  | .done _ => True
  | .call c next => P c ∧ ∀ a, (next a).Calls P

theorem along_calls (P : Call → Prop) (program : Program Call Answer Error Value) (cs : List Call) (uses : program.Calls P)
    (along : Along program cs) : ∀ c ∈ cs, P c := by
  induction program generalizing cs with
  | done s =>
      rw [done_along s cs along]
      intro c member
      cases member
  | call c next ih =>
      rcases call_along c next cs along with rfl | rfl | ⟨a, rest, rfl, later⟩
      · intro d member
        cases member
      · intro d member
        rw [List.mem_singleton.mp member]
        exact uses.1
      · intro d member
        rcases List.mem_cons.mp member with rfl | inside
        · exact uses.1
        · exact ih a rest (uses.2 a) later d inside

def Stands (program : Program Call Answer Error Value) (log : List (Entry Call Answer)) :
    Point Call Answer Error Refusal Value → Prop
  | .awaiting c next => program.After (exchanges log) (.call c next) ∧ calls log = (exchanges log).map Prod.fst ++ [c]
  | .ready q => (∃ e, q = .done (.error e)) ∧ Along program (calls log) ∨
      program.After (exchanges log) q ∧ calls log = (exchanges log).map Prod.fst
  | .settled s => (∃ e, s = .error e) ∧ Along program (calls log) ∨
      program.After (exchanges log) (.done s) ∧ calls log = (exchanges log).map Prod.fst
  | .concluded s => (∃ e, s = .error e) ∧ Along program (calls log) ∨
      ∃ v, s = .ok v ∧ program.After (exchanges log) (.done (.ok v)) ∧ calls log = (exchanges log).map Prod.fst

def Due (p : Protocol Call Answer Error Refusal) (program : Program Call Answer Error Value) (log : List (Entry Call Answer)) : Prop :=
  ∀ before c later, log = before ++ .called c :: later →
    (∃ next, program.After (exchanges before) (.call c next)) ∧ calls before = (exchanges before).map Prod.fst ∧
      (p.guarded c = true → ∀ e ∈ before, e.stops = false)

structure Sound (p : Protocol Call Answer Error Refusal) (program : Program Call Answer Error Value)
    (r : Run Call Answer Error Refusal Value) : Prop where
  stopped : r.stopped = false → ∀ e ∈ r.log, e.stops = false
  stands : Stands program r.log r.point
  due : Due p program r.log

theorem due_note (p : Protocol Call Answer Error Refusal) (program : Program Call Answer Error Value) (log : List (Entry Call Answer))
    (e : Entry Call Answer) (due : Due p program log) (other : ∀ c, e ≠ .called c) : Due p program (log ++ [e]) := by
  intro before c later same
  rcases List.eq_nil_or_concat later with rfl | ⟨later, e', rfl⟩
  · obtain ⟨_, last⟩ := List.append_inj' same rfl
    exact absurd (List.singleton_inj.mp last) (other c)
  · rw [List.concat_eq_append, ← List.cons_append, ← List.append_assoc] at same
    exact due before c later (List.append_inj' same rfl).1

theorem due_called (p : Protocol Call Answer Error Refusal) (program : Program Call Answer Error Value) (log : List (Entry Call Answer))
    (c : Call) (next : Answer → Program Call Answer Error Value) (due : Due p program log)
    (here : program.After (exchanges log) (.call c next)) (answered : calls log = (exchanges log).map Prod.fst)
    (free : p.guarded c = true → ∀ e ∈ log, e.stops = false) :
    Due p program (log ++ [.called c]) := by
  intro before c' later same
  rcases List.eq_nil_or_concat later with rfl | ⟨later, e', rfl⟩
  · obtain ⟨whole, last⟩ := List.append_inj' same rfl
    subst whole
    injection List.singleton_inj.mp last with own
    subst own
    exact ⟨⟨next, here⟩, answered, free⟩
  · rw [List.concat_eq_append, ← List.cons_append, ← List.append_assoc] at same
    exact due before c' later (List.append_inj' same rfl).1

theorem stands_along (program : Program Call Answer Error Value) (log : List (Entry Call Answer))
    (point : Point Call Answer Error Refusal Value) (stands : Stands program log point) : Along program (calls log) := by
  cases point with
  | awaiting c next => exact ⟨_, _, stands.1, .inr ⟨c, next, rfl, stands.2⟩⟩
  | ready q =>
      rcases stands with ⟨_, along⟩ | ⟨after, same⟩
      · exact along
      · exact ⟨_, _, after, .inl same⟩
  | settled s =>
      rcases stands with ⟨_, along⟩ | ⟨after, same⟩
      · exact along
      · exact ⟨_, _, after, .inl same⟩
  | concluded s =>
      rcases stands with ⟨_, along⟩ | ⟨v, _, after, same⟩
      · exact along
      · exact ⟨_, _, after, .inl same⟩

theorem stands_note (program : Program Call Answer Error Value) (log : List (Entry Call Answer)) (e : Entry Call Answer)
    (point : Point Call Answer Error Refusal Value) (uncalled : ∀ c, e ≠ .called c) (unanswered : ∀ c a, e ≠ .answered c a)
    (stands : Stands program log point) : Stands program (log ++ [e]) point := by
  cases point with
  | awaiting c next => rwa [Stands, exchanges_note log e unanswered, calls_note log e uncalled]
  | ready q => rwa [Stands, exchanges_note log e unanswered, calls_note log e uncalled]
  | settled s => rwa [Stands, exchanges_note log e unanswered, calls_note log e uncalled]
  | concluded s => rwa [Stands, exchanges_note log e unanswered, calls_note log e uncalled]

theorem interrupt_sound (p : Protocol Call Answer Error Refusal) (program : Program Call Answer Error Value)
    (r : Run Call Answer Error Refusal Value) (sound : Sound p program r) : Sound p program (r.interrupt p) := by
  obtain ⟨point, deadline, aborted, log⟩ := r
  cases point with
  | awaiting c next =>
      by_cases guarded : p.guarded c = true
      · have same : Run.interrupt ⟨.awaiting c next, deadline, aborted, log⟩ p =
            ⟨.ready (.done (.error p.canceled)), deadline, aborted, log⟩ := if_pos guarded
        rw [same]
        exact ⟨sound.stopped, .inl ⟨⟨_, rfl⟩, stands_along program log _ sound.stands⟩, sound.due⟩
      · have same : Run.interrupt ⟨.awaiting c next, deadline, aborted, log⟩ p = ⟨.awaiting c next, deadline, aborted, log⟩ :=
          if_neg guarded
        rwa [same]
  | ready q => exact sound
  | settled s => exact sound
  | concluded s => exact sound

theorem stop_sound (p : Protocol Call Answer Error Refusal) (program : Program Call Answer Error Value)
    (r : Run Call Answer Error Refusal Value) (e : Entry Call Answer) (deadline aborted : Bool) (stops : e.stops = true)
    (set : (deadline || aborted) = true) (sound : Sound p program r) :
    Sound p program (({ r with deadline := deadline, aborted := aborted }.note e).interrupt p) := by
  have uncalled : ∀ c, e ≠ .called c := by
    rintro c rfl
    cases stops
  have unanswered : ∀ c a, e ≠ .answered c a := by
    rintro c a rfl
    cases stops
  apply interrupt_sound
  refine ⟨?_, stands_note program r.log e r.point uncalled unanswered sound.stands, due_note p program r.log e sound.due uncalled⟩
  intro free
  exact absurd (set.symm.trans free) (by decide)

theorem advance_sound (p : Protocol Call Answer Error Refusal) (program : Program Call Answer Error Value)
    (r : Run Call Answer Error Refusal Value) (q : Program Call Answer Error Value) (here : r.point = .ready q)
    (sound : Sound p program r) : Sound p program (r.advance p q) := by
  have stands := sound.stands
  rw [here] at stands
  cases q with
  | done s =>
      refine ⟨sound.stopped, ?_, sound.due⟩
      rcases stands with ⟨⟨e, same⟩, along⟩ | there
      · injection same with same
        exact .inl ⟨⟨e, same⟩, along⟩
      · exact .inr there
  | call c next =>
      rcases stands with ⟨⟨e, same⟩, _⟩ | ⟨after, same⟩
      · cases same
      · rw [Run.advance]
        by_cases stopped : (p.guarded c && r.stopped) = true
        · rw [if_pos stopped]
          exact ⟨sound.stopped, .inl ⟨⟨_, rfl⟩, _, _, after, .inl same⟩, sound.due⟩
        · rw [if_neg stopped]
          have free : p.guarded c = true → ∀ e ∈ r.log, e.stops = false := by
            intro guarded
            rw [guarded, Bool.true_and, Bool.not_eq_true] at stopped
            exact sound.stopped stopped
          refine ⟨?_, ⟨?_, ?_⟩, due_called p program r.log c next sound.due after same free⟩
          · intro unstopped e member
            rcases List.mem_append.mp member with old | new
            · exact sound.stopped unstopped e old
            · rw [List.mem_singleton.mp new]
              rfl
          · rw [Run.note, exchanges_note r.log (.called c) (by simp)]
            exact after
          · rw [Run.note, calls_called, exchanges_note r.log (.called c) (by simp), same]

theorem answer_sound (p : Protocol Call Answer Error Refusal) (program : Program Call Answer Error Value)
    (r : Run Call Answer Error Refusal Value) (c : Call) (next : Answer → Program Call Answer Error Value) (a : Answer)
    (here : r.point = .awaiting c next) (sound : Sound p program r) :
    Sound p program ({ r with point := .ready (next a) }.note (.answered c a)) := by
  have stands := sound.stands
  rw [here] at stands
  refine ⟨?_, .inr ⟨?_, ?_⟩, due_note p program r.log _ sound.due (by simp)⟩
  · intro unstopped e member
    rcases List.mem_append.mp member with old | new
    · exact sound.stopped unstopped e old
    · rw [List.mem_singleton.mp new]
      rfl
  · rw [Run.note, exchanges_answered]
    exact after_answer program _ c next a stands.1
  · rw [Run.note, calls_note r.log _ (by simp), exchanges_answered, stands.2, List.map_append]
    rfl

theorem fail_sound (p : Protocol Call Answer Error Refusal) (program : Program Call Answer Error Value)
    (r : Run Call Answer Error Refusal Value) (c : Call) (e : Error) (sound : Sound p program r) :
    Sound p program ({ r with point := .ready (.done (.error e)) }.note (.failed c)) := by
  refine ⟨?_, .inl ⟨⟨e, rfl⟩, ?_⟩, due_note p program r.log _ sound.due (by simp)⟩
  · intro unstopped e member
    rcases List.mem_append.mp member with old | new
    · exact sound.stopped unstopped e old
    · rw [List.mem_singleton.mp new]
      rfl
  · rw [Run.note, calls_note r.log _ (by simp)]
    exact stands_along program r.log r.point sound.stands

theorem conclude_sound (p : Protocol Call Answer Error Refusal) (program : Program Call Answer Error Value)
    (r : Run Call Answer Error Refusal Value) (s : Except Error Value) (here : r.point = .settled s) (sound : Sound p program r) :
    Sound p program { r with point := .concluded (p.conclude r.aborted s) } := by
  have stands := sound.stands
  rw [here] at stands
  refine ⟨sound.stopped, ?_, sound.due⟩
  cases s with
  | error e => exact .inl ⟨⟨_, rfl⟩, stands_along program r.log (.settled (.error e) : Point Call Answer Error Refusal Value) stands⟩
  | ok v =>
      rcases stands with ⟨⟨e, same⟩, _⟩ | ⟨after, same⟩
      · cases same
      · exact .inr ⟨v, rfl, after, same⟩

theorem step_sound (p : Protocol Call Answer Error Refusal) (caller : Bool) (program : Program Call Answer Error Value)
    (r s : Run Call Answer Error Refusal Value) (e : Event Answer Error) (sound : Sound p program r)
    (moved : step p caller r e = some s) : Sound p program s := by
  cases e with
  | deadline =>
      rw [step] at moved
      split at moved
      · cases moved
      · injection moved with same
        exact same ▸ stop_sound p program r .deadline true r.aborted rfl (by simp) sound
  | abort =>
      obtain ⟨_, same⟩ := Option.ite_none_right_eq_some.mp moved
      injection same with same
      exact same ▸ stop_sound p program r .aborted r.deadline true rfl (by simp) sound
  | answer a =>
      cases a with
      | ok a =>
          rw [step] at moved
          split at moved
          · next c next here =>
              obtain ⟨_, same⟩ := Option.ite_none_right_eq_some.mp moved
              injection same with same
              exact same ▸ answer_sound p program r c next a here sound
          · cases moved
      | error e =>
          rw [step] at moved
          split at moved
          · injection moved with same
            exact same ▸ fail_sound p program r _ e sound
          · cases moved
  | resume =>
      rw [step] at moved
      split at moved
      · next q here =>
          injection moved with same
          exact same ▸ advance_sound p program r q here sound
      · cases moved
  | finish =>
      rw [step] at moved
      split at moved
      · next s here =>
          injection moved with same
          exact same ▸ conclude_sound p program r s here sound
      · cases moved

theorem begin_sound (p : Protocol Call Answer Error Refusal) (program : Program Call Answer Error Value) :
    Sound p program (begin program) := by
  refine ⟨fun _ _ member => absurd member List.not_mem_nil, .inr ⟨rfl, rfl⟩, ?_⟩
  intro before c later same
  cases before with
  | nil => cases same
  | cons e rest => cases same

theorem reachable_sound (p : Protocol Call Answer Error Refusal) (caller : Bool) (program : Program Call Answer Error Value)
    (r : Run Call Answer Error Refusal Value) (reached : (machine p caller program).Reachable r) : Sound p program r :=
  (machine p caller program).invariant (Sound p program) (begin_sound p program)
    (fun r s e _ sound moved => step_sound p caller program r s e sound moved) r reached

theorem calls_along (p : Protocol Call Answer Error Refusal) (caller : Bool) (program : Program Call Answer Error Value)
    (r : Run Call Answer Error Refusal Value) (reached : (machine p caller program).Reachable r) : Along program (calls r.log) :=
  stands_along program r.log r.point (reachable_sound p caller program r reached).stands

theorem calls_once (p : Protocol Call Answer Error Refusal) (caller : Bool) (program : Program Call Answer Error Value)
    (r : Run Call Answer Error Refusal Value) (chosen : Call → Bool) (reached : (machine p caller program).Reachable r)
    (single : ∀ es c next, program.After es (.call c next) → chosen c = true → ∀ d ∈ es.map Prod.fst, chosen d = false) :
    (calls r.log).countP chosen ≤ 1 := by
  have due := (reachable_sound p caller program r reached).due
  generalize r.log = log at due
  induction log using List.reverseRecOn with
  | nil => exact Nat.zero_le 1
  | append_singleton log e ih =>
      have earlier : Due p program log := by
        intro before c later same
        exact due before c (later ++ [e]) (by rw [same, List.append_assoc, List.cons_append])
      by_cases call : ∃ c, e = .called c
      · obtain ⟨c, rfl⟩ := call
        obtain ⟨⟨next, here⟩, answered, _⟩ := due log c [] rfl
        rw [calls_called, List.countP_append, List.countP_singleton]
        by_cases mine : chosen c = true
        · have none : (calls log).countP chosen = 0 := by
            rw [List.countP_eq_zero]
            intro d member
            rw [answered] at member
            exact ne_true_of_eq_false (single _ c next here mine d member)
          exact Nat.le_of_eq (by rw [none, if_pos mine])
        · rw [if_neg mine]
          exact ih earlier
      · rw [calls_note log e fun c same => call ⟨c, same⟩]
        exact ih earlier

theorem concluded_after (p : Protocol Call Answer Error Refusal) (caller : Bool) (program : Program Call Answer Error Value)
    (r : Run Call Answer Error Refusal Value) (v : Value) (reached : (machine p caller program).Reachable r)
    (concluded : r.point = .concluded (.ok v)) : program.After (exchanges r.log) (.done (.ok v)) := by
  have stands := (reachable_sound p caller program r reached).stands
  rw [concluded] at stands
  rcases stands with ⟨⟨e, same⟩, _⟩ | ⟨w, same, after, _⟩
  · cases same
  · injection same with same
    exact same ▸ after

def play : List (Call × Answer) → List (Event Answer Error)
  | [] => [.resume, .finish]
  | (_, a) :: rest => .resume :: .answer (.ok a) :: play rest

def replayed : List (Call × Answer) → List (Entry Call Answer)
  | [] => []
  | (c, a) :: rest => .called c :: .answered c a :: replayed rest

theorem play_concludes (p : Protocol Call Answer Error Refusal) (caller : Bool) (whole program : Program Call Answer Error Value)
    (es : List (Call × Answer)) (s : Except Error Value) (log : List (Entry Call Answer)) (path : program.After es (.done s))
    (suits : ∀ e ∈ es, p.suits e.1 e.2 = true) :
    (machine p caller whole).run ⟨.ready program, false, false, log⟩ (play es) =
      some ⟨.concluded (p.conclude false s), false, false, log ++ replayed es⟩ := by
  induction es generalizing program log with
  | nil =>
      obtain rfl : program = .done s := path
      simp [play, Machine.run, machine, step, Run.advance, replayed]
  | cons e rest ih =>
      obtain ⟨c, a⟩ := e
      cases program with
      | done r => exact path.elim
      | call c' next =>
          obtain ⟨rfl, later⟩ := path
          have fits : p.suits c' a = true := suits (c', a) (by simp)
          have tail := ih (next a) (log ++ [.called c', .answered c' a]) later (fun e member => suits e (by simp [member]))
          rw [replayed, List.append_cons, List.append_cons, List.append_assoc]
          simpa [play, Machine.run, machine, step, Run.advance, Run.stopped, Run.note, fits] using tail

end Operation
