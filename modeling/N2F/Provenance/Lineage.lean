import N2F.Provenance.Identity

set_option autoImplicit false

namespace N2F

open Ecma

inductive Step : Scope → ℕ → Scope → Prop where
  | child (f : Factory) (calls later : List Call) (P D : Scope) (s : StepSpec)
      (ran : f.run (.child (.genuine P) s) calls = (.ok D, later)) : Step P 1 D
  | prepared (f : Factory) (calls later : List Call) (P D : Scope) (s : WorkSpec) (work : WorkContext) (e : ExecutionSpec)
      (ready : prepare (.genuine P) s = .ok work)
      (ran : f.run (.execute (.genuine work) e) calls = (.ok D, later)) : Step P 1 D
  | execute (f : Factory) (calls later : List Call) (P D : Scope) (e : ExecutionSpec)
      (ran : f.run (.execute (.genuine P.workContext) e) calls = (.ok D, later)) : Step P 0 D
  | retry (f : Factory) (calls later : List Call) (P D : Scope) (executor : Given Actor)
      (ran : f.run (.retry (.genuine P) executor) calls = (.ok D, later)) : Step P 0 D

inductive Derived (R : Scope) : ℕ → Scope → Prop where
  | root : Derived R 0 R
  | step (hops more : ℕ) (P D : Scope) (derived : Derived R hops P) (step : Step P more D) : Derived R (hops + more) D

def Deeper (before : Option Number) (hops : ℕ) (after : Option Number) : Prop :=
  match before with
  | none => after = none
  | some d => ∃ q d', d.rational = some q ∧ after = some d' ∧ d'.rational = some (q + hops)

structure Inherits (R : WorkSnapshot) (hops : ℕ) (D : WorkSnapshot) : Prop where
  correlationId : D.correlationId = R.correlationId
  correlationSource : D.correlationSource = R.correlationSource
  origin : D.origin = R.origin
  attribution : D.attribution = R.attribution
  replay : D.replay = R.replay
  depth : Deeper R.depth hops D.depth

def CausedBy (P : ScopeSnapshot) (cause : Option (Given Reference)) (D : WorkSnapshot) : Prop :=
  ∃ r, D.causation = some r ∧
    (cause = some (.genuine r) ∨ (cause = none ∧ r.kind = .scope ∧ r.id = P.scopeId))

theorem deeper_trans (a b c : Option Number) (n m : ℕ) (first : Deeper a n b) (second : Deeper b m c) : Deeper a (n + m) c := by
  cases a with
  | none =>
      subst first
      exact second
  | some d =>
      obtain ⟨q, d', value, rfl, value'⟩ := first
      obtain ⟨q', d'', same, rfl, value''⟩ := second
      obtain rfl : q + n = q' := Option.some.inj (value'.symm.trans same)
      exact ⟨q, d'', value, rfl, by rw [value'']; push_cast; ring_nf⟩

theorem increment_rational (x : Number) (q : ℚ) (value : x.rational = some q) (integral : q.den = 1) (nonneg : 0 ≤ q)
    (small : q ≤ maxUint32) : x.increment.rational = some (q + 1) := by
  have exact (n : ℤ) (lower : 0 ≤ n) (upper : n ≤ 4294967296) : (Number.ofInt n).rational = some (n : ℚ) := by
    rw [Number.of_int_small n (by rw [abs_of_nonneg lower]; omega)]
    rfl
  cases x with
  | nan => cases value
  | infinity negative => cases value
  | negZero =>
      obtain rfl : (0 : ℚ) = q := Option.some.inj value
      simpa [Number.increment] using exact 1 (by norm_num) (by norm_num)
  | finite d =>
      obtain rfl : d.value = q := Option.some.inj value
      obtain ⟨n, same⟩ : ∃ n : ℤ, d.value = n := ⟨d.value.num, (Rat.den_eq_one_iff _).mp integral |>.symm⟩
      rw [same] at nonneg small
      have lower : 0 ≤ n := by exact_mod_cast nonneg
      have upper : n ≤ 4294967295 := by
        rw [maxUint32] at small
        exact_mod_cast small
      have next := exact (n + 1) (by omega) (by omega)
      rw [Number.increment, same]
      push_cast [Number.ofInt] at next
      exact next

theorem accepted_depth (w : DraftWork) (d : Number) (accepted : refusesDepth w d = false) :
    ∃ q, d.rational = some q ∧ q.den = 1 ∧ 0 ≤ q ∧ q ≤ maxUint32 := by
  simp only [refusesDepth, Bool.or_eq_false_iff, Bool.not_eq_false'] at accepted
  obtain ⟨⟨⟨⟨integer, lower⟩, upper⟩, _⟩, _⟩ := accepted
  obtain ⟨q, value, integral⟩ := integer_rational d integer
  rw [below_rational d q 0 value] at lower
  rw [above_rational d q maxUint32 value] at upper
  exact ⟨q, value, integral, not_lt.mp (of_decide_eq_false lower), not_lt.mp (of_decide_eq_false upper)⟩

theorem deeper_refl (w : WorkSnapshot) (valid : w.draft.Valid false) : Deeper w.depth 0 w.depth := by
  cases here : w.depth with
  | none => rfl
  | some d =>
      obtain ⟨q, value, _⟩ := accepted_depth w.draft d (valid.depth d here)
      exact ⟨q, d, value, rfl, by simpa using value⟩

theorem deeper_increment (w : WorkSnapshot) (valid : w.draft.Valid false) : Deeper w.depth 1 (w.depth.map Number.increment) := by
  cases here : w.depth with
  | none => rfl
  | some d =>
      obtain ⟨q, value, integral, nonneg, small⟩ := accepted_depth w.draft d (valid.depth d here)
      exact ⟨q, d.increment, value, rfl, by simpa using increment_rational d q value integral nonneg small⟩

theorem child_snapshot (p : ScopeSnapshot) (w : WorkSnapshot) (workId : Option Str) (op scopeId : Str) (c : Given Reference)
    (filled : w.draft = (p.childDraft workId op c).filled scopeId) :
    ∃ r, c = .genuine r ∧ w = { p.work with
      workId := workId.getD scopeId
      operation := op
      depth := p.work.depth.map Number.increment
      causation := some r } := by
  have cause : w.causation.map Given.genuine = some c := congrArg DraftWork.causation filled
  obtain ⟨r, _, rfl⟩ := Option.map_eq_some_iff.mp cause
  refine ⟨r, rfl, draft_injective _ _ ?_⟩
  rw [filled]
  have replayed : (p.work.replay.map ReplayInfo.draft).map (fun r => { r with runId := some (r.runId.getD scopeId) }) =
      p.work.replay.map ReplayInfo.draft := by
    cases p.work.replay <;> rfl
  simp only [ScopeSnapshot.childDraft, DraftWork.filled, WorkSnapshot.draft, replayed]
  rfl

theorem child_inherits (P : Scope) (w : WorkSnapshot) (workId : Option Str) (op scopeId : Str) (cause : Option (Given Reference))
    (d : DraftWork) (planned : childWork (.genuine P) workId op cause = .ok d) (filled : w.draft = d.filled scopeId) :
    Inherits P.snapshot.work 1 w ∧ CausedBy P.snapshot cause w := by
  obtain ⟨p, c, same, _, _, caused, rfl, _⟩ := child_work_ok _ _ _ _ d planned
  cases same
  obtain ⟨r, rfl, rfl⟩ := child_snapshot P.data w workId op scopeId c filled
  refine ⟨⟨rfl, rfl, rfl, rfl, rfl, deeper_increment P.data.work P.valid.work⟩, r, rfl, ?_⟩
  rcases child_cause_ok P.data cause _ caused with given | ⟨none, r', same, scope, id⟩
  · exact .inl given
  · cases same
    exact .inr ⟨none, scope, id⟩

theorem child_step (f : Factory) (calls later : List Call) (P D : Scope) (s : StepSpec)
    (ran : f.run (.child (.genuine P) s) calls = (.ok D, later)) :
    Inherits P.snapshot.work 1 D.snapshot.work ∧ CausedBy P.snapshot s.cause D.snapshot.work ∧
      D.snapshot.attempt = first ∧ D.snapshot.previousAttempt = none := by
  obtain ⟨m, planned, _, _, draft⟩ := run_ok f _ calls later D ran
  obtain ⟨p, d, same, worked, rfl⟩ := child_emission_ok _ s m planned
  obtain ⟨inherits, caused⟩ := child_inherits P _ s.workId s.operation _ s.cause d worked (congrArg DraftScope.work draft)
  exact ⟨inherits, caused, congrArg DraftScope.attempt draft, congrArg DraftScope.previousAttempt draft⟩

theorem execute_step (f : Factory) (calls later : List Call) (work : WorkContext) (D : Scope) (e : ExecutionSpec)
    (ran : f.run (.execute (.genuine work) e) calls = (.ok D, later)) : D.snapshot.work = work.data := by
  obtain ⟨m, planned, _, _, draft⟩ := run_ok f _ calls later D ran
  obtain rfl := Except.ok.inj planned
  have same : D.data.work.draft = work.data.draft.filled D.data.scopeId := congrArg DraftScope.work draft
  exact draft_injective _ _ (same.trans (filled_draft work.data _))

theorem prepare_step (P : Scope) (s : WorkSpec) (work : WorkContext) (ready : prepare (.genuine P) s = .ok work) :
    Inherits P.snapshot.work 1 work.data ∧ CausedBy P.snapshot s.cause work.data :=
  child_inherits P work.data _ s.operation s.workId s.cause _ (prepare_ok _ s work ready) (filled_draft work.data _).symm

theorem retry_step (f : Factory) (calls later : List Call) (P D : Scope) (executor : Given Actor)
    (ran : f.run (.retry (.genuine P) executor) calls = (.ok D, later)) :
    D.snapshot.work = P.snapshot.work ∧ D.snapshot.attempt = P.snapshot.attempt.increment ∧
      D.snapshot.previousAttempt = some P.snapshot.scopeId := by
  obtain ⟨m, planned, _, _, draft⟩ := run_ok f _ calls later D ran
  simp only [Opening.emission, retryEmission] at planned
  split_ifs at planned
  obtain rfl := Except.ok.inj planned
  have same : D.data.work.draft = P.data.work.draft.filled D.data.scopeId := congrArg DraftScope.work draft
  exact ⟨draft_injective _ _ (same.trans (filled_draft P.data.work _)), congrArg DraftScope.attempt draft,
    congrArg DraftScope.previousAttempt draft⟩

theorem attempt_increment (P : Scope) :
    ∃ q, P.snapshot.attempt.rational = some q ∧ 1 ≤ q ∧ P.snapshot.attempt.increment.rational = some (q + 1) := by
  have accepted := P.valid.attempt
  simp only [refusesAttempt, Bool.or_eq_false_iff, Bool.not_eq_false'] at accepted
  obtain ⟨⟨integer, lower⟩, upper⟩ := accepted
  obtain ⟨q, value, integral⟩ := integer_rational _ integer
  rw [below_rational _ q 1 value] at lower
  rw [above_rational _ q maxUint32 value] at upper
  have least := not_lt.mp (of_decide_eq_false lower)
  exact ⟨q, value, least, increment_rational _ q value integral (by linarith) (not_lt.mp (of_decide_eq_false upper))⟩

theorem inherits_refl (w : WorkSnapshot) (valid : w.draft.Valid false) : Inherits w 0 w :=
  ⟨rfl, rfl, rfl, rfl, rfl, deeper_refl w valid⟩

theorem inherits_trans (a b c : WorkSnapshot) (n m : ℕ) (first : Inherits a n b) (second : Inherits b m c) :
    Inherits a (n + m) c :=
  ⟨second.correlationId.trans first.correlationId, second.correlationSource.trans first.correlationSource,
    second.origin.trans first.origin, second.attribution.trans first.attribution, second.replay.trans first.replay,
    deeper_trans _ _ _ n m first.depth second.depth⟩

theorem step_inherits (P D : Scope) (hops : ℕ) (step : Step P hops D) : Inherits P.snapshot.work hops D.snapshot.work := by
  cases step with
  | child f calls later _ _ s ran => exact (child_step f calls later P D s ran).1
  | prepared f calls later _ _ s work e ready ran =>
      rw [execute_step f calls later work D e ran]
      exact (prepare_step P s work ready).1
  | execute f calls later _ _ e ran =>
      rw [execute_step f calls later P.workContext D e ran]
      exact inherits_refl P.data.work P.valid.work
  | retry f calls later _ _ executor ran =>
      rw [(retry_step f calls later P D executor ran).1]
      exact inherits_refl P.data.work P.valid.work

theorem derived_inherits (R D : Scope) (hops : ℕ) (derived : Derived R hops D) : Inherits R.snapshot.work hops D.snapshot.work := by
  induction derived with
  | root => exact inherits_refl R.data.work R.valid.work
  | step hops more P D _ step ih => exact inherits_trans _ _ _ hops more ih (step_inherits P D more step)

theorem derivation_keeps_lineage (R : Scope) :
    (∀ (hops : ℕ) (D : Scope), Derived R hops D → Inherits R.snapshot.work hops D.snapshot.work) ∧
    (∀ (f : Factory) (calls later : List Call) (work : WorkContext) (D : Scope) (e : ExecutionSpec),
      f.run (.execute (.genuine work) e) calls = (.ok D, later) → D.snapshot.work = work.data) ∧
    (∀ (f : Factory) (calls later : List Call) (P D : Scope) (executor : Given Actor),
      f.run (.retry (.genuine P) executor) calls = (.ok D, later) →
        D.snapshot.work = P.snapshot.work ∧
        D.snapshot.attempt.rational = P.snapshot.attempt.rational.map (· + 1) ∧
        D.snapshot.previousAttempt = some P.snapshot.scopeId) ∧
    (∀ (f : Factory) (calls later : List Call) (P D : Scope) (s : StepSpec),
      f.run (.child (.genuine P) s) calls = (.ok D, later) →
        D.snapshot.attempt = first ∧ D.snapshot.previousAttempt = none ∧
        CausedBy P.snapshot s.cause D.snapshot.work) ∧
    (∀ (P : Scope) (s : WorkSpec) (work : WorkContext),
      prepare (.genuine P) s = .ok work → CausedBy P.snapshot s.cause work.data) := by
  refine ⟨fun hops D => derived_inherits R D hops, execute_step, ?_, ?_, fun P s work ready => (prepare_step P s work ready).2⟩
  · intro f calls later P D executor ran
    obtain ⟨work, attempt, previous⟩ := retry_step f calls later P D executor ran
    obtain ⟨q, value, _, next⟩ := attempt_increment P
    exact ⟨work, by rw [attempt, next, value]; rfl, previous⟩
  · intro f calls later P D s ran
    obtain ⟨_, caused, attempt, previous⟩ := child_step f calls later P D s ran
    exact ⟨attempt, previous, caused⟩

theorem derivation_keeps_lineage_child :
    ∃ P D : Scope, Derived P 1 D ∧ Inherits P.snapshot.work 1 D.snapshot.work := by
  obtain ⟨P, D, later, ran⟩ := demo_child
  have derived : Derived P 1 D := .step 0 1 P D .root (.child demoFactory _ later P D demoStep ran)
  exact ⟨P, D, derived, (derivation_keeps_lineage P).1 1 D derived⟩

end N2F
