import N2F.Provenance.Admission

set_option autoImplicit false

namespace N2F

open Ecma

theorem names_false_iff (kind : ReferenceKind) (id : Str) (r : Reference) :
    names kind (some id) (.genuine r) = false ↔ (r.kind = kind → r.id ≠ id) := by
  simp [names]

theorem filled_work_id (w : DraftWork) (D : Scope) (filled : D.data.work.draft = w.filled D.data.scopeId) :
    D.data.work.workId = w.workId.getD D.data.scopeId := Option.some.inj (congrArg DraftWork.workId filled)

structure Apart (o : Opening) (D : ScopeSnapshot) : Prop where
  canonical : validID D.scopeId = true
  scopeCause : ∀ r, D.work.causation = some r → r.kind = .scope → r.id ≠ D.scopeId
  previousAttempt : ∀ p, D.previousAttempt = some p → p ≠ D.scopeId
  workCause : ∀ r, D.work.causation = some r → r.kind = .work → r.id ≠ D.work.workId
  workSource : ∀ r, D.work.replay = some r → r.source.kind = .work → r.source.id ≠ D.work.workId
  child : ∀ P s, o = .child (.genuine P) s →
    D.scopeId ≠ P.snapshot.scopeId ∧ D.work.workId ≠ P.snapshot.work.workId
  retry : ∀ P executor, o = .retry (.genuine P) executor → D.scopeId ≠ P.snapshot.scopeId
  replay : ∀ s r, o = .replay s → s.source = .genuine r → r.kind = .scope → D.scopeId ≠ r.id

theorem child_apart (P D : Scope) (s : StepSpec) (m : Emission) (planned : childEmission (.genuine P) s = .ok m)
    (allowed : D.data.scopeId ∉ m.forbidden) (draft : D.data.draft = m.scope D.data.scopeId D.data.startedAt) :
    D.data.scopeId ≠ P.data.scopeId ∧ D.data.work.workId ≠ P.data.work.workId := by
  obtain ⟨p, w, same, worked, rfl⟩ := child_emission_ok _ s m planned
  obtain ⟨p', c, same', ids, _, _, rfl, _⟩ := child_work_ok _ _ _ _ w worked
  cases same
  cases same'
  have filled := filled_work_id _ D (congrArg DraftScope.work draft)
  simp only [List.mem_cons, not_or] at allowed
  refine ⟨allowed.1, ?_⟩
  cases named : s.workId with
  | some id =>
      simp only [ScopeSnapshot.childDraft, named, Option.getD_some] at filled
      rw [filled]
      exact (ids id named).2
  | none =>
      simp only [ScopeSnapshot.childDraft, named, Option.getD_none] at filled
      rw [filled]
      simpa [named] using allowed.2

theorem retry_apart (P D : Scope) (executor : Given Actor) (m : Emission) (planned : retryEmission (.genuine P) executor = .ok m)
    (allowed : D.data.scopeId ∉ m.forbidden) : D.data.scopeId ≠ P.data.scopeId := by
  simp only [retryEmission] at planned
  split_ifs at planned
  cases planned
  simpa [Scope.snapshot] using allowed

theorem replay_apart (s : ReplaySpec) (D : Scope) (r : Reference) (m : Emission) (planned : replayEmission s = .ok m)
    (allowed : D.data.scopeId ∉ m.forbidden) (source : s.source = .genuine r) (scope : r.kind = .scope) :
    D.data.scopeId ≠ r.id := by
  rw [replayEmission] at planned
  split_ifs at planned
  cases planned
  simpa [replayForbidden, source, scope] using allowed

theorem opened_apart (f : Factory) (o : Opening) (calls later : List Call) (D : Scope) (ran : f.run o calls = (.ok D, later)) :
    Apart o D.snapshot := by
  obtain ⟨m, planned, _, allowed, draft⟩ := run_ok f o calls later D ran
  have valid := D.valid
  have cause (r : Reference) (here : D.data.work.causation = some r) : D.data.draft.work.causation = some (.genuine r) := by
    simp only [ScopeSnapshot.draft, WorkSnapshot.draft, here, Option.map_some]
  have source (r : ReplayInfo) (here : D.data.work.replay = some r) : D.data.draft.work.replay = some r.draft := by
    simp only [ScopeSnapshot.draft, WorkSnapshot.draft, here, Option.map_some]
  refine ⟨valid.scopeId, ?_, fun p here => (valid.previous p here).2.1, ?_, ?_, ?_, ?_, ?_⟩
  · intro r here
    exact (names_false_iff _ _ r).mp (valid.scopeCause _ (cause r here))
  · intro r here
    exact (names_false_iff _ _ r).mp (valid.work.workCause _ (cause r here))
  · intro r here
    exact (names_false_iff _ _ r.source).mp (valid.work.workSource _ (source r here))
  · rintro P s rfl
    exact child_apart P D s m planned allowed draft
  · rintro P executor rfl
    exact retry_apart P D executor m planned allowed
  · rintro s r rfl source scope
    exact replay_apart s D r m planned allowed source scope

theorem snapshot_restores (D : Scope) : restoreScope D.snapshot.draft = .ok D := (restore_scope_iff _ D).mpr rfl

theorem opened_scope_apart_and_restorable (f : Factory) (o : Opening) (calls later : List Call) (D : Scope)
    (ran : f.run o calls = (.ok D, later)) :
    Apart o D.snapshot ∧ ∃ restored, restoreScope D.snapshot.draft = .ok restored ∧ restored.snapshot = D.snapshot :=
  ⟨opened_apart f o calls later D ran, D, snapshot_restores D, rfl⟩

theorem run_success (f : Factory) (o : Opening) (calls : List Call) (succeeds : (f.run o calls).1.isOk = true) :
    ∃ D later, f.run o calls = (.ok D, later) := by
  cases ran : f.run o calls with
  | mk result later =>
      rw [ran] at succeeds
      cases result with
      | error e => cases succeeds
      | ok D => exact ⟨D, later, rfl⟩

def demoFactory : Factory := ⟨fun _ => .time 1000, fun calls => .ok (demoId calls.length)⟩

def demoRoot : RootSpec := ⟨none, .genuine .startup, str "demo.run", .genuine demoAttribution, .genuine demoActor⟩

def demoStep : StepSpec := ⟨none, str "demo.export", .genuine demoActor, none⟩

theorem demo_child :
    ∃ P D later, demoFactory.run (.child (.genuine P) demoStep) [.now, .newId] = (.ok D, later) := by
  obtain ⟨P, later, opened⟩ := run_success demoFactory (.open demoRoot) [] (by decide +kernel)
  have started : (demoFactory.run (.open demoRoot) []).1 = .ok P := by rw [opened]
  have succeeds : ((demoFactory.run (.open demoRoot) []).1.toOption.any fun P =>
      (demoFactory.run (.child (.genuine P) demoStep) [.now, .newId]).1.isOk) = true := by decide +kernel
  rw [started] at succeeds
  exact ⟨P, run_success demoFactory (.child (.genuine P) demoStep) [.now, .newId] succeeds⟩

theorem opened_scope_apart_and_restorable_child :
    ∃ P D : Scope, Apart (.child (.genuine P) demoStep) D.snapshot ∧
      ∃ restored, restoreScope D.snapshot.draft = .ok restored ∧ restored.snapshot = D.snapshot := by
  obtain ⟨P, D, later, ran⟩ := demo_child
  exact ⟨P, D, opened_scope_apart_and_restorable demoFactory _ _ later D ran⟩

end N2F
