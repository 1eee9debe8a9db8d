import N2F.Provenance.Factory

set_option autoImplicit false

namespace N2F

open Ecma

theorem accept_ok (m : Emission) (ms : ℤ) (scopeId : Str) (s : Scope) (admitted : m.accept ms scopeId = .ok s) :
    s.data.draft = m.scope scopeId ms ∧ scopeId ∉ m.forbidden := by
  rw [Emission.accept] at admitted
  split at admitted
  · cases admitted
  · next allowed =>
      cases restored : restoreScope (m.scope scopeId ms) with
      | error e => simp [restored] at admitted
      | ok s' =>
          simp only [restored, Except.ok.injEq] at admitted
          subst admitted
          exact ⟨(restore_scope_iff _ _).mp restored, by simp_all⟩

theorem emit_cases (f : Factory) (m : Emission) (calls : List Call) :
    (∃ e, m.failure = some e ∧ f.emit m calls = (.error e, calls)) ∨
    (m.failure = none ∧ normalizedTime (f.clock calls) = none ∧
      f.emit m calls = (.error (invalid "invalid_time"), calls ++ [.now])) ∨
    (∃ ms, m.failure = none ∧ normalizedTime (f.clock calls) = some ms ∧
      f.emit m calls =
        (match f.ids (calls ++ [.now]) with
          | .error e => .error e
          | .ok scopeId => m.accept ms scopeId, calls ++ [.now, .newId])) := by
  cases refused : m.failure with
  | some e => exact .inl ⟨e, rfl, by simp [Factory.emit, refused]⟩
  | none =>
      cases timed : normalizedTime (f.clock calls) with
      | none => exact .inr (.inl ⟨rfl, rfl, by simp [Factory.emit, refused, timed]⟩)
      | some ms =>
          refine .inr (.inr ⟨ms, rfl, rfl, ?_⟩)
          cases answered : f.ids (calls ++ [.now]) <;> simp [Factory.emit, refused, timed, answered]

theorem emit_ok (f : Factory) (m : Emission) (calls later : List Call) (s : Scope)
    (emitted : f.emit m calls = (.ok s, later)) :
    m.failure = none ∧ s.data.scopeId ∉ m.forbidden ∧ s.data.draft = m.scope s.data.scopeId s.data.startedAt := by
  rcases emit_cases f m calls with ⟨e, _, same⟩ | ⟨_, _, same⟩ | ⟨ms, accepted, _, same⟩
  · simp [same] at emitted
  · simp [same] at emitted
  · rw [same] at emitted
    cases answered : f.ids (calls ++ [.now]) with
    | error e => simp [answered] at emitted
    | ok scopeId =>
        simp only [answered, Prod.mk.injEq] at emitted
        obtain ⟨draft, allowed⟩ := accept_ok m ms scopeId s emitted.1
        have id : s.data.scopeId = scopeId := congrArg DraftScope.scopeId draft
        have started : s.data.startedAt = ms := Date.time.inj (congrArg DraftScope.startedAt draft)
        rw [id, started]
        exact ⟨accepted, allowed, draft⟩

theorem run_ok (f : Factory) (o : Opening) (calls later : List Call) (s : Scope) (ran : f.run o calls = (.ok s, later)) :
    ∃ m, o.emission = .ok m ∧ m.failure = none ∧ s.data.scopeId ∉ m.forbidden ∧
      s.data.draft = m.scope s.data.scopeId s.data.startedAt := by
  rw [Factory.run] at ran
  cases planned : o.emission with
  | error e => simp [planned] at ran
  | ok m =>
      simp only [planned] at ran
      exact ⟨m, rfl, emit_ok f m calls later s ran⟩

theorem filled_draft (w : WorkSnapshot) (scopeId : Str) : w.draft.filled scopeId = w.draft := by
  obtain ⟨workId, correlationId, source, causation, origin, operation, attribution, depth, replay⟩ := w
  cases replay <;> rfl

theorem root_work_ok (s : RootSpec) (w : DraftWork) (rooted : rootWork s = .ok w) :
    w = ⟨s.workId, none, .genuine .local, none, some s.origin, s.operation, s.attribution, some Number.zero, none⟩ := by
  rw [rootWork] at rooted
  split_ifs at rooted
  exact (Except.ok.inj rooted).symm

theorem child_cause_ok (parent : ScopeSnapshot) (cause : Option (Given Reference)) (c : Given Reference)
    (caused : childCause parent cause = .ok c) :
    cause = some c ∨ (cause = none ∧ ∃ r : Reference, c = .genuine r ∧ r.kind = .scope ∧ r.id = parent.scopeId) := by
  cases cause with
  | some given => exact .inl (congrArg some (Except.ok.inj caused))
  | none =>
      right
      by_cases valid : validID parent.scopeId = true
      · rw [childCause, reference_valid _ _ valid] at caused
        exact ⟨rfl, _, (Except.ok.inj caused).symm, rfl, rfl⟩
      · simp [childCause, reference, valid, Except.map] at caused

theorem child_work_ok (parent : Given Scope) (workId : Option Str) (operation : Str) (cause : Option (Given Reference))
    (w : DraftWork) (planned : childWork parent workId operation cause = .ok w) :
    ∃ p c, parent = .genuine p ∧ (∀ id, workId = some id → validID id = true ∧ id ≠ p.data.work.workId) ∧
      (∀ d, p.data.work.depth = some d → is d maxUint32 = false) ∧ childCause p.data cause = .ok c ∧
      w = p.data.childDraft workId operation c ∧ w.Valid true := by
  cases parent with
  | foreign => simp [childWork] at planned
  | genuine p =>
      by_cases ids : workId.any (fun id => !validID id || id = p.snapshot.work.workId) = true
      · simp [childWork, ids] at planned
      by_cases exhausted : p.snapshot.work.depth.any (is · maxUint32) = true
      · simp [childWork, ids, exhausted] at planned
      simp only [childWork, if_neg ids, if_neg exhausted] at planned
      simp only [Bool.not_eq_true, any_false_iff] at ids exhausted
      cases caused : childCause p.snapshot cause with
      | error e => simp [caused] at planned
      | ok c =>
          simp only [caused] at planned
          cases checked : validateWork (p.snapshot.childDraft workId operation c) true with
          | some e => simp [checked] at planned
          | none =>
              simp only [checked, Except.ok.injEq] at planned
              refine ⟨p, c, rfl, fun id here => ?_, exhausted, caused, planned.symm, ?_⟩
              · obtain ⟨valid, apart⟩ := Bool.or_eq_false_iff.mp (ids id here)
                exact ⟨by simpa using valid, of_decide_eq_false apart⟩
              · rw [← planned]
                exact (validate_none_iff _ _).mp checked

theorem prepare_ok (parent : Given Scope) (s : WorkSpec) (work : WorkContext) (ready : prepare parent s = .ok work) :
    childWork parent (some s.workId) s.operation s.cause = .ok work.data.draft := by
  cases parent with
  | foreign => simp [prepare] at ready
  | genuine p =>
      simp only [prepare] at ready
      split_ifs at ready with malformed
      cases planned : childWork (.genuine p) (some s.workId) s.operation s.cause with
      | error e => simp [planned] at ready
      | ok w =>
          simp only [planned] at ready
          rw [(restore_work_iff w work).mp ready]

theorem child_emission_ok (parent : Given Scope) (s : StepSpec) (m : Emission) (planned : childEmission parent s = .ok m) :
    ∃ p w, parent = .genuine p ∧ childWork parent s.workId s.operation s.cause = .ok w ∧
      m = ⟨w, s.executor, first, none, p.data.scopeId :: if s.workId = none then [p.data.work.workId] else []⟩ := by
  cases parent with
  | foreign => simp [childEmission, childWork] at planned
  | genuine p =>
      cases worked : childWork (.genuine p) s.workId s.operation s.cause with
      | error e => simp [childEmission, worked] at planned
      | ok w =>
          simp only [childEmission, worked, Scope.snapshot, Except.ok.injEq] at planned
          exact ⟨p, w, rfl, rfl, planned.symm⟩

end N2F
