import N2F.Provenance.Identity

set_option autoImplicit false

namespace N2F

open Ecma

def Factory.queue (f : Factory) (parent : Given Scope) (s : WorkSpec) (executor : Given Actor) (calls : List Call) :
    Result Scope × List Call :=
  match prepare parent s with
  | .error e => (.error e, calls)
  | .ok work => f.run (.execute (.genuine work) ⟨executor, first⟩) calls

structure DraftWork.Settled (w : DraftWork) : Prop where
  workId : w.workId.isSome = true
  correlationId : w.correlationId.isSome = true
  runId : ∀ r, w.replay = some r → r.runId.isSome = true

theorem identified_settled (id : Option Str) (given : id.isSome = true) (defaults : Bool) :
    identified defaults id = identified false id := by
  cases id with
  | none => cases given
  | some id => rfl

theorem settled_validate (w : DraftWork) (settled : w.Settled) (defaults : Bool) :
    validateWork w defaults = validateWork w false := by
  have replayed : w.replay.any (fun r => !validReference r.source || !identified defaults r.runId) =
      w.replay.any (fun r => !validReference r.source || !identified false r.runId) := by
    cases here : w.replay with
    | none => rfl
    | some r => simp only [Option.any_some, identified_settled r.runId (settled.runId r here) defaults]
  simp only [validateWork, workChecks, identified_settled _ settled.workId defaults,
    identified_settled _ settled.correlationId defaults, replayed]

theorem child_draft_settled (p : ScopeSnapshot) (workId op : Str) (cause : Given Reference) :
    (p.childDraft (some workId) op cause).Settled := by
  refine ⟨rfl, rfl, fun r here => ?_⟩
  obtain ⟨info, _, rfl⟩ := Option.map_eq_some_iff.mp here
  rfl

theorem prepare_of_child (parent : Given Scope) (s : WorkSpec) (w : DraftWork)
    (planned : childWork parent (some s.workId) s.operation s.cause = .ok w) :
    ∃ work, prepare parent s = .ok work ∧ work.data.draft = w := by
  obtain ⟨p, c, rfl, named, _, _, rfl, valid⟩ := child_work_ok parent _ _ _ w planned
  have restorable : (p.data.childDraft (some s.workId) s.operation c).Valid false := by
    rw [← validate_none_iff, ← settled_validate _ (child_draft_settled _ _ _ _) true, validate_none_iff]
    exact valid
  obtain ⟨work, restored, draft⟩ := restore_work_ok _ restorable
  refine ⟨work, ?_, draft⟩
  simp only [prepare, (named s.workId rfl).1, Bool.not_true, Bool.false_eq_true, if_false, planned, restored]

theorem prepare_of_refused (parent : Given Scope) (s : WorkSpec) (e : Failure)
    (refused : childWork parent (some s.workId) s.operation s.cause = .error e) : prepare parent s = .error e := by
  cases parent with
  | foreign => exact congrArg Except.error (Except.error.inj refused)
  | genuine p =>
      by_cases canonical : validID s.workId = true
      · simp only [prepare, canonical, Bool.not_true, Bool.false_eq_true, if_false, refused]
      · -- a malformed work id is what childWork refuses first
        simp only [Bool.not_eq_true] at canonical
        simp only [childWork, Option.any_some, canonical, Bool.not_false, Bool.true_or, if_true] at refused
        simp only [prepare, canonical, Bool.not_false, if_true]
        exact congrArg Except.error (Except.error.inj refused)

theorem emit_forbidding (f : Factory) (w : DraftWork) (executor : Given Actor) (attempt : Number) (previous : Option Str)
    (forbidden : List Str) (calls : List Call) (fresh : ∀ id, f.ids (calls ++ [.now]) = .ok id → id ∉ forbidden) :
    f.emit ⟨w, executor, attempt, previous, forbidden⟩ calls = f.emit ⟨w, executor, attempt, previous, []⟩ calls := by
  simp only [Factory.emit]
  cases refused : Emission.failure ⟨w, executor, attempt, previous, forbidden⟩ with
  | some e =>
      rw [show Emission.failure ⟨w, executor, attempt, previous, []⟩ = some e from refused]
  | none =>
      rw [show Emission.failure ⟨w, executor, attempt, previous, []⟩ = none from refused]
      cases normalizedTime (f.clock calls) with
      | none => rfl
      | some ms =>
          cases answered : f.ids (calls ++ [.now]) with
          | error e => rfl
          | ok id =>
              have allowed : forbidden.contains id = false := by simpa using fresh id answered
              simp only [Emission.accept, allowed, List.contains_nil, Bool.or_false]
              rfl

theorem child_agrees_with_queue (f : Factory) (parent : Given Scope) (s : WorkSpec) (executor : Given Actor) (calls : List Call)
    (fresh : ∀ p, parent = .genuine p → f.ids (calls ++ [.now]) ≠ .ok p.snapshot.scopeId) :
    f.run (.child parent ⟨some s.workId, s.operation, executor, s.cause⟩) calls = f.queue parent s executor calls := by
  cases planned : childWork parent (some s.workId) s.operation s.cause with
  | error e =>
      simp only [Factory.run, Opening.emission, childEmission, planned, Factory.queue, prepare_of_refused parent s e planned]
  | ok w =>
      obtain ⟨work, ready, draft⟩ := prepare_of_child parent s w planned
      obtain ⟨p, _, rfl, _⟩ := child_work_ok parent _ _ _ w planned
      have apart (id : Str) (answered : f.ids (calls ++ [.now]) = .ok id) : id ∉ [p.snapshot.scopeId] := by
        rw [List.mem_singleton]
        rintro rfl
        exact fresh p rfl answered
      simp only [Factory.queue, ready, Factory.run, Opening.emission, childEmission, planned, executeEmission, draft]
      exact emit_forbidding f w executor first none _ calls apart

theorem child_agrees_with_queue_export :
    ∃ P : Scope, demoFactory.run (.child (.genuine P) ⟨some (demoId 9), str "demo.export", .genuine demoActor, none⟩) [.now, .newId] =
      demoFactory.queue (.genuine P) ⟨demoId 9, str "demo.export", none⟩ (.genuine demoActor) [.now, .newId] := by
  obtain ⟨P, later, opened⟩ := run_success demoFactory (.open demoRoot) [] (by decide +kernel)
  have started : (demoFactory.run (.open demoRoot) []).1 = .ok P := by rw [opened]
  have apart : ((demoFactory.run (.open demoRoot) []).1.toOption.all fun P => demoId 3 ≠ P.snapshot.scopeId) = true := by
    decide +kernel
  rw [started] at apart
  refine ⟨P, child_agrees_with_queue demoFactory (.genuine P) ⟨demoId 9, str "demo.export", none⟩ (.genuine demoActor)
    [.now, .newId] fun p same answered => ?_⟩
  cases same
  exact of_decide_eq_true apart (Except.ok.inj answered)

end N2F
