import N2F.Provenance.Effects
import N2F.Provenance.Queueing

set_option autoImplicit false

namespace N2F

open Ecma

def ScopeSnapshot.ids (s : ScopeSnapshot) : List Str :=
  [s.scopeId, s.work.workId, s.work.correlationId] ++ s.previousAttempt.toList ++ (s.work.causation.map Reference.id).toList ++
    (s.work.replay.map ReplayInfo.runId).toList ++ (s.work.replay.map sourceId).toList

structure Factory.Supplies (f : Factory) (calls : List Call) (taken : List Str) : Prop where
  time : (normalizedTime (f.clock calls)).isSome = true
  id : ∃ id, f.ids (calls ++ [.now]) = .ok id ∧ validID id = true ∧ id ∉ taken

def Factory.Decides (f : Factory) (o : Opening) (calls : List Call) (condition : Prop) : Prop :=
  (condition → ∃ D, f.run o calls = (.ok D, calls ++ [.now, .newId])) ∧
  (¬ condition → ∃ e, f.run o calls = (.error e, calls))

def ValidAttempt (n : Number) : Prop := ∃ k : ℤ, 1 ≤ k ∧ k ≤ 4294967295 ∧ n.rational = some (k : ℚ)

theorem supplies_less (f : Factory) (calls : List Call) (taken fewer : List Str) (supplied : f.Supplies calls taken)
    (less : fewer ⊆ taken) : f.Supplies calls fewer := by
  obtain ⟨id, answered, canonical, fresh⟩ := supplied.id
  exact ⟨supplied.time, id, answered, canonical, fun member => fresh (less member)⟩

theorem supplied_emission (f : Factory) (o : Opening) (m : Emission) (calls : List Call) (planned : o.emission = .ok m)
    (accepted : m.failure = none) (supplied : f.Supplies calls o.named) :
    ∃ D, f.run o calls = (.ok D, calls ++ [.now, .newId]) := by
  obtain ⟨id, answered, canonical, fresh⟩ := supplied.id
  obtain ⟨ms, timed⟩ := Option.isSome_iff_exists.mp supplied.time
  obtain ⟨D, admitted⟩ := accept_fresh m ms id accepted (emission_sound o m planned) ((normalized_time_iff _ ms).mp timed).2
    canonical (fun member => fresh (emission_named o m planned member))
  refine ⟨D, ?_⟩
  simp only [Factory.run, planned, Factory.emit, accepted, timed, answered, admitted, List.append_assoc, List.cons_append,
    List.nil_append]

theorem snapshot_settled (w : WorkSnapshot) : w.draft.Settled := by
  refine ⟨rfl, rfl, fun r here => ?_⟩
  obtain ⟨info, _, rfl⟩ := Option.map_eq_some_iff.mp here
  rfl

theorem snapshot_valid (w : WorkSnapshot) (valid : w.draft.Valid false) : w.draft.Valid true := by
  rw [← validate_none_iff, settled_validate _ (snapshot_settled w) true, validate_none_iff]
  exact valid

theorem whole_iff (x : Number) (least : ℤ) :
    (!x.isInteger || x.below least || x.above maxUint32) = false ↔
      ∃ k : ℤ, least ≤ k ∧ k ≤ 4294967295 ∧ x.rational = some (k : ℚ) := by
  cases value : x.rational with
  | none => simp [Number.isInteger, value]
  | some q =>
      simp only [Number.isInteger, value, below_rational x q _ value, above_rational x q _ value, Bool.or_eq_false_iff,
        Bool.not_eq_false', decide_eq_true_eq, decide_eq_false_iff_not, not_lt, Option.some.injEq, maxUint32]
      constructor
      · rintro ⟨⟨integral, lower⟩, upper⟩
        obtain ⟨k, rfl⟩ : ∃ k : ℤ, q = k := ⟨q.num, ((Rat.den_eq_one_iff q).mp integral).symm⟩
        exact ⟨k, by exact_mod_cast lower, by exact_mod_cast upper, rfl⟩
      · rintro ⟨k, lower, upper, rfl⟩
        exact ⟨⟨rfl, by exact_mod_cast lower⟩, by exact_mod_cast upper⟩

theorem accepts_attempt_iff (n : Number) : refusesAttempt n = false ↔ ValidAttempt n := by
  have whole := whole_iff n 1
  rw [Int.cast_one] at whole
  exact whole

theorem whole_increment (x : Number) (k : ℤ) (lower : 0 ≤ k) (upper : k ≤ 4294967295) (value : x.rational = some (k : ℚ))
    (more : is x maxUint32 = false) : k + 1 ≤ 4294967295 ∧ x.increment.rational = some ((k + 1 : ℤ) : ℚ) := by
  have apart : k ≠ 4294967295 := by
    rintro rfl
    simp [is, value, maxUint32] at more
  have next := increment_rational x k value rfl (by exact_mod_cast lower) (by rw [maxUint32]; exact_mod_cast upper)
  exact ⟨by omega, by rw [next]; push_cast; rfl⟩

theorem restored_depth (w : DraftWork) (d : Number) (accepted : refusesDepth w d = false) :
    ∃ k : ℤ, 0 ≤ k ∧ k ≤ 4294967295 ∧ d.rational = some (k : ℚ) := by
  obtain ⟨q, value, integral, lower, upper⟩ := accepted_depth w d accepted
  obtain ⟨k, rfl⟩ : ∃ k : ℤ, q = k := ⟨q.num, ((Rat.den_eq_one_iff q).mp integral).symm⟩
  rw [maxUint32] at upper
  exact ⟨k, by exact_mod_cast lower, by exact_mod_cast upper, value⟩

theorem caused_depth (w : DraftWork) (d : Number) (k : ℤ) (lower : 1 ≤ k) (upper : k ≤ 4294967295)
    (value : d.rational = some (k : ℚ)) (caused : w.causation.isSome = true) : refusesDepth w d = false := by
  have whole := (whole_iff d 0).mpr ⟨k, by omega, upper, value⟩
  have positive : is d 0 = false := by
    rw [is, value]
    refine decide_eq_false fun same => ?_
    have zero : (k : ℚ) = 0 := Option.some.inj same
    have : k = 0 := by exact_mod_cast zero
    omega
  rw [Int.cast_zero] at whole
  have uncaused : w.causation.isNone = false := by
    cases here : w.causation with
    | none => simp [here] at caused
    | some c => rfl
  simp only [refusesDepth, whole, positive, uncaused, Bool.and_false, Bool.false_and, Bool.or_false]

theorem child_draft_valid (P : Scope) (op : Str) (r : Reference) (valid : validOperation op = true) (scope : r.kind = .scope)
    (more : ∀ d, P.snapshot.work.depth = some d → is d maxUint32 = false) :
    (P.snapshot.childDraft none op (.genuine r)).Valid true := by
  have whole : P.snapshot.work.draft.Valid false := P.valid.work
  refine
    { workId := rfl
      correlationId := whole.correlationId
      correlationSource := rfl
      operation := valid
      attribution := rfl
      origin := whole.origin
      replayOrigin := whole.replayOrigin
      cause := fun c here => ?_
      workCause := fun c here => ?_
      depth := fun d here => ?_
      source := whole.source
      runId := fun info here => ?_
      workSource := fun info here => ?_ }
  · cases here
    rfl
  · cases here
    simp [names, scope]
  · obtain ⟨before, known, rfl⟩ := Option.map_eq_some_iff.mp here
    obtain ⟨k, lower, upper, value⟩ := restored_depth _ before (whole.depth before known)
    obtain ⟨upper', value'⟩ := whole_increment before k lower upper value (more before known)
    exact caused_depth _ _ (k + 1) (by omega) upper' value' rfl
  · obtain ⟨stored, _, rfl⟩ := Option.map_eq_some_iff.mp here
    exact whole.runId _ here
  · obtain ⟨stored, _, rfl⟩ := Option.map_eq_some_iff.mp here
    simp [names, ReplayInfo.draft, ScopeSnapshot.childDraft]

theorem child_decides (f : Factory) (P : Scope) (op : Str) (executor : Given Actor) (calls : List Call)
    (valid : validOperation op = true) (named : namedActor executor = true) (supplied : f.Supplies calls P.snapshot.ids) :
    f.Decides (.child (.genuine P) ⟨none, op, executor, none⟩) calls
      (∀ d, P.snapshot.work.depth = some d → is d maxUint32 = false) := by
  have canonical : validID P.snapshot.scopeId = true := P.valid.scopeId
  constructor
  · intro more
    have drafted := child_draft_valid P op ⟨.scope, P.snapshot.scopeId, canonical⟩ valid rfl more
    obtain ⟨w, planned, whole⟩ : ∃ w, childWork (.genuine P) none op none = .ok w ∧ w.Valid true := by
      refine ⟨_, ?_, drafted⟩
      have exhausted : P.snapshot.work.depth.any (is · maxUint32) = false := (any_false_iff _ _).mpr more
      simp only [childWork, Option.any_none, Bool.false_eq_true, if_false, exhausted, childCause,
        reference_valid _ _ canonical, Except.map, (validate_none_iff _ _).mpr drafted]
    have emission : Opening.emission (.child (.genuine P) ⟨none, op, executor, none⟩) =
        .ok ⟨w, executor, first, none, [P.snapshot.scopeId, P.snapshot.work.workId]⟩ := by
      simp only [Opening.emission, childEmission, planned, if_true]
    refine supplied_emission f _ _ calls emission ?_ (supplies_less f calls _ _ supplied ?_)
    · exact (failure_none_iff _).mpr ⟨named, (accepts_attempt_iff first).mpr ⟨1, by decide, by decide, by decide +kernel⟩, whole⟩
    · intro id member
      simp only [Opening.named, ScopeSnapshot.ids, Option.bind_none, Option.toList_none, List.append_nil, List.mem_append,
        List.mem_cons, List.not_mem_nil, or_false] at member ⊢
      tauto
  · intro last
    have exhausted : P.snapshot.work.depth.any (is · maxUint32) = true := by
      by_contra unexhausted
      exact last ((any_false_iff _ _).mp (Bool.eq_false_of_not_eq_true unexhausted))
    refine ⟨invalid "depth_exhausted", ?_⟩
    simp only [Factory.run, Opening.emission, childEmission, childWork, Option.any_none, Bool.false_eq_true, if_false,
      exhausted, if_true]

theorem retry_decides (f : Factory) (P : Scope) (executor : Given Actor) (calls : List Call)
    (named : namedActor executor = true) (supplied : f.Supplies calls P.snapshot.ids) :
    f.Decides (.retry (.genuine P) executor) calls (is P.snapshot.attempt maxUint32 = false) := by
  constructor
  · intro more
    have emission : Opening.emission (.retry (.genuine P) executor) =
        .ok ⟨P.snapshot.work.draft, executor, P.snapshot.attempt.increment, some P.snapshot.scopeId, [P.snapshot.scopeId]⟩ := by
      simp only [Opening.emission, retryEmission, more, Bool.false_eq_true, if_false]
    refine supplied_emission f _ _ calls emission ?_ (supplies_less f calls _ _ supplied ?_)
    · obtain ⟨k, lower, upper, value⟩ := (accepts_attempt_iff P.snapshot.attempt).mp P.valid.attempt
      obtain ⟨upper', value'⟩ := whole_increment _ k (by omega) upper value more
      exact (failure_none_iff _).mpr ⟨named, (accepts_attempt_iff _).mpr ⟨k + 1, by omega, upper', value'⟩,
        snapshot_valid _ P.valid.work⟩
    · intro id member
      simp only [Opening.named, WorkSnapshot.named, ScopeSnapshot.ids, List.mem_append, List.mem_cons, List.not_mem_nil,
        or_false] at member ⊢
      tauto
  · intro last
    rw [Bool.not_eq_false] at last
    exact ⟨invalid "attempt_exhausted", by simp only [Factory.run, Opening.emission, retryEmission, last, if_true]⟩

theorem execute_decides (f : Factory) (P : Scope) (n : Number) (executor : Given Actor) (calls : List Call)
    (named : namedActor executor = true) (supplied : f.Supplies calls P.snapshot.ids) :
    f.Decides (.execute (.genuine P.workContext) ⟨executor, n⟩) calls (ValidAttempt n) := by
  constructor
  · intro counted
    refine supplied_emission f _ ⟨P.workContext.data.draft, executor, n, none, []⟩ calls rfl ?_
      (supplies_less f calls _ _ supplied ?_)
    · exact (failure_none_iff _).mpr ⟨named, (accepts_attempt_iff n).mpr counted, snapshot_valid _ P.valid.work⟩
    · intro id member
      simp only [Opening.named, Scope.workContext, WorkSnapshot.named, ScopeSnapshot.ids, List.mem_append] at member ⊢
      tauto
  · intro other
    rw [← accepts_attempt_iff, Bool.not_eq_false] at other
    refine ⟨invalid "invalid_attempt", ?_⟩
    simp only [Factory.run, Opening.emission, executeEmission, Factory.emit, Emission.failure, named, other, Bool.not_true,
      Bool.false_eq_true, if_false, if_true]

theorem scope_always_continues (f : Factory) (P : Scope) (op : Str) (executor : Given Actor) (calls : List Call)
    (valid : validOperation op = true) (named : namedActor executor = true) (supplied : f.Supplies calls P.snapshot.ids) :
    f.Decides (.child (.genuine P) ⟨none, op, executor, none⟩) calls
      (∀ d, P.snapshot.work.depth = some d → is d maxUint32 = false) ∧
    f.Decides (.retry (.genuine P) executor) calls (is P.snapshot.attempt maxUint32 = false) ∧
    ∀ n, f.Decides (.execute (.genuine P.workContext) ⟨executor, n⟩) calls (ValidAttempt n) :=
  ⟨child_decides f P op executor calls valid named supplied, retry_decides f P executor calls named supplied,
    fun n => execute_decides f P n executor calls named supplied⟩

theorem scope_always_continues_root :
    ∃ P : Scope,
      demoFactory.Decides (.child (.genuine P) ⟨none, str "demo.export", .genuine demoActor, none⟩) [.now, .newId]
        (∀ d, P.snapshot.work.depth = some d → is d maxUint32 = false) ∧
      demoFactory.Decides (.retry (.genuine P) (.genuine demoActor)) [.now, .newId] (is P.snapshot.attempt maxUint32 = false) ∧
      ∀ n, demoFactory.Decides (.execute (.genuine P.workContext) ⟨.genuine demoActor, n⟩) [.now, .newId] (ValidAttempt n) := by
  obtain ⟨P, later, opened⟩ := run_success demoFactory (.open demoRoot) [] (by decide +kernel)
  have started : (demoFactory.run (.open demoRoot) []).1 = .ok P := by rw [opened]
  have fresh : ((demoFactory.run (.open demoRoot) []).1.toOption.all fun P => !P.snapshot.ids.contains (demoId 3)) = true := by
    decide +kernel
  rw [started] at fresh
  have supplied : demoFactory.Supplies [.now, .newId] P.snapshot.ids :=
    ⟨by decide, demoId 3, rfl, by decide +kernel, by simpa [Except.toOption] using fresh⟩
  exact ⟨P, scope_always_continues demoFactory P (str "demo.export") (.genuine demoActor) [.now, .newId] (by decide +kernel)
    (by decide) supplied⟩

end N2F
