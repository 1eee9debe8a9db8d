import N2F.Provenance.Work

set_option autoImplicit false

namespace N2F

open Ecma

-- A Date holds an integral time value or none; a reading may also be no Date.
inductive Date where
  | time (ms : ℤ)
  | invalid
  | foreign
deriving DecidableEq

def normalizedTime (t : Date) : Option ℤ :=
  match t with
  | .time ms => if |ms| ≤ 9007199254740991 ∧ 0 ≤ ms ∧ ms ≤ 281474976710655 then some ms else none
  | .invalid | .foreign => none

structure ScopeSnapshot where
  work : WorkSnapshot
  scopeId : Str
  startedAt : ℤ
  executor : Actor
  attempt : Number
  previousAttempt : Option Str
deriving DecidableEq

structure DraftScope where
  work : DraftWork
  scopeId : Str
  startedAt : Date
  executor : Given Actor
  attempt : Number
  previousAttempt : Option Str

def ScopeSnapshot.draft (s : ScopeSnapshot) : DraftScope :=
  { work := s.work.draft
    scopeId := s.scopeId
    startedAt := .time s.startedAt
    executor := .genuine s.executor
    attempt := s.attempt
    previousAttempt := s.previousAttempt }

def refusesAttempt (attempt : Number) : Bool := !attempt.isInteger || attempt.below 1 || attempt.above maxUint32

def scopeChecks (s : DraftScope) : List (Bool × Failure) :=
  [(!namedActor s.executor, invalid "invalid_actor"),
    (refusesAttempt s.attempt, invalid "invalid_attempt"),
    (s.previousAttempt.any (fun p => !validID p || p = s.scopeId || is s.attempt 1), invalid "invalid_scope"),
    (s.work.causation.any (names .scope (some s.scopeId)), invalid "invalid_scope"),
    ((normalizedTime s.startedAt).isNone, invalid "invalid_time")]

structure DraftScope.Valid (s : DraftScope) : Prop where
  scopeId : validID s.scopeId = true
  work : s.work.Valid false
  executor : namedActor s.executor = true
  attempt : refusesAttempt s.attempt = false
  previous : ∀ p, s.previousAttempt = some p → validID p = true ∧ p ≠ s.scopeId ∧ is s.attempt 1 = false
  scopeCause : ∀ r, s.work.causation = some r → names .scope (some s.scopeId) r = false
  time : ∃ ms, s.startedAt = .time ms ∧ 0 ≤ ms ∧ ms ≤ 281474976710655

structure Scope where
  data : ScopeSnapshot
  valid : data.draft.Valid
deriving DecidableEq

def Scope.snapshot (s : Scope) : ScopeSnapshot := s.data

def Scope.workContext (s : Scope) : WorkContext := ⟨s.data.work, s.valid.work⟩

theorem normalized_time_iff (t : Date) (ms : ℤ) :
    normalizedTime t = some ms ↔ t = .time ms ∧ 0 ≤ ms ∧ ms ≤ 281474976710655 := by
  cases t with
  | time value =>
      by_cases inside : 0 ≤ value ∧ value ≤ 281474976710655
      · have safe : |value| ≤ 9007199254740991 := by
          rw [abs_of_nonneg inside.1]
          omega
        simp only [normalizedTime, if_pos (show _ ∧ _ ∧ _ from ⟨safe, inside⟩), Option.some.injEq, Date.time.injEq]
        constructor
        · rintro rfl
          exact ⟨rfl, inside⟩
        · exact And.left
      · simp only [normalizedTime, if_neg (fun held : |value| ≤ 9007199254740991 ∧ _ => inside held.2), Date.time.injEq,
          reduceCtorEq, false_iff]
        rintro ⟨rfl, held⟩
        exact inside held
  | invalid => simp [normalizedTime]
  | foreign => simp [normalizedTime]

theorem scope_checks_none_iff (s : DraftScope) (canonical : validID s.scopeId = true) (work : s.work.Valid false) :
    refusal (scopeChecks s) = none ↔ s.Valid := by
  simp only [refusal_none_iff, scopeChecks, List.forall_mem_cons, List.not_mem_nil, any_false_iff, Bool.not_eq_false',
    Option.isNone_eq_false_iff, Option.isSome_iff_exists, normalized_time_iff, Bool.or_eq_false_iff, decide_eq_false_iff_not]
  constructor
  · rintro ⟨executor, attempt, previous, cause, time, _⟩
    exact ⟨canonical, work, executor, attempt, fun p here => and_assoc.mp (previous p here), cause, time⟩
  · intro valid
    exact ⟨valid.executor, valid.attempt, fun p here => and_assoc.mpr (valid.previous p here), valid.scopeCause, valid.time,
      by simp⟩

def draftStart (t : Date) : ℤ :=
  match t with
  | .time ms => ms
  | .invalid | .foreign => 0

theorem named_genuine (a : Given Actor) (named : namedActor a = true) : a.isGenuine = true := by
  cases a with
  | genuine a => rfl
  | foreign => cases named

def DraftScope.snapshot (s : DraftScope) (valid : s.Valid) : ScopeSnapshot :=
  { work := s.work.snapshot valid.work
    scopeId := s.scopeId
    startedAt := draftStart s.startedAt
    executor := s.executor.get (named_genuine s.executor valid.executor)
    attempt := s.attempt
    previousAttempt := s.previousAttempt }

theorem scope_snapshot_draft (s : DraftScope) (valid : s.Valid) : (s.snapshot valid).draft = s := by
  have started : Date.time (draftStart s.startedAt) = s.startedAt := by
    obtain ⟨ms, here, _⟩ := valid.time
    rw [here]
    rfl
  simp only [DraftScope.snapshot, ScopeSnapshot.draft, snapshot_draft, started, Given.genuine_get]

theorem scope_draft_injective (a b : ScopeSnapshot) (same : a.draft = b.draft) : a = b := by
  obtain ⟨work, scopeId, startedAt, executor, attempt, previousAttempt⟩ := a
  obtain ⟨work', scopeId', startedAt', executor', attempt', previousAttempt'⟩ := b
  simp only [ScopeSnapshot.draft, DraftScope.mk.injEq, Date.time.injEq, Given.genuine.injEq] at same
  obtain ⟨works, rfl, rfl, rfl, rfl, rfl⟩ := same
  rw [draft_injective work work' works]

def restoreScope (s : DraftScope) : Result Scope :=
  if canonical : validID s.scopeId = true then
    match worked : validateWork s.work false with
    | some e => .error e
    | none =>
        match checked : refusal (scopeChecks s) with
        | some e => .error e
        | none =>
            have valid := (scope_checks_none_iff s canonical ((validate_none_iff s.work false).mp worked)).mp checked
            .ok ⟨s.snapshot valid, by rw [scope_snapshot_draft]; exact valid⟩
  else .error (invalid "invalid_scope")

theorem restore_scope_iff (d : DraftScope) (s : Scope) : restoreScope d = .ok s ↔ s.data.draft = d := by
  have unique (valid : d.Valid) (other : (d.snapshot valid).draft.Valid) :
      (Except.ok ⟨d.snapshot valid, other⟩ : Result Scope) = .ok s ↔ s.data.draft = d := by
    obtain ⟨data, valid'⟩ := s
    simp only [Except.ok.injEq, Scope.mk.injEq]
    constructor
    · rintro rfl
      exact scope_snapshot_draft d valid
    · intro same
      exact scope_draft_injective _ _ (by rw [scope_snapshot_draft, same])
  rw [restoreScope]
  split
  · next canonical =>
      split
      · next e refused =>
          constructor
          · intro restored
            cases restored
          · rintro rfl
            simp [(validate_none_iff s.data.draft.work false).mpr s.valid.work] at refused
      · next worked =>
          split
          · next e refused =>
              constructor
              · intro restored
                cases restored
              · rintro rfl
                simp [(scope_checks_none_iff s.data.draft canonical s.valid.work).mpr s.valid] at refused
          · exact unique _ _
  · next unnamed =>
      constructor
      · intro restored
        cases restored
      · rintro rfl
        exact absurd s.valid.scopeId unnamed

theorem restore_scope_ok (d : DraftScope) (valid : d.Valid) : ∃ s, restoreScope d = .ok s := by
  have settled : (d.snapshot valid).draft.Valid := by
    rw [scope_snapshot_draft d valid]
    exact valid
  exact ⟨⟨d.snapshot valid, settled⟩, (restore_scope_iff d _).mpr (scope_snapshot_draft d valid)⟩

end N2F
