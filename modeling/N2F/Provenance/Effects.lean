import N2F.Provenance.Lineage

set_option autoImplicit false

namespace N2F

open Ecma

def referenceId (r : Given Reference) : Option Str := r.genuine?.map Reference.id

def sourceId (r : ReplayInfo) : Str := r.source.id

def WorkSnapshot.named (w : WorkSnapshot) : List Str := (w.causation.map Reference.id).toList ++ (w.replay.map sourceId).toList

def Opening.named : Opening → List Str
  | .open _ => []
  | .child (.genuine P) s =>
      [P.snapshot.scopeId, P.snapshot.work.workId] ++ (s.cause.bind referenceId).toList ++
        (P.snapshot.work.replay.map sourceId).toList
  | .execute (.genuine work) _ => work.data.named
  | .retry (.genuine P) _ => P.snapshot.scopeId :: P.snapshot.work.named
  | .replay s => (referenceId s.source).toList
  | .enter _ (.genuine i) => (i.cause.map Reference.id).toList
  | .child .foreign _ | .execute .foreign _ | .retry .foreign _ | .enter _ .foreign => []

def Emission.named (m : Emission) : List Str :=
  m.forbidden ++ (m.work.causation.bind referenceId).toList ++
    (m.work.replay.bind fun r => referenceId r.source).toList

def Emission.Sound (m : Emission) : Prop :=
  ∀ p, m.previousAttempt = some p → validID p = true ∧ p ∈ m.forbidden ∧ is m.attempt 1 = false

theorem names_other (kind : ReferenceKind) (id : Str) (g : Given Reference) (other : id ∉ (referenceId g).toList) :
    names kind (some id) g = false := by
  cases g with
  | foreign => rfl
  | genuine r =>
      have apart : id ≠ r.id := by simpa [referenceId] using other
      exact (names_false_iff kind id r).mpr fun _ => apart.symm

theorem filled_valid (w : DraftWork) (id : Str) (valid : w.Valid true) (canonical : validID id = true)
    (cause : id ∉ (w.causation.bind referenceId).toList)
    (source : id ∉ (w.replay.bind fun r => referenceId r.source).toList) : (w.filled id).Valid false := by
  have settled (given : Option Str) (identified' : identified true given = true) :
      identified false (some (given.getD id)) = true := by
    cases given with
    | none => exact canonical
    | some other => exact identified'
  have apart (g : Given Reference) (other : id ∉ (referenceId g).toList) (before : names .work w.workId g = false) :
      names .work (some (w.workId.getD id)) g = false := by
    cases given : w.workId with
    | none => exact names_other .work id g other
    | some workId => simpa [given] using before
  have replayed (r : DraftReplay) (here : (w.filled id).replay = some r) :
      ∃ r', w.replay = some r' ∧ r = { r' with runId := some (r'.runId.getD id) } := by
    obtain ⟨r', before, rfl⟩ := Option.map_eq_some_iff.mp here
    exact ⟨r', before, rfl⟩
  refine
    { workId := settled w.workId valid.workId
      correlationId := settled w.correlationId valid.correlationId
      correlationSource := valid.correlationSource
      operation := valid.operation
      attribution := valid.attribution
      origin := valid.origin
      replayOrigin := by simpa [DraftWork.filled] using valid.replayOrigin
      cause := valid.cause
      workCause := fun r here => apart r (fun member => cause ?_) (valid.workCause r here)
      depth := valid.depth
      source := fun r here => ?_
      runId := fun r here => ?_
      workSource := fun r here => ?_ }
  · simpa [show w.causation = some r from here] using member
  · obtain ⟨r', before, rfl⟩ := replayed r here
    exact valid.source r' before
  · obtain ⟨r', before, rfl⟩ := replayed r here
    exact settled r'.runId (valid.runId r' before)
  · obtain ⟨r', before, rfl⟩ := replayed r here
    exact apart r'.source (fun member => source (by simpa [before] using member)) (valid.workSource r' before)

theorem failure_none_iff (m : Emission) :
    m.failure = none ↔ namedActor m.executor = true ∧ refusesAttempt m.attempt = false ∧ m.work.Valid true := by
  rw [← validate_none_iff, Emission.failure]
  split_ifs with unnamed refused
  · simp_all
  · simp_all
  · simp_all

theorem accept_fresh (m : Emission) (ms : ℤ) (id : Str) (accepted : m.failure = none) (sound : m.Sound)
    (timed : 0 ≤ ms ∧ ms ≤ 281474976710655) (canonical : validID id = true) (fresh : id ∉ m.named) :
    ∃ s, m.accept ms id = .ok s := by
  obtain ⟨executor, attempt, valid⟩ := (failure_none_iff m).mp accepted
  simp only [Emission.named, List.mem_append, not_or] at fresh
  obtain ⟨⟨allowed, cause⟩, source⟩ := fresh
  have whole : (m.scope id ms).Valid :=
    { scopeId := canonical
      work := filled_valid m.work id valid canonical cause source
      executor := executor
      attempt := attempt
      previous := by
        intro p here
        obtain ⟨valid', inside, second⟩ := sound p here
        refine ⟨valid', fun same => allowed ?_, second⟩
        rwa [show p = id from same] at inside
      scopeCause := by
        intro r here
        refine names_other .scope id r fun member => cause ?_
        simpa [show m.work.causation = some r from here] using member
      time := ⟨ms, rfl, timed⟩ }
  obtain ⟨s, restored⟩ := restore_scope_ok _ whole
  exact ⟨s, by simp [Emission.accept, canonical, allowed, restored]⟩

theorem enter_work (s : RootSpec) (i : Given IncomingResult) (m : Emission) (planned : enterEmission s i = .ok m) :
    ∃ result w, i = .genuine result ∧ rootWork s = .ok w ∧ m = ⟨w.continuing result, s.executor, first, none, []⟩ := by
  cases i with
  | foreign => cases planned
  | genuine result =>
      cases rooted : rootWork s with
      | error e => simp [enterEmission, rooted] at planned
      | ok w =>
          simp only [enterEmission, rooted, Except.ok.injEq] at planned
          exact ⟨result, w, rfl, rfl, planned.symm⟩

theorem open_work (s : RootSpec) (m : Emission) (planned : openEmission s = .ok m) :
    ∃ w, rootWork s = .ok w ∧ m = ⟨w, s.executor, first, none, []⟩ := by
  cases rooted : rootWork s with
  | error e => simp [openEmission, rooted] at planned
  | ok w =>
      simp only [openEmission, rooted, Except.ok.injEq] at planned
      exact ⟨w, rfl, planned.symm⟩

theorem replay_work (s : ReplaySpec) (m : Emission) (planned : replayEmission s = .ok m) :
    m.work.causation = none ∧ m.work.replay = some ⟨s.runId, s.source⟩ ∧ m.previousAttempt = none ∧
      m.forbidden = replayForbidden s.source := by
  rw [replayEmission] at planned
  split_ifs at planned
  cases planned
  exact ⟨rfl, rfl, rfl, rfl⟩

theorem retry_work (P : Scope) (executor : Given Actor) (m : Emission) (planned : retryEmission (.genuine P) executor = .ok m) :
    m = ⟨P.snapshot.work.draft, executor, P.snapshot.attempt.increment, some P.snapshot.scopeId, [P.snapshot.scopeId]⟩ := by
  simp only [retryEmission] at planned
  split_ifs at planned
  exact (Except.ok.inj planned).symm

theorem emission_sound (o : Opening) (m : Emission) (planned : o.emission = .ok m) : m.Sound := by
  intro p here
  cases o with
  | «open» s =>
      obtain ⟨w, _, rfl⟩ := open_work s m planned
      cases here
  | child parent s =>
      obtain ⟨P, w, _, _, rfl⟩ := child_emission_ok parent s m planned
      cases here
  | execute work s =>
      cases work with
      | foreign => cases planned
      | genuine work =>
          cases planned
          cases here
  | retry previous executor =>
      cases previous with
      | foreign => cases planned
      | genuine P =>
          obtain rfl := retry_work P executor m planned
          obtain rfl : P.snapshot.scopeId = p := Option.some.inj here
          obtain ⟨q, _, least, next⟩ := attempt_increment P
          refine ⟨P.valid.scopeId, by simp, ?_⟩
          rw [is, next]
          refine decide_eq_false fun same => ?_
          have value : q + 1 = 1 := Option.some.inj same
          linarith
  | replay s => simp [(replay_work s m planned).2.2.1] at here
  | enter s i =>
      obtain ⟨result, w, _, _, rfl⟩ := enter_work s i m planned
      cases here

theorem snapshot_named (w : WorkSnapshot) :
    (w.draft.causation.bind referenceId).toList ++ (w.draft.replay.bind fun r => referenceId r.source).toList = w.named := by
  obtain ⟨workId, correlationId, source, causation, origin, operation, attribution, depth, replay⟩ := w
  cases causation <;> cases replay <;> rfl

theorem child_named (parent : Given Scope) (s : StepSpec) (m : Emission) (planned : (Opening.child parent s).emission = .ok m) :
    m.named ⊆ (Opening.child parent s).named := by
  intro id member
  obtain ⟨P, w, rfl, worked, rfl⟩ := child_emission_ok parent s m planned
  obtain ⟨P', c, same, _, _, caused, rfl, _⟩ := child_work_ok _ _ _ _ w worked
  cases same
  have source : (P.data.work.draft.replay.bind fun r => referenceId r.source) = P.data.work.replay.map sourceId := by
    simp only [WorkSnapshot.draft]
    cases P.data.work.replay <;> rfl
  simp only [Emission.named, ScopeSnapshot.childDraft, source, List.mem_append, Option.bind_some] at member
  simp only [Opening.named, Scope.snapshot, List.mem_append]
  rcases member with (forbidden | cause) | source
  · left; left
    simp only [List.mem_cons] at forbidden ⊢
    rcases forbidden with same | more
    · exact .inl same
    · split_ifs at more
      · exact .inr (List.mem_cons.mp more)
      · cases more
  · rcases child_cause_ok P.data s.cause c caused with given | ⟨_, r, rfl, _, named⟩
    · left; right
      simpa [given] using cause
    · left; left
      have same : id = r.id := by simpa [referenceId] using cause
      simp [same, named]
  · exact .inr source

theorem replay_named (s : ReplaySpec) (m : Emission) (planned : (Opening.replay s).emission = .ok m) :
    m.named ⊆ (Opening.replay s).named := by
  intro id member
  obtain ⟨cause, source, _, forbidden⟩ := replay_work s m planned
  simp only [Emission.named, cause, source, forbidden, Option.bind_none, Option.toList_none, List.append_nil,
    Option.bind_some, List.mem_append] at member
  rcases member with scope | named
  · cases given : s.source with
    | foreign => simp [replayForbidden, given] at scope
    | genuine r =>
        simp only [replayForbidden, given] at scope
        split_ifs at scope
        · simpa [Opening.named, given, referenceId] using scope
        · cases scope
  · exact named

theorem enter_named (s : RootSpec) (i : Given IncomingResult) (m : Emission) (planned : (Opening.enter s i).emission = .ok m) :
    m.named ⊆ (Opening.enter s i).named := by
  intro id member
  obtain ⟨result, w, rfl, rooted, rfl⟩ := enter_work s i m planned
  rw [root_work_ok s w rooted] at member
  by_cases continued : result.decision = .continued
  · simp only [DraftWork.continuing, if_pos continued, Emission.named] at member
    cases cause : result.cause <;> simp_all [Opening.named, referenceId]
  · simp [DraftWork.continuing, if_neg continued, Emission.named] at member

theorem emission_named (o : Opening) (m : Emission) (planned : o.emission = .ok m) : m.named ⊆ o.named := by
  intro id member
  cases o with
  | «open» s =>
      obtain ⟨w, rooted, rfl⟩ := open_work s m planned
      simp [Emission.named, root_work_ok s w rooted] at member
  | child parent s => exact child_named parent s m planned member
  | execute work s =>
      cases work with
      | foreign => cases planned
      | genuine work =>
          cases planned
          rwa [Emission.named, List.nil_append, snapshot_named] at member
  | retry previous executor =>
      cases previous with
      | foreign => cases planned
      | genuine P =>
          obtain rfl := retry_work P executor m planned
          rwa [Emission.named, List.append_assoc, snapshot_named] at member
  | replay s => exact replay_named s m planned member
  | enter s i => exact enter_named s i m planned member

theorem validate_kind (w : DraftWork) (defaults : Bool) (e : Failure) (refused : validateWork w defaults = some e) :
    e.kind = .invalid := by
  obtain ⟨c, member, _, rfl⟩ := refusal_some _ e refused
  have all : ∀ c ∈ workChecks w defaults, c.2.kind = .invalid := by simp [workChecks, invalid, failure]
  exact all c member

theorem failure_kind (m : Emission) (e : Failure) (refused : m.failure = some e) : e.kind = .invalid := by
  rw [Emission.failure] at refused
  split_ifs at refused
  · cases refused
    rfl
  · cases refused
    rfl
  · exact validate_kind _ _ e refused

theorem root_kind (s : RootSpec) (e : Failure) (refused : rootWork s = .error e) : e.kind = .invalid := by
  rw [rootWork] at refused
  split_ifs at refused
  · cases refused
    rfl
  · cases refused
    rfl

theorem child_kind (parent : Given Scope) (workId : Option Str) (op : Str) (cause : Option (Given Reference)) (e : Failure)
    (refused : childWork parent workId op cause = .error e) : e.kind = .invalid := by
  cases parent with
  | foreign =>
      cases refused
      rfl
  | genuine P =>
      by_cases ids : workId.any (fun id => !validID id || id = P.snapshot.work.workId) = true
      · simp only [childWork, ids, if_true, Except.error.injEq] at refused
        rw [← refused]
        rfl
      by_cases exhausted : P.snapshot.work.depth.any (is · maxUint32) = true
      · simp only [childWork, if_neg ids, exhausted, if_true, Except.error.injEq] at refused
        rw [← refused]
        rfl
      simp only [childWork, if_neg ids, if_neg exhausted] at refused
      cases caused : childCause P.snapshot cause with
      | error e' =>
          simp only [caused, Except.error.injEq] at refused
          rw [← refused]
          -- the parent's own identifier makes a reference
          cases cause with
          | some given => cases caused
          | none =>
              have canonical : validID P.snapshot.scopeId = true := P.valid.scopeId
              rw [childCause, reference_valid _ _ canonical] at caused
              cases caused
      | ok c =>
          simp only [caused] at refused
          cases checked : validateWork (P.snapshot.childDraft workId op c) true with
          | none => simp [checked] at refused
          | some e' =>
              simp only [checked, Except.error.injEq] at refused
              exact refused ▸ validate_kind _ _ e' checked

theorem emission_kind (o : Opening) (e : Failure) (refused : o.emission = .error e) : e.kind = .invalid := by
  cases o with
  | «open» s =>
      cases rooted : rootWork s with
      | ok w => simp [Opening.emission, openEmission, rooted] at refused
      | error e' =>
          simp only [Opening.emission, openEmission, rooted, Except.error.injEq] at refused
          exact refused ▸ root_kind s e' rooted
  | child parent s =>
      cases worked : childWork parent s.workId s.operation s.cause with
      | error e' =>
          simp only [Opening.emission, childEmission, worked, Except.error.injEq] at refused
          exact refused ▸ child_kind _ _ _ _ e' worked
      | ok w =>
          obtain ⟨P, _, rfl, _⟩ := child_work_ok _ _ _ _ w worked
          simp [Opening.emission, childEmission, worked] at refused
  | execute work s =>
      cases work with
      | foreign =>
          cases refused
          rfl
      | genuine work => cases refused
  | retry previous executor =>
      cases previous with
      | foreign =>
          cases refused
          rfl
      | genuine P =>
          simp only [Opening.emission, retryEmission] at refused
          split_ifs at refused
          cases refused
          rfl
  | replay s =>
      rw [Opening.emission, replayEmission] at refused
      split_ifs at refused
      · cases refused
        rfl
      · cases refused
        rfl
  | enter s i =>
      cases i with
      | foreign =>
          cases refused
          rfl
      | genuine result =>
          cases rooted : rootWork s with
          | ok w => simp [Opening.emission, enterEmission, rooted] at refused
          | error e' =>
              simp only [Opening.emission, enterEmission, rooted, Except.error.injEq] at refused
              exact refused ▸ root_kind s e' rooted

theorem accept_error (m : Emission) (ms : ℤ) (id : Str) (e : Failure) (refused : m.accept ms id = .error e) :
    e = generatedError := by
  rw [Emission.accept] at refused
  split at refused
  · exact (Except.error.inj refused).symm
  · cases restored : restoreScope (m.scope id ms) with
    | ok s => simp [restored] at refused
    | error e' =>
        simp only [restored, Except.error.injEq] at refused
        exact refused.symm

-- The checks on the arguments alone, those of the operation before those of the draft.
def Opening.refusal (o : Opening) : Option Failure :=
  match o.emission with
  | .error e => some e
  | .ok m => m.failure

def RefusesInputs (o : Opening) : Prop :=
  ∃ e, o.refusal = some e ∧ e.kind = .invalid ∧ ∀ (f : Factory) (calls : List Call), f.run o calls = (.error e, calls)

def Answered (o : Opening) (answer : Result Str) (result : Result Scope) : Prop :=
  match answer with
  | .error e => result = .error e
  | .ok id => (∃ s, result = .ok s) ∨ (result = .error generatedError ∧ (validID id = false ∨ id ∈ o.named))

def CallsOnce (o : Opening) (f : Factory) (calls : List Call) : Prop :=
  (normalizedTime (f.clock calls) = none ∧ f.run o calls = (.error (invalid "invalid_time"), calls ++ [.now])) ∨
  ((normalizedTime (f.clock calls)).isSome = true ∧
    ∃ result, f.run o calls = (result, calls ++ [.now, .newId]) ∧ Answered o (f.ids (calls ++ [.now])) result)

theorem emission_calls_once (o : Opening) (m : Emission) (planned : o.emission = .ok m) (accepted : m.failure = none)
    (f : Factory) (calls : List Call) : CallsOnce o f calls := by
  have ran : f.run o calls = f.emit m calls := by simp only [Factory.run, planned]
  rcases emit_cases f m calls with ⟨e, refused, _⟩ | ⟨_, timed, same⟩ | ⟨ms, _, timed, same⟩
  · rw [accepted] at refused
    cases refused
  · exact .inl ⟨timed, ran.trans same⟩
  · refine .inr ⟨by simp [timed], _, ran.trans same, ?_⟩
    cases answered : f.ids (calls ++ [.now]) with
    | error e => rfl
    | ok id =>
        cases admitted : m.accept ms id with
        | ok s => exact .inl ⟨s, admitted⟩
        | error e =>
            refine .inr ⟨admitted.trans (by rw [accept_error m ms id e admitted]), ?_⟩
            by_cases canonical : validID id = true
            · right
              by_contra unnamed
              obtain ⟨s, fresh⟩ := accept_fresh m ms id accepted (emission_sound o m planned)
                ((normalized_time_iff _ ms).mp timed).2 canonical (fun member => unnamed (emission_named o m planned member))
              rw [admitted] at fresh
              cases fresh
            · exact .inl (by simpa using canonical)

theorem opening_refuses_or_calls_once (o : Opening) :
    RefusesInputs o ∨ o.refusal = none ∧ ∀ (f : Factory) (calls : List Call), CallsOnce o f calls := by
  cases planned : o.emission with
  | error e =>
      exact .inl ⟨e, by rw [Opening.refusal, planned], emission_kind o e planned, fun f calls => by simp only [Factory.run, planned]⟩
  | ok m =>
      have refusal : o.refusal = m.failure := by rw [Opening.refusal, planned]
      cases accepted : m.failure with
      | some e =>
          exact .inl ⟨e, refusal.trans accepted, failure_kind m e accepted,
            fun f calls => by simp only [Factory.run, planned, Factory.emit, accepted]⟩
      | none => exact .inr ⟨refusal.trans accepted, emission_calls_once o m planned accepted⟩

theorem opening_refuses_or_calls_once_demo : RefusesInputs (.open { demoRoot with operation := str "Run" }) ∧
    (Opening.open demoRoot).refusal = none ∧ CallsOnce (.open demoRoot) demoFactory [] := by
  have accepted : (Opening.open demoRoot).refusal = none := by decide +kernel
  have refused : (Opening.open { demoRoot with operation := str "Run" }).refusal ≠ none := by decide +kernel
  refine ⟨?_, accepted, ?_⟩
  · exact (opening_refuses_or_calls_once _).resolve_right fun once => refused once.1
  · rcases opening_refuses_or_calls_once (.open demoRoot) with ⟨e, failed, _⟩ | ⟨_, once⟩
    · cases accepted.symm.trans failed
    · exact once demoFactory []

end N2F
