import N2F.Provenance.Effects

set_option autoImplicit false

namespace N2F

open Ecma

def IncomingHints.cause (h : IncomingHints) : Option (ReferenceKind × Str) :=
  match h.causation with
  | none => none
  | some c =>
      match referenceKind c.kind, parsed c.id with
      | .genuine kind, some id => some (kind, id)
      | _, _ => none

def IncomingHints.named (h : IncomingHints) : List Str :=
  (h.correlation.bind parsed).toList ++ (h.causation.bind fun c => parsed c.id).toList

def Reference.spelling (r : Reference) : ReferenceKind × Str := (r.kind, r.id)

theorem inspect_correlation (h : IncomingHints) : (inspectIncoming h).correlation = h.correlation.bind parsed := by
  rw [inspectIncoming]
  split_ifs with empty
  · rw [Option.isNone_iff_eq_none.mp empty.1]
    rfl
  · rfl

theorem inspect_continued_iff (h : IncomingHints) :
    (inspectIncoming h).decision = .continued ↔ (h.correlation.bind parsed).isSome = true := by
  rw [(inspectIncoming h).continued, inspect_correlation]

theorem parsed_ok (hint id : Str) (accepted : parse hint = .ok id) : parsed hint = some id := by
  rw [parsed, accepted]

theorem parsed_error (hint : Str) (e : Failure) (refused : parse hint = .error e) : parsed hint = none := by
  rw [parsed, refused]

theorem inspect_causation_spelled (c : CausationHint) (correlation : Option Str) :
    (inspectCausation c correlation).1.map Reference.spelling =
      if correlation.isSome then (IncomingHints.mk none (some c)).cause else none := by
  simp only [inspectCausation, IncomingHints.cause]
  cases known : referenceKind c.kind with
  | foreign => simp
  | genuine kind =>
      cases accepted : parse c.id with
      | error e => simp [parsed_error c.id e accepted]
      | ok id =>
          have canonical : validID id = true := parsed_valid c.id id accepted
          cases correlation with
          | none => rfl
          | some given => simp [parsed_ok c.id id accepted, reference_valid kind id canonical, Reference.spelling]

theorem inspect_cause (h : IncomingHints) :
    (inspectIncoming h).cause.map Reference.spelling = if (h.correlation.bind parsed).isSome then h.cause else none := by
  cases hint : h.causation with
  | none =>
      have quiet : (inspectIncoming h).cause = none := by
        rw [inspectIncoming]
        split_ifs
        · rfl
        · simp [hint]
      simp [quiet, IncomingHints.cause, hint]
  | some c =>
      have present : (inspectIncoming h).cause = (inspectCausation c (h.correlation.bind parsed)).1 := by
        rw [inspectIncoming]
        split_ifs with empty
        · simp [hint] at empty
        · simp [hint]
      have same : h.cause = (IncomingHints.mk none (some c)).cause := by simp [IncomingHints.cause, hint]
      rw [present, inspect_causation_spelled, same]

theorem cause_named (h : IncomingHints) (kind : ReferenceKind) (id : Str) (spelled : h.cause = some (kind, id)) : id ∈ h.named := by
  rw [IncomingHints.cause] at spelled
  cases hint : h.causation with
  | none => simp [hint] at spelled
  | some c =>
      simp only [hint] at spelled
      split at spelled
      · next accepted =>
          cases spelled
          simp [IncomingHints.named, hint, accepted]
      · cases spelled

theorem adopted_named (h : IncomingHints) (r : Reference) (adopted : (inspectIncoming h).cause = some r) : r.id ∈ h.named := by
  have spelled := inspect_cause h
  rw [adopted, Option.map_some] at spelled
  split_ifs at spelled
  exact cause_named h r.kind r.id spelled.symm

structure RootSpec.Valid (s : RootSpec) : Prop where
  origin : s.origin.isGenuine = true
  ordinary : s.origin ≠ .genuine .replay
  workId : ∀ id, s.workId = some id → validID id = true
  operation : validOperation s.operation = true
  attribution : s.attribution.isGenuine = true
  executor : namedActor s.executor = true

def RootSpec.draft (s : RootSpec) : DraftWork :=
  ⟨s.workId, none, .genuine .local, none, some s.origin, s.operation, s.attribution, some Number.zero, none⟩

def Factory.Ready (f : Factory) (calls : List Call) : Prop :=
  (∃ ms, normalizedTime (f.clock calls) = some ms) ∧ ∃ id, f.ids (calls ++ [.now]) = .ok id ∧ validID id = true

def Factory.Opens (f : Factory) (o : Opening) (calls : List Call) : Prop := ∃ scope, (f.run o calls).1 = .ok scope

def RootSpec.NamedBy (s : RootSpec) (h : IncomingHints) : Prop :=
  (h.correlation.bind parsed).isSome = true ∧ ∃ id, s.workId = some id ∧ h.cause = some (.work, id)

theorem root_work_iff (s : RootSpec) (w : DraftWork) : rootWork s = .ok w ↔
    w = s.draft ∧ s.origin.isGenuine = true ∧ s.origin ≠ .genuine .replay ∧ ∀ id, s.workId = some id → validID id = true := by
  constructor
  · intro rooted
    refine ⟨root_work_ok s w rooted, ?_⟩
    rw [rootWork] at rooted
    split_ifs at rooted with origin ids
    simp only [validOrigin, Bool.or_eq_true, Bool.not_eq_true', decide_eq_true_eq, not_or, Bool.not_eq_false] at origin
    simp only [Bool.not_eq_true, any_false_iff, Bool.not_eq_false'] at ids
    exact ⟨origin.1, origin.2, ids⟩
  · rintro ⟨rfl, genuine, ordinary, ids⟩
    have origin : ¬ (!validOrigin s.origin || s.origin = .genuine .replay) = true := by simp [validOrigin, genuine, ordinary]
    have workId : ¬ s.workId.any (fun id => !validID id) = true := by
      rw [Bool.not_eq_true, any_false_iff]
      intro id here
      rw [ids id here, Bool.not_true]
    rw [rootWork, if_neg origin, if_neg workId]
    rfl

theorem identified_iff (id : Option Str) : identified true id = true ↔ ∀ given, id = some given → validID given = true := by
  cases id <;> simp [identified]

theorem root_depth (s : RootSpec) : refusesDepth s.draft Number.zero = false := by
  have value : Number.zero.rational = some 0 := by decide +kernel
  have integral : Number.zero.isInteger = true := by decide +kernel
  have below := below_rational Number.zero 0 0 value
  have above := above_rational Number.zero 0 0 value
  have most : Number.zero.above maxUint32 = false := by
    rw [above_rational Number.zero 0 maxUint32 value]
    decide +kernel
  simp [refusesDepth, integral, below, above, most, RootSpec.draft]

theorem continuing_valid_iff (s : RootSpec) (i : IncomingResult) (origin : s.origin.isGenuine = true)
    (ordinary : s.origin ≠ .genuine .replay) (workId : ∀ id, s.workId = some id → validID id = true) :
    (s.draft.continuing i).Valid true ↔
      (validOperation s.operation = true ∧ s.attribution.isGenuine = true) ∧
        (i.decision = .continued → ∀ r, i.cause = some r → names .work s.workId (.genuine r) = false) := by
  by_cases continued : i.decision = .continued
  · simp only [DraftWork.continuing, if_pos continued]
    constructor
    · intro valid
      exact ⟨⟨valid.operation, valid.attribution⟩, fun _ r adopted => valid.workCause (.genuine r) (by simp [adopted])⟩
    · rintro ⟨⟨operation, attribution⟩, cause⟩
      refine ⟨(identified_iff _).mpr workId, (identified_iff _).mpr i.canonical, rfl, operation, attribution, ?_, ?_, ?_, ?_, ?_, ?_,
        ?_, ?_⟩
      · intro r here
        cases here
      · simp [RootSpec.draft]
      · intro r here
        obtain ⟨r', -, rfl⟩ := Option.map_eq_some_iff.mp here
        rfl
      · intro r here
        obtain ⟨r', adopted, rfl⟩ := Option.map_eq_some_iff.mp here
        exact cause continued r' adopted
      · intro d here
        cases here
      · intro r here
        cases here
      · intro r here
        cases here
      · intro r here
        cases here
  · simp only [DraftWork.continuing, if_neg continued]
    constructor
    · intro valid
      exact ⟨⟨valid.operation, valid.attribution⟩, fun same => absurd same continued⟩
    · rintro ⟨⟨operation, attribution⟩, -⟩
      refine ⟨(identified_iff _).mpr workId, rfl, rfl, operation, attribution, ?_, ?_, ?_, ?_, ?_, ?_, ?_, ?_⟩
      · intro o here
        cases here
        exact origin
      · simpa [RootSpec.draft] using ordinary
      · intro r here
        cases here
      · intro r here
        cases here
      · intro d here
        cases here
        exact root_depth s
      · intro r here
        cases here
      · intro r here
        cases here
      · intro r here
        cases here

theorem first_attempt : refusesAttempt first = false := by
  decide +kernel

def RootSpec.emission (s : RootSpec) (w : DraftWork) : Emission := ⟨w, s.executor, first, none, []⟩

theorem enter_not_continued (f : Factory) (s : RootSpec) (i : IncomingResult) (calls : List Call) (other : i.decision ≠ .continued) :
    f.run (.enter s (.genuine i)) calls = f.run (.open s) calls := by
  have same : enterEmission s (.genuine i) = openEmission s := by
    rw [enterEmission, openEmission]
    cases rootWork s with
    | error e => rfl
    | ok w => simp only [DraftWork.continuing, if_neg other]
  rw [Factory.run, Factory.run, Opening.emission, Opening.emission, same]

theorem enter_emission_iff (s : RootSpec) (i : IncomingResult) (m : Emission) : enterEmission s (.genuine i) = .ok m ↔
    m = s.emission (s.draft.continuing i) ∧ s.origin.isGenuine = true ∧ s.origin ≠ .genuine .replay ∧
      ∀ id, s.workId = some id → validID id = true := by
  constructor
  · intro planned
    obtain ⟨result, w, same, rooted, rfl⟩ := enter_work s _ m planned
    cases same
    obtain ⟨rfl, rest⟩ := (root_work_iff s w).mp rooted
    exact ⟨rfl, rest⟩
  · rintro ⟨rfl, rest⟩
    rw [enterEmission, (root_work_iff s s.draft).mpr ⟨rfl, rest⟩]
    rfl

theorem emit_draft (f : Factory) (m : Emission) (calls : List Call) (scope : Scope) (emitted : (f.emit m calls).1 = .ok scope) :
    m.failure = none ∧ ∃ ms id, normalizedTime (f.clock calls) = some ms ∧ f.ids (calls ++ [.now]) = .ok id ∧
      scope.data.draft = m.scope id ms := by
  rcases emit_cases f m calls with ⟨e, _, same⟩ | ⟨_, _, same⟩ | ⟨ms, accepted, timed, same⟩
  · simp [same] at emitted
  · simp [same] at emitted
  · rw [same] at emitted
    cases answered : f.ids (calls ++ [.now]) with
    | error e => simp [answered] at emitted
    | ok id =>
        simp only [answered] at emitted
        exact ⟨accepted, ms, id, timed, rfl, (accept_ok m ms id scope emitted).1⟩

theorem emit_ready (f : Factory) (m : Emission) (calls : List Call) (scope : Scope) (emitted : (f.emit m calls).1 = .ok scope) :
    m.failure = none ∧ f.Ready calls := by
  obtain ⟨accepted, ms, id, timed, answered, draft⟩ := emit_draft f m calls scope emitted
  have named : scope.data.scopeId = id := congrArg DraftScope.scopeId draft
  refine ⟨accepted, ⟨ms, timed⟩, id, answered, ?_⟩
  rw [← named]
  exact scope.valid.scopeId

theorem emit_succeeds_iff (f : Factory) (m : Emission) (calls : List Call) (sound : m.Sound)
    (fresh : ∀ id, f.ids (calls ++ [.now]) = .ok id → id ∉ m.named) :
    (∃ scope, (f.emit m calls).1 = .ok scope) ↔ m.failure = none ∧ f.Ready calls := by
  constructor
  · rintro ⟨scope, emitted⟩
    exact emit_ready f m calls scope emitted
  · rintro ⟨accepted, ⟨ms, timed⟩, id, answered, canonical⟩
    obtain ⟨scope, admitted⟩ := accept_fresh m ms id accepted sound ((normalized_time_iff _ ms).mp timed).2 canonical (fresh id answered)
    exact ⟨scope, by simp [Factory.emit, accepted, timed, answered, admitted]⟩

theorem root_emission_sound (s : RootSpec) (w : DraftWork) : (s.emission w).Sound := nofun

theorem entry_named (s : RootSpec) (i : IncomingResult) (id : Str) (named : id ∈ (s.emission (s.draft.continuing i)).named) :
    i.decision = .continued ∧ ∃ r, i.cause = some r ∧ r.id = id := by
  by_cases continued : i.decision = .continued
  · simp only [RootSpec.emission, DraftWork.continuing, if_pos continued, Emission.named, RootSpec.draft] at named
    cases cause : i.cause with
    | none => simp [cause] at named
    | some r => exact ⟨continued, r, rfl, by simpa [cause, referenceId, eq_comm] using named⟩
  · simp [RootSpec.emission, DraftWork.continuing, if_neg continued, Emission.named, RootSpec.draft] at named

theorem entry_accepted_iff (s : RootSpec) (i : IncomingResult) (origin : s.origin.isGenuine = true)
    (ordinary : s.origin ≠ .genuine .replay) (workId : ∀ id, s.workId = some id → validID id = true) :
    (s.emission (s.draft.continuing i)).failure = none ↔
      s.Valid ∧ (i.decision = .continued → ∀ r, i.cause = some r → names .work s.workId (.genuine r) = false) := by
  have valid_iff := continuing_valid_iff s i origin ordinary workId
  rw [failure_none_iff]
  constructor
  · rintro ⟨executor, -, valid⟩
    obtain ⟨⟨operation, attribution⟩, cause⟩ := valid_iff.mp valid
    exact ⟨⟨origin, ordinary, workId, operation, attribution, executor⟩, cause⟩
  · rintro ⟨valid, cause⟩
    exact ⟨valid.executor, first_attempt, valid_iff.mpr ⟨⟨valid.operation, valid.attribution⟩, cause⟩⟩

theorem entry_emitted (f : Factory) (s : RootSpec) (i : IncomingResult) (calls : List Call) (scope : Scope)
    (entered : (f.run (.enter s (.genuine i)) calls).1 = .ok scope) :
    (f.emit (s.emission (s.draft.continuing i)) calls).1 = .ok scope ∧ s.Valid ∧ f.Ready calls ∧
      (i.decision = .continued → ∀ r, i.cause = some r → names .work s.workId (.genuine r) = false) := by
  cases planned : enterEmission s (.genuine i) with
  | error e => simp [Factory.run, Opening.emission, planned] at entered
  | ok m =>
      obtain ⟨rfl, origin, ordinary, workId⟩ := (enter_emission_iff s i m).mp planned
      simp only [Factory.run, Opening.emission, planned] at entered
      obtain ⟨accepted, ready⟩ := emit_ready f _ calls scope entered
      obtain ⟨valid, cause⟩ := (entry_accepted_iff s i origin ordinary workId).mp accepted
      exact ⟨entered, valid, ready, cause⟩

theorem entry_succeeds_iff (f : Factory) (s : RootSpec) (i : IncomingResult) (calls : List Call)
    (fresh : ∀ id, f.ids (calls ++ [.now]) = .ok id → i.decision = .continued → ∀ r, i.cause = some r → r.id ≠ id) :
    f.Opens (.enter s (.genuine i)) calls ↔
      s.Valid ∧ f.Ready calls ∧ (i.decision = .continued → ∀ r, i.cause = some r → names .work s.workId (.genuine r) = false) := by
  constructor
  · rintro ⟨scope, entered⟩
    exact (entry_emitted f s i calls scope entered).2
  · rintro ⟨valid, ready, cause⟩
    have planned := (enter_emission_iff s i _).mpr ⟨rfl, valid.origin, valid.ordinary, valid.workId⟩
    have accepted := (entry_accepted_iff s i valid.origin valid.ordinary valid.workId).mpr ⟨valid, cause⟩
    have unnamed (id : Str) (answered : f.ids (calls ++ [.now]) = .ok id) : id ∉ (s.emission (s.draft.continuing i)).named := by
      intro named
      obtain ⟨continued, r, cause, same⟩ := entry_named s i id named
      exact fresh id answered continued r cause same
    have succeeds := (emit_succeeds_iff f _ calls (root_emission_sound s _) unnamed).mpr ⟨accepted, ready⟩
    simpa only [Factory.Opens, Factory.run, Opening.emission, planned] using succeeds

theorem open_succeeds_iff (f : Factory) (s : RootSpec) (calls : List Call) : f.Opens (.open s) calls ↔ s.Valid ∧ f.Ready calls := by
  have same := enter_not_continued f s (inspectIncoming ⟨none, none⟩) calls nofun
  have entry := entry_succeeds_iff f s (inspectIncoming ⟨none, none⟩) calls nofun
  rw [Factory.Opens, same] at entry
  rw [Factory.Opens, entry]
  constructor
  · rintro ⟨valid, ready, -⟩
    exact ⟨valid, ready⟩
  · rintro ⟨valid, ready⟩
    exact ⟨valid, ready, nofun⟩

theorem cause_names_iff (s : RootSpec) (h : IncomingHints) :
    ((inspectIncoming h).decision = .continued →
      ∀ r, (inspectIncoming h).cause = some r → names .work s.workId (.genuine r) = false) ↔ ¬ s.NamedBy h := by
  have spelled := inspect_cause h
  rw [inspect_continued_iff]
  constructor
  · rintro apart ⟨continued, id, named, cause⟩
    rw [if_pos continued, cause, Option.map_eq_some_iff] at spelled
    obtain ⟨r, adopted, same⟩ := spelled
    have refused := apart continued r adopted
    rw [named, names_false_iff] at refused
    exact refused (congrArg Prod.fst same) (congrArg Prod.snd same)
  · intro unnamed continued r adopted
    rw [if_pos continued, adopted, Option.map_some] at spelled
    cases given : s.workId with
    | none => simp [names]
    | some id =>
        rw [names_false_iff]
        intro kind same
        apply unnamed
        exact ⟨continued, id, given, by rw [← spelled, Reference.spelling, kind, same]⟩

theorem enter_succeeds_iff (f : Factory) (s : RootSpec) (h : IncomingHints) (calls : List Call)
    (fresh : ∀ id, f.ids (calls ++ [.now]) = .ok id → id ∉ h.named) :
    f.Opens (.enter s (.genuine (inspectIncoming h))) calls ↔ s.Valid ∧ f.Ready calls ∧ ¬ s.NamedBy h := by
  rw [← cause_names_iff]
  apply entry_succeeds_iff
  intro id answered _ r adopted same
  apply fresh id answered
  rw [← same]
  exact adopted_named h r adopted

theorem hints_refuse_iff (f : Factory) (s : RootSpec) (h : IncomingHints) (calls : List Call)
    (fresh : ∀ id, f.ids (calls ++ [.now]) = .ok id → id ∉ h.named) :
    (f.Opens (.enter s (.genuine (inspectIncoming h))) calls ↔ f.Opens (.open s) calls) ↔
      ¬ (s.Valid ∧ f.Ready calls ∧ s.NamedBy h) := by
  rw [enter_succeeds_iff f s h calls fresh, open_succeeds_iff]
  tauto

def demoEntry (workId : Str) : RootSpec := ⟨some workId, .genuine .request, str "demo.run", .genuine demoAttribution, .genuine demoActor⟩

def demoHints : IncomingHints := ⟨some (demoId 5), some ⟨str "work", demoId 6⟩⟩

theorem demo_fresh (id : Str) (answered : demoFactory.ids ([] ++ [.now]) = .ok id) : id ∉ demoHints.named := by
  cases answered
  decide +kernel

theorem hints_refuse_iff_demo :
    (demoFactory.Opens (.enter (demoEntry (demoId 4)) (.genuine (inspectIncoming demoHints))) [] ↔
        demoFactory.Opens (.open (demoEntry (demoId 4))) []) ↔
      ¬ ((demoEntry (demoId 4)).Valid ∧ demoFactory.Ready [] ∧ (demoEntry (demoId 4)).NamedBy demoHints) :=
  hints_refuse_iff demoFactory (demoEntry (demoId 4)) demoHints [] demo_fresh

theorem own_work_refused :
    (∀ id, demoFactory.ids [.now] = .ok id → id ∉ demoHints.named ∧ some id ≠ (demoEntry (demoId 6)).workId) ∧
      (demoFactory.run (.open (demoEntry (demoId 6))) []).1.isOk = true ∧
      (demoFactory.run (.enter (demoEntry (demoId 6)) (.genuine (inspectIncoming demoHints))) []).1 = .error (invalid "invalid_work") := by
  refine ⟨fun id answered => ⟨demo_fresh id answered, ?_⟩, by decide +kernel, by decide +kernel⟩
  cases answered
  decide +kernel

structure SameStanding (a b : ScopeSnapshot) : Prop where
  scopeId : a.scopeId = b.scopeId
  workId : a.work.workId = b.work.workId
  operation : a.work.operation = b.work.operation
  attribution : a.work.attribution = b.work.attribution
  executor : a.executor = b.executor
  attempt : a.attempt = first ∧ b.attempt = first
  previousAttempt : a.previousAttempt = none ∧ b.previousAttempt = none
  replay : a.work.replay = none ∧ b.work.replay = none
  startedAt : a.startedAt = b.startedAt

def ScopeSnapshot.continuing (s : ScopeSnapshot) (correlation : Str) (cause : Option Reference) : ScopeSnapshot :=
  { s with
    work :=
      { s.work with
        correlationId := correlation
        correlationSource := .external
        causation := cause
        origin := none
        depth := none } }

structure Enters (f : Factory) (s : RootSpec) (calls : List Call) (h : IncomingHints) (scope : Scope) : Prop where
  opens : (inspectIncoming h).decision ≠ .continued → (f.run (.open s) calls).1 = .ok scope
  continues : (inspectIncoming h).decision = .continued → ∃ opened correlation cause, (f.run (.open s) calls).1 = .ok opened ∧
    h.correlation.bind parsed = some correlation ∧ cause.map Reference.spelling = h.cause ∧
    scope.snapshot = opened.snapshot.continuing correlation cause
  caused : scope.snapshot.work.causation ≠ none → h.correlation.bind parsed = some scope.snapshot.work.correlationId

theorem entry_draft (f : Factory) (s : RootSpec) (i : IncomingResult) (calls : List Call) (scope : Scope)
    (entered : (f.run (.enter s (.genuine i)) calls).1 = .ok scope) :
    ∃ ms id, normalizedTime (f.clock calls) = some ms ∧ f.ids (calls ++ [.now]) = .ok id ∧
      scope.data.draft = (s.emission (s.draft.continuing i)).scope id ms := by
  obtain ⟨emitted, -⟩ := entry_emitted f s i calls scope entered
  exact (emit_draft f _ calls scope emitted).2

theorem open_draft (f : Factory) (s : RootSpec) (calls : List Call) (scope : Scope) (opened : (f.run (.open s) calls).1 = .ok scope) :
    ∃ ms id, normalizedTime (f.clock calls) = some ms ∧ f.ids (calls ++ [.now]) = .ok id ∧
      scope.data.draft = (s.emission s.draft).scope id ms := by
  rw [← enter_not_continued f s (inspectIncoming ⟨none, none⟩) calls nofun] at opened
  exact entry_draft f s (inspectIncoming ⟨none, none⟩) calls scope opened

theorem continuing_kept (w : DraftWork) (i : IncomingResult) :
    (w.continuing i).workId = w.workId ∧ (w.continuing i).operation = w.operation ∧ (w.continuing i).attribution = w.attribution ∧
      (w.continuing i).replay = w.replay := by
  simp only [DraftWork.continuing]
  split_ifs
  · exact ⟨rfl, rfl, rfl, rfl⟩
  · exact ⟨rfl, rfl, rfl, rfl⟩

structure Rooted (s : RootSpec) (id : Str) (ms : ℤ) (a : ScopeSnapshot) : Prop where
  scopeId : a.scopeId = id
  workId : a.work.workId = s.workId.getD id
  operation : a.work.operation = s.operation
  attribution : .genuine a.work.attribution = s.attribution
  executor : .genuine a.executor = s.executor
  attempt : a.attempt = first
  previousAttempt : a.previousAttempt = none
  replay : a.work.replay = none
  startedAt : a.startedAt = ms

theorem entry_rooted (s : RootSpec) (i : IncomingResult) (id : Str) (ms : ℤ) (scope : Scope)
    (draft : scope.data.draft = (s.emission (s.draft.continuing i)).scope id ms) : Rooted s id ms scope.snapshot := by
  have worked : scope.data.work.draft = (s.draft.continuing i).filled id := congrArg DraftScope.work draft
  obtain ⟨workId, operation, attribution, replay⟩ := continuing_kept s.draft i
  refine
    { scopeId := congrArg DraftScope.scopeId draft
      workId := ?_
      operation := (congrArg DraftWork.operation worked).trans operation
      attribution := (congrArg DraftWork.attribution worked).trans attribution
      executor := congrArg DraftScope.executor draft
      attempt := congrArg DraftScope.attempt draft
      previousAttempt := congrArg DraftScope.previousAttempt draft
      replay := ?_
      startedAt := Date.time.inj (congrArg DraftScope.startedAt draft) }
  · have filled := Option.some.inj (congrArg DraftWork.workId worked)
    rwa [workId] at filled
  · have filled := congrArg DraftWork.replay worked
    simp only [DraftWork.filled, replay] at filled
    exact Option.map_eq_none_iff.mp filled

theorem rooted_same (s : RootSpec) (id : Str) (ms : ℤ) (a b : ScopeSnapshot) (here : Rooted s id ms a) (there : Rooted s id ms b) :
    SameStanding a b where
  scopeId := here.scopeId.trans there.scopeId.symm
  workId := here.workId.trans there.workId.symm
  operation := here.operation.trans there.operation.symm
  attribution := Given.genuine.inj (here.attribution.trans there.attribution.symm)
  executor := Given.genuine.inj (here.executor.trans there.executor.symm)
  attempt := ⟨here.attempt, there.attempt⟩
  previousAttempt := ⟨here.previousAttempt, there.previousAttempt⟩
  replay := ⟨here.replay, there.replay⟩
  startedAt := here.startedAt.trans there.startedAt.symm

theorem continued_snapshot (s : RootSpec) (i : IncomingResult) (id correlation : Str) (ms : ℤ) (scope opened : Scope)
    (continued : i.decision = .continued) (accepted : i.correlation = some correlation)
    (draft : scope.data.draft = (s.emission (s.draft.continuing i)).scope id ms)
    (openDraft : opened.data.draft = (s.emission s.draft).scope id ms) :
    scope.snapshot = opened.snapshot.continuing correlation i.cause := by
  apply scope_draft_injective
  have adopted : (opened.snapshot.continuing correlation i.cause).draft =
      { opened.data.draft with
        work :=
          { opened.data.draft.work with
            correlationId := some correlation
            correlationSource := .genuine .external
            causation := i.cause.map .genuine
            origin := none
            depth := none } } := rfl
  rw [adopted, openDraft, Scope.snapshot, draft]
  simp only [RootSpec.emission, DraftWork.continuing, if_pos continued, Emission.scope, DraftWork.filled, accepted, Option.getD_some]

theorem entry_enters (f : Factory) (s : RootSpec) (calls : List Call) (h : IncomingHints) (scope : Scope)
    (entered : (f.run (.enter s (.genuine (inspectIncoming h))) calls).1 = .ok scope) : Enters f s calls h scope := by
  have spelled := inspect_cause h
  have accepted := inspect_correlation h
  obtain ⟨_, valid, ready, _⟩ := entry_emitted f s _ calls scope entered
  obtain ⟨ms, id, timed, answered, draft⟩ := entry_draft f s _ calls scope entered
  obtain ⟨opened, succeeded⟩ := (open_succeeds_iff f s calls).mpr ⟨valid, ready⟩
  obtain ⟨ms', id', timed', answered', openDraft⟩ := open_draft f s calls opened succeeded
  obtain rfl : ms = ms' := Option.some.inj (timed.symm.trans timed')
  obtain rfl : id = id' := Except.ok.inj (answered.symm.trans answered')
  by_cases continued : (inspectIncoming h).decision = .continued
  · obtain ⟨correlation, given⟩ := Option.isSome_iff_exists.mp ((inspect_continued_iff h).mp continued)
    have same := continued_snapshot s _ id correlation ms scope opened continued (accepted.trans given) draft openDraft
    rw [given] at spelled
    refine ⟨fun other => absurd continued other, fun _ => ⟨opened, correlation, _, succeeded, given, spelled, same⟩, fun _ => ?_⟩
    rw [given, same]
    rfl
  · have same := enter_not_continued f s _ calls continued
    refine ⟨fun _ => (congrArg Prod.fst same).symm.trans entered, fun other => absurd other continued, fun caused => absurd ?_ caused⟩
    have cause : scope.data.work.draft.causation = none := by
      rw [show scope.data.work.draft = _ from congrArg DraftScope.work draft]
      simp only [RootSpec.emission, DraftWork.continuing, if_neg continued, Emission.scope, DraftWork.filled, RootSpec.draft]
    exact Option.map_eq_none_iff.mp cause

theorem hints_carry_no_authority (f : Factory) (s : RootSpec) (calls : List Call) (h₁ h₂ : IncomingHints) (scope₁ scope₂ : Scope)
    (entered₁ : (f.run (.enter s (.genuine (inspectIncoming h₁))) calls).1 = .ok scope₁)
    (entered₂ : (f.run (.enter s (.genuine (inspectIncoming h₂))) calls).1 = .ok scope₂) :
    SameStanding scope₁.snapshot scope₂.snapshot ∧ Enters f s calls h₁ scope₁ ∧ Enters f s calls h₂ scope₂ := by
  obtain ⟨ms, id, timed, answered, draft₁⟩ := entry_draft f s _ calls scope₁ entered₁
  obtain ⟨ms', id', timed', answered', draft₂⟩ := entry_draft f s _ calls scope₂ entered₂
  obtain rfl : ms = ms' := Option.some.inj (timed.symm.trans timed')
  obtain rfl : id = id' := Except.ok.inj (answered.symm.trans answered')
  refine ⟨?_, entry_enters f s calls h₁ scope₁ entered₁, entry_enters f s calls h₂ scope₂ entered₂⟩
  exact rooted_same s id ms _ _ (entry_rooted s _ id ms scope₁ draft₁) (entry_rooted s _ id ms scope₂ draft₂)

theorem hints_carry_no_authority_demo : ∃ scope₁ scope₂ : Scope, SameStanding scope₁.snapshot scope₂.snapshot ∧
    Enters demoFactory (demoEntry (demoId 4)) [] demoHints scope₁ ∧
    Enters demoFactory (demoEntry (demoId 4)) [] ⟨some [], none⟩ scope₂ := by
  obtain ⟨scope₁, later₁, entered₁⟩ :=
    run_success demoFactory (.enter (demoEntry (demoId 4)) (.genuine (inspectIncoming demoHints))) [] (by decide +kernel)
  obtain ⟨scope₂, later₂, entered₂⟩ :=
    run_success demoFactory (.enter (demoEntry (demoId 4)) (.genuine (inspectIncoming ⟨some [], none⟩))) [] (by decide +kernel)
  exact ⟨scope₁, scope₂, hints_carry_no_authority demoFactory (demoEntry (demoId 4)) [] demoHints ⟨some [], none⟩ scope₁ scope₂
    (congrArg Prod.fst entered₁) (congrArg Prod.fst entered₂)⟩

end N2F
