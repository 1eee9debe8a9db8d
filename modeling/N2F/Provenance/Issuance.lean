import N2F.Id.V7
import N2F.Provenance.Hints
import N2F.Provenance.Successors

set_option autoImplicit false

namespace N2F

open Ecma

-- What an opening finds outside: the clock for its scope, and the clock and the
-- entropy for its identifier.
structure Moment where
  reading : Date
  call : IdCall

def Moment.issues (m : Moment) (g : V7) : Result Str × V7 := g.newId m.call.now m.call.entropy

def V7.factory (g : V7) (m : Moment) : Factory := ⟨fun _ => m.reading, fun _ => (m.issues g).1⟩

-- A factory over a shared generator, which an opening moves on once it asks for an identifier.
def V7.opens (g : V7) (o : Opening) (m : Moment) : Result Scope × V7 :=
  let ran := (g.factory m).run o []
  (ran.1, if .newId ∈ ran.2 then (m.issues g).2 else g)

inductive V7.Opens (g : V7) (o : Opening) (m : Moment) : Result Scope × V7 → Prop where
  | untimed (timeless : normalizedTime m.reading = none) : Opens g o m (.error (invalid "invalid_time"), g)
  | refused (e : Failure) (asked : m.issues g = (.error e, g)) : Opens g o m (.error e, g)
  | lost (id : Str) (next : V7) (asked : m.issues g = (.ok id, next)) (named : id ∈ o.named) : Opens g o m (.error generatedError, next)
  | opened (scope : Scope) (next : V7) (asked : m.issues g = (.ok scope.snapshot.scopeId, next))
      (ran : (g.factory m).run o [] = (.ok scope, [.now, .newId])) : Opens g o m (.ok scope, next)

structure V7.Gave (g : V7) (ids : List Str) : Prop where
  bounded : g.Bounded
  increasing : ids.Pairwise (· < ·)
  canonical : ∀ id ∈ ids, parse id = .ok id ∧ version id = some 7
  earlier : ∀ id ∈ ids, ∀ later, g.Gives later → id < later

theorem issued_id (g next : V7) (m : Moment) (id : Str) (bounded : g.Bounded) (asked : m.issues g = (.ok id, next)) :
    g.Gives id ∧ (parse id = .ok id ∧ version id = some 7) ∧ next.Bounded ∧
      ∀ later, next.Gives later → id < later ∧ g.Gives later := by
  obtain ⟨wall, ms, suffix, _, length, rfl, last, _, bounded', before⟩ := new_id_ok g next _ _ id bounded asked
  have fits := bounded'.last ms last
  have small := bounded'.counter
  refine ⟨⟨ms, next.counter, suffix, rfl, length, fits, small, before⟩,
    ⟨encode_parses ms next.counter suffix fits small length, encode_version ms next.counter suffix fits small⟩, bounded', ?_⟩
  intro later gives
  refine ⟨?_, gives_earlier g next ms later last before gives⟩
  obtain ⟨ms', counter, suffix', rfl, _, fits', small', after⟩ := gives
  exact encode_less ms ms' next.counter counter suffix suffix' fits' small small' (after ms last)

theorem gave_next (g next : V7) (m : Moment) (id : Str) (ids : List Str) (gave : g.Gave ids) (asked : m.issues g = (.ok id, next)) :
    next.Gave (ids ++ [id]) := by
  obtain ⟨gives, canonical, bounded, later⟩ := issued_id g next m id gave.bounded asked
  refine ⟨bounded, List.pairwise_append.mpr ⟨gave.increasing, List.pairwise_singleton _ _, ?_⟩, ?_, ?_⟩
  · intro before member last same
    rw [List.mem_singleton.mp same]
    exact gave.earlier before member id gives
  · intro given member
    rcases List.mem_append.mp member with old | new
    · exact gave.canonical given old
    · rwa [List.mem_singleton.mp new]
  · intro given member after gives'
    rcases List.mem_append.mp member with old | new
    · exact gave.earlier given old after (later after gives').2
    · rw [List.mem_singleton.mp new]
      exact (later after gives').1

theorem gave_less (g : V7) (ids fewer : List Str) (gave : g.Gave ids) (less : fewer.Sublist ids) : g.Gave fewer :=
  ⟨gave.bounded, gave.increasing.sublist less, fun id member => gave.canonical id (less.subset member),
    fun id member => gave.earlier id (less.subset member)⟩

theorem ran_id (g : V7) (o : Opening) (m : Moment) (scope : Scope) (later : List Call) (ran : (g.factory m).run o [] = (.ok scope, later)) :
    (m.issues g).1 = .ok scope.snapshot.scopeId := by
  rw [Factory.run] at ran
  cases planned : o.emission with
  | error e => simp [planned] at ran
  | ok emission =>
      simp only [planned] at ran
      obtain ⟨_, ms, id, _, given, draft⟩ := emit_draft (g.factory m) emission [] scope (congrArg Prod.fst ran)
      have own : scope.snapshot.scopeId = id := congrArg DraftScope.scopeId draft
      rw [own]
      exact given

theorem opens_cases (g : V7) (o : Opening) (m : Moment) (bounded : g.Bounded)
    (once : ∀ (f : Factory) (calls : List Call), CallsOnce o f calls) : g.Opens o m (g.opens o m) := by
  rw [V7.opens]
  rcases once (g.factory m) [] with ⟨timeless, ran⟩ | ⟨_, result, ran, answered⟩
  · rw [ran]
    exact .untimed timeless
  · rw [ran]
    have reached : Call.newId ∈ [] ++ [Call.now, .newId] := by decide
    simp only [reached, if_true]
    cases asked : m.issues g with
    | mk answer next =>
        have given : (g.factory m).ids ([] ++ [.now]) = answer := congrArg Prod.fst asked
        rw [given] at answered
        cases answer with
        | error e =>
            obtain rfl := new_id_error g next _ _ e asked
            have same : result = .error e := answered
            rw [same]
            exact .refused e asked
        | ok id =>
            rcases answered with ⟨scope, rfl⟩ | ⟨rfl, unusable⟩
            · have own := ran_id g o m scope _ ran
              rw [asked] at own
              obtain rfl := Except.ok.inj own
              exact .opened scope next asked ran
            · rcases unusable with bad | named
              · have valid := (valid_id_iff id).mpr (issued_id g next m id bounded asked).2.1.1
                cases bad.symm.trans valid
              · exact .lost id next asked named

def given (answer : Result Scope) : List Str := (answer.toOption.map fun s => s.snapshot.scopeId).toList

theorem opens_gave (g : V7) (o : Opening) (m : Moment) (ids : List Str) (gave : g.Gave ids)
    (once : ∀ (f : Factory) (calls : List Call), CallsOnce o f calls) : (g.opens o m).2.Gave (ids ++ given (g.opens o m).1) := by
  have cases' := opens_cases g o m gave.bounded once
  generalize g.opens o m = opened at cases'
  cases cases' with
  | untimed timeless => exact (List.append_nil ids).symm ▸ gave
  | refused e asked => exact (List.append_nil ids).symm ▸ gave
  | lost id next asked named =>
      refine gave_less next _ _ (gave_next g next m id ids gave asked) ?_
      exact (List.append_nil ids).symm ▸ List.sublist_append_left ids [id]
  | opened scope next asked ran => exact gave_next g next m _ ids gave asked

def shortages : List Failure :=
  [invalid "invalid_time", failure .invalid "ID timestamp out of range" "id.time_range",
    failure .unavailable "ID counter exhausted" "id.exhausted", failure .unavailable "ID entropy unavailable" "id.entropy"]

theorem refused_shortage (g : V7) (m : Moment) (e : Failure) (asked : (m.issues g).1 = .error e) : e ∈ shortages := by
  rw [Moment.issues, V7.newId] at asked
  split at asked
  · cases asked
    decide
  · dsimp only at asked
    split_ifs at asked
    · cases asked
      decide
    · split at asked
      · cases asked
        decide
      · cases asked
    · split at asked
      · cases asked
        decide
      · cases asked

theorem opens_short (g : V7) (o : Opening) (m : Moment) (e : Failure) (bounded : g.Bounded) (apart : ∀ id ∈ o.named, ¬ g.Gives id)
    (once : ∀ (f : Factory) (calls : List Call), CallsOnce o f calls) (failed : (g.opens o m).1 = .error e) : e ∈ shortages := by
  have cases' := opens_cases g o m bounded once
  generalize g.opens o m = opened at cases' failed
  cases cases' with
  | untimed timeless =>
      cases failed
      decide
  | refused e' asked =>
      cases failed
      exact refused_shortage g m e (congrArg Prod.fst asked)
  | lost id next asked named => exact absurd (issued_id g next m id bounded asked).1 (apart id named)
  | opened scope next asked ran => cases failed

theorem unasked_cause (hint : Option Str) : (inspectIncoming ⟨hint, none⟩).cause = none := by
  rw [inspectIncoming]
  split_ifs
  · rfl
  · rfl

theorem entry_once (s : RootSpec) (hint : Option Str) (valid : s.Valid) (f : Factory) (calls : List Call) :
    CallsOnce (.enter s (.genuine (inspectIncoming ⟨hint, none⟩))) f calls := by
  have planned := (enter_emission_iff s (inspectIncoming ⟨hint, none⟩) _).mpr ⟨rfl, valid.origin, valid.ordinary, valid.workId⟩
  refine emission_calls_once (.enter s (.genuine (inspectIncoming ⟨hint, none⟩))) _ planned ?_ f calls
  refine (entry_accepted_iff s _ valid.origin valid.ordinary valid.workId).mpr ⟨valid, fun _ r adopted => ?_⟩
  cases (unasked_cause hint).symm.trans adopted

theorem entry_names_none (s : RootSpec) (hint : Option Str) : (Opening.enter s (.genuine (inspectIncoming ⟨hint, none⟩))).named = [] := by
  rw [Opening.named, unasked_cause]
  rfl

structure Entered (s : RootSpec) (hint : Option Str) (a : ScopeSnapshot) : Prop where
  workId : a.work.workId = a.scopeId
  correlationId : a.work.correlationId = (hint.bind parsed).getD a.scopeId
  correlationSource : a.work.correlationSource = if (hint.bind parsed).isSome then .external else .local
  causation : a.work.causation = none
  operation : a.work.operation = s.operation
  attribution : .genuine a.work.attribution = s.attribution
  executor : .genuine a.executor = s.executor
  depth : a.work.depth = if (hint.bind parsed).isSome then none else some Number.zero
  replay : a.work.replay = none
  attempt : a.attempt = first ∧ a.previousAttempt = none

theorem entry_entered (f : Factory) (s : RootSpec) (hint : Option Str) (calls : List Call) (scope : Scope) (fresh : s.workId = none)
    (entered : (f.run (.enter s (.genuine (inspectIncoming ⟨hint, none⟩))) calls).1 = .ok scope) : Entered s hint scope.snapshot := by
  obtain ⟨ms, id, _, _, draft⟩ := entry_draft f s _ calls scope entered
  have rooted := entry_rooted s _ id ms scope draft
  have worked : scope.data.work.draft = (s.draft.continuing (inspectIncoming ⟨hint, none⟩)).filled id := congrArg DraftScope.work draft
  have accepted : (inspectIncoming ⟨hint, none⟩).correlation = hint.bind parsed := inspect_correlation ⟨hint, none⟩
  have causation : scope.data.work.causation.map Given.genuine = none := by
    refine (congrArg DraftWork.causation worked).trans ?_
    rw [DraftWork.filled, DraftWork.continuing]
    split_ifs
    · simp only [unasked_cause, Option.map_none]
    · rfl
  have own : scope.snapshot.scopeId = id := rooted.scopeId
  have correlated : some scope.snapshot.work.correlationId =
      some ((s.draft.continuing (inspectIncoming ⟨hint, none⟩)).correlationId.getD id) := congrArg DraftWork.correlationId worked
  have sourced : Given.genuine scope.snapshot.work.correlationSource =
      (s.draft.continuing (inspectIncoming ⟨hint, none⟩)).correlationSource := congrArg DraftWork.correlationSource worked
  have deep : scope.snapshot.work.depth = (s.draft.continuing (inspectIncoming ⟨hint, none⟩)).depth := congrArg DraftWork.depth worked
  refine ⟨?_, ?_, ?_, Option.map_eq_none_iff.mp causation, rooted.operation, rooted.attribution, rooted.executor, ?_, rooted.replay,
    rooted.attempt, rooted.previousAttempt⟩
  · rw [rooted.workId, fresh, own]
    rfl
  · rw [Option.some.inj correlated, own, DraftWork.continuing]
    split_ifs with continued
    · rw [accepted]
    · rw [inspect_continued_iff, Bool.not_eq_true, Option.isSome_eq_false_iff, Option.isNone_iff_eq_none] at continued
      have unasked : hint.bind parsed = none := continued
      rw [unasked]
      rfl
  · rw [DraftWork.continuing] at sourced
    split_ifs at sourced with continued
    · rw [if_pos ((inspect_continued_iff ⟨hint, none⟩).mp continued)]
      exact Given.genuine.inj sourced
    · rw [if_neg fun given => continued ((inspect_continued_iff ⟨hint, none⟩).mpr given)]
      exact Given.genuine.inj sourced
  · rw [deep, DraftWork.continuing]
    split_ifs with continued given given
    · rfl
    · exact absurd ((inspect_continued_iff ⟨hint, none⟩).mp continued) given
    · exact absurd ((inspect_continued_iff ⟨hint, none⟩).mpr given) continued
    · rfl

def stepOf (op : Str) (executor : Actor) : StepSpec := ⟨none, op, .genuine executor, none⟩

theorem child_once (P : Scope) (op : Str) (executor : Actor) (valid : validOperation op = true)
    (named : namedActor (.genuine executor) = true) (more : ∀ d, P.snapshot.work.depth = some d → is d maxUint32 = false) (f : Factory)
    (calls : List Call) : CallsOnce (.child (.genuine P) (stepOf op executor)) f calls := by
  have canonical : validID P.snapshot.scopeId = true := P.valid.scopeId
  have whole := child_draft_valid P op ⟨.scope, P.snapshot.scopeId, canonical⟩ valid rfl more
  have exhausted : P.snapshot.work.depth.any (is · maxUint32) = false := (any_false_iff _ _).mpr more
  obtain ⟨draft, worked, whole⟩ : ∃ draft, childWork (.genuine P) none op none = .ok draft ∧ draft.Valid true := by
    refine ⟨_, ?_, whole⟩
    simp only [childWork, Option.any_none, Bool.false_eq_true, if_false, exhausted, childCause, reference_valid _ _ canonical, Except.map,
      (validate_none_iff _ _).mpr whole]
  have planned : Opening.emission (.child (.genuine P) (stepOf op executor)) =
      .ok ⟨draft, .genuine executor, first, none, [P.snapshot.scopeId, P.snapshot.work.workId]⟩ := by
    simp only [Opening.emission, childEmission, stepOf, worked, if_true]
  refine emission_calls_once _ _ planned ((failure_none_iff _).mpr ⟨named, first_attempt, whole⟩) f calls

theorem child_names (P : Scope) (op : Str) (executor : Actor) (own : P.snapshot.work.workId = P.snapshot.scopeId)
    (fresh : P.snapshot.work.replay = none) (id : Str) (named : id ∈ (Opening.child (.genuine P) (stepOf op executor)).named) :
    id = P.snapshot.scopeId := by
  simpa [Opening.named, stepOf, own, fresh] using named

structure Below (P : ScopeSnapshot) (op : Str) (executor : Actor) (a : ScopeSnapshot) : Prop where
  inherits : Inherits P.work 1 a.work
  caused : ∃ r, a.work.causation = some r ∧ r.kind = .scope ∧ r.id = P.scopeId
  workId : a.work.workId = a.scopeId
  operation : a.work.operation = op
  executor : a.executor = executor
  attempt : a.attempt = first ∧ a.previousAttempt = none

theorem child_below (f : Factory) (calls later : List Call) (P D : Scope) (op : Str) (executor : Actor)
    (ran : f.run (.child (.genuine P) (stepOf op executor)) calls = (.ok D, later)) : Below P.snapshot op executor D.snapshot := by
  obtain ⟨inherits, ⟨r, known, cause⟩, attempt, previous⟩ := child_step f calls later P D _ ran
  obtain ⟨m, planned, _, _, draft⟩ := run_ok f _ calls later D ran
  obtain ⟨p, w, same, worked, rfl⟩ := child_emission_ok _ _ m planned
  obtain ⟨p', c, same', _, _, _, rfl, _⟩ := child_work_ok _ _ _ _ w worked
  have filled : D.data.work.draft = (p'.data.childDraft none op c).filled D.data.scopeId := congrArg DraftScope.work draft
  refine ⟨inherits, ⟨r, known, ?_⟩, filled_work_id _ D filled, congrArg DraftWork.operation filled,
    Given.genuine.inj (congrArg DraftScope.executor draft), attempt, previous⟩
  rcases cause with given | ⟨_, named⟩
  · cases given
  · exact named

end N2F
