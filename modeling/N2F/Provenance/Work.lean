import N2F.Provenance.Actor
import N2F.Ecma.Equality

set_option autoImplicit false

namespace N2F

open Ecma

inductive Origin where
  | request
  | schedule
  | replay
  | backfill
  | startup
deriving DecidableEq

def Origin.text : Origin → String
  | .request => "request"
  | .schedule => "schedule"
  | .replay => "replay"
  | .backfill => "backfill"
  | .startup => "startup"

def origin (s : Str) : Given Origin := spelled [.request, .schedule, .replay, .backfill, .startup] Origin.text s

theorem origin_text (o : Origin) : origin (str o.text) = .genuine o :=
  spelled_text _ _ o (by cases o <;> simp) (by cases o <;> decide)

inductive CorrelationSource where
  | «local»
  | external
deriving DecidableEq

def CorrelationSource.text : CorrelationSource → String
  | .local => "local"
  | .external => "external"

def correlationSource (s : Str) : Given CorrelationSource := spelled [.local, .external] CorrelationSource.text s

theorem correlation_source_text (source : CorrelationSource) : correlationSource (str source.text) = .genuine source :=
  spelled_text _ _ source (by cases source <;> simp) (by cases source <;> decide)

structure ReplayInfo where
  runId : Str
  source : Reference
deriving DecidableEq

structure WorkSnapshot where
  workId : Str
  correlationId : Str
  correlationSource : CorrelationSource
  causation : Option Reference
  origin : Option Origin
  operation : Str
  attribution : Attribution
  depth : Option Number
  replay : Option ReplayInfo
deriving DecidableEq

structure DraftReplay where
  runId : Option Str
  source : Given Reference

-- Work before it is validated: identifiers a generator may still fill in, and
-- whatever a caller passed where a union or a registered object is due.
structure DraftWork where
  workId : Option Str
  correlationId : Option Str
  correlationSource : Given CorrelationSource
  causation : Option (Given Reference)
  origin : Option (Given Origin)
  operation : Str
  attribution : Given Attribution
  depth : Option Number
  replay : Option DraftReplay

def ReplayInfo.draft (r : ReplayInfo) : DraftReplay := ⟨some r.runId, .genuine r.source⟩

def WorkSnapshot.draft (w : WorkSnapshot) : DraftWork :=
  { workId := some w.workId
    correlationId := some w.correlationId
    correlationSource := .genuine w.correlationSource
    causation := w.causation.map .genuine
    origin := w.origin.map .genuine
    operation := w.operation
    attribution := .genuine w.attribution
    depth := w.depth
    replay := w.replay.map ReplayInfo.draft }

def validOrigin (o : Given Origin) : Bool := o.isGenuine

def validAttribution (a : Given Attribution) : Bool := a.isGenuine

def validSource (s : Given CorrelationSource) : Bool := s.isGenuine

-- id === undefined ? defaults : validID(id)
def identified (defaults : Bool) (id : Option Str) : Bool :=
  match id with
  | none => defaults
  | some id => validID id

def names (kind : ReferenceKind) (id : Option Str) (r : Given Reference) : Bool :=
  r.holds fun r => r.kind = kind && some r.id = id

-- x === n for a numeral n
def is (x : Number) (n : ℚ) : Bool := x.rational = some n

def maxUint32 : ℚ := 4294967295

def refusesDepth (w : DraftWork) (depth : Number) : Bool :=
  !depth.isInteger || depth.below 0 || depth.above maxUint32 ||
    (w.correlationSource = .genuine .local && is depth 0 && w.causation.isSome) ||
    (depth.above 0 && w.causation.isNone)

def workChecks (w : DraftWork) (defaults : Bool) : List (Bool × Failure) :=
  [(!identified defaults w.workId || !identified defaults w.correlationId || !validSource w.correlationSource,
      invalid "invalid_work"),
    (!validOperation w.operation, invalid "invalid_operation"),
    (!validAttribution w.attribution, invalid "invalid_attribution"),
    (w.origin.any (fun o => !validOrigin o), invalid "invalid_origin"),
    (w.replay.isSome ≠ decide (w.origin = some (.genuine .replay)), invalid "invalid_origin"),
    (w.causation.any (fun r => !validReference r), invalid "invalid_reference"),
    (w.causation.any (names .work w.workId), invalid "invalid_work"),
    (w.depth.any (refusesDepth w), invalid "invalid_depth"),
    (w.replay.any (fun r => !validReference r.source || !identified defaults r.runId), invalid "invalid_reference"),
    (w.replay.any (fun r => names .work w.workId r.source), invalid "invalid_work")]

def validateWork (w : DraftWork) (defaults : Bool) : Option Failure := refusal (workChecks w defaults)

structure DraftWork.Valid (w : DraftWork) (defaults : Bool) : Prop where
  workId : identified defaults w.workId = true
  correlationId : identified defaults w.correlationId = true
  correlationSource : w.correlationSource.isGenuine = true
  operation : validOperation w.operation = true
  attribution : w.attribution.isGenuine = true
  origin : ∀ o, w.origin = some o → o.isGenuine = true
  replayOrigin : w.replay.isSome = true ↔ w.origin = some (.genuine .replay)
  cause : ∀ r, w.causation = some r → r.isGenuine = true
  workCause : ∀ r, w.causation = some r → names .work w.workId r = false
  depth : ∀ d, w.depth = some d → refusesDepth w d = false
  source : ∀ r, w.replay = some r → r.source.isGenuine = true
  runId : ∀ r, w.replay = some r → identified defaults r.runId = true
  workSource : ∀ r, w.replay = some r → names .work w.workId r.source = false

theorem any_false_iff {α : Type} (p : α → Bool) (x : Option α) :
    x.any p = false ↔ ∀ a, x = some a → p a = false := by
  cases x <;> simp

theorem validate_none_iff (w : DraftWork) (defaults : Bool) : validateWork w defaults = none ↔ w.Valid defaults := by
  simp only [validateWork, refusal_none_iff, workChecks, List.forall_mem_cons, List.not_mem_nil, any_false_iff,
    Bool.or_eq_false_iff, Bool.not_eq_false', decide_eq_false_iff_not, ne_eq, not_not, validSource, validAttribution,
    validOrigin, validReference]
  constructor
  · rintro ⟨⟨⟨workId, correlationId⟩, source⟩, op, attribution, origin, replay, cause, self, depth, run, selfSource, _⟩
    refine ⟨workId, correlationId, source, op, attribution, origin, by rw [replay, decide_eq_true_iff], cause, self, depth,
      fun r here => (run r here).1, fun r here => (run r here).2, selfSource⟩
  · intro valid
    refine ⟨⟨⟨valid.workId, valid.correlationId⟩, valid.correlationSource⟩, valid.operation, valid.attribution,
      valid.origin, ?_, valid.cause, valid.workCause, valid.depth, fun r here => ⟨valid.source r here, valid.runId r here⟩,
      valid.workSource, by simp⟩
    rw [Bool.eq_iff_iff, decide_eq_true_iff]
    exact valid.replayOrigin

theorem draft_injective (a b : WorkSnapshot) (same : a.draft = b.draft) : a = b := by
  have map_genuine {α : Type} {x y : Option α} (same : x.map Given.genuine = y.map Given.genuine) : x = y :=
    Option.map_injective (fun _ _ same => Given.genuine.inj same) same
  obtain ⟨workId, correlationId, source, causation, origin, operation, attribution, depth, replay⟩ := a
  obtain ⟨workId', correlationId', source', causation', origin', operation', attribution', depth', replay'⟩ := b
  simp only [WorkSnapshot.draft, DraftWork.mk.injEq, Option.some.injEq, Given.genuine.injEq] at same
  obtain ⟨rfl, rfl, rfl, cause, started, rfl, rfl, rfl, replayed⟩ := same
  have info : replay = replay' := by
    refine Option.map_injective (fun r r' drafts => ?_) replayed
    cases r
    cases r'
    simpa [ReplayInfo.draft] using drafts
  rw [map_genuine cause, map_genuine started, info]

theorem genuine_map {α : Type} (x : Option (Given α)) (genuine : ∀ g, x = some g → g.isGenuine = true) :
    (x.bind Given.genuine?).map .genuine = x := by
  cases x with
  | none => rfl
  | some g =>
      obtain ⟨a, rfl⟩ := (Given.genuine_iff g).mp (genuine g rfl)
      rfl

theorem identified_value (id : Option Str) (valid : identified false id = true) : some (id.getD []) = id := by
  cases id with
  | none => cases valid
  | some id => rfl

def DraftReplay.info? (r : DraftReplay) : Option ReplayInfo := r.source.genuine?.map fun source => ⟨r.runId.getD [], source⟩

def DraftWork.snapshot (w : DraftWork) (valid : w.Valid false) : WorkSnapshot :=
  { workId := w.workId.getD []
    correlationId := w.correlationId.getD []
    correlationSource := w.correlationSource.get valid.correlationSource
    causation := w.causation.bind Given.genuine?
    origin := w.origin.bind Given.genuine?
    operation := w.operation
    attribution := w.attribution.get valid.attribution
    depth := w.depth
    replay := w.replay.bind DraftReplay.info? }

theorem snapshot_draft (w : DraftWork) (valid : w.Valid false) : (w.snapshot valid).draft = w := by
  have replay : (w.replay.bind DraftReplay.info?).map ReplayInfo.draft = w.replay := by
    cases here : w.replay with
    | none => rfl
    | some r =>
        have run := identified_value r.runId (valid.runId r here)
        obtain ⟨source, same⟩ := (Given.genuine_iff r.source).mp (valid.source r here)
        cases r
        simp_all [DraftReplay.info?, ReplayInfo.draft]
  simp only [DraftWork.snapshot, WorkSnapshot.draft, identified_value w.workId valid.workId,
    identified_value w.correlationId valid.correlationId, Given.genuine_get, genuine_map w.causation valid.cause,
    genuine_map w.origin valid.origin, replay]

structure WorkContext where
  data : WorkSnapshot
  valid : data.draft.Valid false
deriving DecidableEq

def restoreWork (w : DraftWork) : Result WorkContext :=
  match checked : validateWork w false with
  | some e => .error e
  | none =>
      have valid := (validate_none_iff w false).mp checked
      .ok ⟨w.snapshot valid, by rw [snapshot_draft]; exact valid⟩

theorem restore_work_error (w : DraftWork) (e : Failure) (refused : validateWork w false = some e) :
    restoreWork w = .error e := by
  rw [restoreWork]
  split
  · simp_all
  · simp_all

theorem restore_work_ok (w : DraftWork) (valid : w.Valid false) : ∃ c, restoreWork w = .ok c ∧ c.data.draft = w := by
  rw [restoreWork]
  split
  · next e refused => simp [(validate_none_iff w false).mpr valid] at refused
  · exact ⟨_, rfl, snapshot_draft w valid⟩

theorem restore_work_iff (w : DraftWork) (c : WorkContext) : restoreWork w = .ok c ↔ c.data.draft = w := by
  constructor
  · intro restored
    cases checked : validateWork w false with
    | some e =>
        rw [restore_work_error w e checked] at restored
        cases restored
    | none =>
        obtain ⟨c', same, draft⟩ := restore_work_ok w ((validate_none_iff w false).mp checked)
        rw [same] at restored
        injection restored with same
        rw [← same, draft]
  · rintro rfl
    obtain ⟨c', same, draft⟩ := restore_work_ok c.data.draft c.valid
    obtain ⟨data, valid⟩ := c
    obtain ⟨data', valid'⟩ := c'
    rw [same]
    simp only [Except.ok.injEq, WorkContext.mk.injEq]
    exact draft_injective data' data draft

def demoId (n : ℕ) : Str := str "01900000-0000-7000-8000-00000000000" ++ [UInt16.ofNat (48 + n)]

def demoActor : Actor := ⟨.service, some (str "api"), .inr ⟨by decide, _, rfl, by decide +kernel⟩⟩

def demoAttribution : Attribution := ⟨some demoActor, none, some (str "acme"), rfl, by decide +kernel⟩

def demoWork : WorkContext :=
  { data :=
      { workId := demoId 1
        correlationId := demoId 2
        correlationSource := .external
        causation := some ⟨.scope, demoId 3, by decide +kernel⟩
        origin := none
        operation := str "demo.run"
        attribution := demoAttribution
        depth := some (Number.ofInt 1)
        replay := none }
    valid := (validate_none_iff _ _).mp (by decide +kernel) }

end N2F
