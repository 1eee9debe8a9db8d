import N2F.Provenance.Actor

set_option autoImplicit false

namespace N2F

open Ecma

structure CausationHint where
  kind : Str
  id : Str

structure IncomingHints where
  correlation : Option Str
  causation : Option CausationHint

inductive Disposition where
  | fresh
  | continued
  | restarted
deriving DecidableEq

inductive IssueField where
  | correlation
  | causation
deriving DecidableEq

inductive IssueReason where
  | invalidId
  | invalidKind
  | missingCorrelation
deriving DecidableEq

structure Issue where
  field : IssueField
  reason : IssueReason
deriving DecidableEq

structure IncomingResult where
  decision : Disposition
  correlation : Option Str
  cause : Option Reference
  issues : List Issue
  continued : decision = .continued ↔ correlation.isSome = true
  canonical : ∀ id, correlation = some id → validID id = true
deriving DecidableEq

def parsed (hint : Str) : Option Str :=
  match parse hint with
  | .ok id => some id
  | .error _ => none

theorem parsed_valid_id (hint id : Str) (same : parsed hint = some id) : validID id = true := by
  rw [parsed] at same
  cases here : parse hint with
  | ok value =>
      simp only [here, Option.some.injEq] at same
      exact same ▸ parsed_valid hint value here
  | error e => simp [here] at same

def correlationIssues (hint correlation : Option Str) : List Issue :=
  if hint.isSome && correlation.isNone then [⟨.correlation, .invalidId⟩] else []

def inspectCausation (hint : CausationHint) (correlation : Option Str) : Option Reference × List Issue :=
  match referenceKind hint.kind with
  | .foreign => (none, [⟨.causation, .invalidKind⟩])
  | .genuine kind =>
      match parse hint.id with
      | .error _ => (none, [⟨.causation, .invalidId⟩])
      | .ok id =>
          if correlation.isNone then (none, [⟨.causation, .missingCorrelation⟩])
          else
            match reference (.genuine kind) id with
            | .ok r => (some r, [])
            | .error _ => (none, [])

def inspectIncoming (h : IncomingHints) : IncomingResult :=
  if h.correlation.isNone ∧ h.causation.isNone then ⟨.fresh, none, none, [], by simp, by simp⟩
  else
    let correlation := h.correlation.bind parsed
    let cause := (h.causation.map fun c => inspectCausation c correlation).getD (none, [])
    { decision := if correlation.isSome then .continued else .restarted
      correlation := correlation
      cause := cause.1
      issues := correlationIssues h.correlation correlation ++ cause.2
      continued := by cases correlation <;> simp
      canonical := by
        intro id same
        obtain ⟨hint, _, accepted⟩ := Option.bind_eq_some_iff.mp same
        exact parsed_valid_id hint id accepted }

theorem inspect_fresh_iff (h : IncomingHints) :
    (inspectIncoming h).decision = .fresh ↔ h.correlation = none ∧ h.causation = none := by
  rw [inspectIncoming]
  split_ifs with empty
  · simpa using empty
  · by_cases accepted : (h.correlation.bind parsed).isSome = true
    · simpa [accepted] using empty
    · simpa [accepted] using empty

end N2F
