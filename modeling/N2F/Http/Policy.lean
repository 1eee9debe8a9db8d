import N2F.Errors
import Mathlib.Data.Nat.Notation

set_option autoImplicit false

namespace N2F

inductive RequestOutcome where
  | success
  | refused
  | failed
  | canceled
  | timedOut
deriving DecidableEq

inductive Termination where
  | responseCompleted
  | peerClosed
  | deadline
  | handlerError
  | writeError
  | abandoned
deriving DecidableEq

def Termination.text : Termination → String
  | .responseCompleted => "response_completed"
  | .peerClosed => "peer_closed"
  | .deadline => "deadline"
  | .handlerError => "handler_error"
  | .writeError => "write_error"
  | .abandoned => "abandoned"

structure CompletionFacts where
  status : Option ℕ
  failureKind : Option (Given Kind)
  termination : Given Termination
deriving DecidableEq

structure Classification where
  outcome : RequestOutcome
  spanError : Bool
  errorType : Option String
deriving DecidableEq

def invalidCompletion : Failure := failure .invalid "invalid HTTP completion" "http.invalid_completion"

def completionChecks (f : CompletionFacts) : List (Bool × Failure) :=
  [(f.status.any fun status => status < 200 || 599 < status, invalidCompletion),
    (f.failureKind.any fun kind => !kind.isGenuine, invalidCompletion),
    (f.termination = .genuine .responseCompleted && f.status.isNone, invalidCompletion),
    (!f.termination.isGenuine, invalidCompletion)]

def completedOutcome (status : ℕ) : Option Kind → RequestOutcome × Option String
  | some .timeout => (.timedOut, some "timeout")
  | some .canceled => (.canceled, some "canceled")
  | some .internal | some .unavailable => (.failed, none)
  | some _ => (.refused, none)
  | none => (if 500 ≤ status then .failed else if 400 ≤ status then .refused else .success, none)

def terminationOutcome (f : CompletionFacts) (t : Termination) : RequestOutcome × Option String :=
  match t with
  | .peerClosed => (.canceled, some "canceled")
  | .deadline => (.timedOut, some "timeout")
  | .handlerError | .writeError | .abandoned => (.failed, some t.text)
  | .responseCompleted => completedOutcome (f.status.getD 0) (f.failureKind.bind Given.genuine?)

def serverError (f : CompletionFacts) : Bool := f.status.any (500 ≤ ·)

def classified (f : CompletionFacts) (t : Termination) : Classification :=
  let (outcome, reason) := terminationOutcome f t
  let spanError := t ≠ .responseCompleted || serverError f || [RequestOutcome.failed, .canceled, .timedOut].contains outcome
  { outcome := outcome
    spanError := spanError
    errorType :=
      match reason with
      | some reason => some reason
      | none =>
          if spanError then some (if serverError f then toString (f.status.getD 0) else "handler_error") else none }

def classifyCompletion (f : CompletionFacts) : Result Classification :=
  match refusal (completionChecks f), f.termination with
  | some e, _ => .error e
  | none, .genuine t => .ok (classified f t)
  | none, .foreign => .error invalidCompletion

theorem classify_ok (f : CompletionFacts) (t : Termination) (named : f.termination = .genuine t)
    (status : ∀ status, f.status = some status → 200 ≤ status ∧ status ≤ 599) (kind : ∀ kind, f.failureKind = some kind → kind.isGenuine = true)
    (committed : t = .responseCompleted → f.status.isSome = true) : classifyCompletion f = .ok (classified f t) := by
  have accepted : refusal (completionChecks f) = none := by
    rw [refusal_none_iff]
    simp only [completionChecks, List.forall_mem_cons, List.not_mem_nil, false_implies, implies_true, and_true, named]
    refine ⟨?_, ?_, ?_, rfl⟩
    · cases given : f.status with
      | none => rfl
      | some value =>
          have bounds := status value given
          simp only [Option.any_some, Bool.or_eq_false_iff, decide_eq_false_iff_not]
          omega
    · cases given : f.failureKind with
      | none => rfl
      | some value => simp [kind value given]
    · by_cases completed : t = .responseCompleted
      · simp [committed completed, Option.isNone_eq_false_iff]
      · simp [completed]
  rw [classifyCompletion, accepted, named]

end N2F
