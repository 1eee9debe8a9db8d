import N2F.Errors.Registry

set_option autoImplicit false

namespace N2F

structure Problem where
  type : String
  title : Option String
  detail : String
  kind : Kind
  status : ℕ
  code : Option String
  fields : Option Fields
deriving DecidableEq

def statusOf : Kind → ℕ
  | .invalid => 400
  | .notFound => 404
  | .conflict => 409
  | .unauthenticated => 401
  | .forbidden => 403
  | .rateLimited => 429
  | .unavailable | .timeout | .canceled => 503
  | .internal => 500

def titleOf : ℕ → Option String
  | 400 => some "Bad Request"
  | 401 => some "Unauthorized"
  | 403 => some "Forbidden"
  | 404 => some "Not Found"
  | 409 => some "Conflict"
  | 429 => some "Too Many Requests"
  | 503 => some "Service Unavailable"
  | 500 => some "Internal Server Error"
  | _ => none

def projected (info : PublicInfo) : Problem :=
  { type := "urn:n2f:problem:" ++ info.kind.text
    title := titleOf (statusOf info.kind)
    detail := info.message
    kind := info.kind
    status := statusOf info.kind
    code := info.type.filter (· ≠ "")
    fields := info.fields.filter (· ≠ []) }

theorem projected_status (info : PublicInfo) : (projected info).status = statusOf info.kind := rfl

def problemOf {T : Type} (result : Except (Given Failure) T) : Option Problem :=
  match result with
  | .ok _ => none
  | .error e => some (projected (publicInfo e))

def internalProblem : Problem :=
  { type := "urn:n2f:problem:internal"
    title := some "Internal Server Error"
    detail := "internal error"
    kind := .internal
    status := 500
    code := none
    fields := none }

def Opaque (value : Given Failure) : Prop := ∀ f, value = .genuine f → f.kind = .internal

-- The order of the members of a document is no part of it.
structure SameProblem (p q : Problem) : Prop where
  type : p.type = q.type
  title : p.title = q.title
  detail : p.detail = q.detail
  kind : p.kind = q.kind
  status : p.status = q.status
  code : p.code = q.code
  fields : p.fields.isSome = q.fields.isSome ∧ ∀ key, lookup (p.fields.getD []) key = lookup (q.fields.getD []) key

structure SamePublic (f g : Failure) : Prop where
  kind : f.kind = g.kind
  message : f.message = g.message
  type : f.type = g.type
  fields : ∀ key, lookup (f.fields.getD []) key = lookup (g.fields.getD []) key

theorem opaque_problem (value : Given Failure) (hidden : Opaque value) : projected (publicInfo value) = internalProblem := by
  cases value with
  | foreign => rfl
  | genuine f =>
      rw [publicInfo, if_pos (hidden f rfl)]
      rfl

theorem shown_fields (fields : Option Fields) (key : String) :
    lookup ((fields.filter (· ≠ [])).getD []) key = lookup (fields.getD []) key := by
  cases fields with
  | none => rfl
  | some members =>
      by_cases empty : members = []
      · simp [Option.filter, empty]
      · simp [Option.filter, empty]

theorem shown_some_iff (fields : Option Fields) :
    (fields.filter (· ≠ [])).isSome = true ↔ ∃ key, (lookup (fields.getD []) key).isSome = true := by
  rw [lookup_some_iff]
  cases fields with
  | none => simp
  | some members =>
      by_cases empty : members = []
      · simp [empty]
      · simp [empty]

theorem public_problem (f g : Failure) (same : SamePublic f g) (shown : f.kind ≠ .internal) :
    SameProblem (projected (publicInfo (.genuine f))) (projected (publicInfo (.genuine g))) := by
  have shown' : g.kind ≠ .internal := by rwa [← same.kind]
  simp only [publicInfo, if_neg shown, if_neg shown']
  refine ⟨?_, ?_, ?_, same.kind, ?_, ?_, ?_, fun key => ?_⟩
  · exact congrArg (fun kind : Kind => "urn:n2f:problem:" ++ kind.text) same.kind
  · exact congrArg (fun kind : Kind => titleOf (statusOf kind)) same.kind
  · exact congrArg (fun message : String => if message = "" then "request failed" else message) same.message
  · exact congrArg statusOf same.kind
  · exact congrArg (fun type : Option String => (type.filter (· ≠ "")).filter (· ≠ "")) same.type
  · have shownAlike : (f.fields.filter (· ≠ [])).isSome = (g.fields.filter (· ≠ [])).isSome := by
      rw [Bool.eq_iff_iff, shown_some_iff, shown_some_iff]
      simp only [same.fields]
    exact shownAlike
  · exact (shown_fields f.fields key).trans ((same.fields key).trans (shown_fields g.fields key).symm)

theorem projection_noninterfering :
    (∀ (r r' : Registry) (value value' : Value), Opaque (r.given value) → Opaque (r'.given value') →
      problemOf (T := Unit) (.error (r.given value)) = some internalProblem ∧
        problemOf (T := Unit) (.error (r'.given value')) = some internalProblem) ∧
    (∀ (r r' : Registry) (value value' : Value) (f f' : Failure), r.given value = .genuine f → r'.given value' = .genuine f' →
      f.kind ≠ .internal → SamePublic f f' →
        ∃ p p', problemOf (T := Unit) (.error (r.given value)) = some p ∧
          problemOf (T := Unit) (.error (r'.given value')) = some p' ∧ SameProblem p p') ∧
    ∀ (r : Registry) (value : Value) (f : Failure) (d : Diagnostic) (c : Derivation), r.required value = .ok (f, d) →
      ∃ r' value' f' d', r.derive value c = .ok (r', value') ∧ r'.required value' = .ok (f', d') ∧ DerivedFrom c f f' d d' ∧
        ∀ other found, r.known other = some found → r'.known other = some found := by
  refine ⟨fun r r' value value' hidden hidden' => ?_, fun r r' value value' f f' known known' shown same => ?_, derive_keeps⟩
  · exact ⟨congrArg some (opaque_problem _ hidden), congrArg some (opaque_problem _ hidden')⟩
  · rw [known, known']
    exact ⟨_, _, rfl, rfl, public_problem f f' same shown⟩

def demoConflict : Failure := ⟨.conflict, "email taken", some "account.email_taken", none⟩

theorem projection_noninterfering_demo :
    ∃ p p', problemOf (T := Unit) (.error ((Registry.empty.remember demoConflict ⟨.foreign 0, []⟩).1.given (.object 0))) = some p ∧
      problemOf (T := Unit) (.error ((Registry.empty.remember demoConflict ⟨.foreign 1, [("sql", "insert")]⟩).1.given (.object 0))) =
        some p' ∧ SameProblem p p' :=
  projection_noninterfering.2.1 _ _ _ _ demoConflict demoConflict rfl rfl (by decide) ⟨rfl, rfl, rfl, fun _ => rfl⟩

end N2F
