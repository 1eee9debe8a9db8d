import N2F.Errors
import N2F.Roster
import Mathlib.Data.List.Nodup

set_option autoImplicit false

namespace N2F

abbrev Fields := List (String × String)

-- A record of texts as a caller hands it in: each own property once.
structure Record where
  members : Fields
  distinct : (members.map Prod.fst).Nodup

def lookup (fields : Fields) (key : String) : Option String := (fields.find? fun m => m.1 = key).map Prod.snd

def put (key value : String) : Fields → Fields
  | [] => [(key, value)]
  | (k, v) :: rest => if k = key then (k, value) :: rest else (k, v) :: put key value rest

-- { ...old, ...new }
def assign (old new : Fields) : Fields := new.foldl (fun sofar m => put m.1 m.2 sofar) old

-- Any JavaScript value: an object this module made, by its address, or any other.
inductive Value where
  | object (address : ℕ)
  | foreign (name : ℕ)
deriving DecidableEq

structure Diagnostic where
  cause : Value
  details : Fields

-- The objects in the two weak maps: a failure with its diagnostic, or an AppError
-- with the failure it carries.
inductive Known where
  | failure (f : Failure) (diagnostic : Diagnostic)
  | carrier (failure : ℕ)

structure Registry where
  objects : List Known
  carried : ∀ (a f : ℕ), objects[a]? = some (Known.carrier f) → ∃ e d, objects[f]? = some (Known.failure e d)

def Registry.empty : Registry := ⟨[], by simp⟩

def Registry.trusted (r : Registry) : Value → Option ℕ
  | .foreign _ => none
  | .object a =>
      match r.objects[a]? with
      | some (.failure _ _) => some a
      | some (.carrier f) => some f
      | none => none

def Registry.known (r : Registry) (value : Value) : Option (Failure × Diagnostic) :=
  (r.trusted value).bind fun a =>
    match r.objects[a]? with
    | some (.failure f d) => some (f, d)
    | _ => none

-- requireFailure: a carrier is known but is not the failure itself.
def Registry.required (r : Registry) (value : Value) : Except String (Failure × Diagnostic) :=
  match r.known value, r.trusted value with
  | some found, some a => if value = .object a then .ok found else .error "expected a Failure constructed by this module"
  | _, _ => .error "expected a Failure constructed by this module"

theorem kept_below (objects : List Known) (o : Known) (a : ℕ) (found : Known) (here : objects[a]? = some found) :
    (objects ++ [o])[a]? = some found := Roster.join_kept objects a o found here

theorem newest_or_kept (objects : List Known) (o : Known) (a : ℕ) (found : Known) (here : (objects ++ [o])[a]? = some found) :
    objects[a]? = some found ∨ a = objects.length ∧ found = o := by
  rcases Roster.join_cases objects a o found here with newest | ⟨_, kept⟩
  · exact .inr newest
  · exact .inl kept

def Registry.remember (r : Registry) (f : Failure) (d : Diagnostic) : Registry × Value :=
  (⟨r.objects ++ [.failure f d], by
      intro a carried here
      rcases newest_or_kept _ _ _ _ here with old | ⟨_, clash⟩
      · obtain ⟨e, d', held⟩ := r.carried a carried old
        exact ⟨e, d', kept_below _ _ _ _ held⟩
      · cases clash⟩,
    .object r.objects.length)

structure FailureOptions where
  type : Option String
  fields : Option Record
  details : Option Record
  cause : Value

def Registry.failure (r : Registry) (kind : Given Kind) (message : String) (options : FailureOptions) :
    Except String (Registry × Value) :=
  match kind with
  | .foreign => .error "unknown failure kind"
  | .genuine kind =>
      .ok (r.remember ⟨kind, message, options.type.filter (· ≠ ""), options.fields.map fun fields => assign [] fields.members⟩
        ⟨options.cause, assign [] ((options.details.map Record.members).getD [])⟩)

def Registry.withFields (r : Registry) (value : Value) (fields : Record) : Except String (Registry × Value) :=
  (r.required value).map fun (f, d) => r.remember { f with fields := some (assign (f.fields.getD []) fields.members) } d

def Registry.withDetails (r : Registry) (value : Value) (details : Record) : Except String (Registry × Value) :=
  (r.required value).map fun (f, d) => r.remember f { d with details := assign d.details details.members }

def Registry.withCause (r : Registry) (value cause : Value) : Except String (Registry × Value) :=
  (r.required value).map fun (f, d) => r.remember f { d with cause := cause }

-- new AppError(failure)
def Registry.appError (r : Registry) (value : Value) : Except String (Registry × Value) :=
  match value with
  | .foreign _ => .error "expected a Failure constructed by this module"
  | .object address =>
      match here : r.objects[address]? with
      | some (.failure f d) =>
          .ok (⟨r.objects ++ [.carrier address], by
              intro a carried found
              rcases newest_or_kept _ _ _ _ found with old | ⟨_, same⟩
              · obtain ⟨e, d', held⟩ := r.carried a carried old
                exact ⟨e, d', kept_below _ _ _ _ held⟩
              · cases same
                exact ⟨f, d, kept_below _ _ _ _ here⟩⟩,
            .object r.objects.length)
      | some (.carrier _) | none => .error "expected a Failure constructed by this module"

def Registry.given (r : Registry) (value : Value) : Given Failure :=
  match r.known value with
  | some (f, _) => .genuine f
  | none => .foreign

def Registry.detailsOf (r : Registry) (value : Value) : Fields := ((r.known value).map fun known => known.2.details).getD []

def Registry.causeOf (r : Registry) (value : Value) : Option Value := (r.known value).map fun known => known.2.cause

structure PublicInfo where
  kind : Kind
  message : String
  type : Option String
  fields : Option Fields
deriving DecidableEq

def publicInfo (value : Given Failure) : PublicInfo :=
  match value with
  | .foreign => ⟨.internal, "internal error", none, none⟩
  | .genuine known =>
      if known.kind = .internal then ⟨.internal, "internal error", none, none⟩
      else
        { kind := known.kind
          message := if known.message = "" then "request failed" else known.message
          type := known.type.filter (· ≠ "")
          fields := known.fields }

theorem lookup_cons (k v key : String) (rest : Fields) :
    lookup ((k, v) :: rest) key = if k = key then some v else lookup rest key := by
  by_cases same : k = key
  · simp [lookup, same]
  · simp [lookup, same]

theorem lookup_put (key value other : String) (fields : Fields) :
    lookup (put key value fields) other = if key = other then some value else lookup fields other := by
  induction fields with
  | nil => rw [put, lookup_cons]
  | cons m rest ih =>
      obtain ⟨k, v⟩ := m
      rw [put]
      by_cases here : k = key
      · subst here
        rw [if_pos rfl, lookup_cons, lookup_cons]
        split_ifs <;> rfl
      · rw [if_neg here, lookup_cons, ih, lookup_cons]
        by_cases same : k = other
        · have apart : key ≠ other := fun clash => here (same.trans clash.symm)
          rw [if_pos same, if_neg apart, if_pos same]
        · rw [if_neg same, if_neg same]

theorem lookup_assign (old new : Fields) (distinct : (new.map Prod.fst).Nodup) (key : String) :
    lookup (assign old new) key = (lookup new key).or (lookup old key) := by
  induction new generalizing old with
  | nil => rfl
  | cons m rest ih =>
      obtain ⟨k, v⟩ := m
      simp only [List.map_cons, List.nodup_cons] at distinct
      have later := ih (put k v old) distinct.2
      have folded : assign old ((k, v) :: rest) = assign (put k v old) rest := rfl
      rw [folded, later, lookup_put, lookup_cons]
      by_cases same : k = key
      · subst same
        have absent : lookup rest k = none := by
          simp only [lookup, Option.map_eq_none_iff, List.find?_eq_none, decide_eq_true_eq]
          exact fun m member clash => distinct.1 (clash ▸ List.mem_map_of_mem member)
        simp [absent]
      · simp [same]

theorem lookup_some_iff (fields : Fields) : (∃ key, (lookup fields key).isSome = true) ↔ fields ≠ [] := by
  cases fields with
  | nil => simp [lookup]
  | cons m rest =>
      obtain ⟨k, v⟩ := m
      simp only [ne_eq, reduceCtorEq, not_false_eq_true, iff_true]
      exact ⟨k, by simp [lookup_cons]⟩

inductive Derivation where
  | fields (new : Record)
  | details (new : Record)
  | cause (new : Value)

def Registry.derive (r : Registry) (value : Value) : Derivation → Except String (Registry × Value)
  | .fields new => r.withFields value new
  | .details new => r.withDetails value new
  | .cause new => r.withCause value new

def Derivation.applied (c : Derivation) (f : Failure) (d : Diagnostic) : Failure × Diagnostic :=
  match c with
  | .fields new => ({ f with fields := some (assign (f.fields.getD []) new.members) }, d)
  | .details new => (f, { d with details := assign d.details new.members })
  | .cause new => (f, { d with cause := new })

def Derivation.newFields : Derivation → Fields
  | .fields new => new.members
  | .details _ | .cause _ => []

def Derivation.newDetails : Derivation → Fields
  | .details new => new.members
  | .fields _ | .cause _ => []

def Derivation.newCause : Derivation → Option Value
  | .cause new => some new
  | .fields _ | .details _ => none

theorem remember_required (r : Registry) (f : Failure) (d : Diagnostic) :
    (r.remember f d).1.required (r.remember f d).2 = .ok (f, d) := by
  simp [Registry.required, Registry.known, Registry.trusted, Registry.remember]

theorem remember_keeps (r : Registry) (f : Failure) (d : Diagnostic) (value : Value) (found : Failure × Diagnostic)
    (known : r.known value = some found) : (r.remember f d).1.known value = some found := by
  cases value with
  | foreign name => cases known
  | object a =>
      cases here : r.objects[a]? with
      | none => simp [Registry.known, Registry.trusted, here] at known
      | some o =>
          have kept := kept_below r.objects (.failure f d) a o here
          cases o with
          | failure e d' =>
              simp only [Registry.known, Registry.trusted, here, Option.bind_some] at known
              simpa only [Registry.known, Registry.trusted, Registry.remember, kept, Option.bind_some] using known
          | carrier target =>
              obtain ⟨e, d', held⟩ := r.carried a target here
              have still := kept_below r.objects (.failure f d) target _ held
              simp only [Registry.known, Registry.trusted, here, held, Option.bind_some] at known
              simpa only [Registry.known, Registry.trusted, Registry.remember, kept, still, Option.bind_some] using known

theorem derive_remembers (r : Registry) (value : Value) (f : Failure) (d : Diagnostic) (c : Derivation)
    (required : r.required value = .ok (f, d)) :
    r.derive value c = .ok (r.remember (c.applied f d).1 (c.applied f d).2) := by
  cases c with
  | fields new => simp [Registry.derive, Registry.withFields, required, Except.map, Derivation.applied]
  | details new => simp [Registry.derive, Registry.withDetails, required, Except.map, Derivation.applied]
  | cause new => simp [Registry.derive, Registry.withCause, required, Except.map, Derivation.applied]

structure DerivedFrom (c : Derivation) (f f' : Failure) (d d' : Diagnostic) : Prop where
  kind : f'.kind = f.kind
  message : f'.message = f.message
  type : f'.type = f.type
  fields : ∀ key, lookup (f'.fields.getD []) key = (lookup c.newFields key).or (lookup (f.fields.getD []) key)
  details : ∀ key, lookup d'.details key = (lookup c.newDetails key).or (lookup d.details key)
  cause : d'.cause = c.newCause.getD d.cause

theorem applied_derived (c : Derivation) (f : Failure) (d : Diagnostic) :
    DerivedFrom c f (c.applied f d).1 d (c.applied f d).2 := by
  have unmerged (fields : Fields) (key : String) : lookup fields key = (lookup [] key).or (lookup fields key) := rfl
  cases c with
  | fields new => exact ⟨rfl, rfl, rfl, lookup_assign _ _ new.distinct, unmerged _, rfl⟩
  | details new => exact ⟨rfl, rfl, rfl, unmerged _, lookup_assign _ _ new.distinct, rfl⟩
  | cause new => exact ⟨rfl, rfl, rfl, unmerged _, unmerged _, rfl⟩

theorem derive_keeps (r : Registry) (value : Value) (f : Failure) (d : Diagnostic) (c : Derivation)
    (required : r.required value = .ok (f, d)) :
    ∃ r' value' f' d', r.derive value c = .ok (r', value') ∧ r'.required value' = .ok (f', d') ∧ DerivedFrom c f f' d d' ∧
      ∀ other found, r.known other = some found → r'.known other = some found :=
  ⟨_, _, _, _, derive_remembers r value f d c required, remember_required r _ _, applied_derived c f d,
    remember_keeps r _ _⟩

theorem failure_known (r : Registry) (kind : Kind) (message : String) (options : FailureOptions) :
    ∃ r' value f d, r.failure (.genuine kind) message options = .ok (r', value) ∧ r'.required value = .ok (f, d) ∧
      f.kind = kind ∧ f.message = message ∧ d.cause = options.cause ∧
      ∀ key, lookup (f.fields.getD []) key = lookup ((options.fields.map Record.members).getD []) key := by
  refine ⟨_, _, _, _, rfl, remember_required r _ _, rfl, rfl, rfl, fun key => ?_⟩
  cases options.fields with
  | none => rfl
  | some fields =>
      have merged := lookup_assign [] fields.members fields.distinct key
      cases found : lookup fields.members key <;> simpa [found, lookup] using merged

theorem app_error_given (r r' : Registry) (value carrier : Value) (built : r.appError value = .ok (r', carrier)) :
    r'.given carrier = r.given value := by
  cases value with
  | foreign name => cases built
  | object a =>
      rw [Registry.appError] at built
      split at built
      · next f d here =>
          cases built
          have kept := kept_below r.objects (.carrier a) a _ here
          simp [Registry.given, Registry.known, Registry.trusted, here, kept]
      · cases built
      · cases built

end N2F
