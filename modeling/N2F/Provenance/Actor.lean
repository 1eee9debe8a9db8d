import N2F.Id

set_option autoImplicit false

namespace N2F

open Ecma

def invalid (code : String) : Failure := failure .invalid "invalid provenance" ("provenance." ++ code)

-- The member of a union of string literals that a string spells.
def spelled {α : Type} (members : List α) (text : α → String) (s : Str) : Given α :=
  match members.find? (fun a => str (text a) = s) with
  | some a => .genuine a
  | none => .foreign

theorem spelled_text {α : Type} (members : List α) (text : α → String) (a : α) (member : a ∈ members)
    (apart : ∀ b ∈ members, str (text b) = str (text a) → b = a) : spelled members text (str (text a)) = .genuine a := by
  rw [spelled]
  cases found : members.find? (fun b => decide (str (text b) = str (text a))) with
  | some b =>
      have same := List.find?_some found
      rw [apart b (List.mem_of_find?_eq_some found) (by simpa using same)]
  | none =>
      have none := List.find?_eq_none.mp found a member
      simp at none

inductive ActorKind where
  | anonymous
  | user
  | service
  | system
deriving DecidableEq

def ActorKind.text : ActorKind → String
  | .anonymous => "anonymous"
  | .user => "user"
  | .service => "service"
  | .system => "system"

def actorKind (s : Str) : Given ActorKind := spelled [.anonymous, .user, .service, .system] ActorKind.text s

theorem actor_kind_text (kind : ActorKind) : actorKind (str kind.text) = .genuine kind :=
  spelled_text _ _ kind (by cases kind <;> simp) (by cases kind <;> decide)

def alphanumeric (u : UInt16) : Bool := inRange 'A' 'Z' u || inRange 'a' 'z' u || inRange '0' '9' u

-- /^[A-Za-z0-9._:/-]{1,128}$/
def identityPattern : Pattern := .run (fun u => alphanumeric u || oneOf "._:/-" u) 1 128

def identityValid (s : Str) : Bool := identityPattern.test s

-- /^[a-z][a-z0-9_.:-]{0,127}$/
def operationPattern : Pattern :=
  .seq (.unit (inRange 'a' 'z')) (.run (fun u => inRange 'a' 'z' u || inRange '0' '9' u || oneOf "_.:-" u) 0 127)

def validOperation (s : Str) : Bool := operationPattern.test s

def operation (s : Str) : Result Str :=
  if validOperation s then .ok s else .error (invalid "invalid_operation")

theorem operation_valid (s : Str) (valid : validOperation s = true) : operation s = .ok s := if_pos valid

def ActorFields (kind : ActorKind) (identity : Option Str) : Prop :=
  (kind = .anonymous ∧ identity = none) ∨ (kind ≠ .anonymous ∧ ∃ s, identity = some s ∧ identityValid s = true)

structure Actor where
  kind : ActorKind
  identity : Option Str
  valid : ActorFields kind identity
deriving DecidableEq

def anonymous : Actor := ⟨.anonymous, none, .inl ⟨rfl, rfl⟩⟩

def actor (kind : Given ActorKind) (identity : Str) : Result Actor :=
  match kind with
  | .foreign => .error (invalid "invalid_actor")
  | .genuine kind =>
      if isAnonymous : kind = .anonymous then
        if identity ≠ [] then .error (invalid "invalid_actor") else .ok ⟨kind, none, .inl ⟨isAnonymous, rfl⟩⟩
      else if named : identityValid identity = true then
        .ok ⟨kind, some identity, .inr ⟨isAnonymous, identity, rfl, named⟩⟩
      else .error (invalid "invalid_actor")

def validActor (a : Given Actor) : Bool := a.isGenuine

def namedActor (a : Given Actor) : Bool := a.holds fun a => a.kind ≠ .anonymous

theorem actor_fields (a : Actor) : actor (.genuine a.kind) (a.identity.getD []) = .ok a := by
  obtain ⟨kind, identity, valid⟩ := a
  rcases valid with ⟨rfl, rfl⟩ | ⟨isNamed, s, rfl, held⟩
  · simp [actor]
  · simp [actor, isNamed, held]

structure AttributionSpec where
  initiator : Option (Given Actor)
  onBehalfOf : Option (Given Actor)
  tenant : Option Str

def sameActor (a b : Given Actor) : Bool := a.holds fun a => b.holds fun b => a.kind = b.kind && a.identity = b.identity

-- A represented principal needs a named initiator that is someone else.
def refusesDelegation (initiator onBehalfOf : Option (Given Actor)) : Bool :=
  match onBehalfOf with
  | none => false
  | some principal => !initiator.any namedActor || !namedActor principal || initiator.any (sameActor · principal)

structure Attribution where
  initiator : Option Actor
  onBehalfOf : Option Actor
  tenant : Option Str
  delegated : refusesDelegation (initiator.map .genuine) (onBehalfOf.map .genuine) = false
  tenantValid : tenant.all identityValid = true
deriving DecidableEq

def registered (a : Option (Given Actor)) : Option Actor := a.bind Given.genuine?

theorem registered_map (a : Option Actor) : registered (a.map .genuine) = a := by
  cases a <;> rfl

theorem registered_genuine (a : Option (Given Actor)) (known : a.any (fun a => !validActor a) = false) :
    (registered a).map .genuine = a := by
  cases a with
  | none => rfl
  | some given =>
      cases given with
      | genuine a => rfl
      | foreign => simp [validActor] at known

theorem delegation_registered (initiator onBehalfOf : Option (Given Actor))
    (known : initiator.any (fun a => !validActor a) = false) (accepted : refusesDelegation initiator onBehalfOf = false) :
    refusesDelegation ((registered initiator).map .genuine) ((registered onBehalfOf).map .genuine) = false := by
  rw [registered_genuine initiator known]
  cases onBehalfOf with
  | none => rfl
  | some principal =>
      cases principal with
      | genuine a => exact accepted
      | foreign => rfl

def attribution (s : AttributionSpec) : Result Attribution :=
  if known : s.initiator.any (fun a => !validActor a) = false then
    if accepted : refusesDelegation s.initiator s.onBehalfOf = false then
      if tenantValid : s.tenant.all identityValid = true then
        .ok ⟨registered s.initiator, registered s.onBehalfOf, s.tenant, delegation_registered _ _ known accepted, tenantValid⟩
      else .error (invalid "invalid_attribution")
    else .error (invalid "invalid_attribution")
  else .error (invalid "invalid_attribution")

theorem attribution_fields (a : Attribution) :
    attribution ⟨a.initiator.map .genuine, a.onBehalfOf.map .genuine, a.tenant⟩ = .ok a := by
  obtain ⟨initiator, onBehalfOf, tenant, delegated, tenantValid⟩ := a
  have known : (initiator.map Given.genuine).any (fun a => !validActor a) = false := by cases initiator <;> rfl
  simp [attribution, registered_map, known, delegated, tenantValid]

inductive ReferenceKind where
  | scope
  | work
  | event
deriving DecidableEq

def ReferenceKind.text : ReferenceKind → String
  | .scope => "scope"
  | .work => "work"
  | .event => "event"

def referenceKind (s : Str) : Given ReferenceKind := spelled [.scope, .work, .event] ReferenceKind.text s

theorem reference_kind_text (kind : ReferenceKind) : referenceKind (str kind.text) = .genuine kind :=
  spelled_text _ _ kind (by cases kind <;> simp) (by cases kind <;> decide)

structure Reference where
  kind : ReferenceKind
  id : Str
  valid : validID id = true
deriving DecidableEq

def reference (kind : Given ReferenceKind) (id : Str) : Result Reference :=
  match kind with
  | .foreign => .error (invalid "invalid_reference")
  | .genuine kind => if valid : validID id = true then .ok ⟨kind, id, valid⟩ else .error (invalid "invalid_reference")

def validReference (r : Given Reference) : Bool := r.isGenuine

theorem reference_valid (kind : ReferenceKind) (id : Str) (valid : validID id = true) :
    reference (.genuine kind) id = .ok ⟨kind, id, valid⟩ := dif_pos valid

end N2F
