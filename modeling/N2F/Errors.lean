import Mathlib.Control.Monad.Basic

set_option autoImplicit false

namespace N2F

inductive Kind where
  | internal
  | invalid
  | notFound
  | conflict
  | unauthenticated
  | forbidden
  | rateLimited
  | unavailable
  | timeout
  | canceled
deriving DecidableEq

def Kind.text : Kind → String
  | .internal => "internal"
  | .invalid => "invalid"
  | .notFound => "not_found"
  | .conflict => "conflict"
  | .unauthenticated => "unauthenticated"
  | .forbidden => "forbidden"
  | .rateLimited => "rate_limited"
  | .unavailable => "unavailable"
  | .timeout => "timeout"
  | .canceled => "canceled"

-- The public part of a failure. Diagnostics live in a side table that no
-- decision reads.
structure Failure where
  kind : Kind
  message : String
  type : Option String
  fields : Option (List (String × String))
deriving DecidableEq

abbrev Result (α : Type) := Except Failure α

def failure (kind : Kind) (message : String) (type : String) : Failure := ⟨kind, message, some type, none⟩

def refusal (checks : List (Bool × Failure)) : Option Failure := (checks.find? Prod.fst).map Prod.snd

theorem refusal_none_iff (checks : List (Bool × Failure)) : refusal checks = none ↔ ∀ c ∈ checks, c.1 = false := by
  simp [refusal, List.find?_eq_none]

theorem refusal_some (checks : List (Bool × Failure)) (e : Failure) (refused : refusal checks = some e) :
    ∃ c ∈ checks, c.1 = true ∧ c.2 = e := by
  obtain ⟨c, found, same⟩ := Option.map_eq_some_iff.mp refused
  exact ⟨c, List.mem_of_find?_eq_some found, List.find?_some found, same⟩

-- A value that is checked when it arrives: a member of a union or an object its
-- own module registered, or anything else a caller can pass.
inductive Given (α : Type) where
  | genuine (a : α)
  | foreign
deriving DecidableEq

variable {α : Type}

def Given.isGenuine : Given α → Bool
  | .genuine _ => true
  | .foreign => false

def Given.genuine? : Given α → Option α
  | .genuine a => some a
  | .foreign => none

def Given.get : (g : Given α) → g.isGenuine = true → α
  | .genuine a, _ => a

def Given.holds (p : α → Bool) : Given α → Bool
  | .genuine a => p a
  | .foreign => false

@[simp] theorem Given.genuine_is_genuine (a : α) : (Given.genuine a).isGenuine = true := rfl

@[simp] theorem Given.foreign_is_genuine : (Given.foreign : Given α).isGenuine = false := rfl

@[simp] theorem Given.genuine_option (a : α) : (Given.genuine a).genuine? = some a := rfl

@[simp] theorem Given.genuine_holds (p : α → Bool) (a : α) : (Given.genuine a).holds p = p a := rfl

@[simp] theorem Given.foreign_holds (p : α → Bool) : (Given.foreign : Given α).holds p = false := rfl

theorem Given.genuine_iff (g : Given α) : g.isGenuine = true ↔ ∃ a, g = .genuine a := by
  cases g <;> simp

theorem Given.genuine_get (g : Given α) (genuine : g.isGenuine = true) : .genuine (g.get genuine) = g := by
  cases g with
  | genuine a => rfl
  | foreign => cases genuine

end N2F
