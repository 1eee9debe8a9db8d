import N2F.Errors
import N2F.Ecma.Pattern

set_option autoImplicit false

namespace N2F

open Ecma

def hex (u : UInt16) : Bool := inRange '0' '9' u || inRange 'a' 'f' u || inRange 'A' 'F' u

def dash : Pattern := .unit (oneOf "-")

-- /^[0-9a-f]{8}-[0-9a-f]{4}-[0-9a-f]{4}-[89ab][0-9a-f]{3}-[0-9a-f]{12}$/i
def canonical : Pattern :=
  .seq (.run hex 8 8) (.seq dash (.seq (.run hex 4 4) (.seq dash (.seq (.run hex 4 4) (.seq dash
    (.seq (.unit (oneOf "89abAB")) (.seq (.run hex 3 3) (.seq dash (.run hex 12 12)))))))))

-- toLowerCase on the units the pattern admits.
def lower (u : UInt16) : UInt16 := if inRange 'A' 'Z' u then u + 32 else u

def parse (input : Str) : Result Str :=
  if input.length ≠ 36 ∨ canonical.test input = false then .error (failure .invalid "invalid ID" "id.invalid")
  else .ok (input.map lower)

def validID (value : Str) : Bool :=
  match parse value with
  | .ok id => id = value
  | .error _ => false

theorem upper_lowered (u : UInt16) (upper : inRange 'A' 'Z' u = true) :
    65 ≤ u.toNat ∧ u.toNat ≤ 90 ∧ (lower u).toNat = u.toNat + 32 := by
  have range : 65 ≤ u.toNat ∧ u.toNat ≤ 90 := by simpa [inRange] using upper
  refine ⟨range.1, range.2, ?_⟩
  rw [lower, if_pos upper, UInt16.toNat_add]
  exact Nat.mod_eq_of_lt (by simp; omega)

theorem lower_settled (u : UInt16) : inRange 'A' 'Z' (lower u) = false := by
  by_cases upper : inRange 'A' 'Z' u = true
  · obtain ⟨_, _, value⟩ := upper_lowered u upper
    simp [inRange, value]
    omega
  · rw [lower, if_neg upper]
    simpa using upper

theorem lower_lower (u : UInt16) : lower (lower u) = lower u := by
  rw [lower.eq_def (lower u), lower_settled u]
  rfl

theorem hex_lower (u : UInt16) (digit : hex u = true) : hex (lower u) = true := by
  by_cases upper : inRange 'A' 'Z' u = true
  · obtain ⟨least, most, value⟩ := upper_lowered u upper
    simp only [hex, inRange, Bool.or_eq_true, Bool.and_eq_true, decide_eq_true_eq, value] at digit ⊢
    simp at digit ⊢
    omega
  · rwa [lower, if_neg upper]

theorem canonical_lower : canonical.Stable lower := by
  have dashes : ∀ u, oneOf "-" u = true → oneOf "-" (lower u) = true := by
    intro u same
    have value : u = 45 := by simpa [oneOf, str, unitsOf] using same
    subst value
    decide
  have variants : ∀ u, oneOf "89abAB" u = true → oneOf "89abAB" (lower u) = true := by
    intro u same
    have value : u = 56 ∨ u = 57 ∨ u = 97 ∨ u = 98 ∨ u = 65 ∨ u = 66 := by simpa [oneOf, str, unitsOf] using same
    rcases value with rfl | rfl | rfl | rfl | rfl | rfl <;> decide
  exact ⟨hex_lower, dashes, hex_lower, dashes, hex_lower, dashes, variants, hex_lower, dashes, hex_lower⟩

theorem parse_ok_iff (input id : Str) :
    parse input = .ok id ↔ input.length = 36 ∧ canonical.test input = true ∧ id = input.map lower := by
  rw [parse]
  split_ifs with refused
  · constructor
    · intro parsed
      cases parsed
    · rintro ⟨long, accepted, _⟩
      rcases refused with short | rejected
      · exact absurd long short
      · simp [accepted] at rejected
  · simp only [not_or, ne_eq, not_not, Bool.not_eq_false] at refused
    constructor
    · intro parsed
      injection parsed with same
      exact ⟨refused.1, refused.2, same.symm⟩
    · rintro ⟨_, _, rfl⟩
      rfl

theorem parse_parsed (input id : Str) (parsed : parse input = .ok id) : parse id = .ok id := by
  obtain ⟨long, accepted, rfl⟩ := (parse_ok_iff input id).mp parsed
  refine (parse_ok_iff _ _).mpr ⟨by simpa using long, ?_, ?_⟩
  · exact (test_iff _ _).mpr (accepts_map lower canonical input canonical_lower ((test_iff _ _).mp accepted))
  · rw [List.map_map]
    exact List.map_congr_left fun u _ => (lower_lower u).symm

theorem valid_id_iff (value : Str) : validID value = true ↔ parse value = .ok value := by
  rw [validID]
  cases parse value with
  | ok id => simp
  | error e => simp

theorem parsed_valid (input id : Str) (parsed : parse input = .ok id) : validID id = true :=
  (valid_id_iff id).mpr (parse_parsed input id parsed)

end N2F
