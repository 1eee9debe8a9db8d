import N2F.Ecma.Text

set_option autoImplicit false

namespace Ecma

-- The anchored regular expressions over code units that need no backtracking
-- operator: single units, concatenation and a bounded run of one class.
inductive Pattern where
  | unit (p : UInt16 → Bool)
  | seq (first second : Pattern)
  | run (p : UInt16 → Bool) (least most : ℕ)

def inRange (low high : Char) (u : UInt16) : Bool := low.toNat ≤ u.toNat && u.toNat ≤ high.toNat

def oneOf (s : String) (u : UInt16) : Bool := (str s).contains u

def afterRun (p : UInt16 → Bool) : ℕ → ℕ → Str → List Str
  | least, 0, s => if least = 0 then [s] else []
  | least, most + 1, s =>
      (if least = 0 then [s] else []) ++
        match s with
        | [] => []
        | u :: rest => if p u then afterRun p (least - 1) most rest else []

def Pattern.rests : Pattern → Str → List Str
  | .unit p, s =>
      match s with
      | [] => []
      | u :: rest => if p u then [rest] else []
  | .seq a b, s => (a.rests s).flatMap b.rests
  | .run p least most, s => afterRun p least most s

-- /^...$/.test(s)
def Pattern.test (pattern : Pattern) (s : Str) : Bool := (pattern.rests s).any List.isEmpty

def Pattern.Accepts : Pattern → Str → Prop
  | .unit p, s => ∃ u, s = [u] ∧ p u = true
  | .seq a b, s => ∃ first second, s = first ++ second ∧ a.Accepts first ∧ b.Accepts second
  | .run p least most, s => least ≤ s.length ∧ s.length ≤ most ∧ ∀ u ∈ s, p u = true

theorem after_run_iff (p : UInt16 → Bool) (least most : ℕ) (s rest : Str) :
    rest ∈ afterRun p least most s ↔ ∃ word, s = word ++ rest ∧ (Pattern.run p least most).Accepts word := by
  induction most generalizing least s with
  | zero =>
      constructor
      · intro member
        by_cases zero : least = 0
        · exact ⟨[], by simpa [afterRun, zero, eq_comm] using member, by simp [Pattern.Accepts, zero]⟩
        · simp [afterRun, zero] at member
      · rintro ⟨word, split, least_le, most_le, _⟩
        have empty : word = [] := List.length_eq_zero_iff.mp (by omega)
        subst empty
        have zero : least = 0 := by simpa using least_le
        simp [afterRun, zero, split]
  | succ most ih =>
      unfold afterRun
      rw [List.mem_append]
      constructor
      · rintro (stop | more)
        · by_cases zero : least = 0
          · exact ⟨[], by simpa [zero, eq_comm] using stop, by simp [Pattern.Accepts, zero]⟩
          · simp [zero] at stop
        · cases s with
          | nil => simp at more
          | cons u tail =>
              by_cases accepted : p u = true
              · obtain ⟨word, split, least_le, most_le, all⟩ := (ih (least - 1) tail).mp (by simpa [accepted] using more)
                refine ⟨u :: word, by rw [split]; rfl, by simp only [List.length_cons]; omega,
                  by simp only [List.length_cons]; omega, ?_⟩
                simpa [accepted] using all
              · simp [accepted] at more
      · rintro ⟨word, split, least_le, most_le, all⟩
        cases word with
        | nil =>
            left
            have zero : least = 0 := by simpa using least_le
            simp [zero, split]
        | cons u tail =>
            right
            have accepted := all u (by simp)
            rw [split, List.cons_append]
            simp only [accepted, if_true]
            refine (ih (least - 1) (tail ++ rest)).mpr ⟨tail, rfl, ?_, ?_, fun v member => all v (by simp [member])⟩
            · simp only [List.length_cons] at least_le
              omega
            · simpa using most_le

theorem rests_iff (pattern : Pattern) (s rest : Str) :
    rest ∈ pattern.rests s ↔ ∃ word, s = word ++ rest ∧ pattern.Accepts word := by
  induction pattern generalizing s rest with
  | unit p =>
      cases s with
      | nil => simp [Pattern.rests, Pattern.Accepts]
      | cons u tail =>
          by_cases accepted : p u = true
          · simp only [Pattern.rests, accepted, if_true, List.mem_singleton, Pattern.Accepts]
            constructor
            · rintro rfl
              exact ⟨[u], rfl, u, rfl, accepted⟩
            · rintro ⟨word, split, v, rfl, _⟩
              exact (List.cons.inj split).2.symm
          · simp only [Pattern.rests, accepted, Pattern.Accepts]
            constructor
            · intro member
              simp at member
            · rintro ⟨word, split, v, rfl, held⟩
              exact absurd ((List.cons.inj split).1 ▸ held) accepted
  | seq a b first second =>
      simp only [Pattern.rests, List.mem_flatMap, Pattern.Accepts]
      constructor
      · rintro ⟨middle, left, right⟩
        obtain ⟨w, split, accepted⟩ := (first s middle).mp left
        obtain ⟨v, split', accepted'⟩ := (second middle rest).mp right
        exact ⟨w ++ v, by rw [split, split', List.append_assoc], w, v, rfl, accepted, accepted'⟩
      · rintro ⟨word, split, w, v, rfl, accepted, accepted'⟩
        exact ⟨v ++ rest, (first s _).mpr ⟨w, by rw [split, List.append_assoc], accepted⟩,
          (second _ rest).mpr ⟨v, rfl, accepted'⟩⟩
  | run p least most => exact after_run_iff p least most s rest

theorem test_iff (pattern : Pattern) (s : Str) : pattern.test s = true ↔ pattern.Accepts s := by
  simp only [Pattern.test, List.any_eq_true, List.isEmpty_iff]
  constructor
  · rintro ⟨rest, member, rfl⟩
    obtain ⟨word, split, accepted⟩ := (rests_iff pattern s []).mp member
    rwa [split, List.append_nil]
  · intro accepted
    exact ⟨[], (rests_iff pattern s []).mpr ⟨s, by simp, accepted⟩, rfl⟩

def Pattern.Stable (f : UInt16 → UInt16) : Pattern → Prop
  | .unit p => ∀ u, p u = true → p (f u) = true
  | .seq a b => a.Stable f ∧ b.Stable f
  | .run p _ _ => ∀ u, p u = true → p (f u) = true

theorem accepts_map (f : UInt16 → UInt16) (pattern : Pattern) (s : Str) (stable : pattern.Stable f)
    (accepted : pattern.Accepts s) : pattern.Accepts (s.map f) := by
  induction pattern generalizing s with
  | unit p =>
      obtain ⟨u, rfl, held⟩ := accepted
      exact ⟨f u, rfl, stable u held⟩
  | seq a b first second =>
      obtain ⟨w, v, rfl, left, right⟩ := accepted
      exact ⟨w.map f, v.map f, List.map_append, first w stable.1 left, second v stable.2 right⟩
  | run p least most =>
      obtain ⟨least_le, most_le, all⟩ := accepted
      refine ⟨by simpa using least_le, by simpa using most_le, fun v member => ?_⟩
      obtain ⟨u, inside, rfl⟩ := List.mem_map.mp member
      exact stable u (all u inside)

def Pattern.Within (q : UInt16 → Bool) : Pattern → Prop
  | .unit p => ∀ u, p u = true → q u = true
  | .seq a b => a.Within q ∧ b.Within q
  | .run p _ _ => ∀ u, p u = true → q u = true

theorem accepts_within (q : UInt16 → Bool) (pattern : Pattern) (s : Str) (within : pattern.Within q)
    (accepted : pattern.Accepts s) : ∀ u ∈ s, q u = true := by
  induction pattern generalizing s with
  | unit p =>
      obtain ⟨v, rfl, held⟩ := accepted
      simpa using within v held
  | seq a b first second =>
      obtain ⟨w, v, rfl, left, right⟩ := accepted
      intro u member
      rcases List.mem_append.mp member with before | after
      · exact first w within.1 left u before
      · exact second v within.2 right u after
  | run p least most => exact fun u member => within u (accepted.2.2 u member)

end Ecma
