import N2F.Env.Reader

set_option autoImplicit false

namespace N2F.Env

open Ecma

def Call.reads : Call → Option Str
  | .string key _ | .required key | .secret key | .boolean key _ => some key
  | .int key fallback min max => if refusesInt fallback min max then none else some key
  | .enumeration key fallback allowed => if refusesChoices fallback allowed then none else some key
  | .check | .manifest => none

def firstRead (key : Str) (calls : List Call) : Option Call := calls.find? fun c => c.reads = some key

-- The lookups agree on a key, or differ in a nonempty text that is read as a secret.
def Agree (first second : Lookup) (calls : List Call) (key : Str) : Prop :=
  first key = second key ∨
    firstRead key calls = some (.secret key) ∧
      ∃ s t, s ≠ [] ∧ t ≠ [] ∧ first key = .text s ∧ second key = .text t

def Answer.visible : Answer → Answer
  | .secret _ => .secret []
  | .text value => .text value
  | .number value => .number value
  | .flag value => .flag value
  | .checked result => .checked result
  | .listed result => .listed result

@[simp] theorem problem_seen (r : Reader) (key : Str) (why : String) : (r.problem key why).seen = r.seen := rfl

@[simp] theorem record_seen (r : Reader) (key value : Str) (isPresent isSecret : Bool) :
    (r.record key value isPresent isSecret).seen = r.seen := rfl

theorem read_seen (lookup : Lookup) (r : Reader) (key : Str) :
    (r.read lookup key).1.seen = if validKey key ∧ key ∉ r.seen then key :: r.seen else r.seen := by
  rw [Reader.read]
  by_cases valid : validKey key = true
  · rw [if_pos valid]
    by_cases again : r.seen.contains key = true
    · rw [if_pos again, if_neg fun fresh => fresh.2 (List.contains_iff_mem.mp again), problem_seen]
    · rw [if_neg again, if_pos ⟨valid, fun member => again (List.contains_iff_mem.mpr member)⟩]
      cases lookup key <;> rfl
  · rw [if_neg valid, if_neg fun fresh => valid fresh.1, problem_seen]

theorem read_congr (first second : Lookup) (r : Reader) (key : Str)
    (same : validKey key = true → key ∉ r.seen → first key = second key) : r.read first key = r.read second key := by
  rw [Reader.read, Reader.read]
  by_cases valid : validKey key = true
  · rw [if_pos valid, if_pos valid]
    by_cases again : r.seen.contains key = true
    · rw [if_pos again, if_pos again]
    · rw [if_neg again, if_neg again, same valid fun member => again (List.contains_iff_mem.mpr member)]
  · rw [if_neg valid, if_neg valid]

theorem secret_congr (first second : Lookup) (r : Reader) (key s t : Str) (left : s ≠ []) (right : t ≠ [])
    (found : first key = .text s) (found' : second key = .text t) : (r.secret first key).1 = (r.secret second key).1 := by
  rw [Reader.secret, Reader.secret, Reader.read, Reader.read, found, found']
  by_cases valid : validKey key = true
  · rw [if_pos valid, if_pos valid]
    by_cases again : r.seen.contains key = true
    · rw [if_pos again, if_pos again]
    · rw [if_neg again, if_neg again]
      simp only [Option.getD_some, if_neg left, if_neg right, Reader.record, if_true]
  · rw [if_neg valid, if_neg valid]

theorem perform_seen (lookup : Lookup) (r : Reader) (c : Call) :
    (r.perform lookup c).1.seen = (c.reads.elim r.seen fun key => (r.read lookup key).1.seen) := by
  cases c with
  | string key fallback =>
      simp only [Reader.perform, Reader.string, Call.reads, Option.elim_some]
      rcases r.read lookup key with ⟨next, _ | value⟩ <;> rfl
  | required key | secret key =>
      simp only [Reader.perform, Reader.required, Reader.secret, Call.reads, Option.elim_some]
      rcases r.read lookup key with ⟨next, _ | value⟩
      · rfl
      · dsimp only [Prod.map]
        split_ifs <;> rfl
  | int key fallback min max =>
      simp only [Reader.perform, Reader.int, Call.reads]
      by_cases refused : refusesInt fallback min max = true
      · simp [refused]
      · simp only [refused, Bool.false_eq_true, if_false, Option.elim_some]
        rcases r.read lookup key with ⟨next, _ | value⟩
        · rfl
        · dsimp only [Prod.map]
          split
          · rfl
          · split_ifs <;> rfl
  | boolean key fallback =>
      simp only [Reader.perform, Reader.boolean, Call.reads, Option.elim_some]
      rcases r.read lookup key with ⟨next, _ | _ | text⟩
      · rfl
      · rfl
      · dsimp only [Prod.map]
        split_ifs <;> rfl
  | enumeration key fallback allowed =>
      simp only [Reader.perform, Reader.enumeration, Call.reads]
      by_cases refused : refusesChoices fallback allowed = true
      · simp [refused]
      · simp only [refused, Bool.false_eq_true, if_false, Option.elim_some]
        rcases r.read lookup key with ⟨next, _ | value⟩
        · rfl
        · dsimp only [Prod.map]
          split_ifs <;> rfl
  | check => rfl
  | manifest => rfl

theorem unseen_after (lookup : Lookup) (r : Reader) (c : Call) (key : Str) (valid : validKey key = true)
    (unseen : key ∉ (r.perform lookup c).1.seen) : c.reads ≠ some key ∧ key ∉ r.seen := by
  rw [perform_seen] at unseen
  cases reads : c.reads with
  | none =>
      rw [reads] at unseen
      exact ⟨nofun, unseen⟩
  | some other =>
      rw [reads, Option.elim_some, read_seen] at unseen
      by_cases fresh : validKey other = true ∧ other ∉ r.seen
      · rw [if_pos fresh, List.mem_cons, not_or] at unseen
        exact ⟨fun same => unseen.1 (Option.some.inj same).symm, unseen.2⟩
      · rw [if_neg fresh] at unseen
        refine ⟨fun same => fresh ?_, unseen⟩
        rw [Option.some.inj same]
        exact ⟨valid, unseen⟩

theorem perform_congr (first second : Lookup) (r : Reader) (c : Call)
    (same : ∀ key, c.reads = some key → r.read first key = r.read second key) : r.perform first c = r.perform second c := by
  cases c with
  | string key fallback => simp only [Reader.perform, Reader.string, same key rfl]
  | required key => simp only [Reader.perform, Reader.required, same key rfl]
  | secret key => simp only [Reader.perform, Reader.secret, same key rfl]
  | int key fallback min max =>
      simp only [Reader.perform, Reader.int]
      by_cases refused : refusesInt fallback min max = true
      · rw [if_pos refused, if_pos refused]
      · rw [if_neg refused, if_neg refused, same key (if_neg refused)]
  | boolean key fallback => simp only [Reader.perform, Reader.boolean, same key rfl]
  | enumeration key fallback allowed =>
      simp only [Reader.perform, Reader.enumeration]
      by_cases refused : refusesChoices fallback allowed = true
      · rw [if_pos refused, if_pos refused]
      · rw [if_neg refused, if_neg refused, same key (if_neg refused)]
  | check => rfl
  | manifest => rfl

theorem perform_alike (first second : Lookup) (r : Reader) (c : Call) (rest : List Call)
    (agree : ∀ key, validKey key = true → key ∉ r.seen → Agree first second (c :: rest) key) :
    (r.perform first c).1 = (r.perform second c).1 ∧ (r.perform first c).2.visible = (r.perform second c).2.visible := by
  by_cases same : ∀ key, c.reads = some key → r.read first key = r.read second key
  · rw [perform_congr first second r c same]
    exact ⟨rfl, rfl⟩
  · simp only [not_forall] at same
    obtain ⟨key, reads, different⟩ := same
    have asked : validKey key = true ∧ key ∉ r.seen ∧ first key ≠ second key := by
      by_contra unasked
      refine different (read_congr first second r key fun valid fresh => ?_)
      by_contra apart
      exact unasked ⟨valid, fresh, apart⟩
    rcases agree key asked.1 asked.2.1 with equal | ⟨found, s, t, left, right, here, there⟩
    · exact absurd equal asked.2.2
    · rw [firstRead, List.find?_cons_of_pos (by simpa using reads)] at found
      rw [Option.some.inj found]
      exact ⟨secret_congr first second r key s t left right here there, rfl⟩

theorem agree_after (first second : Lookup) (r : Reader) (c : Call) (rest : List Call)
    (agree : ∀ key, validKey key = true → key ∉ r.seen → Agree first second (c :: rest) key) (key : Str)
    (valid : validKey key = true) (unseen : key ∉ (r.perform first c).1.seen) : Agree first second rest key := by
  obtain ⟨other, fresh⟩ := unseen_after first r c key valid unseen
  rcases agree key valid fresh with equal | ⟨found, texts⟩
  · exact .inl equal
  · rw [firstRead, List.find?_cons_of_neg (by simpa using other)] at found
    exact .inr ⟨found, texts⟩

theorem run_alike (first second : Lookup) (r : Reader) (calls : List Call)
    (agree : ∀ key, validKey key = true → key ∉ r.seen → Agree first second calls key) :
    (r.run first calls).1 = (r.run second calls).1 ∧
      (r.run first calls).2.map Answer.visible = (r.run second calls).2.map Answer.visible := by
  induction calls generalizing r with
  | nil => exact ⟨rfl, rfl⟩
  | cons c rest ih =>
      obtain ⟨same, visible⟩ := perform_alike first second r c rest agree
      have later := ih (r.perform first c).1 (agree_after first second r c rest agree)
      simp only [Reader.run, List.map_cons, visible]
      rw [← same]
      exact ⟨later.1, congrArg _ later.2⟩

theorem reports_hide_secrets (first second : Lookup) (calls : List Call) (agree : ∀ key, Agree first second calls key) :
    (Reader.new.run first calls).1.check = (Reader.new.run second calls).1.check ∧
      (Reader.new.run first calls).1.manifest = (Reader.new.run second calls).1.manifest ∧
      (Reader.new.run first calls).2.map Answer.visible = (Reader.new.run second calls).2.map Answer.visible := by
  obtain ⟨readers, answers⟩ := run_alike first second Reader.new calls fun key _ _ => agree key
  rw [readers]
  exact ⟨rfl, rfl, answers⟩

def demoLookup (token : Str) (key : Str) : Source := if key = str "TOKEN" then .text token else .absent

def demoCalls : List Call := [.secret (str "TOKEN"), .string (str "NAME") (str "api"), .required (str "TOKEN"), .manifest]

theorem reports_hide_secrets_demo :
    (Reader.new.run (demoLookup (str "a")) demoCalls).1.check = (Reader.new.run (demoLookup (str "other")) demoCalls).1.check ∧
      (Reader.new.run (demoLookup (str "a")) demoCalls).1.manifest = (Reader.new.run (demoLookup (str "other")) demoCalls).1.manifest ∧
      (Reader.new.run (demoLookup (str "a")) demoCalls).2.map Answer.visible =
        (Reader.new.run (demoLookup (str "other")) demoCalls).2.map Answer.visible := by
  refine reports_hide_secrets _ _ demoCalls fun key => ?_
  by_cases token : key = str "TOKEN"
  · exact .inr ⟨token ▸ rfl, str "a", str "other", by decide, by decide, if_pos token, if_pos token⟩
  · exact .inl ((if_neg token).trans (if_neg token).symm)

end N2F.Env
