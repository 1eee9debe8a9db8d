import N2F.Id
import N2F.Validation

set_option autoImplicit false

namespace N2F.Identity

open Ecma

inductive Kind where
  | human
  | service
deriving DecidableEq

inductive Status where
  | active
  | suspended
deriving DecidableEq

structure Draft where
  id : Str
  kind : Given Kind
  displayName : Str
  status : Given Status
  createdAtMs : Number
  updatedAtMs : Number
  version : Number

structure Snapshot where
  id : Str
  kind : Kind
  displayName : Str
  status : Status
  createdAtMs : Number
  updatedAtMs : Number
  version : Number
deriving DecidableEq

def Snapshot.draft (s : Snapshot) : Draft :=
  ⟨s.id, .genuine s.kind, s.displayName, .genuine s.status, s.createdAtMs, s.updatedAtMs, s.version⟩

def invalid : Failure := failure .invalid "invalid principal" "identity.principal_invalid"

def refused (code : String) : Failure := failure .conflict "principal transition refused" ("identity." ++ code)

def maxTime : ℚ := 253402300799999

def maxVersion : ℚ := 2147483647

-- The first unit of a supplementary character is a surrogate, never a control.
def hasControl (s : Str) : Bool := ((characters s).getD []).any isControl

def refuses (s : Draft) : Bool :=
  !(parse s.id).isOk || !s.kind.isGenuine || !s.status.isGenuine || !s.createdAtMs.isSafeInteger || !s.updatedAtMs.isSafeInteger ||
    s.createdAtMs.below 0 || s.updatedAtMs.less s.createdAtMs || s.updatedAtMs.above maxTime || !s.version.isSafeInteger ||
    s.version.below 1 || s.version.above maxVersion ||
    !(Validation.text s.displayName (Number.ofInt 1) (Number.ofInt 100) true).isOk || hasControl s.displayName

structure Snapshot.Valid (s : Snapshot) : Prop where
  accepted : refuses s.draft = false
  normal : parse s.id = .ok s.id

structure Principal where
  state : Snapshot
  valid : state.Valid

structure Accepted (s : Draft) : Prop where
  id : ∃ id, parse s.id = .ok id
  kind : s.kind.isGenuine = true
  status : s.status.isGenuine = true
  created : s.createdAtMs.isSafeInteger = true
  updated : s.updatedAtMs.isSafeInteger = true
  counted : s.version.isSafeInteger = true
  first : s.createdAtMs.below 0 = false
  forward : s.updatedAtMs.less s.createdAtMs = false
  last : s.updatedAtMs.above maxTime = false
  least : s.version.below 1 = false
  most : s.version.above maxVersion = false
  named : (Validation.text s.displayName (Number.ofInt 1) (Number.ofInt 100) true).isOk = true
  plain : hasControl s.displayName = false

theorem parse_is_ok_iff (input : Str) : (parse input).isOk = true ↔ ∃ id, parse input = .ok id := by
  cases parse input with
  | ok id => exact ⟨fun _ => ⟨id, rfl⟩, fun _ => rfl⟩
  | error e =>
      constructor
      · intro accepted
        cases accepted
      · rintro ⟨id, same⟩
        cases same

theorem accepted_iff (s : Draft) : refuses s = false ↔ Accepted s := by
  simp only [refuses, Bool.or_eq_false_iff, Bool.not_eq_false', parse_is_ok_iff]
  constructor
  · rintro ⟨⟨⟨⟨⟨⟨⟨⟨⟨⟨⟨⟨id, kind⟩, status⟩, created⟩, updated⟩, first⟩, forward⟩, last⟩, counted⟩, least⟩, most⟩, named⟩, plain⟩
    exact ⟨id, kind, status, created, updated, counted, first, forward, last, least, most, named, plain⟩
  · rintro ⟨id, kind, status, created, updated, counted, first, forward, last, least, most, named, plain⟩
    exact ⟨⟨⟨⟨⟨⟨⟨⟨⟨⟨⟨⟨id, kind⟩, status⟩, created⟩, updated⟩, first⟩, forward⟩, last⟩, counted⟩, least⟩, most⟩, named⟩, plain⟩

theorem restored_valid (s : Draft) (id : Str) (kind : Kind) (status : Status) (accepted : refuses s = false) (parsed : parse s.id = .ok id) :
    Snapshot.Valid ⟨id, kind, s.displayName, status, s.createdAtMs, s.updatedAtMs, s.version⟩ := by
  have normal := parse_parsed s.id id parsed
  have checks := (accepted_iff s).mp accepted
  exact ⟨(accepted_iff _).mpr { checks with id := ⟨id, normal⟩, kind := rfl, status := rfl }, normal⟩

-- A missing snapshot is null or undefined.
def restore (s : Option Draft) : Result Principal :=
  match s with
  | none => .error invalid
  | some s =>
      if accepted : refuses s = false then
        match parsed : parse s.id with
        | .error _ => .error invalid
        | .ok id =>
            have checks := (accepted_iff s).mp accepted
            .ok ⟨⟨id, s.kind.get checks.kind, s.displayName, s.status.get checks.status, s.createdAtMs, s.updatedAtMs, s.version⟩,
              restored_valid s id _ _ accepted parsed⟩
      else .error invalid

def register (id : Str) (kind : Given Kind) (displayName : Str) (time : Number) : Result Principal :=
  restore (some ⟨id, kind, displayName, .genuine .active, time, time, Number.ofInt 1⟩)

def Principal.snapshot (p : Principal) : Snapshot := p.state

def Snapshot.moved (s : Snapshot) (status : Status) (time : Number) : Snapshot :=
  { s with status := status, version := s.version.increment, updatedAtMs := time }

def untimely (s : Snapshot) (time : Number) : Bool := !time.isSafeInteger || time.less s.updatedAtMs || time.above maxTime

def spent (s : Snapshot) : Bool := s.version.strictEquals (Number.ofInt 2147483647)

def numeral (x : Number) : ℤ := (x.rational.getD 0).num

theorem numeral_rational (x : Number) (safe : x.isSafeInteger = true) : x.rational = some (numeral x : ℚ) := by
  obtain ⟨n, value, _⟩ := (safe_rational x).mp safe
  rw [numeral, value, Option.getD_some, Rat.num_intCast]

structure Bounded (s : Snapshot) : Prop where
  first : 0 ≤ numeral s.createdAtMs
  forward : numeral s.createdAtMs ≤ numeral s.updatedAtMs
  last : numeral s.updatedAtMs ≤ 253402300799999
  least : 1 ≤ numeral s.version
  most : numeral s.version ≤ 2147483647

theorem accepted_bounded (s : Snapshot) (accepted : Accepted s.draft) : Bounded s := by
  have created := numeral_rational s.createdAtMs accepted.created
  have updated := numeral_rational s.updatedAtMs accepted.updated
  have counted := numeral_rational s.version accepted.counted
  have first := (below_rational _ _ _ created).symm.trans accepted.first
  have forward := (less_rational _ _ _ _ updated created).symm.trans accepted.forward
  have last : ((numeral s.updatedAtMs : ℤ) : ℚ) ≤ 253402300799999 :=
    not_lt.mp (of_decide_eq_false ((above_rational _ _ _ updated).symm.trans accepted.last))
  have least := (below_rational _ _ _ counted).symm.trans accepted.least
  have most : ((numeral s.version : ℤ) : ℚ) ≤ 2147483647 :=
    not_lt.mp (of_decide_eq_false ((above_rational _ _ _ counted).symm.trans accepted.most))
  simp only [decide_eq_false_iff_not, not_lt] at first forward least
  exact ⟨by exact_mod_cast first, by exact_mod_cast forward, by exact_mod_cast last, by exact_mod_cast least, by exact_mod_cast most⟩

theorem Principal.accepted (p : Principal) : Accepted p.state.draft := (accepted_iff _).mp p.valid.accepted

theorem Principal.bounded (p : Principal) : Bounded p.state := accepted_bounded p.state p.accepted

theorem spent_iff (s : Snapshot) (counted : s.version.isSafeInteger = true) : spent s = true ↔ numeral s.version = 2147483647 := by
  rw [spent, equal_rational _ _ _ (of_int_rational 2147483647 (by norm_num)), numeral_rational s.version counted]
  simp only [Option.some.injEq]
  exact_mod_cast Iff.rfl

theorem timely_iff (s : Snapshot) (time : Number) (updated : s.updatedAtMs.isSafeInteger = true) : untimely s time = false ↔
    time.isSafeInteger = true ∧ numeral s.updatedAtMs ≤ numeral time ∧ numeral time ≤ 253402300799999 := by
  simp only [untimely, Bool.or_eq_false_iff, Bool.not_eq_false', and_assoc]
  refine and_congr_right fun safe => ?_
  have value := numeral_rational time safe
  rw [less_rational _ _ _ _ value (numeral_rational _ updated), above_rational _ _ _ value, maxTime]
  simp only [decide_eq_false_iff_not, not_lt]
  exact and_congr (by exact_mod_cast Iff.rfl) (by exact_mod_cast Iff.rfl)

theorem moved_version (s : Snapshot) (status : Status) (time : Number) (accepted : Accepted s.draft) (below : spent s = false) :
    (s.moved status time).version.rational = some ((numeral s.version + 1 : ℤ) : ℚ) ∧ numeral s.version + 1 ≤ 2147483647 := by
  have bounded := accepted_bounded s accepted
  have least := bounded.least
  have most := bounded.most
  have different : numeral s.version ≠ 2147483647 := by
    rw [← Bool.not_eq_true, spent_iff s accepted.counted] at below
    exact below
  have value := numeral_rational s.version accepted.counted
  have small : |numeral s.version + 1| ≤ 2 ^ 53 := by
    rw [abs_of_nonneg (by omega)]
    omega
  refine ⟨?_, by omega⟩
  rw [Snapshot.moved, increment_int _ _ value]
  exact of_int_rational _ small

theorem moved_valid (s : Snapshot) (status : Status) (time : Number) (valid : s.Valid) (timely : untimely s time = false)
    (below : spent s = false) : (s.moved status time).Valid := by
  have accepted := (accepted_iff _).mp valid.accepted
  have bounded := accepted_bounded s accepted
  obtain ⟨version, most⟩ := moved_version s status time accepted below
  obtain ⟨safe, later, last⟩ := (timely_iff s time accepted.updated).mp timely
  have value := numeral_rational time safe
  have least := bounded.least
  refine ⟨(accepted_iff _).mpr { accepted with status := rfl, updated := safe, counted := ?_, forward := ?_, last := ?_, least := ?_, most := ?_ },
    valid.normal⟩
  · refine (safe_rational _).mpr ⟨_, version, ?_⟩
    rw [abs_of_nonneg (by omega)]
    omega
  · have forward := bounded.forward
    have created := numeral_rational s.createdAtMs accepted.created
    refine (less_rational _ _ _ _ value created).trans (decide_eq_false (not_lt.mpr ?_))
    exact_mod_cast forward.trans later
  · refine (above_rational _ _ _ value).trans (decide_eq_false (not_lt.mpr ?_))
    rw [maxTime]
    exact_mod_cast last
  · refine (below_rational _ _ _ version).trans (decide_eq_false (not_lt.mpr ?_))
    exact_mod_cast (by omega : 1 ≤ numeral s.version + 1)
  · refine (above_rational _ _ _ version).trans (decide_eq_false (not_lt.mpr ?_))
    rw [maxVersion]
    exact_mod_cast most

-- The state is checked again because TypeScript callers can forge it.
def Principal.transition (p : Principal) (status : Status) (expected time : Number) : Result Principal :=
  if (restore (some p.state.draft)).isOk = false then .error invalid
  else if !expected.strictEquals p.state.version then .error (refused "version_conflict")
  else if status = p.state.status then .error (refused "state_conflict")
  else if timely : untimely p.state time = false then
    if below : spent p.state = false then .ok ⟨p.state.moved status time, moved_valid p.state status time p.valid timely below⟩
    else .error (refused "version_exhausted")
  else .error invalid

def Principal.suspend (p : Principal) (expected time : Number) : Result Principal := p.transition .suspended expected time

def Principal.activate (p : Principal) (expected time : Number) : Result Principal := p.transition .active expected time

end N2F.Identity
