import N2F.Env.Integer
import N2F.Env.Secrets
import Mathlib.Data.List.Forall2

set_option autoImplicit false

namespace N2F.Env

open Ecma

-- What a lookup was asked and answered so far; it may answer by that.
abbrev Asked := List (Str × Source)

def Reader.readAsking (lookup : Asked → Lookup) (asked : Asked) (r : Reader) (key : Str) : Asked × Reader × Option (Option Str) :=
  if validKey key then
    if r.seen.contains key then (asked, r.problem key "duplicate_key", none)
    else
      let r := { r with seen := key :: r.seen }
      let value := lookup asked key
      let asked := asked ++ [(key, value)]
      match value with
      | .absent => (asked, r, some none)
      | .text value => (asked, r, some (some value))
      | .foreign => (asked, r.problem key "invalid_source", none)
  else (asked, r.problem key "invalid_key", none)

def Reader.performAsking (lookup : Asked → Lookup) (asked : Asked) (r : Reader) (c : Call) : Asked × Reader × Answer :=
  (c.reads.elim asked fun key => (r.readAsking lookup asked key).1, r.perform (lookup asked) c)

def Reader.runAsking (lookup : Asked → Lookup) (asked : Asked) (r : Reader) : List Call → Asked × Reader × List Answer
  | [] => (asked, r, [])
  | c :: rest =>
      let (asked', next, answer) := r.performAsking lookup asked c
      let (last, r', answers) := next.runAsking lookup asked' rest
      (last, r', answer :: answers)

theorem read_asking (lookup : Asked → Lookup) (asked : Asked) (r : Reader) (key : Str) :
    (r.readAsking lookup asked key).2 = r.read (lookup asked) key := by
  rw [Reader.readAsking, Reader.read]
  split_ifs
  · rfl
  · cases lookup asked key <;> rfl
  · rfl

theorem run_asking (lookup : Lookup) (asked : Asked) (r : Reader) (calls : List Call) :
    (r.runAsking (fun _ => lookup) asked calls).2 = r.run lookup calls := by
  induction calls generalizing asked r with
  | nil => rfl
  | cons c rest ih =>
      simp only [Reader.runAsking, Reader.performAsking, Reader.run]
      rw [← ih]

def Call.key : Call → Option Str
  | .string key _ | .required key | .secret key | .int key .. | .boolean key _ | .enumeration key .. => some key
  | .check | .manifest => none

def Call.isSecret : Call → Bool
  | .secret _ => true
  | _ => false

def intValue (fallback : Number) : Option Str → Option Number
  | none => some fallback
  | some text => integer text

def Call.accept : Call → Option Str → Option (Answer × Str)
  | .string _ fallback, value => some (.text (value.getD fallback), value.getD fallback)
  | .required _, value => if value.getD [] = [] then none else some (.text (value.getD []), value.getD [])
  | .secret _, value => if value.getD [] = [] then none else some (.secret (value.getD []), str "[REDACTED]")
  | .int _ fallback min max, value =>
      match intValue fallback value with
      | none => none
      | some v => if v.less min || max.less v then none else some (.number v, numberText v)
  | .boolean _ fallback, none => some (.flag fallback, flagText fallback)
  | .boolean _ _, some text =>
      if text ≠ str "true" && text ≠ str "false" then none else some (.flag (text = str "true"), flagText (text = str "true"))
  | .enumeration _ fallback allowed, value =>
      if allowed.contains (value.getD fallback) then some (.text (value.getD fallback), value.getD fallback) else none
  | .check, _ | .manifest, _ => none

def sourceOf : Option Str → Source
  | none => .absent
  | some text => .text text

def originOf (value : Option Str) : Origin := if value.isSome then .environment else .default

def Reader.keep (r : Reader) (c : Call) (key : Str) (value : Option Str) (text : Str) : Reader :=
  { r with seen := key :: r.seen, resolved := r.resolved ++ [⟨key, text, originOf value, c.isSecret⟩] }

theorem put_nonempty (key value : String) (fields : Fields) : put key value fields ≠ [] := by
  cases fields with
  | nil => exact List.cons_ne_nil _ _
  | cons field rest =>
      rw [put]
      split_ifs
      · exact List.cons_ne_nil _ _
      · exact List.cons_ne_nil _ _

theorem problem_loud (r : Reader) (key : Str) (why : String) : (r.problem key why).problems ≠ [] := put_nonempty _ _ _

theorem read_cases (lookup : Lookup) (r : Reader) (key : Str) :
    (∃ value, validKey key = true ∧ key ∉ r.seen ∧ lookup key = sourceOf value ∧
      r.read lookup key = ({ r with seen := key :: r.seen }, some value)) ∨
      ∃ r', r.read lookup key = (r', none) ∧ r'.problems ≠ [] := by
  rw [Reader.read]
  by_cases valid : validKey key = true
  · rw [if_pos valid]
    by_cases again : r.seen.contains key = true
    · rw [if_pos again]
      exact .inr ⟨_, rfl, problem_loud _ _ _⟩
    · rw [if_neg again]
      have fresh : key ∉ r.seen := fun member => again (List.contains_iff_mem.mpr member)
      cases found : lookup key with
      | absent => exact .inl ⟨none, valid, fresh, rfl, rfl⟩
      | text value => exact .inl ⟨some value, valid, fresh, rfl, rfl⟩
      | foreign => exact .inr ⟨_, rfl, problem_loud _ _ _⟩
  · rw [if_neg valid]
    exact .inr ⟨_, rfl, problem_loud _ _ _⟩

theorem int_reads (key key' : Str) (fallback min max : Number) (reads : (Call.int key' fallback min max).reads = some key) :
    key' = key ∧ ¬ refusesInt fallback min max = true := by
  by_cases refused : refusesInt fallback min max = true
  · simp [Call.reads, refused] at reads
  · exact ⟨by simpa [Call.reads, refused] using reads, refused⟩

theorem enumeration_reads (key key' fallback : Str) (allowed : List Str) (reads : (Call.enumeration key' fallback allowed).reads = some key) :
    key' = key ∧ ¬ refusesChoices fallback allowed = true := by
  by_cases refused : refusesChoices fallback allowed = true
  · simp [Call.reads, refused] at reads
  · exact ⟨by simpa [Call.reads, refused] using reads, refused⟩

theorem int_read (lookup : Lookup) (r r' : Reader) (key : Str) (fallback min max : Number) (value : Option Str)
    (defined : ¬ refusesInt fallback min max = true) (read : r.read lookup key = (r', some value)) :
    r.perform lookup (.int key fallback min max) =
      match intValue fallback value with
      | none => (r'.problem key "invalid_integer", .number Number.zero)
      | some v =>
          if v.less min || max.less v then (r'.problem key "out_of_range", .number Number.zero)
          else (r'.record key (numberText v) value.isSome false, .number v) := by
  simp only [Reader.perform, Reader.int, if_neg defined, read]
  cases value with
  | none =>
      simp only [intValue]
      split_ifs <;> rfl
  | some text =>
      simp only [intValue]
      cases integer text with
      | none => rfl
      | some v =>
          simp only
          split_ifs <;> rfl

theorem perform_read (lookup : Lookup) (r r' : Reader) (c : Call) (key : Str) (value : Option Str) (reads : c.reads = some key)
    (read : r.read lookup key = (r', some value)) :
    (∃ answer text, c.accept value = some (answer, text) ∧
      r.perform lookup c = ({ r' with resolved := r'.resolved ++ [⟨key, text, originOf value, c.isSecret⟩] }, answer)) ∨
      c.accept value = none ∧ (r.perform lookup c).1.problems ≠ [] := by
  cases c with
  | string key' fallback =>
      obtain rfl : key' = key := Option.some.inj reads
      left
      refine ⟨_, _, rfl, ?_⟩
      simp only [Reader.perform, Reader.string, read]
      rfl
  | required key' | secret key' =>
      obtain rfl : key' = key := Option.some.inj reads
      simp only [Reader.perform, Reader.required, Reader.secret, read, Call.accept]
      by_cases empty : value.getD [] = []
      · rw [if_pos empty, if_pos empty]
        exact .inr ⟨rfl, problem_loud _ _ _⟩
      · rw [if_neg empty, if_neg empty]
        refine .inl ⟨_, _, rfl, ?_⟩
        cases value with
        | none => exact absurd rfl empty
        | some text => rfl
  | int key' fallback min max =>
      obtain ⟨rfl, defined⟩ := int_reads key key' fallback min max reads
      rw [int_read lookup r r' key' fallback min max value defined read, Call.accept.eq_def]
      simp only
      cases intValue fallback value with
      | none => exact .inr ⟨rfl, problem_loud _ _ _⟩
      | some v =>
          simp only
          by_cases outside : (v.less min || max.less v) = true
          · rw [if_pos outside, if_pos outside]
            exact .inr ⟨rfl, problem_loud _ _ _⟩
          · rw [if_neg outside, if_neg outside]
            exact .inl ⟨_, _, rfl, rfl⟩
  | boolean key' fallback =>
      obtain rfl : key' = key := Option.some.inj reads
      simp only [Reader.perform, Reader.boolean, read]
      cases value with
      | none => exact .inl ⟨_, _, rfl, rfl⟩
      | some text =>
          simp only [Call.accept]
          by_cases other : (text ≠ str "true" && text ≠ str "false") = true
          · rw [if_pos other, if_pos other]
            exact .inr ⟨rfl, problem_loud _ _ _⟩
          · rw [if_neg other, if_neg other]
            exact .inl ⟨_, _, rfl, rfl⟩
  | enumeration key' fallback allowed =>
      obtain ⟨rfl, defined⟩ := enumeration_reads key key' fallback allowed reads
      simp only [Reader.perform, Reader.enumeration, if_neg defined, read, Call.accept]
      by_cases chosen : allowed.contains (value.getD fallback) = true
      · rw [if_pos chosen, if_pos chosen]
        exact .inl ⟨_, _, rfl, rfl⟩
      · rw [if_neg chosen, if_neg chosen]
        exact .inr ⟨rfl, problem_loud _ _ _⟩
  | check => cases reads
  | manifest => cases reads

theorem perform_unread (lookup : Lookup) (r r' : Reader) (c : Call) (key : Str) (reads : c.reads = some key)
    (read : r.read lookup key = (r', none)) : (r.perform lookup c).1 = r' := by
  cases c with
  | string key' _ | required key' | secret key' | boolean key' _ =>
      obtain rfl : key' = key := Option.some.inj reads
      simp only [Reader.perform, Reader.string, Reader.required, Reader.secret, Reader.boolean, read]
      rfl
  | int key' fallback min max =>
      obtain ⟨rfl, defined⟩ := int_reads key key' fallback min max reads
      simp only [Reader.perform, Reader.int, if_neg defined, read]
      rfl
  | enumeration key' fallback allowed =>
      obtain ⟨rfl, defined⟩ := enumeration_reads key key' fallback allowed reads
      simp only [Reader.perform, Reader.enumeration, if_neg defined, read]
      rfl
  | check => cases reads
  | manifest => cases reads

theorem reads_key (c : Call) (key : Str) (named : c.key = some key) :
    c.reads = some key ∨ ∀ (lookup : Lookup) (r : Reader), (r.perform lookup c).1.problems ≠ [] := by
  cases c with
  | string _ _ | required _ | secret _ | boolean _ _ => exact .inl named
  | int key' fallback min max =>
      by_cases refused : refusesInt fallback min max = true
      · right
        intro lookup r
        simp only [Reader.perform, Reader.int, if_pos refused]
        exact problem_loud _ _ _
      · exact .inl ((if_neg refused).trans named)
  | enumeration key' fallback allowed =>
      by_cases refused : refusesChoices fallback allowed = true
      · right
        intro lookup r
        simp only [Reader.perform, Reader.enumeration, if_pos refused]
        exact problem_loud _ _ _
      · exact .inl ((if_neg refused).trans named)
  | check => cases named
  | manifest => cases named

structure Served (lookup : Lookup) (r : Reader) (c : Call) (key : Str) (value : Option Str) (answer : Answer) (text : Str) : Prop where
  reads : c.reads = some key
  valid : validKey key = true
  fresh : key ∉ r.seen
  found : lookup key = sourceOf value
  accepted : c.accept value = some (answer, text)

theorem perform_served (lookup : Lookup) (r : Reader) (c : Call) (key : Str) (value : Option Str) (answer : Answer) (text : Str)
    (served : Served lookup r c key value answer text) : r.perform lookup c = (r.keep c key value text, answer) := by
  have read : r.read lookup key = ({ r with seen := key :: r.seen }, some value) := by
    rw [Reader.read, if_pos served.valid, if_neg fun again => served.fresh (List.contains_iff_mem.mp again), served.found]
    cases value <;> rfl
  rcases perform_read lookup r _ c key value served.reads read with ⟨answer', text', accepted, performed⟩ | ⟨refused, _⟩
  · rw [served.accepted] at accepted
    obtain ⟨rfl, rfl⟩ := Prod.mk.inj (Option.some.inj accepted)
    exact performed
  · rw [served.accepted] at refused
    cases refused

theorem perform_cases (lookup : Lookup) (r : Reader) (c : Call) (key : Str) (named : c.key = some key) :
    (∃ value answer text, Served lookup r c key value answer text) ∨ (r.perform lookup c).1.problems ≠ [] := by
  rcases reads_key c key named with reads | refused
  · rcases read_cases lookup r key with ⟨value, valid, fresh, found, read⟩ | ⟨r', read, loud⟩
    · rcases perform_read lookup r _ c key value reads read with ⟨answer, text, accepted, _⟩ | ⟨_, loud⟩
      · exact .inl ⟨value, answer, text, reads, valid, fresh, found, accepted⟩
      · exact .inr loud
    · right
      rwa [perform_unread lookup r r' c key reads read]
  · exact .inr (refused lookup r)

theorem perform_loud (lookup : Lookup) (r : Reader) (c : Call) (loud : r.problems ≠ []) : (r.perform lookup c).1.problems ≠ [] := by
  cases named : c.key with
  | none =>
      cases c with
      | check | manifest => exact loud
      | string _ _ | required _ | secret _ | int _ _ _ _ | boolean _ _ | enumeration _ _ _ => cases named
  | some key =>
      rcases perform_cases lookup r c key named with ⟨value, answer, text, served⟩ | loud'
      · rw [perform_served lookup r c key value answer text served]
        exact loud
      · exact loud'

theorem run_loud (lookup : Asked → Lookup) (asked : Asked) (r : Reader) (calls : List Call) (loud : r.problems ≠ []) :
    (r.runAsking lookup asked calls).2.1.problems ≠ [] := by
  induction calls generalizing asked r with
  | nil => exact loud
  | cons c rest ih => exact ih _ _ (perform_loud (lookup asked) r c loud)

theorem asking_served (lookup : Asked → Lookup) (asked : Asked) (r : Reader) (c : Call) (key : Str) (value : Option Str) (answer : Answer)
    (text : Str) (served : Served (lookup asked) r c key value answer text) :
    r.performAsking lookup asked c = (asked ++ [(key, sourceOf value)], r.keep c key value text, answer) := by
  have question : (r.readAsking lookup asked key).1 = asked ++ [(key, sourceOf value)] := by
    rw [Reader.readAsking, if_pos served.valid, if_neg fun again => served.fresh (List.contains_iff_mem.mp again)]
    simp only [served.found]
    cases value <;> rfl
  rw [Reader.performAsking, served.reads, Option.elim_some, question, perform_served _ r c key value answer text served]

def Var.supplied (v : Var) : Var := { v with source := .environment }

-- The same answer, but for the sign of a zero and for the entries of a manifest
-- whose values are supplied now.
def Answer.Same : Answer → Answer → Prop
  | .number first, .number again => again.strictEquals first = true
  | .listed first, .listed again => again = first.map (List.map Var.supplied)
  | first, again => first = again

def Call.Bounded : Call → Answer → Prop
  | .int _ _ min max, answer =>
      ∃ low n high : ℤ, min.rational = some (low : ℚ) ∧ max.rational = some (high : ℚ) ∧ low ≤ n ∧ n ≤ high ∧
        ∃ v, answer = .number v ∧ v.rational = some (n : ℚ)
  | .enumeration _ _ allowed, answer => ∃ choice ∈ allowed, answer = .text choice
  | _, _ => True

theorem integer_safe (text : Str) (v : Number) (parsed : integer text = some v) : v.isSafeInteger = true := by
  simp only [integer] at parsed
  split_ifs at parsed with _ _ signed _ unsigned
  · rwa [Option.some.inj parsed] at signed
  · rwa [Option.some.inj parsed] at unsigned

theorem value_safe (fallback v : Number) (value : Option Str) (safe : fallback.isSafeInteger = true)
    (parsed : intValue fallback value = some v) : v.isSafeInteger = true := by
  cases value with
  | none => rwa [← Option.some.inj parsed]
  | some text => exact integer_safe text v parsed

theorem accept_int (key : Str) (fallback min max : Number) (value : Option Str) (answer : Answer) (text : Str)
    (accepted : (Call.int key fallback min max).accept value = some (answer, text)) :
    ∃ v, intValue fallback value = some v ∧ (v.less min || max.less v) = false ∧ answer = .number v ∧ text = numberText v := by
  rw [Call.accept.eq_def] at accepted
  simp only at accepted
  cases parsed : intValue fallback value with
  | none => simp [parsed] at accepted
  | some v =>
      simp only [parsed] at accepted
      split_ifs at accepted with outside
      · obtain ⟨rfl, rfl⟩ := Prod.mk.inj (Option.some.inj accepted)
        exact ⟨v, rfl, by simpa using outside, rfl, rfl⟩

theorem accept_bounded (c : Call) (key : Str) (value : Option Str) (answer : Answer) (text : Str) (reads : c.reads = some key)
    (accepted : c.accept value = some (answer, text)) : c.Bounded answer := by
  cases c with
  | int key' fallback min max =>
      obtain ⟨_, defined⟩ := int_reads key key' fallback min max reads
      obtain ⟨safe, least, most⟩ := defined_int fallback min max defined
      obtain ⟨v, parsed, inside, rfl, rfl⟩ := accept_int key' fallback min max value answer text accepted
      obtain ⟨low, low', _⟩ := (safe_rational min).mp least
      obtain ⟨high, high', _⟩ := (safe_rational max).mp most
      obtain ⟨n, n', _⟩ := (safe_rational v).mp (value_safe fallback v value safe parsed)
      rw [less_rational v min n low n' low', less_rational max v high n high' n', Bool.or_eq_false_iff, decide_eq_false_iff_not,
        decide_eq_false_iff_not, not_lt, not_lt] at inside
      exact ⟨low, n, high, low', high', by exact_mod_cast inside.1, by exact_mod_cast inside.2, v, rfl, n'⟩
  | enumeration key' fallback allowed =>
      simp only [Call.accept] at accepted
      split_ifs at accepted with chosen
      · obtain ⟨rfl, rfl⟩ := Prod.mk.inj (Option.some.inj accepted)
        exact ⟨_, List.contains_iff_mem.mp chosen, rfl⟩
  | string _ _ | required _ | secret _ | boolean _ _ | check | manifest => trivial

theorem accept_canonical (c : Call) (key : Str) (value : Option Str) (answer : Answer) (text : Str) (reads : c.reads = some key)
    (accepted : c.accept value = some (answer, text)) (shown : c.isSecret = false) :
    ∃ again, c.accept (some text) = some (again, text) ∧ answer.Same again := by
  cases c with
  | string key' fallback =>
      obtain ⟨rfl, rfl⟩ := Prod.mk.inj (Option.some.inj accepted)
      exact ⟨_, rfl, rfl⟩
  | required key' =>
      simp only [Call.accept] at accepted
      split_ifs at accepted with empty
      · obtain ⟨rfl, rfl⟩ := Prod.mk.inj (Option.some.inj accepted)
        exact ⟨_, if_neg empty, rfl⟩
  | secret key' => cases shown
  | int key' fallback min max =>
      obtain ⟨_, defined⟩ := int_reads key key' fallback min max reads
      obtain ⟨safe, least, most⟩ := defined_int fallback min max defined
      obtain ⟨v, parsed, inside, rfl, rfl⟩ := accept_int key' fallback min max value answer text accepted
      have safe' := value_safe fallback v value safe parsed
      obtain ⟨again, read, same, text⟩ := integer_text v safe'
      obtain ⟨n, n', _⟩ := (safe_rational v).mp safe'
      obtain ⟨low, low', _⟩ := (safe_rational min).mp least
      obtain ⟨high, high', _⟩ := (safe_rational max).mp most
      have again' : again.rational = some (n : ℚ) := (equal_rational again v n n').mp same
      have inside' : (again.less min || max.less again) = false := by
        rw [less_rational again min n low again' low', less_rational max again high n high' again',
          ← less_rational v min n low n' low', ← less_rational max v high n high' n']
        exact inside
      refine ⟨.number again, ?_, same⟩
      rw [Call.accept.eq_def]
      simp only [intValue, read, inside', Bool.false_eq_true, if_false, text]
  | boolean key' fallback =>
      have flagged (b : Bool) : (Call.boolean key' fallback).accept (some (flagText b)) = some (.flag b, flagText b) := by
        cases b <;> rfl
      cases value with
      | none =>
          obtain ⟨rfl, rfl⟩ := Prod.mk.inj (Option.some.inj accepted)
          exact ⟨_, flagged fallback, rfl⟩
      | some given =>
          simp only [Call.accept] at accepted
          split_ifs at accepted with other
          · obtain ⟨rfl, rfl⟩ := Prod.mk.inj (Option.some.inj accepted)
            exact ⟨_, flagged _, rfl⟩
  | enumeration key' fallback allowed =>
      simp only [Call.accept] at accepted
      split_ifs at accepted with chosen
      · obtain ⟨rfl, rfl⟩ := Prod.mk.inj (Option.some.inj accepted)
        exact ⟨_, if_pos chosen, rfl⟩
  | check => cases reads
  | manifest => cases reads

structure Reading where
  call : Call
  key : Str
  value : Option Str
  answer : Answer
  text : Str

def Reading.question (q : Reading) : Str × Source := (q.key, sourceOf q.value)

def Reading.var (q : Reading) : Var := ⟨q.key, q.text, originOf q.value, q.call.isSecret⟩

structure Reading.Sound (q : Reading) : Prop where
  named : q.call.key = some q.key
  valid : validKey q.key = true
  accepted : q.call.accept q.value = some (q.answer, q.text)

structure Recorded (asked asked' : Asked) (r r' : Reader) (calls : List Call) (answers : List Answer) (readings : List Reading) : Prop where
  asked : asked' = asked ++ readings.map Reading.question
  seen : r'.seen = (readings.map Reading.key).reverse ++ r.seen
  quiet : r.problems = [] ∧ r'.problems = []
  resolved : r'.resolved = r.resolved ++ readings.map Reading.var
  keys : calls.filterMap Call.key = readings.map Reading.key
  apart : (readings.map Reading.key).Nodup
  fresh : ∀ q ∈ readings, q.key ∉ r.seen
  sound : ∀ q ∈ readings, q.Sound
  secrets : ∀ key, Call.secret key ∈ calls ↔ ∃ q ∈ readings, q.key = key ∧ q.call.isSecret = true
  bounded : List.Forall₂ Call.Bounded calls answers

theorem recorded_cons (lookup : Lookup) (asked asked' : Asked) (r r' : Reader) (c : Call) (key : Str) (value : Option Str) (answer : Answer)
    (text : Str) (calls : List Call) (answers : List Answer) (readings : List Reading) (named : c.key = some key)
    (served : Served lookup r c key value answer text)
    (later : Recorded (asked ++ [(key, sourceOf value)]) asked' (r.keep c key value text) r' calls answers readings) :
    Recorded asked asked' r r' (c :: calls) (answer :: answers) (⟨c, key, value, answer, text⟩ :: readings) where
  asked := by
    rw [later.asked, List.append_assoc]
    rfl
  seen := by
    rw [later.seen, Reader.keep, List.map_cons, List.reverse_cons, List.append_assoc]
    rfl
  quiet := later.quiet
  resolved := by
    rw [later.resolved, Reader.keep, List.append_assoc]
    rfl
  keys := by
    rw [List.filterMap_cons_some named, later.keys]
    rfl
  apart := by
    rw [List.map_cons, List.nodup_cons]
    refine ⟨fun again => ?_, later.apart⟩
    obtain ⟨q, listed, same⟩ := List.mem_map.mp again
    apply later.fresh q listed
    rw [same]
    exact List.mem_cons_self
  fresh := by
    intro q listed
    rcases List.mem_cons.mp listed with rfl | listed
    · exact served.fresh
    · exact fun old => later.fresh q listed (List.mem_cons_of_mem _ old)
  sound := by
    intro q listed
    rcases List.mem_cons.mp listed with rfl | listed
    · exact ⟨named, served.valid, served.accepted⟩
    · exact later.sound q listed
  secrets := by
    intro key'
    have own : Call.secret key' = c ↔ key = key' ∧ c.isSecret = true := by
      cases c with
      | secret other =>
          obtain rfl : other = key := Option.some.inj named
          simp [Call.isSecret, eq_comm]
      | string _ _ | required _ | int _ _ _ _ | boolean _ _ | enumeration _ _ _ | check | manifest => simp [Call.isSecret]
    rw [List.mem_cons, List.exists_mem_cons_iff, own, later.secrets]
  bounded := .cons (accept_bounded c key value answer text served.reads served.accepted) later.bounded

theorem recorded_skip (asked asked' : Asked) (r r' : Reader) (c : Call) (answer : Answer) (calls : List Call) (answers : List Answer)
    (readings : List Reading) (named : c.key = none) (later : Recorded asked asked' r r' calls answers readings) :
    Recorded asked asked' r r' (c :: calls) (answer :: answers) readings :=
  { later with
    keys := by rw [List.filterMap_cons_none named, later.keys]
    secrets := by
      intro key
      have other : Call.secret key ≠ c := by
        intro same
        rw [← same] at named
        cases named
      rw [List.mem_cons, later.secrets, or_iff_right other]
    bounded := by
      refine .cons ?_ later.bounded
      cases c with
      | check | manifest => trivial
      | string _ _ | required _ | secret _ | int _ _ _ _ | boolean _ _ | enumeration _ _ _ => cases named }

def Reader.report (r : Reader) : Call → Answer
  | .check => .checked r.check
  | _ => .listed r.manifest

theorem asking_skipped (lookup : Asked → Lookup) (asked : Asked) (r : Reader) (c : Call) (named : c.key = none) :
    r.performAsking lookup asked c = (asked, r, r.report c) := by
  cases c with
  | check | manifest => rfl
  | string _ _ | required _ | secret _ | int _ _ _ _ | boolean _ _ | enumeration _ _ _ => cases named

theorem run_served (lookup : Asked → Lookup) (asked : Asked) (r : Reader) (calls : List Call)
    (quiet : (r.runAsking lookup asked calls).2.1.problems = []) :
    ∃ readings, Recorded asked (r.runAsking lookup asked calls).1 r (r.runAsking lookup asked calls).2.1 calls
      (r.runAsking lookup asked calls).2.2 readings := by
  induction calls generalizing asked r with
  | nil =>
      refine ⟨[], ?_⟩
      exact
        { asked := (List.append_nil asked).symm
          seen := rfl
          quiet := ⟨quiet, quiet⟩
          resolved := (List.append_nil r.resolved).symm
          keys := rfl
          apart := List.nodup_nil
          fresh := fun q listed => absurd listed List.not_mem_nil
          sound := fun q listed => absurd listed List.not_mem_nil
          secrets := fun key => by simp
          bounded := .nil }
  | cons c rest ih =>
      cases named : c.key with
      | none =>
          simp only [Reader.runAsking, asking_skipped lookup asked r c named] at quiet ⊢
          obtain ⟨readings, later⟩ := ih _ _ quiet
          exact ⟨readings, recorded_skip _ _ _ _ c _ rest _ readings named later⟩
      | some key =>
          rcases perform_cases (lookup asked) r c key named with ⟨value, answer, text, served⟩ | loud
          · have step := asking_served lookup asked r c key value answer text served
            simp only [Reader.runAsking, step] at quiet ⊢
            obtain ⟨readings, later⟩ := ih _ _ quiet
            exact ⟨_, recorded_cons _ _ _ _ _ c key value answer text rest _ readings named served later⟩
          · exact absurd quiet (run_loud lookup _ _ rest loud)

def Replays (again : Asked → Lookup) (asked : Asked) (vars : List Var) : Prop :=
  ∀ v ∈ vars, ∀ history, if v.secret = true then (v.key, again history v.key) ∈ asked else again history v.key = .text v.value

def Reader.supplied (r : Reader) : Reader := { r with resolved := r.resolved.map Var.supplied }

theorem manifest_supplied (r : Reader) : r.supplied.manifest = r.manifest.map (List.map Var.supplied) := by
  let before (a b : Var) : Bool := !decide (b.key < a.key)
  have blind : ∀ a ∈ r.resolved, ∀ b ∈ r.resolved, before a b = before a.supplied b.supplied := fun _ _ _ _ => rfl
  have sorted := List.map_mergeSort blind
  rw [Reader.manifest, Reader.manifest]
  have checked : r.supplied.check = r.check := rfl
  rw [checked]
  cases r.check with
  | error e => rfl
  | ok _ => exact congrArg Except.ok sorted.symm

theorem report_same (r : Reader) (c : Call) : (r.report c).Same (r.supplied.report c) := by
  cases c with
  | check => rfl
  | manifest | string _ _ | required _ | secret _ | int _ _ _ _ | boolean _ _ | enumeration _ _ _ => exact manifest_supplied r

theorem served_again (lookup : Lookup) (again : Asked → Lookup) (history asked : Asked) (vars : List Var) (r : Reader) (c : Call) (key : Str)
    (value : Option Str) (answer : Answer) (text : Str) (named : c.key = some key) (served : Served lookup r c key value answer text)
    (replays : Replays again asked vars) (listed : ⟨key, text, originOf value, c.isSecret⟩ ∈ vars) (question : (key, sourceOf value) ∈ asked)
    (apart : (asked.map Prod.fst).Nodup) :
    ∃ given answer', Served (again history) r.supplied c key (some given) answer' text ∧ answer.Same answer' := by
  have replayed := replays _ listed history
  cases hidden : c.isSecret with
  | false =>
      rw [hidden, if_neg Bool.false_ne_true] at replayed
      obtain ⟨answer', accepted, same⟩ := accept_canonical c key value answer text served.reads served.accepted hidden
      exact ⟨text, answer', ⟨served.reads, served.valid, served.fresh, replayed, accepted⟩, same⟩
  | true =>
      rw [hidden, if_pos rfl] at replayed
      have same : again history key = sourceOf value :=
        congrArg Prod.snd (List.inj_on_of_nodup_map apart replayed question rfl)
      cases c with
      | secret key' =>
          cases value with
          | none => cases served.accepted
          | some given =>
              have accepted := served.accepted
              refine ⟨given, answer, ⟨served.reads, served.valid, served.fresh, same, accepted⟩, ?_⟩
              simp only [Call.accept] at accepted
              split_ifs at accepted
              obtain ⟨rfl, _⟩ := Prod.mk.inj (Option.some.inj accepted)
              rfl
      | string _ _ | required _ | int _ _ _ _ | boolean _ _ | enumeration _ _ _ | check | manifest => cases hidden

theorem run_again (lookup again : Asked → Lookup) (asked history : Asked) (r : Reader) (calls : List Call)
    (quiet : (r.runAsking lookup asked calls).2.1.problems = [])
    (replays : Replays again (r.runAsking lookup asked calls).1 (r.runAsking lookup asked calls).2.1.resolved)
    (apart : ((r.runAsking lookup asked calls).1.map Prod.fst).Nodup) :
    (r.supplied.runAsking again history calls).2.1 = (r.runAsking lookup asked calls).2.1.supplied ∧
      List.Forall₂ Answer.Same (r.runAsking lookup asked calls).2.2 (r.supplied.runAsking again history calls).2.2 := by
  induction calls generalizing asked history r with
  | nil => exact ⟨rfl, .nil⟩
  | cons c rest ih =>
      cases named : c.key with
      | none =>
          simp only [Reader.runAsking, asking_skipped _ _ _ c named] at quiet replays apart ⊢
          obtain ⟨same, answers⟩ := ih asked history r quiet replays apart
          exact ⟨same, .cons (report_same r c) answers⟩
      | some key =>
          rcases perform_cases (lookup asked) r c key named with ⟨value, answer, text, served⟩ | loud
          · have step := asking_served lookup asked r c key value answer text served
            simp only [Reader.runAsking, step] at quiet replays apart ⊢
            obtain ⟨readings, recorded⟩ := run_served lookup _ _ rest quiet
            have listed : (⟨key, text, originOf value, c.isSecret⟩ : Var) ∈
                ((r.keep c key value text).runAsking lookup (asked ++ [(key, sourceOf value)]) rest).2.1.resolved := by
              rw [recorded.resolved]
              simp [Reader.keep]
            have question : (key, sourceOf value) ∈
                ((r.keep c key value text).runAsking lookup (asked ++ [(key, sourceOf value)]) rest).1 := by
              rw [recorded.asked]
              simp
            obtain ⟨given, answer', served', same⟩ :=
              served_again _ again history _ _ r c key value answer text named served replays listed question apart
            have step' := asking_served again history r.supplied c key (some given) answer' text served'
            have kept : r.supplied.keep c key (some given) text = (r.keep c key value text).supplied := by
              simp [Reader.keep, Reader.supplied, Var.supplied, originOf]
            rw [step', kept]
            obtain ⟨reader, answers⟩ := ih _ (history ++ [(key, sourceOf (some given))]) _ quiet replays apart
            exact ⟨reader, .cons same answers⟩
          · exact absurd quiet (run_loud lookup _ _ rest loud)

theorem manifest_lists (r : Reader) (quiet : r.problems = []) (apart : (r.resolved.map Var.key).Nodup) :
    ∃ vars, r.manifest = .ok vars ∧ vars.Perm r.resolved ∧ (vars.map Var.key).Pairwise (· < ·) := by
  let before (a b : Var) : Bool := !decide (b.key < a.key)
  have ordered (a b : Var) : before a b = true ↔ a.key ≤ b.key := by
    simp only [before, Bool.not_eq_true', decide_eq_false_iff_not]
    exact List.not_lt
  have perm := List.mergeSort_perm r.resolved before
  have sorted : (r.resolved.mergeSort before).Pairwise fun a b => before a b = true := by
    apply List.pairwise_mergeSort
    · intro a b c here there
      rw [ordered] at here there ⊢
      exact List.le_trans here there
    · intro a b
      rw [Bool.or_eq_true, ordered, ordered]
      exact List.le_total a.key b.key
  refine ⟨r.resolved.mergeSort before, ?_, perm, ?_⟩
  · rw [Reader.manifest, Reader.check, quiet]
    rfl
  · have distinct := (perm.map Var.key).nodup_iff.mpr apart
    rw [List.Nodup, List.pairwise_map] at distinct
    rw [List.pairwise_map]
    refine (List.pairwise_and_iff.mpr ⟨sorted, distinct⟩).imp fun {a b} both => ?_
    by_contra later
    exact both.2 (List.le_antisymm ((ordered a b).mp both.1) (List.not_lt.mp later))

theorem check_quiet (r : Reader) : r.check = .ok () ↔ r.problems = [] := by
  rw [Reader.check]
  cases r.problems with
  | nil => exact ⟨fun _ => rfl, fun _ => rfl⟩
  | cons field rest => exact ⟨nofun, nofun⟩

structure Reproducible (calls : List Call) (asked : Asked) (r : Reader) (answers : List Answer)
    (vars : List Var) : Prop where
  once : asked.map Prod.fst = calls.filterMap Call.key
  distinct : (asked.map Prod.fst).Nodup
  valid : ∀ q ∈ asked, validKey q.1 = true
  bounded : List.Forall₂ Call.Bounded calls answers
  ascending : (vars.map Var.key).Pairwise (· < ·)
  listed : ∀ key, key ∈ vars.map Var.key ↔ key ∈ calls.filterMap Call.key
  secrets : ∀ v ∈ vars, v.secret = true ↔ Call.secret v.key ∈ calls
  supplied : ∀ v ∈ vars, v.source = .environment ↔ ∃ text, (v.key, .text text) ∈ asked
  again : ∀ second : Asked → Lookup, Replays second asked vars →
    (Reader.new.runAsking second [] calls).2.1.check = .ok () ∧
      List.Forall₂ Answer.Same answers (Reader.new.runAsking second [] calls).2.2

theorem reading_supplied (q : Reading) (asked : Asked) (apart : (asked.map Prod.fst).Nodup) (listed : q.question ∈ asked) :
    q.var.source = .environment ↔ ∃ text, (q.key, .text text) ∈ asked := by
  constructor
  · intro environment
    cases given : q.value with
    | none => simp [Reading.var, originOf, given] at environment
    | some text =>
        refine ⟨text, ?_⟩
        rwa [Reading.question, given] at listed
  · rintro ⟨text, found⟩
    have same := congrArg Prod.snd (List.inj_on_of_nodup_map apart listed found rfl)
    cases given : q.value with
    | none => simp [Reading.question, sourceOf, given] at same
    | some text => simp [Reading.var, originOf, given]

theorem reproducible (lookup : Asked → Lookup) (calls : List Call) (asked : Asked) (r : Reader) (answers : List Answer)
    (ran : Reader.new.runAsking lookup [] calls = (asked, r, answers)) (quiet : r.problems = []) :
    ∃ vars, r.manifest = .ok vars ∧ Reproducible calls asked r answers vars := by
  have quiet' : (Reader.new.runAsking lookup [] calls).2.1.problems = [] := by rw [ran, quiet]
  obtain ⟨readings, recorded⟩ := run_served lookup [] Reader.new calls quiet'
  have replayed (second : Asked → Lookup) := run_again lookup second [] [] Reader.new calls quiet'
  rw [ran] at recorded replayed
  have asked' : asked = readings.map Reading.question := recorded.asked
  have resolved : r.resolved = readings.map Reading.var := recorded.resolved
  have keys : asked.map Prod.fst = readings.map Reading.key := by
    rw [asked', List.map_map]
    rfl
  have names : r.resolved.map Var.key = readings.map Reading.key := by
    rw [resolved, List.map_map]
    rfl
  have apart : (asked.map Prod.fst).Nodup := keys ▸ recorded.apart
  obtain ⟨vars, manifest, perm, ascending⟩ := manifest_lists r quiet (names ▸ recorded.apart)
  have reading (v : Var) (listed : v ∈ vars) : ∃ q ∈ readings, q.var = v := by
    rw [perm.mem_iff, resolved] at listed
    exact List.mem_map.mp listed
  refine ⟨vars, manifest, ?_⟩
  exact
    { once := keys.trans recorded.keys.symm
      distinct := apart
      valid := by
        intro pair listed
        rw [asked'] at listed
        obtain ⟨q, member, rfl⟩ := List.mem_map.mp listed
        exact (recorded.sound q member).valid
      bounded := recorded.bounded
      ascending := ascending
      listed := by
        intro key
        rw [(perm.map Var.key).mem_iff, names, recorded.keys]
      secrets := by
        intro v listed
        obtain ⟨q, member, rfl⟩ := reading v listed
        rw [recorded.secrets]
        constructor
        · exact fun hidden => ⟨q, member, rfl, hidden⟩
        · rintro ⟨other, member', same, hidden⟩
          have equal := List.inj_on_of_nodup_map recorded.apart member' member same
          rwa [equal] at hidden
      supplied := by
        intro v listed
        obtain ⟨q, member, rfl⟩ := reading v listed
        have question : q.question ∈ asked := asked' ▸ List.mem_map_of_mem member
        exact reading_supplied q asked apart question
      again := by
        intro second replays
        have all : Replays second asked r.resolved := fun v listed => replays v (perm.mem_iff.mpr listed)
        obtain ⟨reader, same⟩ := replayed second all apart
        refine ⟨?_, same⟩
        rw [check_quiet]
        exact (congrArg Reader.problems reader).trans quiet }

theorem manifest_reproduces (lookup : Asked → Lookup) (calls : List Call) (asked : Asked) (r : Reader) (answers : List Answer)
    (ran : Reader.new.runAsking lookup [] calls = (asked, r, answers)) (checked : r.check = .ok ()) :
    ∃ vars, r.manifest = .ok vars ∧ Reproducible calls asked r answers vars :=
  reproducible lookup calls asked r answers ran ((check_quiet r).mp checked)

def demoReads : List Call :=
  [.string (str "NAME") (str "api"), .check, .secret (str "TOKEN"), .boolean (str "DEBUG") true, .enumeration (str "MODE") (str "b") [str "a", str "b"]]

theorem manifest_reproduces_demo : ∃ asked r answers vars,
    Reader.new.runAsking (fun _ => demoLookup (str "a")) [] demoReads = (asked, r, answers) ∧ r.manifest = .ok vars ∧
      Reproducible demoReads asked r answers vars := by
  obtain ⟨vars, listed, reproducible⟩ := manifest_reproduces (fun _ => demoLookup (str "a")) demoReads _ _ _ rfl rfl
  exact ⟨_, _, _, vars, rfl, listed, reproducible⟩

end N2F.Env
