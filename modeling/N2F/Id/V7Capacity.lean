import N2F.Id.V7Failures

set_option autoImplicit false

namespace N2F

open Ecma

def counterField (id : Str) : Option ℕ := parseHex ((id.drop 15).take 3)

def IdCall.within (T : ℕ) (call : IdCall) : Bool := (wallMillis call.now).any (· ≤ T) && call.entropy.isSome

def IdCall.beyond (T : ℕ) (call : IdCall) : Bool := (wallMillis call.now).any (T < ·)

def V7.Holds (g : V7) (T : ℕ) (calls : List IdCall) : Prop :=
  ∀ x ∈ calls.zip (g.records calls), x.1.beyond T = true → x.2.answer.isOk = false

def exhaustedError : Failure := failure .unavailable "ID counter exhausted" "id.exhausted"

theorem seed_bits (random : Entropy) : seed random < 2048 := by
  have masked : seed random = (random[0].toNat <<< 8 ||| random[1].toNat) % 2048 := Nat.and_two_pow_sub_one_eq_mod _ 11
  omega

theorem encode_counter (ms counter : ℕ) (suffix : List UInt8) (fits : ms < 16 ^ 12) (small : counter < 4096) :
    counterField (encodeV7 ms counter suffix) = some counter := by
  have place : encodeV7 ms counter suffix =
      (hexText (digits 16 8 (ms / 16 ^ 4)) ++ dashUnit :: (hexText (digits 16 4 ms) ++ [dashUnit, digitUnit 7])) ++
        (hexText (digits 16 3 counter) ++ dashUnit :: (hexText ((suffixDigits suffix).take 4) ++ dashUnit ::
          hexText ((suffixDigits suffix).drop 4))) := by
    rw [encode_groups ms counter suffix fits small]
    simp [hexText]
  rw [counterField, place, List.drop_left' (by simp [hex_text_length, digits_length]),
    List.take_left' (by rw [hex_text_length, digits_length]), hexText, parse_hex_digits _ (digits_small 3 counter) ?_,
    positional_digits 16 3 counter small]
  intro empty
  have width := digits_length 16 3 counter
  simp [empty] at width

theorem record_new_id (g : V7) (call : IdCall) : (g.record call).answer = (g.newId call.now call.entropy).1 :=
  congrArg Prod.fst (begin_finish g call.now call.entropy)

theorem next_new_id (g : V7) (call : IdCall) : g.next call = (g.newId call.now call.entropy).2 :=
  congrArg Prod.snd (begin_finish g call.now call.entropy)

theorem newer_call (g : V7) (call : IdCall) (wall : ℕ) (random : Entropy) (read : wallMillis call.now = some wall)
    (newest : ∀ last, g.last = some last → last < wall) (given : call.entropy = some random) :
    (g.record call).answer = .ok (encodeV7 wall (seed random) (random.toList.drop 2)) ∧ g.next call = ⟨some wall, seed random⟩ := by
  have fresh : g.last.all (· < wall) = true := by
    cases started : g.last with
    | none => rfl
    | some last => simpa using newest last started
  simp only [record_new_id, next_new_id, V7.newId, read, fresh, Bool.not_true, Bool.false_and, Bool.false_eq_true, if_false,
    given, if_true, and_self]

theorem within_call (T k : ℕ) (call : IdCall) (random : Entropy) (inside : call.within T = true)
    (given : call.entropy = some random) (room : k ≤ 4095) :
    ((V7.mk (some T) k).record call).answer =
      (if k < 4095 then .ok (encodeV7 T (k + 1) (random.toList.drop 2)) else .error exhaustedError) ∧
    (V7.mk (some T) k).next call = ⟨some T, min 4095 (k + 1)⟩ := by
  obtain ⟨wall, read, behind⟩ : ∃ wall, wallMillis call.now = some wall ∧ wall ≤ T := by
    simpa [IdCall.within, given, Option.any_eq_true] using inside
  have stale : (some T).all (fun last => decide (last < wall)) = false := by simpa using behind
  simp only [record_new_id, next_new_id, V7.newId, read, stale, Bool.not_false, Bool.true_and, given, Option.getD_some]
  by_cases full : k = 4095
  · simp [full, exhaustedError]
  · have below : k < 4095 := by omega
    simp [full, below, Nat.succ_le_of_lt below]

theorem other_call (T k : ℕ) (call : IdCall) (outside : call.within T = false) (level : call.beyond T = false) :
    ((V7.mk (some T) k).record call).answer.isOk = false := by
  simp only [record_new_id, V7.newId]
  cases read : wallMillis call.now with
  | none => rfl
  | some wall =>
      have behind : wall ≤ T := by simpa [IdCall.beyond, read] using level
      have withheld : call.entropy = none := by simpa [IdCall.within, read, behind] using outside
      simp only [withheld]
      split <;> rfl

theorem failed_call (g : V7) (call : IdCall) (failed : (g.record call).answer.isOk = false) : g.next call = g := by
  cases answered : (g.record call).answer with
  | error e => exact failed_next g call e answered
  | ok id => simp [answered, Except.isOk, Except.toBool] at failed

theorem held_call (T k : ℕ) (call : IdCall) (room : k ≤ 4095)
    (held : call.beyond T = true → ((V7.mk (some T) k).record call).answer.isOk = false) :
    (V7.mk (some T) k).next call = ⟨some T, min 4095 (k + if call.within T then 1 else 0)⟩ ∧
    ((V7.mk (some T) k).record call).answer.isOk = (call.within T && decide (k < 4095)) := by
  by_cases inside : call.within T = true
  · obtain ⟨random, given⟩ : ∃ random, call.entropy = some random := by
      rw [IdCall.within, Bool.and_eq_true] at inside
      exact Option.isSome_iff_exists.mp inside.2
    obtain ⟨answered, next⟩ := within_call T k call random inside given room
    refine ⟨by rw [next, if_pos inside], ?_⟩
    rw [answered, inside, Bool.true_and]
    split_ifs with below
    · simp [below, Except.isOk, Except.toBool]
    · simp [below, Except.isOk, Except.toBool]
  · rw [Bool.not_eq_true] at inside
    have failed : ((V7.mk (some T) k).record call).answer.isOk = false := by
      cases later : call.beyond T with
      | true => exact held later
      | false => exact other_call T k call inside later
    refine ⟨?_, by rw [failed, inside, Bool.false_and]⟩
    rw [failed_call _ call failed, inside]
    simp [Nat.min_eq_right room]

theorem held_run (T k : ℕ) (calls : List IdCall) (room : k ≤ 4095) (held : (V7.mk (some T) k).Holds T calls) :
    (V7.mk (some T) k).after calls = ⟨some T, min 4095 (k + calls.countP (IdCall.within T))⟩ ∧
    ((V7.mk (some T) k).records calls).countP (·.answer.isOk) = min (4095 - k) (calls.countP (IdCall.within T)) := by
  induction calls generalizing k with
  | nil => simp [V7.after, V7.records, Nat.min_eq_right room]
  | cons call rest ih =>
      obtain ⟨next, answered⟩ := held_call T k call room (held (call, _) (List.mem_cons_self ..))
      have held' : ((V7.mk (some T) k).next call).Holds T rest := fun x member => held x (List.mem_cons_of_mem _ member)
      rw [next] at held'
      obtain ⟨ended, count⟩ := ih _ (Nat.min_le_left ..) held'
      rw [V7.after, V7.records, next, ended, List.countP_cons, List.countP_cons, count, answered]
      cases call.within T with
      | false =>
          simp only [Bool.false_eq_true, if_false, Bool.false_and, Nat.add_zero, Nat.min_eq_right room, and_self]
      | true =>
          simp only [if_true, Bool.true_and, decide_eq_true_eq, V7.mk.injEq, true_and]
          constructor
          · omega
          · split_ifs
            · omega
            · omega

theorem holds_append (g : V7) (T : ℕ) (earlier later : List IdCall) (held : g.Holds T (earlier ++ later)) :
    g.Holds T earlier := by
  induction earlier generalizing g with
  | nil => simp [V7.Holds]
  | cons call rest ih =>
      intro x member
      rcases List.mem_cons.mp member with rfl | inside
      · exact held _ (List.mem_cons_self ..)
      · exact ih (g.next call) (fun y here => held y (List.mem_cons_of_mem _ here)) x inside

theorem holds_at (g : V7) (T : ℕ) (earlier : List IdCall) (next : IdCall) (later : List IdCall)
    (held : g.Holds T (earlier ++ next :: later)) :
    next.beyond T = true → ((g.after earlier).record next).answer.isOk = false := by
  induction earlier generalizing g with
  | nil => exact held (next, _) (List.mem_cons_self ..)
  | cons call rest ih => exact ih (g.next call) fun x member => held x (List.mem_cons_of_mem _ member)

theorem after_append (g : V7) (earlier later : List IdCall) : g.after (earlier ++ later) = (g.after earlier).after later := by
  induction earlier generalizing g with
  | nil => rfl
  | cons call rest ih => exact ih (g.next call)

theorem after_last (g : V7) (calls : List IdCall) (last : ℕ) (bounded : g.Bounded) (ended : (g.after calls).last = some last) :
    g.last = some last ∨ ∃ r ∈ g.records calls, ∃ id, r.answer = .ok id ∧ unixMillis id = some last := by
  induction calls generalizing g with
  | nil => exact .inl ended
  | cons call rest ih =>
      rw [V7.after] at ended
      cases answered : (g.record call).answer with
      | error e =>
          rw [failed_next g call e answered] at ended
          rcases ih g bounded ended with before | ⟨r, member, carried⟩
          · exact .inl before
          · rw [V7.records, failed_next g call e answered]
            exact .inr ⟨r, List.mem_cons_of_mem _ member, carried⟩
      | ok id =>
          have issued : g.newId call.now call.entropy = (.ok id, g.next call) :=
            Prod.ext ((record_new_id g call).symm.trans answered) (next_new_id g call).symm
          obtain ⟨wall, ms, suffix, _, _, encoded, newest, _, bounded', _⟩ := new_id_ok g _ _ _ id bounded issued
          rcases ih (g.next call) bounded' ended with before | ⟨r, member, carried⟩
          · obtain rfl : ms = last := Option.some.inj (newest.symm.trans before)
            refine .inr ⟨g.record call, List.mem_cons_self .., id, answered, ?_⟩
            rw [encoded, encode_millis ms _ suffix (bounded'.last ms newest) bounded'.counter]
          · exact .inr ⟨r, List.mem_cons_of_mem _ member, carried⟩

structure Stamped (r : Result Str) (ms counter : ℕ) (random : Entropy) : Prop where
  encoded : r = .ok (encodeV7 ms counter (random.toList.drop 2))
  millis : unixMillis (encodeV7 ms counter (random.toList.drop 2)) = some ms
  sequence : counterField (encodeV7 ms counter (random.toList.drop 2)) = some counter

theorem encoded_stamped (ms counter : ℕ) (random : Entropy) (fits : ms < 16 ^ 12) (small : counter < 4096) :
    Stamped (.ok (encodeV7 ms counter (random.toList.drop 2))) ms counter random :=
  ⟨rfl, encode_millis ms counter _ fits small, encode_counter ms counter _ fits small⟩

structure Continues (g : V7) (T c n : ℕ) (next : IdCall) : Prop where
  other : next.within T = false → (g.record next).answer.isOk = false
  counts : ∀ random, next.within T = true → next.entropy = some random → n < 4095 - c →
    Stamped (g.record next).answer T (c + n + 1) random
  exhausted : next.within T = true → 4095 - c ≤ n → (g.record next).answer = .error exhaustedError

theorem held_continues (T c : ℕ) (earlier : List IdCall) (next : IdCall) (later : List IdCall) (fits : T < 16 ^ 12) (small : c ≤ 4095)
    (held : (V7.mk (some T) c).Holds T (earlier ++ next :: later)) :
    Continues ((V7.mk (some T) c).after earlier) T c (earlier.countP (IdCall.within T)) next := by
  obtain ⟨ended, _⟩ := held_run T c earlier small (holds_append _ T earlier _ held)
  have level := holds_at _ T earlier next later held
  rw [ended] at level ⊢
  have room : min 4095 (c + earlier.countP (IdCall.within T)) ≤ 4095 := Nat.min_le_left ..
  refine ⟨fun outside => ?_, fun random inside given below => ?_, fun inside full => ?_⟩
  · obtain ⟨_, answered⟩ := held_call T _ next room level
    rw [answered, outside, Bool.false_and]
  · obtain ⟨answered, _⟩ := within_call T _ next random inside given room
    have counter : min 4095 (c + earlier.countP (IdCall.within T)) = c + earlier.countP (IdCall.within T) := by omega
    rw [counter, if_pos (by omega)] at answered
    rw [counter, answered]
    exact encoded_stamped T _ random fits (by omega)
  · obtain ⟨random, given⟩ : ∃ random, next.entropy = some random := by
      rw [IdCall.within, Bool.and_eq_true] at inside
      exact Option.isSome_iff_exists.mp inside.2
    obtain ⟨answered, _⟩ := within_call T _ next random inside given room
    rw [answered, if_neg (by omega)]

theorem v7_counter_capacity (before : List IdCall) (call : IdCall) (random : Entropy) (T : ℕ) (rest : List IdCall)
    (given : call.entropy = some random) (read : wallMillis call.now = some T)
    (newest : ∀ r ∈ V7.new.records before, ∀ id ms, r.answer = .ok id → unixMillis id = some ms → ms < T)
    (held : (V7.new.after (before ++ [call])).Holds T rest) :
    seed random < 2048 ∧ 2049 ≤ 1 + (4095 - seed random) ∧ 1 + (4095 - seed random) ≤ 4096 ∧
    Stamped ((V7.new.after before).record call).answer T (seed random) random ∧
    ((V7.new.after (before ++ [call])).records rest).countP (·.answer.isOk) =
      min (4095 - seed random) (rest.countP (IdCall.within T)) ∧
    (∀ earlier next later, rest = earlier ++ next :: later →
      Continues (V7.new.after (before ++ [call] ++ earlier)) T (seed random) (earlier.countP (IdCall.within T)) next) ∧
    ∀ next wall random', wallMillis next.now = some wall → T < wall → next.entropy = some random' →
      Stamped ((V7.new.after (before ++ [call] ++ rest)).record next).answer wall (seed random') random' := by
  have small := seed_bits random
  have fits := (wall_millis_some call.now T read).1
  have fresh (last : ℕ) (started : (V7.new.after before).last = some last) : last < T := by
    rcases after_last V7.new before last new_bounded started with none | ⟨r, member, id, answered, millis⟩
    · cases none
    · exact newest r member id last answered millis
  obtain ⟨answered, next⟩ := newer_call (V7.new.after before) call T random read fresh given
  have seeded : V7.new.after (before ++ [call]) = ⟨some T, seed random⟩ := by
    rw [after_append]
    exact next
  rw [seeded] at held
  obtain ⟨ended, count⟩ := held_run T (seed random) rest (by omega) held
  refine ⟨small, by omega, by omega, ?_, ?_, ?_, ?_⟩
  · rw [answered]
    exact encoded_stamped T _ random fits (by omega)
  · rw [seeded]
    exact count
  · rintro earlier next later rfl
    rw [after_append, seeded]
    exact held_continues T (seed random) earlier next later fits (by omega) held
  · intro next wall random' read' later given'
    have newer (last : ℕ) (started : (some T : Option ℕ) = some last) : last < wall := by
      cases started
      exact later
    rw [after_append, seeded, ended, (newer_call _ next wall random' read' newer given').1]
    exact encoded_stamped wall _ random' (wall_millis_some next.now wall read').1 (Nat.lt_trans (seed_bits random') (by decide))

theorem v7_counter_capacity_demo :
    let random : Entropy := Vector.replicate 10 7
    let call : IdCall := ⟨.negZero, some random⟩
    Continues (V7.new.after ([] ++ [call] ++ [⟨.nan, none⟩])) 0 (seed random) 0 call := by
  intro random call
  have read : wallMillis call.now = some 0 := by decide +kernel
  have held : V7.Holds (V7.new.after ([] ++ [call])) 0 [⟨.nan, none⟩, call] := by
    have level : (([⟨.nan, none⟩, call] : List IdCall).all fun next => !next.beyond 0) = true := by decide +kernel
    intro x member later
    have settled := List.all_eq_true.mp level x.1 (List.of_mem_zip member).1
    simp [later] at settled
  exact (v7_counter_capacity [] call random 0 [⟨.nan, none⟩, call] rfl read (by simp [V7.records]) held).2.2.2.2.2.1
    [⟨.nan, none⟩] call [] rfl

end N2F
