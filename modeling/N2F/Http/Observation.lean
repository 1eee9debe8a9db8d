import N2F.Http.Lifecycle
import N2F.Machine

set_option autoImplicit false

namespace N2F

-- The fields finish finds in what it is handed, when that is an object.
structure OfferedFacts where
  status : Option (Given ℤ)
  failureKind : Option (Given Kind)
  termination : Given Termination
deriving DecidableEq

def OfferedFacts.facts (f : OfferedFacts) (status : Option ℕ) : CompletionFacts := ⟨status, f.failureKind, f.termination⟩

def CompletionFacts.classify (f : CompletionFacts) : Result (CompletionFacts × Classification) :=
  (classifyCompletion f).map fun classification => (f, classification)

def classifyOffered : Given OfferedFacts → Result (CompletionFacts × Classification)
  | .foreign => .error invalidCompletion
  | .genuine f =>
      match f.status with
      | none => (f.facts none).classify
      | some .foreign => .error invalidCompletion
      | some (.genuine status) => if status < 200 ∨ 599 < status then .error invalidCompletion else (f.facts (some status.toNat)).classify

def CompletionFacts.offered (f : CompletionFacts) : Given OfferedFacts :=
  .genuine ⟨f.status.map fun status => .genuine (Int.ofNat status), f.failureKind, f.termination⟩

theorem classify_offered (f : CompletionFacts) : classifyOffered f.offered = f.classify := by
  obtain ⟨status, failureKind, termination⟩ := f
  cases status with
  | none => rfl
  | some status =>
      simp only [classifyOffered, CompletionFacts.offered, Option.map_some, OfferedFacts.facts]
      split_ifs with outside
      · have refused : (status < 200 || 599 < status) = true := by
          rw [Bool.or_eq_true, decide_eq_true_eq, decide_eq_true_eq]
          rw [Int.ofNat_eq_natCast] at outside
          omega
        simp [CompletionFacts.classify, classifyCompletion, refusal, completionChecks, refused, Except.map]
      · rfl

structure Observation where
  started : ℤ
  outputs : ℕ
  done : Bool
  failed : ℕ
deriving DecidableEq

inductive Attempt where
  | answered (reads : ℕ) (answer : Result Bool)
  | claimed (completion : Completion)

def Observation.attempt (o : Observation) (offered : Given OfferedFacts) (now : ℤ) : Attempt :=
  match classifyOffered offered with
  | .error e => .answered 0 (.error e)
  | .ok (facts, classification) =>
      if o.done then .answered 0 (.ok false)
      else if now - o.started < 0 then .answered 1 (.error invalidDuration)
      else .claimed ⟨facts, classification, now - o.started⟩

structure FinishCall where
  offered : Given OfferedFacts
  now : ℤ
  reads : ℕ
  answer : Option (Result Bool)
deriving DecidableEq

-- A loop over the outputs that waits for the output it runs.
structure Delivering where
  call : ℕ
  completion : Completion
  output : ℕ
deriving DecidableEq

structure Watched where
  observation : Observation
  stack : List Delivering
  calls : List FinishCall
  invoked : List (ℕ × Completion)
  threw : List ℕ
deriving DecidableEq

def Watched.deliver (s : Watched) (d : Delivering) : Watched :=
  if d.output < s.observation.outputs then { s with stack := d :: s.stack, invoked := s.invoked ++ [(d.output, d.completion)] }
  else { s with calls := s.calls.modify d.call fun call => { call with answer := some (.ok true) } }

def Watched.record (s : Watched) (call : FinishCall) : Watched := { s with calls := s.calls ++ [call] }

def Watched.claim (s : Watched) : Watched := { s with observation := { s.observation with done := true } }

def Watched.finish (s : Watched) (offered : Given OfferedFacts) (now : ℤ) : Watched :=
  match s.observation.attempt offered now with
  | .answered reads answer => s.record ⟨offered, now, reads, some answer⟩
  | .claimed completion => (s.claim.record ⟨offered, now, 1, none⟩).deliver ⟨s.calls.length, completion, 0⟩

def Watched.leave (s : Watched) (rest : List Delivering) : Watched := { s with stack := rest }

def Delivering.next (d : Delivering) : Delivering := { d with output := d.output + 1 }

def Watched.caught (s : Watched) (output : ℕ) : Watched :=
  { s with observation := { s.observation with failed := s.observation.failed + 1 }, threw := s.threw ++ [output] }

inductive WatchEvent where
  | finish (offered : Given OfferedFacts) (now : ℤ)
  | returns
  | throws

def Watched.step (s : Watched) : WatchEvent → Option Watched
  | .finish offered now => some (s.finish offered now)
  | .returns =>
      match s.stack with
      | [] => none
      | d :: rest => some ((s.leave rest).deliver d.next)
  | .throws =>
      match s.stack with
      | [] => none
      | d :: rest => some (((s.leave rest).caught d.output).deliver d.next)

def watching (started : ℤ) (outputs : ℕ) : Watched := ⟨⟨started, outputs, false, 0⟩, [], [], [], []⟩

def watchMachine (started : ℤ) (outputs : ℕ) : Machine Watched WatchEvent := ⟨watching started outputs, Watched.step⟩

def FinishCall.Claims (call : FinishCall) (started : ℤ) (c : Completion) : Prop :=
  classifyOffered call.offered = .ok (c.facts, c.classification) ∧ 0 ≤ c.elapsedNs ∧ c.elapsedNs = call.now - started

def FinishCall.Refused (call : FinishCall) (started : ℤ) : Prop :=
  (∃ e, classifyOffered call.offered = .error e ∧ call.answer = some (.error e) ∧ call.reads = 0) ∨
    (∃ valid, classifyOffered call.offered = .ok valid ∧ call.now - started < 0 ∧ call.answer = some (.error invalidDuration) ∧ call.reads = 1)

def FinishCall.Late (call : FinishCall) : Prop :=
  call.reads = 0 ∧
    ((∃ e, classifyOffered call.offered = .error e ∧ call.answer = some (.error e)) ∨
      (∃ valid, classifyOffered call.offered = .ok valid ∧ call.answer = some (.ok false)))

inductive Watched.Progress (s : Watched) (call : ℕ) (c : Completion) (k : ℕ) : Option (Result Bool) → Prop where
  | running (below : k < s.observation.outputs) (stack : s.stack = [⟨call, c, k⟩]) (invoked : s.invoked = (List.range (k + 1)).map fun i => (i, c)) :
      Progress s call c k none
  | ended (whole : k = s.observation.outputs) (stack : s.stack = []) (invoked : s.invoked = (List.range k).map fun i => (i, c)) :
      Progress s call c k (some (.ok true))

structure Watched.Claimed (s : Watched) (before after : List FinishCall) (first : FinishCall) (c : Completion) (k : ℕ) : Prop where
  done : s.observation.done = true
  calls : s.calls = before ++ first :: after
  refused : ∀ call ∈ before, call.Refused s.observation.started
  claims : first.Claims s.observation.started c
  late : ∀ call ∈ after, call.Late
  threw : s.threw.Nodup
  past : ∀ i ∈ s.threw, i < k
  progress : s.Progress before.length c k first.answer

structure Watched.Due (s : Watched) (before after : List FinishCall) (first : FinishCall) (c : Completion) (k : ℕ) : Prop where
  done : s.observation.done = true
  calls : s.calls = before ++ first :: after
  refused : ∀ call ∈ before, call.Refused s.observation.started
  claims : first.Claims s.observation.started c
  late : ∀ call ∈ after, call.Late
  threw : s.threw.Nodup
  past : ∀ i ∈ s.threw, i < k
  pending : first.answer = none
  stack : s.stack = []
  invoked : s.invoked = (List.range k).map fun i => (i, c)
  bound : k ≤ s.observation.outputs

structure Watched.Open (s : Watched) : Prop where
  done : s.observation.done = false
  refused : ∀ call ∈ s.calls, call.Refused s.observation.started
  stack : s.stack = []
  invoked : s.invoked = []
  threw : s.threw = []

structure Watched.Sound (s : Watched) (started : ℤ) (outputs : ℕ) : Prop where
  started : s.observation.started = started
  outputs : s.observation.outputs = outputs
  failed : s.observation.failed = s.threw.length
  stage : s.Open ∨ ∃ before after first c k, s.Claimed before after first c k

theorem modify_between {α : Type} (before after : List α) (a : α) (f : α → α) :
    (before ++ a :: after).modify before.length f = before ++ f a :: after := by
  induction before with
  | nil => rfl
  | cons b rest ih => exact congrArg (b :: ·) ih

theorem deliver_observation (s : Watched) (d : Delivering) : (s.deliver d).observation = s.observation := by
  rw [Watched.deliver]
  split_ifs <;> rfl

theorem deliver_threw (s : Watched) (d : Delivering) : (s.deliver d).threw = s.threw := by
  rw [Watched.deliver]
  split_ifs <;> rfl

theorem deliver_due (s : Watched) (before after : List FinishCall) (first : FinishCall) (c : Completion) (k : ℕ)
    (due : s.Due before after first c k) : ∃ first', (s.deliver ⟨before.length, c, k⟩).Claimed before after first' c k := by
  by_cases below : k < s.observation.outputs
  · refine ⟨first, ?_⟩
    rw [Watched.deliver, if_pos below]
    refine ⟨due.done, due.calls, due.refused, due.claims, due.late, due.threw, due.past, ?_⟩
    rw [due.pending]
    refine .running below (congrArg _ due.stack) ?_
    rw [List.range_succ, List.map_append, due.invoked]
    rfl
  · refine ⟨{ first with answer := some (.ok true) }, ?_⟩
    rw [Watched.deliver, if_neg below]
    have whole : k = s.observation.outputs := Nat.le_antisymm due.bound (Nat.not_lt.mp below)
    refine ⟨due.done, ?_, due.refused, due.claims, due.late, due.threw, due.past, .ended whole due.stack due.invoked⟩
    rw [due.calls]
    exact modify_between before after first _

theorem attempt_cases (o : Observation) (offered : Given OfferedFacts) (now : ℤ) :
    (∃ e, classifyOffered offered = .error e ∧ o.attempt offered now = .answered 0 (.error e)) ∨
      (∃ facts classification, classifyOffered offered = .ok (facts, classification) ∧
        ((o.done = true ∧ o.attempt offered now = .answered 0 (.ok false)) ∨
          (o.done = false ∧ now - o.started < 0 ∧ o.attempt offered now = .answered 1 (.error invalidDuration)) ∨
          (o.done = false ∧ 0 ≤ now - o.started ∧ o.attempt offered now = .claimed ⟨facts, classification, now - o.started⟩))) := by
  rw [Observation.attempt]
  cases classified : classifyOffered offered with
  | error e => exact .inl ⟨e, rfl, rfl⟩
  | ok valid =>
      right
      refine ⟨valid.1, valid.2, rfl, ?_⟩
      dsimp only
      cases done : o.done with
      | true => exact .inl ⟨rfl, rfl⟩
      | false =>
          by_cases backward : now - o.started < 0
          · rw [if_neg Bool.false_ne_true, if_pos backward]
            exact .inr (.inl ⟨rfl, backward, rfl⟩)
          · rw [if_neg Bool.false_ne_true, if_neg backward]
            exact .inr (.inr ⟨rfl, Int.not_lt.mp backward, rfl⟩)

theorem finish_open (s : Watched) (offered : Given OfferedFacts) (now : ℤ) (isOpen : s.Open) :
    (∃ call : FinishCall, call.Refused s.observation.started ∧ s.finish offered now = s.record call) ∨
      ∃ first c, (s.finish offered now).Claimed s.calls [] first c 0 := by
  rw [Watched.finish]
  rcases attempt_cases s.observation offered now with
    ⟨e, invalid, attempt⟩ | ⟨facts, classification, valid, ⟨done, attempt⟩ | ⟨done, backward, attempt⟩ | ⟨done, forward, attempt⟩⟩
  · rw [attempt]
    exact .inl ⟨_, .inl ⟨e, invalid, rfl, rfl⟩, rfl⟩
  · rw [isOpen.done] at done
    cases done
  · rw [attempt]
    exact .inl ⟨_, .inr ⟨_, valid, backward, rfl, rfl⟩, rfl⟩
  · right
    rw [attempt]
    let call : FinishCall := ⟨offered, now, 1, none⟩
    let c : Completion := ⟨facts, classification, now - s.observation.started⟩
    have claims : call.Claims s.observation.started c := ⟨valid, forward, rfl⟩
    have due : (s.claim.record call).Due s.calls [] call c 0 :=
      { done := rfl
        calls := rfl
        refused := isOpen.refused
        claims := claims
        late := fun _ listed => absurd listed List.not_mem_nil
        threw := isOpen.threw ▸ List.nodup_nil
        past := by
          intro i listed
          rw [Watched.record, Watched.claim, isOpen.threw] at listed
          cases listed
        pending := rfl
        stack := isOpen.stack
        invoked := isOpen.invoked
        bound := Nat.zero_le _ }
    obtain ⟨first, claimed⟩ := deliver_due _ _ _ _ _ _ due
    exact ⟨first, _, claimed⟩

theorem finish_late (s : Watched) (offered : Given OfferedFacts) (now : ℤ) (done : s.observation.done = true) :
    ∃ call : FinishCall, call.Late ∧ s.finish offered now = s.record call := by
  rw [Watched.finish]
  rcases attempt_cases s.observation offered now with
    ⟨e, invalid, attempt⟩ | ⟨facts, classification, valid, ⟨_, attempt⟩ | ⟨isOpen, _⟩ | ⟨isOpen, _⟩⟩
  · rw [attempt]
    exact ⟨_, ⟨rfl, .inl ⟨e, invalid, rfl⟩⟩, rfl⟩
  · rw [attempt]
    exact ⟨_, ⟨rfl, .inr ⟨_, valid, rfl⟩⟩, rfl⟩
  · rw [done] at isOpen
    cases isOpen
  · rw [done] at isOpen
    cases isOpen

theorem record_progress (s : Watched) (late : FinishCall) (call : ℕ) (c : Completion) (k : ℕ) (answer : Option (Result Bool))
    (progress : s.Progress call c k answer) : (s.record late).Progress call c k answer := by
  cases progress with
  | running below stack invoked => exact .running below stack invoked
  | ended whole stack invoked => exact .ended whole stack invoked

theorem progress_running (s : Watched) (call : ℕ) (c : Completion) (k : ℕ) (answer : Option (Result Bool)) (d : Delivering)
    (rest : List Delivering) (progress : s.Progress call c k answer) (stack : s.stack = d :: rest) :
    answer = none ∧ d = ⟨call, c, k⟩ ∧ rest = [] ∧ k < s.observation.outputs ∧ s.invoked = (List.range (k + 1)).map fun i => (i, c) := by
  cases progress with
  | running below only invoked =>
      rw [only] at stack
      injection stack with same last
      exact ⟨rfl, same.symm, last.symm, below, invoked⟩
  | ended whole quiet invoked =>
      rw [quiet] at stack
      cases stack

theorem returned_due (s : Watched) (d : Delivering) (rest : List Delivering) (before after : List FinishCall) (first : FinishCall)
    (c : Completion) (k : ℕ) (claimed : s.Claimed before after first c k) (stack : s.stack = d :: rest) :
    d = ⟨before.length, c, k⟩ ∧ (s.leave rest).Due before after first c (k + 1) := by
  obtain ⟨pending, rfl, rfl, below, invoked⟩ := progress_running s _ c k _ d rest claimed.progress stack
  exact ⟨rfl, claimed.done, claimed.calls, claimed.refused, claimed.claims, claimed.late, claimed.threw,
    fun i listed => Nat.lt_succ_of_lt (claimed.past i listed), pending, rfl, invoked, below⟩

theorem caught_due (s : Watched) (before after : List FinishCall) (first : FinishCall) (c : Completion) (k : ℕ)
    (due : s.Due before after first c (k + 1)) (fresh : k ∉ s.threw) : (s.caught k).Due before after first c (k + 1) := by
  refine ⟨due.done, due.calls, due.refused, due.claims, due.late, ?_, ?_, due.pending, due.stack, due.invoked, due.bound⟩
  · rw [Watched.caught, List.nodup_append]
    refine ⟨due.threw, List.nodup_singleton k, fun i listed j only same => fresh ?_⟩
    rwa [← List.mem_singleton.mp only, ← same]
  · intro i listed
    rcases List.mem_append.mp listed with earlier | last
    · exact due.past i earlier
    · rw [List.mem_singleton.mp last]
      exact Nat.lt_succ_self k

theorem sound_ended (s t : Watched) (started : ℤ) (outputs : ℕ) (d : Delivering) (rest : List Delivering) (sound : s.Sound started outputs)
    (stack : s.stack = d :: rest) (observation : t.observation.started = s.observation.started ∧ t.observation.outputs = s.observation.outputs)
    (failed : t.observation.failed = t.threw.length)
    (claimed : ∀ before after first c k, s.Claimed before after first c k → ∃ first', t.Claimed before after first' c (k + 1)) :
    t.Sound started outputs := by
  refine ⟨observation.1.trans sound.started, observation.2.trans sound.outputs, failed, .inr ?_⟩
  rcases sound.stage with isOpen | ⟨before, after, first, c, k, here⟩
  · rw [isOpen.stack] at stack
    cases stack
  · obtain ⟨first', next⟩ := claimed before after first c k here
    exact ⟨before, after, first', c, k + 1, next⟩

theorem finish_sound (s : Watched) (started : ℤ) (outputs : ℕ) (offered : Given OfferedFacts) (now : ℤ) (sound : s.Sound started outputs) :
    (s.finish offered now).Sound started outputs := by
  have still : (s.finish offered now).observation.started = s.observation.started ∧
      (s.finish offered now).observation.outputs = s.observation.outputs ∧
      (s.finish offered now).observation.failed = s.observation.failed ∧ (s.finish offered now).threw = s.threw := by
    rw [Watched.finish]
    cases s.observation.attempt offered now with
    | answered reads answer => exact ⟨rfl, rfl, rfl, rfl⟩
    | claimed completion =>
        rw [deliver_observation, deliver_threw]
        exact ⟨rfl, rfl, rfl, rfl⟩
  obtain ⟨same, count, failed, threw⟩ := still
  refine ⟨same.trans sound.started, count.trans sound.outputs, by rw [failed, threw, sound.failed], ?_⟩
  rcases sound.stage with isOpen | ⟨before, after, first, c, k, here⟩
  · rcases finish_open s offered now isOpen with ⟨call, refused, next⟩ | ⟨first, c, claimed⟩
    · left
      rw [next]
      refine ⟨isOpen.done, ?_, isOpen.stack, isOpen.invoked, isOpen.threw⟩
      intro other listed
      rcases List.mem_append.mp listed with earlier | last
      · exact isOpen.refused other earlier
      · rwa [List.mem_singleton.mp last]
    · exact .inr ⟨_, _, first, c, 0, claimed⟩
  · obtain ⟨call, late, next⟩ := finish_late s offered now here.done
    right
    refine ⟨before, after ++ [call], first, c, k, ?_⟩
    rw [next]
    have calls : (s.record call).calls = before ++ first :: (after ++ [call]) := by
      rw [Watched.record, here.calls, List.append_assoc, List.cons_append]
    refine ⟨here.done, calls, here.refused, here.claims, ?_, here.threw, here.past, ?_⟩
    · intro other listed
      rcases List.mem_append.mp listed with earlier | last
      · exact here.late other earlier
      · rwa [List.mem_singleton.mp last]
    · exact record_progress s call _ c k _ here.progress

theorem watch_step_sound (s t : Watched) (started : ℤ) (outputs : ℕ) (e : WatchEvent) (sound : s.Sound started outputs)
    (moved : s.step e = some t) : t.Sound started outputs := by
  cases e with
  | finish offered now =>
      cases moved
      exact finish_sound s started outputs offered now sound
  | returns =>
      rw [Watched.step] at moved
      cases stack : s.stack with
      | nil => simp [stack] at moved
      | cons d rest =>
          simp only [stack, Option.some.injEq] at moved
          subst moved
          apply sound_ended s _ started outputs d rest sound stack
          · rw [deliver_observation]
            exact ⟨rfl, rfl⟩
          · rw [deliver_observation, deliver_threw]
            exact sound.failed
          · intro before after first c k here
            obtain ⟨rfl, due⟩ := returned_due s d rest before after first c k here stack
            exact deliver_due _ before after first c (k + 1) due
  | throws =>
      rw [Watched.step] at moved
      cases stack : s.stack with
      | nil => simp [stack] at moved
      | cons d rest =>
          simp only [stack, Option.some.injEq] at moved
          subst moved
          apply sound_ended s _ started outputs d rest sound stack
          · rw [deliver_observation]
            exact ⟨rfl, rfl⟩
          · have failed : s.observation.failed + 1 = (s.threw ++ [d.output]).length := by
              rw [List.length_append, sound.failed, List.length_singleton]
            rwa [deliver_observation, deliver_threw]
          · intro before after first c k here
            obtain ⟨rfl, due⟩ := returned_due s d rest before after first c k here stack
            have fresh : k ∉ (s.leave rest).threw := fun listed => Nat.lt_irrefl k (here.past k listed)
            have due' := caught_due (s.leave rest) before after first c k due fresh
            exact deliver_due _ before after first c (k + 1) due'

theorem watch_sound (started : ℤ) (outputs : ℕ) (s : Watched) (reached : (watchMachine started outputs).Reachable s) :
    s.Sound started outputs := by
  apply (watchMachine started outputs).invariant (fun s => s.Sound started outputs) _ _ s reached
  · exact ⟨rfl, rfl, rfl, .inl ⟨rfl, fun _ listed => absurd listed List.not_mem_nil, rfl, rfl, rfl⟩⟩
  · intro s t e _ sound moved
    exact watch_step_sound s t started outputs e sound moved

structure Watched.Accounted (s : Watched) (started : ℤ) (outputs : ℕ) : Prop where
  once : (s.invoked.map Prod.fst).Nodup
  known : ∀ run ∈ s.invoked, run.1 < outputs
  failed : s.observation.failed = s.threw.length
  threw : s.threw.Nodup ∧ ∀ i ∈ s.threw, ∃ c, (i, c) ∈ s.invoked
  isOpen : s.observation.done = false → s.invoked = [] ∧ ∀ call ∈ s.calls, call.Refused started
  finished : s.observation.done = true → ∃ before first after c,
    s.calls = before ++ first :: after ∧ (∀ call ∈ before, call.Refused started) ∧ first.Claims started c ∧ (∀ call ∈ after, call.Late) ∧
      (∀ run ∈ s.invoked, run.2 = c) ∧
      (s.stack = [] → first.answer = some (.ok true) ∧ s.invoked = (List.range outputs).map fun i => (i, c))

def Watched.Unmoved (s : Watched) (started : ℤ) : Prop :=
  ∀ offered now, (s.observation.done = true ∨ ∀ reads answer c, ¬ (⟨offered, now, reads, answer⟩ : FinishCall).Claims started c) →
    ∃ reads answer, s.step (.finish offered now) = some (s.record ⟨offered, now, reads, answer⟩)

theorem invoked_accounted (outputs k : ℕ) (c : Completion) (bound : k ≤ outputs) :
    (((List.range k).map fun i => (i, c)).map Prod.fst).Nodup ∧ (∀ run ∈ (List.range k).map fun i => (i, c), run.1 < outputs) ∧
      ∀ run ∈ (List.range k).map fun i => (i, c), run.2 = c := by
  refine ⟨?_, ?_, ?_⟩
  · rw [List.map_map]
    exact (List.map_id (List.range k)).symm ▸ List.nodup_range
  · intro run listed
    obtain ⟨i, below, rfl⟩ := List.mem_map.mp listed
    exact Nat.lt_of_lt_of_le (List.mem_range.mp below) bound
  · intro run listed
    obtain ⟨i, _, rfl⟩ := List.mem_map.mp listed
    rfl

theorem progress_invoked (s : Watched) (call : ℕ) (c : Completion) (k : ℕ) (answer : Option (Result Bool))
    (progress : s.Progress call c k answer) :
    ∃ n ≤ s.observation.outputs, k ≤ n ∧ s.invoked = (List.range n).map (fun i => (i, c)) ∧
      (s.stack = [] → answer = some (.ok true) ∧ n = s.observation.outputs) := by
  cases progress with
  | running below stack invoked =>
      refine ⟨k + 1, below, Nat.le_succ k, invoked, fun quiet => ?_⟩
      rw [stack] at quiet
      cases quiet
  | ended whole stack invoked => exact ⟨k, Nat.le_of_eq whole, Nat.le_refl k, invoked, fun _ => ⟨rfl, whole⟩⟩

theorem sound_accounted (s : Watched) (started : ℤ) (outputs : ℕ) (sound : s.Sound started outputs) : s.Accounted started outputs := by
  obtain ⟨rfl, rfl, failed, stage⟩ := sound
  rcases stage with isOpen | ⟨before, after, first, c, k, claimed⟩
  · have nothing := isOpen.invoked
    have quiet := isOpen.threw
    refine ⟨by simp [nothing], by simp [nothing], failed, by simp [quiet], fun _ => ⟨nothing, isOpen.refused⟩, fun done => ?_⟩
    rw [isOpen.done] at done
    cases done
  · obtain ⟨n, bound, reached, invoked, finished⟩ := progress_invoked s _ c k _ claimed.progress
    obtain ⟨once, known, same⟩ := invoked_accounted s.observation.outputs n c bound
    rw [← invoked] at once known same
    refine ⟨once, known, failed, ⟨claimed.threw, fun i listed => ⟨c, ?_⟩⟩, fun isOpen => ?_, fun _ => ?_⟩
    · rw [invoked]
      exact List.mem_map.mpr ⟨i, List.mem_range.mpr (Nat.lt_of_lt_of_le (claimed.past i listed) reached), rfl⟩
    · rw [claimed.done] at isOpen
      cases isOpen
    · refine ⟨before, first, after, c, claimed.calls, claimed.refused, claimed.claims, claimed.late, same, fun quiet => ?_⟩
      obtain ⟨answered, whole⟩ := finished quiet
      exact ⟨answered, whole ▸ invoked⟩

theorem watched_unmoved (s : Watched) : s.Unmoved s.observation.started := by
  intro offered now excluded
  have move (reads : ℕ) (answer : Result Bool) (attempt : s.observation.attempt offered now = .answered reads answer) :
      ∃ reads answer, s.step (.finish offered now) = some (s.record ⟨offered, now, reads, answer⟩) := by
    refine ⟨reads, some answer, ?_⟩
    rw [Watched.step, Watched.finish, attempt]
  rcases attempt_cases s.observation offered now with
    ⟨e, invalid, attempt⟩ | ⟨facts, classification, valid, ⟨_, attempt⟩ | ⟨_, _, attempt⟩ | ⟨isOpen, forward, attempt⟩⟩
  · exact move _ _ attempt
  · exact move _ _ attempt
  · exact move _ _ attempt
  · rcases excluded with done | never
    · rw [isOpen] at done
      cases done
    · exact absurd ⟨valid, forward, rfl⟩ (never 0 none ⟨facts, classification, now - s.observation.started⟩)

theorem first_finish_wins (started : ℤ) (outputs : ℕ) (s : Watched) (reached : (watchMachine started outputs).Reachable s) :
    s.Accounted started outputs ∧ s.Unmoved started := by
  have sound := watch_sound started outputs s reached
  exact ⟨sound_accounted s started outputs sound, sound.started ▸ watched_unmoved s⟩

def demoFacts : Given OfferedFacts := .genuine ⟨some (.genuine 200), none, .genuine .responseCompleted⟩

theorem first_finish_wins_demo : ∃ s, (watchMachine 5 2).run (watching 5 2)
    [.finish demoFacts 3, .finish demoFacts 9, .finish demoFacts 4, .throws, .finish .foreign 9, .returns] = some s ∧
    s.observation.failed = 1 ∧ s.Accounted 5 2 ∧ s.Unmoved 5 := by
  have ran : ∃ s, (watchMachine 5 2).run (watching 5 2)
      [.finish demoFacts 3, .finish demoFacts 9, .finish demoFacts 4, .throws, .finish .foreign 9, .returns] = some s ∧
      s.observation.failed = 1 := ⟨_, rfl, rfl⟩
  obtain ⟨s, ran, failed⟩ := ran
  exact ⟨s, ran, failed, first_finish_wins 5 2 s ((watchMachine 5 2).run_reachable _ _ _ .start ran)⟩

def Active.observation (a : Active) : Observation := ⟨a.started, a.outputs.length, a.done, a.failed⟩

def Watched.ran (s : Watched) (c : Completion) (k : ℕ) (b : Bool) : Watched :=
  let s' : Watched := { s with invoked := s.invoked ++ [(k, c)] }
  if b then s'.caught k else s'

theorem ran_fields (s : Watched) (c : Completion) (k : ℕ) (b : Bool) :
    (s.ran c k b).observation = { s.observation with failed := s.observation.failed + [b].count true } ∧ (s.ran c k b).stack = s.stack ∧
      (s.ran c k b).invoked = s.invoked ++ [(k, c)] ∧ (s.ran c k b).calls = s.calls := by
  cases b <;> exact ⟨rfl, rfl, rfl, rfl⟩

theorem deliver_step (s : Watched) (call : ℕ) (c : Completion) (k : ℕ) (b : Bool) (quiet : s.stack = [])
    (below : k < s.observation.outputs) :
    (s.deliver ⟨call, c, k⟩).step (if b then .throws else .returns) = some ((s.ran c k b).deliver ⟨call, c, k + 1⟩) := by
  obtain ⟨observation, stack, calls, invoked, threw⟩ := s
  rw [Watched.deliver, if_pos below]
  cases quiet
  cases b <;> rfl

theorem deliver_run (started : ℤ) (outputs call : ℕ) (c : Completion) (flags : List Bool) (s : Watched) (k : ℕ) (quiet : s.stack = [])
    (whole : k + flags.length = s.observation.outputs) :
    ∃ t, (watchMachine started outputs).run (s.deliver ⟨call, c, k⟩) (flags.map fun b => if b then .throws else .returns) = some t ∧
      t.observation = { s.observation with failed := s.observation.failed + flags.count true } ∧
      t.invoked = s.invoked ++ (List.range' k flags.length).map (fun i => (i, c)) ∧
      t.calls = s.calls.modify call fun call => { call with answer := some (.ok true) } := by
  induction flags generalizing s k with
  | nil =>
      have past : ¬ k < s.observation.outputs := Nat.not_lt.mpr (Nat.le_of_eq whole.symm)
      refine ⟨_, rfl, ?_⟩
      rw [Watched.deliver, if_neg past]
      exact ⟨rfl, (List.append_nil _).symm, rfl⟩
  | cons b rest ih =>
      rw [List.length_cons] at whole
      have below : k < s.observation.outputs := by omega
      obtain ⟨observed, stack, invoked, calls⟩ := ran_fields s c k b
      have whole' : k + 1 + rest.length = (s.ran c k b).observation.outputs := by
        rw [observed]
        exact (Nat.succ_add k rest.length).trans whole
      obtain ⟨t, ran, observation, invoked', calls'⟩ := ih (s.ran c k b) (k + 1) (stack.trans quiet) whole'
      refine ⟨t, ?_, ?_, ?_, ?_⟩
      · rw [List.map_cons, Machine.run]
        exact Option.bind_eq_some_iff.mpr ⟨_, deliver_step s call c k b quiet below, ran⟩
      · have counted : (b :: rest).count true = [b].count true + rest.count true := by
          rw [← List.singleton_append, List.count_append]
        rw [observation, observed, counted, Nat.add_assoc]
      · rw [invoked', invoked, List.append_assoc, List.length_cons, List.range'_succ]
        rfl
      · rw [calls', calls]

theorem active_finish (a : Active) (facts : CompletionFacts) (now : ℤ) : a.finish facts now =
    match a.observation.attempt facts.offered now with
    | .answered _ answer => (answer, a)
    | .claimed c =>
        (.ok true,
          { a with
            done := true
            outputs := a.outputs.map fun o => o.accept c
            failed := a.failed + a.outputs.countP fun o => o.throws c }) := by
  have classified := classify_offered facts
  rw [CompletionFacts.classify] at classified
  rcases attempt_cases a.observation facts.offered now with
    ⟨e, invalid, attempt⟩ | ⟨shown, classification, valid, rest⟩
  · rw [invalid] at classified
    cases same : classifyCompletion facts with
    | error e' =>
        simp only [same, Except.map, Except.error.injEq] at classified
        rw [Active.finish, same, attempt, classified]
    | ok classification => simp [same, Except.map] at classified
  · rw [valid] at classified
    cases same : classifyCompletion facts with
    | error e => simp [same, Except.map] at classified
    | ok classification' =>
        simp only [same, Except.map, Except.ok.injEq, Prod.mk.injEq] at classified
        obtain ⟨rfl, rfl⟩ := classified
        rw [Active.finish, same]
        rcases rest with ⟨done, attempt⟩ | ⟨done, backward, attempt⟩ | ⟨done, forward, attempt⟩
        · exact attempt ▸ if_pos done
        · rw [attempt]
          exact (if_neg (ne_true_of_eq_false done)).trans (if_pos backward)
        · rw [attempt]
          exact (if_neg (ne_true_of_eq_false done)).trans (if_neg (Int.not_lt.mpr forward))

theorem finish_uninterrupted (a : Active) (s : Watched) (facts : CompletionFacts) (now : ℤ) (same : s.observation = a.observation)
    (quiet : s.stack = []) :
    ∃ t events reads, (watchMachine a.started a.outputs.length).run s (.finish facts.offered now :: events) = some t ∧
      (∀ e ∈ events, e = .returns ∨ e = .throws) ∧ t.observation = (a.finish facts now).2.observation ∧
      t.calls = s.calls ++ [⟨facts.offered, now, reads, some (a.finish facts now).1⟩] ∧
      (((a.finish facts now).2 = a ∧ t.invoked = s.invoked) ∨
        ∃ c, (a.finish facts now).2.outputs = a.outputs.map (fun o => o.accept c) ∧
          t.invoked = s.invoked ++ (List.range a.outputs.length).map (fun i => (i, c))) := by
  rw [active_finish]
  cases attempt : a.observation.attempt facts.offered now with
  | answered reads answer =>
      have next : s.finish facts.offered now = s.record ⟨facts.offered, now, reads, some answer⟩ := by
        rw [Watched.finish, same, attempt]
      exact ⟨_, [], reads, congrArg some next, fun _ listed => absurd listed List.not_mem_nil, same, rfl, .inl ⟨rfl, rfl⟩⟩
  | claimed c =>
      let claimed := s.claim.record ⟨facts.offered, now, 1, none⟩
      let flags := a.outputs.map fun o => o.throws c
      have next : s.finish facts.offered now = claimed.deliver ⟨s.calls.length, c, 0⟩ := by
        rw [Watched.finish, same, attempt]
      have whole : 0 + flags.length = claimed.observation.outputs := by
        rw [Nat.zero_add, List.length_map]
        exact congrArg Observation.outputs same.symm
      obtain ⟨t, ran, observation, invoked, calls⟩ :=
        deliver_run a.started a.outputs.length s.calls.length c flags claimed 0 quiet whole
      refine ⟨t, flags.map fun b => if b then .throws else .returns, 1, ?_, ?_, ?_, ?_, .inr ⟨c, rfl, ?_⟩⟩
      · rw [Machine.run]
        exact Option.bind_eq_some_iff.mpr ⟨_, congrArg some next, ran⟩
      · intro e listed
        obtain ⟨b, _, rfl⟩ := List.mem_map.mp listed
        cases b
        · exact .inl rfl
        · exact .inr rfl
      · have counted : flags.count true = a.outputs.countP fun o => o.throws c := by
          rw [List.count_eq_countP, List.countP_map]
          exact List.countP_congr fun o _ => by simp
        rw [observation, counted]
        simp only [claimed, Watched.record, Watched.claim, same, Active.observation, List.length_map]
      · rw [calls]
        exact modify_between s.calls [] _ _
      · rw [invoked, List.length_map, ← List.range_eq_range']
        rfl

end N2F
