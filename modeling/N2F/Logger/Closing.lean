import N2F.Logger.Accounting
import N2F.Roster

set_option autoImplicit false

namespace N2F.Logger

open Ecma

-- The event loop around a runtime. What waits for #done is queued as microtasks when
-- it resolves, and a timer comes due at a millisecond; the last field remembers when
-- #done resolved.
structure Loop where
  runtime : Runtime
  now : ℕ
  jobs : List ℕ
  due : List ℕ
  finished : Option ℕ

def Loop.start : Loop := ⟨Runtime.start, 0, [], [], none⟩

-- The delay a timer keeps of Math.min(timeoutMs, 2147483647): whole milliseconds, one at least.
def armed (timeoutMs : Number) : ℕ := max 1 ⌊min (timeoutMs.rational.getD 0) 2147483647⌋.toNat

def Closer.isWaiting : Closer → Bool
  | .waiting => true
  | .decided _ | .answered _ => false

def waiting (closers : List Closer) : List ℕ :=
  (List.range closers.length).filter fun k => closers[k]?.any Closer.isWaiting

-- Microtasks and timers run only behind the code that is on the stack.
def Loop.idle (l : Loop) : Bool :=
  l.runtime.encoding.isEmpty && l.runtime.delivery.writes.all (·.2 = .awaiting) && l.runtime.delivery.flushes.all (· = .awaiting)

def Event.ordinary : Event → Bool
  | .close _ | .decide _ _ | .answer _ => false
  | _ => true

def Loop.after (l : Loop) (t : Runtime) : Loop :=
  if t.delivery.done && !l.runtime.delivery.done then
    { l with runtime := t, jobs := l.jobs ++ waiting t.closers, finished := some l.now }
  else { l with runtime := t }

-- A close behind #done has its own reaction queued at once.
def Loop.close (c : Config) (l : Loop) (timeoutMs : Number) : Loop :=
  { l with
    runtime := l.runtime.close c timeoutMs
    due := l.due ++ [l.now + armed timeoutMs]
    jobs := if l.runtime.delivery.done && validDeadline timeoutMs then l.jobs ++ [l.runtime.closers.length] else l.jobs }

inductive Turn where
  | run (e : Event)
  | close (timeoutMs : Number)
  | tick (ms : ℕ)
  | react (closer : ℕ)
  | expire (closer : ℕ)
  | answer (closer : ℕ)

def Loop.step (c : Config) (l : Loop) : Turn → Option Loop
  | .run e => if e.ordinary then (Logger.step c l.runtime e).map l.after else none
  | .close timeoutMs => some (l.close c timeoutMs)
  | .tick ms => some { l with now := l.now + ms }
  | .react closer =>
      if l.idle ∧ closer ∈ l.jobs then
        (Logger.step c l.runtime (.decide closer false)).map fun t => { l with runtime := t, jobs := l.jobs.erase closer }
      else none
  | .expire closer =>
      -- a macrotask: the queue of microtasks is empty
      if l.idle ∧ l.jobs = [] ∧ (l.due[closer]?.any (· ≤ l.now)) then
        (Logger.step c l.runtime (.decide closer true)).map fun t => { l with runtime := t }
      else none
  | .answer closer =>
      if l.idle then (Logger.step c l.runtime (.answer closer)).map fun t => { l with runtime := t } else none

def loop (c : Config) : Machine Loop Turn := ⟨Loop.start, Loop.step c⟩

theorem turn_stepped (c : Config) (l l' : Loop) (turn : Turn) (moved : l.step c turn = some l') :
    l'.runtime = l.runtime ∨ ∃ e, step c l.runtime e = some l'.runtime := by
  have mapped (e : Event) (f : Runtime → Loop) (same : ∀ t, (f t).runtime = t)
      (moved : (step c l.runtime e).map f = some l') : ∃ b, step c l.runtime b = some l'.runtime := by
    obtain ⟨t, stepped, rfl⟩ := Option.map_eq_some_iff.mp moved
    exact ⟨e, by rw [stepped, same]⟩
  cases turn with
  | run e =>
      obtain ⟨_, moved⟩ := Option.ite_none_right_eq_some.mp moved
      refine .inr (mapped e l.after (fun t => ?_) moved)
      rw [Loop.after]
      split_ifs <;> rfl
  | close timeoutMs =>
      obtain rfl := Option.some.inj moved
      exact .inr ⟨.close timeoutMs, rfl⟩
  | tick ms =>
      obtain rfl := Option.some.inj moved
      exact .inl rfl
  | react closer =>
      obtain ⟨_, moved⟩ := Option.ite_none_right_eq_some.mp moved
      exact .inr (mapped _ _ (fun t => rfl) moved)
  | expire closer =>
      obtain ⟨_, moved⟩ := Option.ite_none_right_eq_some.mp moved
      exact .inr (mapped _ _ (fun t => rfl) moved)
  | answer closer =>
      obtain ⟨_, moved⟩ := Option.ite_none_right_eq_some.mp moved
      exact .inr (mapped _ _ (fun t => rfl) moved)

theorem loop_simulates (c : Config) : (machine c).Simulates (loop c) Loop.runtime :=
  ⟨rfl, fun l l' turn _ moved => turn_stepped c l l' turn moved⟩

theorem loop_sound (c : Config) (l : Loop) (reached : (loop c).Reachable l) : Sound c l.runtime :=
  reachable_sound c l.runtime ((machine c).simulates_reachable (loop c) Loop.runtime (loop_simulates c) l reached)

def Counted (c : Config) (d : Delivery) : Prop := d.flushed = if c.hasFlush then d.flushes.length + d.done.toNat else 0

theorem flush_counted (c : Config) (d : Delivery) (counted : Counted c d) : Counted c (d.flush c) := by
  rw [Counted] at counted
  rw [Delivery.flush, Counted]
  by_cases has : c.hasFlush = true
  · rw [if_pos has] at counted
    simp only [has, if_true, List.length_cons]
    omega
  · rw [if_neg has] at counted
    simp only [has, Bool.false_eq_true, if_false]
    exact counted

theorem pump_counted (c : Config) (d : Delivery) (counted : Counted c d) : Counted c (d.pump c) := by
  cases waits : d.queue with
  | cons line rest =>
      rw [pump_next c d line rest waits]
      exact counted
  | nil =>
      rw [pump_end c d waits]
      split_ifs
      · exact flush_counted c _ counted
      · exact counted

theorem write_counted (c : Config) (d : Delivery) (line : Line) (counted : Counted c d) : Counted c (d.write c line) := by
  rw [Delivery.write]
  split_ifs
  · exact counted
  · exact counted
  · exact pump_counted c _ counted

theorem finish_counted (c : Config) (d : Delivery) (lines : List Line) (flush : Stop) (ok : Bool) (held : Held c d lines)
    (open' : flush ∈ d.flushes) (counted : Counted c d) : Counted c (d.finish flush ok) := by
  have asked := held.asked
  have some := List.length_pos_of_mem open'
  have most := Bool.toNat_le (d.closed && !d.running)
  have less := List.length_erase_of_mem open'
  have settled : d.flushed = if c.hasFlush then (d.flushes.erase flush).length + true.toNat else 0 := by
    rw [Counted] at counted
    rw [counted, less, Bool.toNat_true]
    split_ifs
    · omega
    · rfl
  cases ok with
  | true => exact settled
  | false => exact settled

theorem close_counted (c : Config) (d : Delivery) (counted : Counted c d) : Counted c (d.close c) := by
  rw [Delivery.close]
  split_ifs
  · exact counted
  · exact counted
  · exact flush_counted c _ counted

theorem served_counted (c : Config) (d d' : Delivery) (lines : List Line) (held : Held c d lines) (counted : Counted c d)
    (served : Served c d d') : Counted c d' := by
  cases served with
  | still => exact counted
  | returned line open' => exact counted
  | written write ok open' =>
      cases ok with
      | true => exact pump_counted c _ counted
      | false => exact pump_counted c _ counted
  | flushing open' =>
      have same : (Stop.awaiting :: d.flushes.erase .inside).length = d.flushes.length := by
        rw [List.length_cons, List.length_erase_of_mem open']
        exact Nat.succ_pred_eq_of_pos (List.length_pos_of_mem open')
      rw [Counted] at counted ⊢
      rw [same]
      exact counted
  | finish flush ok open' => exact finish_counted c d lines flush ok held open' counted
  | close => exact close_counted c d counted

theorem step_counted (c : Config) (r t : Runtime) (e : Event) (sound : Sound c r) (counted : Counted c r.delivery)
    (moved : step c r e = some t) : Counted c t.delivery := by
  cases step_stepped c r t e moved with
  | emit severity same =>
      rw [← same, Runtime.emit]
      split_ifs
      · exact counted
      · exact counted
      · exact counted
  | encoded number e open' same =>
      rw [← same, Runtime.encoded]
      cases e.result with
      | none => exact counted
      | some line => exact write_counted c _ line counted
  | served d closers served same =>
      subst same
      exact served_counted c r.delivery d _ sound.held counted served

theorem reachable_counted (c : Config) (r : Runtime) (reached : (machine c).Reachable r) : Counted c r.delivery := by
  apply (machine c).invariant (fun r => Counted c r.delivery) _ _ r reached
  · rw [Counted]
    split_ifs <;> rfl
  · intro s t e reached' counted moved
    exact step_counted c s t e (reachable_sound c s reached') counted moved

theorem close_done (c : Config) (d : Delivery) : (d.close c).done = d.done := by
  rw [Delivery.close, Delivery.flush]
  split_ifs <;> rfl

structure Ended (d : Delivery) : Prop where
  closed : d.closed = true
  queue : d.queue = []
  writes : d.writes = []
  flushes : d.flushes = []

theorem held_ended (c : Config) (d : Delivery) (lines : List Line) (held : Held c d lines) (done : d.done = true) : Ended d := by
  have asked := held.asked
  have one := held.one
  have most := Bool.toNat_le (d.closed && !d.running)
  rw [done, Bool.toNat_true] at asked
  have spent : (d.closed && !d.running) = true := by
    cases ended : d.closed && !d.running with
    | true => rfl
    | false => rw [ended] at asked; cases asked
  obtain ⟨closed, idle⟩ := Bool.and_eq_true_iff.mp spent
  rw [Bool.not_eq_true'] at idle
  rw [idle] at one
  exact ⟨closed, held.idle idle, List.eq_nil_of_length_eq_zero one, List.eq_nil_of_length_eq_zero (by omega)⟩

theorem served_ended (c : Config) (d d' : Delivery) (ended : Ended d) (served : Served c d d') : d' = d := by
  cases served with
  | still => rfl
  | returned line open' => simp [ended.writes] at open'
  | written write ok open' => simp [ended.writes] at open'
  | flushing open' => simp [ended.flushes] at open'
  | finish flush ok open' => simp [ended.flushes] at open'
  | close => rw [Delivery.close, if_pos ended.closed]

theorem ended_step (c : Config) (r t : Runtime) (e : Event) (ended : Ended r.delivery) (moved : step c r e = some t) :
    (t.delivery = r.delivery ∨ t.delivery = r.delivery.drop ∨ t.delivery = r.delivery.fail ∧ r.encoding ≠ []) ∧
    (r.encoding = [] → t.encoding = []) := by
  cases step_stepped c r t e moved with
  | emit severity same =>
      rw [← same, Runtime.emit, if_pos ended.closed]
      split_ifs
      · exact ⟨.inl rfl, id⟩
      · exact ⟨.inr (.inl rfl), id⟩
  | encoded number e open' same =>
      have some : r.encoding ≠ [] := List.ne_nil_of_mem open'
      rw [← same, Runtime.encoded]
      cases e.result with
      | none => exact ⟨.inr (.inr ⟨rfl, some⟩), fun none => absurd none some⟩
      | some line =>
          have refused : r.delivery.refuses c line = true := by simp [Delivery.refuses, ended.closed]
          refine ⟨.inr (.inl ?_), fun none => absurd none some⟩
          simp only [Delivery.write, refused, if_true]
  | served d closers served same =>
      subst same
      exact ⟨.inl (served_ended c r.delivery d ended served), id⟩

theorem done_stays (c : Config) (r t : Runtime) (e : Event) (sound : Sound c r) (done : r.delivery.done = true)
    (moved : step c r e = some t) : t.delivery.done = true := by
  obtain ⟨same | same | ⟨same, _⟩, _⟩ := ended_step c r t e (held_ended c _ _ sound.held done) moved
  · rw [same]
    exact done
  · rw [same]
    exact done
  · rw [same]
    exact done

theorem ordinary_closers (c : Config) (r t : Runtime) (e : Event) (ordinary : e.ordinary = true) (moved : step c r e = some t) :
    t.closers = r.closers := by
  cases e with
  | emit severity =>
      obtain rfl := Option.some.inj moved
      rw [Runtime.emit]
      split_ifs <;> rfl
  | encoded number e =>
      obtain ⟨_, same⟩ := Option.ite_none_right_eq_some.mp moved
      obtain rfl := Option.some.inj same
      rw [Runtime.encoded]
      cases e.result <;> rfl
  | writeReturned line | writeThrew line | writeSettled line ok | flushReturned | flushThrew | flushSettled ok =>
      obtain ⟨_, same⟩ := Option.ite_none_right_eq_some.mp moved
      obtain rfl := Option.some.inj same
      rfl
  | close timeoutMs => cases ordinary
  | decide closer late => cases ordinary
  | answer closer => cases ordinary

theorem decide_step (c : Config) (r t : Runtime) (k : ℕ) (late : Bool) (moved : step c r (.decide k late) = some t) :
    r.closers[k]? = some .waiting ∧ (late = true ∨ r.delivery.done = true) ∧
      t = { r with closers := r.closers.set k (.decided late) } := by
  simp only [step] at moved
  split at moved
  · next here =>
      obtain ⟨allowed, same⟩ := Option.ite_none_right_eq_some.mp moved
      exact ⟨here, allowed, (Option.some.inj same).symm⟩
  · cases moved

theorem answer_step (c : Config) (r t : Runtime) (k : ℕ) (moved : step c r (.answer k) = some t) :
    ∃ late, r.closers[k]? = some (.decided late) ∧
      t = { r with closers := r.closers.set k (.answered (r.delivery.answer late)) } := by
  simp only [step] at moved
  split at moved
  · next late here => exact ⟨late, here, (Option.some.inj moved).symm⟩
  · cases moved

theorem waiting_mem (closers : List Closer) (k : ℕ) (here : closers[k]? = some .waiting) : k ∈ waiting closers := by
  have inside : k < closers.length := (List.getElem?_eq_some_iff.mp here).1
  rw [waiting, List.mem_filter, List.mem_range]
  exact ⟨inside, by rw [here]; rfl⟩

def Loop.Late (l : Loop) (k : ℕ) : Prop := ∃ d, l.due[k]? = some d ∧ d ≤ l.now ∧ ∀ f, l.finished = some f → d ≤ f

def Loop.Over (l : Loop) : Prop := l.runtime.delivery.done = true ∧ l.runtime.encoding = []

def Loop.Fair (l : Loop) (k : ℕ) : Closer → Prop
  | .waiting => l.runtime.delivery.done = true → k ∈ l.jobs
  | .decided late => if late then l.Late k else l.runtime.delivery.done = true
  | .answered r =>
      r = .error invalidDeadline ∨ (r = .error flushTimeout ∧ l.Late k) ∨ (l.Over ∧ r = l.runtime.delivery.answer false)

structure Timely (l : Loop) : Prop where
  width : l.due.length = l.runtime.closers.length
  finished : l.runtime.delivery.done = false → l.finished = none
  recorded : l.runtime.delivery.done = true → ∃ f, l.finished = some f ∧ f ≤ l.now
  fair : ∀ (k : ℕ) (closer : Closer), l.runtime.closers[k]? = some closer → l.Fair k closer

theorem fair_kept (l l' : Loop) (k : ℕ) (closer : Closer) (fair : l.Fair k closer)
    (done : l'.runtime.delivery.done = l.runtime.delivery.done) (late : l.Late k → l'.Late k)
    (jobs : closer = .waiting → k ∈ l.jobs → k ∈ l'.jobs)
    (spent : l.Over → l'.Over ∧ l'.runtime.delivery.answer false = l.runtime.delivery.answer false) : l'.Fair k closer := by
  cases closer with
  | waiting => exact fun ended => jobs rfl (fair (done ▸ ended))
  | decided punctual =>
      cases punctual with
      | true => exact late fair
      | false => exact done.trans fair
  | answered r =>
      rcases fair with invalid | ⟨timeout, was⟩ | ⟨ended, same⟩
      · exact .inl invalid
      · exact .inr (.inl ⟨timeout, late was⟩)
      · obtain ⟨ended', same'⟩ := spent ended
        exact .inr (.inr ⟨ended', same.trans same'.symm⟩)

theorem after_timely (c : Config) (l : Loop) (t : Runtime) (e : Event) (sound : Sound c l.runtime) (timely : Timely l)
    (ordinary : e.ordinary = true) (moved : step c l.runtime e = some t) : Timely (l.after t) := by
  have closers := ordinary_closers c l.runtime t e ordinary moved
  rw [Loop.after]
  by_cases ends : (t.delivery.done && !l.runtime.delivery.done) = true
  · rw [if_pos ends]
    obtain ⟨done, open'⟩ := Bool.and_eq_true_iff.mp ends
    rw [Bool.not_eq_true'] at open'
    refine ⟨by rw [closers]; exact timely.width, fun undone => ?_, fun _ => ⟨l.now, rfl, Nat.le_refl _⟩, fun k closer here => ?_⟩
    · rw [done] at undone
      cases undone
    have fair := timely.fair k closer (closers ▸ here)
    have late (was : l.Late k) : ∃ d, l.due[k]? = some d ∧ d ≤ l.now ∧ ∀ f, some l.now = some f → d ≤ f := by
      obtain ⟨d, due, past, _⟩ := was
      exact ⟨d, due, past, fun f same => Option.some.inj same ▸ past⟩
    cases closer with
    | waiting => exact fun _ => List.mem_append_right _ (waiting_mem t.closers k here)
    | decided punctual =>
        cases punctual with
        | true => exact late fair
        | false => exact done
    | answered r =>
        rcases fair with invalid | ⟨timeout, was⟩ | ⟨⟨ended, _⟩, _⟩
        · exact .inl invalid
        · exact .inr (.inl ⟨timeout, late was⟩)
        · rw [open'] at ended
          cases ended
  · rw [if_neg ends]
    have same : t.delivery.done = l.runtime.delivery.done := by
      cases done : l.runtime.delivery.done with
      | true => exact done_stays c l.runtime t e sound done moved
      | false => simpa [done] using ends
    refine ⟨by rw [closers]; exact timely.width, fun undone => timely.finished (same ▸ undone),
      fun spent => timely.recorded (same ▸ spent), fun k closer here => ?_⟩
    refine fair_kept l _ k closer (timely.fair k closer (closers ▸ here)) same id (fun _ => id) ?_
    rintro ⟨done, quiet⟩
    obtain ⟨kept, still⟩ := ended_step c l.runtime t e (held_ended c _ _ sound.held done) moved
    refine ⟨⟨same.trans done, still quiet⟩, ?_⟩
    rcases kept with same | same | ⟨_, some⟩
    · rw [same]
    · rw [same]
      rfl
    · exact absurd quiet some

theorem close_timely (c : Config) (l : Loop) (timeoutMs : Number) (sound : Sound c l.runtime) (timely : Timely l) :
    Timely (l.close c timeoutMs) := by
  have done : (l.runtime.close c timeoutMs).delivery.done = l.runtime.delivery.done := by
    rw [Runtime.close]
    split_ifs
    · exact close_done c l.runtime.delivery
    · rfl
  have ended (spent : l.runtime.delivery.done = true) : (l.runtime.close c timeoutMs).delivery = l.runtime.delivery := by
    have closed := (held_ended c _ _ sound.held spent).closed
    rw [Runtime.close]
    split_ifs
    · rw [Delivery.close, if_pos closed]
    · rfl
  obtain ⟨newest, closers, registered⟩ : ∃ newest, (l.runtime.close c timeoutMs).closers = l.runtime.closers ++ [newest] ∧
      (l.close c timeoutMs).Fair l.runtime.closers.length newest := by
    by_cases valid : validDeadline timeoutMs = true
    · refine ⟨.waiting, by rw [Runtime.close, if_pos valid], fun spent => ?_⟩
      have spent : l.runtime.delivery.done = true := done.symm.trans spent
      simp only [Loop.close, spent, valid, Bool.and_self, if_true]
      exact List.mem_append_right _ (List.mem_singleton_self _)
    · exact ⟨.answered (.error invalidDeadline), by rw [Runtime.close, if_neg valid], .inl rfl⟩
  have quiet : (l.runtime.close c timeoutMs).encoding = l.runtime.encoding := by
    rw [Runtime.close]
    split_ifs <;> rfl
  refine ⟨?_, fun undone => timely.finished (done ▸ undone), fun spent => timely.recorded (done ▸ spent), fun k closer here => ?_⟩
  · simp only [Loop.close, closers, List.length_append, List.length_singleton, timely.width]
  · rw [show (l.close c timeoutMs).runtime.closers = l.runtime.closers ++ [newest] from closers] at here
    rcases Roster.join_cases _ k newest closer here with ⟨rfl, rfl⟩ | ⟨_, before⟩
    · exact registered
    · refine fair_kept l _ k closer (timely.fair k closer before) done ?_ ?_ ?_
      · rintro ⟨d, due, past⟩
        exact ⟨d, Roster.join_kept l.due k _ d due, past⟩
      · intro _ queued
        simp only [Loop.close]
        split_ifs
        · exact List.mem_append_left _ queued
        · exact queued
      · rintro ⟨spent, empty⟩
        exact ⟨⟨done.trans spent, quiet.trans empty⟩, congrArg (Delivery.answer · false) (ended spent)⟩

theorem set_timely (l l' : Loop) (k : ℕ) (moved : Closer) (timely : Timely l) (width : l'.due.length = l.due.length)
    (closers : l'.runtime.closers = l.runtime.closers.set k moved) (delivery : l'.runtime.delivery = l.runtime.delivery)
    (encoding : l'.runtime.encoding = l.runtime.encoding) (finished : l'.finished = l.finished) (now : l'.now = l.now)
    (late : ∀ j, l.Late j → l'.Late j) (jobs : ∀ j, j ≠ k → j ∈ l.jobs → j ∈ l'.jobs) (fair : l'.Fair k moved) : Timely l' := by
  refine ⟨by rw [width, closers, List.length_set, timely.width], fun undone => ?_, fun spent => ?_, fun j closer here => ?_⟩
  · rw [finished]
    exact timely.finished (delivery ▸ undone)
  · rw [finished, now]
    exact timely.recorded (delivery ▸ spent)
  · rw [closers] at here
    rcases Roster.set_cases _ k j moved closer here with ⟨rfl, rfl⟩ | ⟨apart, before⟩
    · exact fair
    · refine fair_kept l l' j closer (timely.fair j closer before) (by rw [delivery]) (late j) (fun _ => jobs j apart) ?_
      rintro ⟨done, quiet⟩
      exact ⟨⟨by rw [delivery]; exact done, by rw [encoding]; exact quiet⟩, by rw [delivery]⟩

theorem turn_timely (c : Config) (l l' : Loop) (turn : Turn) (sound : Sound c l.runtime) (timely : Timely l)
    (moved : l.step c turn = some l') : Timely l' := by
  cases turn with
  | run e =>
      obtain ⟨ordinary, moved⟩ := Option.ite_none_right_eq_some.mp moved
      obtain ⟨t, stepped, rfl⟩ := Option.map_eq_some_iff.mp moved
      exact after_timely c l t e sound timely ordinary stepped
  | close timeoutMs =>
      obtain rfl := Option.some.inj moved
      exact close_timely c l timeoutMs sound timely
  | tick ms =>
      obtain rfl := Option.some.inj moved
      refine ⟨timely.width, timely.finished, fun spent => ?_, fun k closer here => ?_⟩
      · obtain ⟨f, recorded, past⟩ := timely.recorded spent
        exact ⟨f, recorded, Nat.le_add_right_of_le past⟩
      · refine fair_kept l _ k closer (timely.fair k closer here) rfl ?_ (fun _ => id) (fun spent => ⟨spent, rfl⟩)
        rintro ⟨d, due, past, before⟩
        exact ⟨d, due, Nat.le_add_right_of_le past, before⟩
  | react k =>
      obtain ⟨_, moved⟩ := Option.ite_none_right_eq_some.mp moved
      obtain ⟨t, stepped, rfl⟩ := Option.map_eq_some_iff.mp moved
      obtain ⟨_, settled, rfl⟩ := decide_step c l.runtime t k false stepped
      refine set_timely l _ k (.decided false) timely rfl rfl rfl rfl rfl rfl (fun _ => id) ?_ ?_
      · exact fun j apart queued => (List.mem_erase_of_ne apart).mpr queued
      · exact settled.resolve_left Bool.false_ne_true
  | expire k =>
      obtain ⟨⟨_, empty, passed⟩, moved⟩ := Option.ite_none_right_eq_some.mp moved
      obtain ⟨t, stepped, rfl⟩ := Option.map_eq_some_iff.mp moved
      obtain ⟨here, _, rfl⟩ := decide_step c l.runtime t k true stepped
      refine set_timely l _ k (.decided true) timely rfl rfl rfl rfl rfl rfl (fun _ => id) (fun _ _ => id) ?_
      obtain ⟨d, due, past⟩ := (Option.any_eq_true _ _).mp passed
      refine ⟨d, due, of_decide_eq_true past, fun f ended => ?_⟩
      -- a finished drain would have left this call's reaction in the queue
      have undone : l.runtime.delivery.done = false := by
        by_contra done
        have queued : k ∈ l.jobs := timely.fair k .waiting here (Bool.eq_true_of_not_eq_false done)
        rw [empty] at queued
        cases queued
      rw [show l.finished = none from timely.finished undone] at ended
      cases ended
  | answer k =>
      obtain ⟨idle, moved⟩ := Option.ite_none_right_eq_some.mp moved
      obtain ⟨t, stepped, rfl⟩ := Option.map_eq_some_iff.mp moved
      obtain ⟨late, here, rfl⟩ := answer_step c l.runtime t k stepped
      have fair := timely.fair k _ here
      refine set_timely l _ k _ timely rfl rfl rfl rfl rfl rfl (fun _ => id) (fun _ _ => id) ?_
      cases late with
      | true => exact .inr (.inl ⟨rfl, fair⟩)
      | false =>
          simp only [Loop.idle, Bool.and_eq_true, List.isEmpty_iff] at idle
          exact .inr (.inr ⟨⟨fair, idle.1.1⟩, rfl⟩)

theorem reachable_timely (c : Config) (l : Loop) (reached : (loop c).Reachable l) : Timely l := by
  apply (loop c).invariant Timely _ _ l reached
  · exact ⟨rfl, fun _ => rfl, fun spent => absurd spent Bool.false_ne_true, fun k closer here => by cases here⟩
  · intro s t turn reached' timely moved
    exact turn_timely c s t turn (loop_sound c s reached') timely moved

inductive Moves (d : Delivery) : Closer → Closer → Prop where
  | still (closer : Closer) : Moves d closer closer
  | decide (late : Bool) : Moves d .waiting (.decided late)
  | answer (late : Bool) : Moves d (.decided late) (.answered (d.answer late))

theorem set_moves (l l' : Loop) (k j : ℕ) (old moved closer : Closer) (found : l.runtime.closers[k]? = some old)
    (closers : l'.runtime.closers = l.runtime.closers.set k moved) (moves : Moves l.runtime.delivery old moved)
    (here : l.runtime.closers[j]? = some closer) :
    ∃ closer', l'.runtime.closers[j]? = some closer' ∧ Moves l.runtime.delivery closer closer' := by
  rw [closers, Roster.set_at _ k old moved found j]
  by_cases same : j = k
  · rw [same, found] at here
    obtain rfl := Option.some.inj here
    exact ⟨moved, if_pos same, moves⟩
  · exact ⟨closer, (if_neg same).trans here, .still closer⟩

theorem turn_moves (c : Config) (l l' : Loop) (turn : Turn) (j : ℕ) (closer : Closer) (moved : l.step c turn = some l')
    (here : l.runtime.closers[j]? = some closer) :
    ∃ closer', l'.runtime.closers[j]? = some closer' ∧ Moves l.runtime.delivery closer closer' := by
  cases turn with
  | run e =>
      obtain ⟨ordinary, moved⟩ := Option.ite_none_right_eq_some.mp moved
      obtain ⟨t, stepped, rfl⟩ := Option.map_eq_some_iff.mp moved
      have same : (l.after t).runtime = t := by
        rw [Loop.after]
        split_ifs <;> rfl
      rw [same, ordinary_closers c l.runtime t e ordinary stepped]
      exact ⟨closer, here, .still closer⟩
  | close timeoutMs =>
      obtain rfl := Option.some.inj moved
      refine ⟨closer, ?_, .still closer⟩
      simp only [Loop.close, Runtime.close]
      split_ifs
      · exact Roster.join_kept _ j _ closer here
      · exact Roster.join_kept _ j _ closer here
  | tick ms =>
      obtain rfl := Option.some.inj moved
      exact ⟨closer, here, .still closer⟩
  | react k =>
      obtain ⟨_, moved⟩ := Option.ite_none_right_eq_some.mp moved
      obtain ⟨t, stepped, rfl⟩ := Option.map_eq_some_iff.mp moved
      obtain ⟨found, _, rfl⟩ := decide_step c l.runtime t k false stepped
      exact set_moves l _ k j _ _ closer found rfl (.decide false) here
  | expire k =>
      obtain ⟨_, moved⟩ := Option.ite_none_right_eq_some.mp moved
      obtain ⟨t, stepped, rfl⟩ := Option.map_eq_some_iff.mp moved
      obtain ⟨found, _, rfl⟩ := decide_step c l.runtime t k true stepped
      exact set_moves l _ k j _ _ closer found rfl (.decide true) here
  | answer k =>
      obtain ⟨_, moved⟩ := Option.ite_none_right_eq_some.mp moved
      obtain ⟨t, stepped, rfl⟩ := Option.map_eq_some_iff.mp moved
      obtain ⟨late, found, rfl⟩ := answer_step c l.runtime t k stepped
      exact set_moves l _ k j _ _ closer found rfl (.answer late) here

theorem turn_due (c : Config) (l l' : Loop) (turn : Turn) (j d : ℕ) (moved : l.step c turn = some l')
    (due : l.due[j]? = some d) : l'.due[j]? = some d := by
  cases turn with
  | run e =>
      obtain ⟨_, moved⟩ := Option.ite_none_right_eq_some.mp moved
      obtain ⟨t, _, rfl⟩ := Option.map_eq_some_iff.mp moved
      rw [Loop.after]
      split_ifs
      · exact due
      · exact due
  | close timeoutMs =>
      obtain rfl := Option.some.inj moved
      exact Roster.join_kept l.due j _ d due
  | tick ms =>
      obtain rfl := Option.some.inj moved
      exact due
  | react k | expire k | answer k =>
      obtain ⟨_, moved⟩ := Option.ite_none_right_eq_some.mp moved
      obtain ⟨t, _, rfl⟩ := Option.map_eq_some_iff.mp moved
      exact due

def Closer.isInvalid : Closer → Bool
  | .answered (.error e) => e = invalidDeadline
  | _ => false

theorem moves_invalid (d : Delivery) (before after : Closer) (moves : Moves d before after) : after.isInvalid = before.isInvalid := by
  cases moves with
  | still => rfl
  | decide late => rfl
  | answer late =>
      have late_apart : decide (flushTimeout = invalidDeadline) = false := by decide
      have failed_apart : decide (sinkFailed = invalidDeadline) = false := by decide
      cases late with
      | true => exact late_apart
      | false =>
          rw [Delivery.answer, if_neg Bool.false_ne_true]
          split_ifs
          · rfl
          · exact failed_apart

def Registered (k d : ℕ) (invalid : Bool) (l : Loop) : Prop :=
  l.due[k]? = some d ∧ ∃ closer, l.runtime.closers[k]? = some closer ∧ closer.isInvalid = invalid

theorem close_registers (c : Config) (l : Loop) (timeoutMs : Number) (timely : Timely l) :
    Registered l.runtime.closers.length (l.now + armed timeoutMs) (!validDeadline timeoutMs) (l.close c timeoutMs) := by
  refine ⟨?_, ?_⟩
  · rw [← timely.width]
    simp [Loop.close]
  · simp only [Loop.close, Runtime.close]
    by_cases valid : validDeadline timeoutMs = true
    · exact ⟨.waiting, by simp [valid], by rw [valid]; rfl⟩
    · refine ⟨.answered (.error invalidDeadline), by simp [valid], ?_⟩
      rw [Bool.eq_false_of_not_eq_true valid]
      exact decide_eq_true (rfl : invalidDeadline = invalidDeadline)

theorem run_registered (c : Config) (k d : ℕ) (invalid : Bool) (l l' : Loop) (turns : List Turn) (registered : Registered k d invalid l)
    (ran : (loop c).run l turns = some l') : Registered k d invalid l' := by
  refine (loop c).run_keeps (Registered k d invalid) ?_ l l' turns registered ran
  rintro s t turn ⟨due, closer, here, kind⟩ moved
  obtain ⟨closer', here', moves⟩ := turn_moves c s t turn k closer moved here
  exact ⟨turn_due c s t turn k d moved due, closer', here', (moves_invalid _ closer closer' moves).trans kind⟩

theorem turn_finished (c : Config) (l l' : Loop) (turn : Turn) (done : l.runtime.delivery.done = true)
    (moved : l.step c turn = some l') : l'.finished = l.finished := by
  cases turn with
  | run e =>
      obtain ⟨_, moved⟩ := Option.ite_none_right_eq_some.mp moved
      obtain ⟨t, _, rfl⟩ := Option.map_eq_some_iff.mp moved
      rw [Loop.after, done, Bool.not_true, Bool.and_false, if_neg Bool.false_ne_true]
  | close timeoutMs | tick ms =>
      obtain rfl := Option.some.inj moved
      rfl
  | react k | expire k | answer k =>
      obtain ⟨_, moved⟩ := Option.ite_none_right_eq_some.mp moved
      obtain ⟨t, _, rfl⟩ := Option.map_eq_some_iff.mp moved
      rfl

structure Past (c : Config) (l₀ l : Loop) : Prop where
  sound : Sound c l.runtime
  done : l.runtime.delivery.done = true
  finished : l.finished = l₀.finished
  flushed : l.runtime.delivery.flushed = l₀.runtime.delivery.flushed
  accepted : acceptedLines l.runtime.verdicts = acceptedLines l₀.runtime.verdicts

theorem run_past (c : Config) (l₀ l : Loop) (turns : List Turn) (sound : Sound c l₀.runtime)
    (done : l₀.runtime.delivery.done = true) (ran : (loop c).run l₀ turns = some l) : Past c l₀ l := by
  refine (loop c).run_keeps (Past c l₀) ?_ l₀ l turns ⟨sound, done, rfl, rfl, rfl⟩ ran
  intro s t turn past moved
  have finished := (turn_finished c s t turn past.done moved).trans past.finished
  rcases turn_stepped c s t turn moved with same | ⟨e, stepped⟩
  · exact ⟨same ▸ past.sound, same ▸ past.done, finished, same ▸ past.flushed, same ▸ past.accepted⟩
  · have ended := held_ended c _ _ past.sound.held past.done
    have accepted := (step_closed c s.runtime t.runtime e ended.closed stepped).2.trans past.accepted
    have flushed : t.runtime.delivery.flushed = s.runtime.delivery.flushed := by
      obtain ⟨kept | kept | ⟨kept, _⟩, _⟩ := ended_step c s.runtime t.runtime e ended stepped
      · rw [kept]
      · rw [kept]
        rfl
      · rw [kept]
        rfl
    exact ⟨step_sound c _ _ e past.sound stepped, done_stays c _ _ e past.sound past.done stepped, finished,
      flushed.trans past.flushed, accepted⟩

structure Drained (c : Config) (r : Runtime) : Prop where
  handed : r.delivery.handed = acceptedLines r.verdicts
  written : r.delivery.counts.written = (acceptedLines r.verdicts).length
  queue : r.delivery.queue = []
  writes : r.delivery.writes = []
  flushed : r.delivery.flushed = if c.hasFlush then 1 else 0
  clean : unencodableCount r.verdicts = 0 ∧ r.delivery.lost = 0 ∧ r.delivery.spoiled = 0

inductive Truthful (c : Config) (l₀ l : Loop) (timeoutMs : Number) : Result Unit → Prop where
  | invalid (refused : validDeadline timeoutMs = false) : Truthful c l₀ l timeoutMs (.error invalidDeadline)
  | late (valid : validDeadline timeoutMs = true) (before : l₀.runtime.delivery.done = false) (passed : l₀.now + armed timeoutMs ≤ l.now)
      (unfinished : ∀ f, l.finished = some f → l₀.now + armed timeoutMs ≤ f) : Truthful c l₀ l timeoutMs (.error flushTimeout)
  | failed (valid : validDeadline timeoutMs = true) (spent : l.Over)
      (counted : 0 < unencodableCount l.runtime.verdicts + l.runtime.delivery.lost + l.runtime.delivery.spoiled) :
      Truthful c l₀ l timeoutMs (.error sinkFailed)
  | ok (valid : validDeadline timeoutMs = true) (spent : l.Over) (drained : Drained c l.runtime) : Truthful c l₀ l timeoutMs (.ok ())

theorem over_drained (c : Config) (r : Runtime) (sound : Sound c r) (counted : Counted c r.delivery) (done : r.delivery.done = true)
    (none : r.delivery.counts.failed = 0) : Drained c r := by
  have ended := held_ended c _ _ sound.held done
  have order := sound.held.order
  have handed := sound.held.handed
  have failed := sound.tallied.failed
  rw [ended.queue, List.append_nil] at order
  rw [ended.writes, List.length_nil] at handed
  rw [none] at failed
  refine ⟨order.symm, by rw [order]; omega, ended.queue, ended.writes, ?_, by omega⟩
  rw [Counted, done, ended.flushes] at counted
  exact counted

theorem fair_truthful (c : Config) (l₀ l : Loop) (timeoutMs : Number) (k : ℕ) (res : Result Unit) (sound : Sound c l.runtime)
    (counted : Counted c l.runtime.delivery) (valid : validDeadline timeoutMs = true) (due : l.due[k]? = some (l₀.now + armed timeoutMs))
    (past : l₀.runtime.delivery.done = true → ∃ f, l.finished = some f ∧ f ≤ l₀.now) (proper : res ≠ .error invalidDeadline)
    (fair : l.Fair k (.answered res)) : Truthful c l₀ l timeoutMs res := by
  rcases fair with invalid | ⟨rfl, d, due', passed, unfinished⟩ | ⟨spent, rfl⟩
  · exact absurd invalid proper
  · obtain rfl := Option.some.inj (due.symm.trans due')
    refine .late valid ?_ passed unfinished
    by_contra done
    obtain ⟨f, finished, early⟩ := past (Bool.eq_true_of_not_eq_false done)
    have least : 1 ≤ armed timeoutMs := Nat.le_max_left ..
    have := unfinished f finished
    omega
  · rw [Delivery.answer, if_neg Bool.false_ne_true]
    split_ifs with none
    · exact .ok valid spent (over_drained c l.runtime sound counted spent.1 none)
    · have failed := sound.tallied.failed
      exact .failed valid spent (by omega)

theorem close_answers_truthfully (c : Config) (l₀ l : Loop) (timeoutMs : Number) (later : List Turn) (reached : (loop c).Reachable l₀)
    (ran : (loop c).run l₀ (.close timeoutMs :: later) = some l) :
    (∀ res, l.runtime.closers[l₀.runtime.closers.length]? = some (.answered res) → Truthful c l₀ l timeoutMs res) ∧
    (l₀.runtime.delivery.done = true →
      l.runtime.delivery.done = true ∧ l.runtime.delivery.flushed = l₀.runtime.delivery.flushed ∧
        acceptedLines l.runtime.verdicts = acceptedLines l₀.runtime.verdicts) := by
  have sound₀ := loop_sound c l₀ reached
  have timely₀ := reachable_timely c l₀ reached
  have past (done : l₀.runtime.delivery.done = true) : Past c l₀ l := run_past c l₀ l _ sound₀ done ran
  have ended := (loop c).run_reachable l₀ l _ reached ran
  have registered : Registered l₀.runtime.closers.length (l₀.now + armed timeoutMs) (!validDeadline timeoutMs) l :=
    run_registered c _ _ _ _ l later (close_registers c l₀ timeoutMs timely₀) ran
  refine ⟨fun res answered => ?_, fun done => ?_⟩
  · obtain ⟨due, closer, here, kind⟩ := registered
    obtain rfl := Option.some.inj (here.symm.trans answered)
    have fair := (reachable_timely c l ended).fair _ _ answered
    have counted := reachable_counted c l.runtime ((machine c).simulates_reachable (loop c) _ (loop_simulates c) l ended)
    cases valid : validDeadline timeoutMs with
    | true =>
        rw [valid] at kind
        refine fair_truthful c l₀ l timeoutMs _ res (loop_sound c l ended) counted valid due (fun done => ?_) ?_ fair
        · rw [(past done).finished]
          exact timely₀.recorded done
        · rintro rfl
          exact (of_decide_eq_false kind : ¬ invalidDeadline = invalidDeadline) rfl
    | false =>
        rw [valid] at kind
        cases res with
        | ok u => cases kind
        | error e =>
            obtain rfl : e = invalidDeadline := of_decide_eq_true kind
            exact .invalid valid
  · exact ⟨(past done).done, (past done).flushed, (past done).accepted⟩

def demoStuck : List Turn := [.run (.emit .info), .run (.encoded 0 (demoRecord ['a'])), .run (.writeReturned ['a'])]

def demoExpired : List Turn :=
  [.tick 2147483647, .expire 0, .answer 0, .run (.writeSettled ['a'] true), .run .flushReturned, .run (.flushSettled true)]

def Closer.gaveUp : Closer → Bool
  | .answered (.error e) => e = flushTimeout
  | _ => false

def Closer.succeeded : Closer → Bool
  | .answered (.ok _) => true
  | _ => false

theorem close_gives_up_early : ∃ l₀ l closer f, (loop demoConfig).run Loop.start demoStuck = some l₀ ∧
    (loop demoConfig).run l₀ (.close (Number.ofInt 3000000000) :: demoExpired) = some l ∧
    l.runtime.closers[0]? = some closer ∧ closer.gaveUp = true ∧
    l.finished = some f ∧ l.runtime.delivery.done = true ∧ (f : ℚ) < l₀.now + 3000000000 := by
  have ran : (((loop demoConfig).run Loop.start demoStuck).any fun l₀ => decide (l₀.now = 0) &&
      ((loop demoConfig).run l₀ (.close (Number.ofInt 3000000000) :: demoExpired)).any fun l =>
        l.runtime.closers[0]?.any Closer.gaveUp && decide (l.finished = some 2147483647) && l.runtime.delivery.done) = true := by
    decide +kernel
  obtain ⟨l₀, opened, ran⟩ := (Option.any_eq_true _ _).mp ran
  obtain ⟨now, ran⟩ := Bool.and_eq_true_iff.mp ran
  obtain ⟨l, closed, ran⟩ := (Option.any_eq_true _ _).mp ran
  obtain ⟨ran, done⟩ := Bool.and_eq_true_iff.mp ran
  obtain ⟨answered, finished⟩ := Bool.and_eq_true_iff.mp ran
  obtain ⟨closer, here, late⟩ := (Option.any_eq_true _ _).mp answered
  refine ⟨l₀, l, closer, 2147483647, opened, closed, here, late, of_decide_eq_true finished, done, ?_⟩
  rw [of_decide_eq_true now]
  norm_num

def demoDrained : List Turn :=
  [.tick 5, .run (.writeSettled ['a'] true), .run .flushReturned, .run (.flushSettled true), .react 0, .answer 0]

theorem close_answers_truthfully_demo : ∃ l₀ l, Truthful demoConfig l₀ l (Number.ofInt 50) (.ok ()) := by
  have ran : (((loop demoConfig).run Loop.start demoStuck).any fun l₀ => decide (l₀.runtime.closers.length = 0) &&
      ((loop demoConfig).run l₀ (.close (Number.ofInt 50) :: demoDrained)).any fun l =>
        l.runtime.closers[0]?.any Closer.succeeded) = true := by
    decide +kernel
  obtain ⟨l₀, opened, ran⟩ := (Option.any_eq_true _ _).mp ran
  obtain ⟨none, ran⟩ := Bool.and_eq_true_iff.mp ran
  obtain ⟨l, closed, ran⟩ := (Option.any_eq_true _ _).mp ran
  obtain ⟨closer, here, succeeded⟩ := (Option.any_eq_true _ _).mp ran
  have reached := (loop demoConfig).run_reachable Loop.start l₀ demoStuck .start opened
  refine ⟨l₀, l, (close_answers_truthfully demoConfig l₀ l (Number.ofInt 50) demoDrained reached closed).1 (.ok ()) ?_⟩
  rw [of_decide_eq_true none, here]
  unfold Closer.succeeded at succeeded
  split at succeeded
  · rfl
  · cases succeeded

end N2F.Logger
