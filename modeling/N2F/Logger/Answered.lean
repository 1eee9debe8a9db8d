import N2F.Logger.Closing

set_option autoImplicit false

namespace N2F.Logger

open Ecma

def Event.isClose : Event → Bool
  | .close _ => true
  | _ => false

theorem pump_closed (c : Config) (d : Delivery) : (d.pump c).closed = d.closed := (pump_kept c d).2.1

theorem write_closed (c : Config) (d : Delivery) (line : Line) : (d.write c line).closed = d.closed := by
  rw [Delivery.write]
  split_ifs
  · rfl
  · rfl
  · exact pump_closed c _

theorem step_open (c : Config) (r t : Runtime) (e : Event) (other : e.isClose = false) (moved : step c r e = some t) :
    t.delivery.closed = r.delivery.closed := by
  cases e with
  | emit severity =>
      cases moved
      rw [Runtime.emit]
      split_ifs <;> rfl
  | encoded number e =>
      obtain ⟨_, same⟩ := Option.ite_none_right_eq_some.mp moved
      cases same
      rw [Runtime.encoded]
      cases e.result with
      | none => rfl
      | some line => exact write_closed c r.delivery line
  | writeReturned line | flushReturned =>
      obtain ⟨_, same⟩ := Option.ite_none_right_eq_some.mp moved
      cases same
      rfl
  | writeThrew line | writeSettled line ok =>
      obtain ⟨_, same⟩ := Option.ite_none_right_eq_some.mp moved
      cases same
      exact written_closed c r.delivery _ _
  | flushThrew | flushSettled ok =>
      obtain ⟨_, same⟩ := Option.ite_none_right_eq_some.mp moved
      cases same
      exact finish_closed r.delivery _ _
  | close timeoutMs => cases other
  | decide closer late =>
      obtain ⟨_, _, same⟩ := decide_step c r t closer late moved
      rw [same]
  | answer closer =>
      obtain ⟨_, _, same⟩ := answer_step c r t closer moved
      rw [same]

structure Delivered (r : Runtime) : Prop where
  done : r.delivery.done = true
  lost : r.delivery.lost = 0
  spoiled : r.delivery.spoiled = 0

def Closer.Proper (r : Runtime) : Closer → Prop
  | .decided false => r.delivery.done = true
  | .answered (.ok _) => Delivered r
  | _ => True

theorem delivered_stays (c : Config) (r t : Runtime) (e : Event) (sound : Sound c r) (delivered : Delivered r)
    (moved : step c r e = some t) : Delivered t := by
  have done := done_stays c r t e sound delivered.done moved
  obtain ⟨same | same | ⟨same, _⟩, _⟩ := ended_step c r t e (held_ended c _ _ sound.held delivered.done) moved
  · exact ⟨done, by rw [same]; exact delivered.lost, by rw [same]; exact delivered.spoiled⟩
  · exact ⟨done, by rw [same]; exact delivered.lost, by rw [same]; exact delivered.spoiled⟩
  · exact ⟨done, by rw [same]; exact delivered.lost, by rw [same]; exact delivered.spoiled⟩

theorem proper_stays (c : Config) (r t : Runtime) (e : Event) (sound : Sound c r) (closer : Closer) (proper : closer.Proper r)
    (moved : step c r e = some t) : closer.Proper t := by
  cases closer with
  | waiting => trivial
  | decided late =>
      cases late with
      | true => trivial
      | false => exact done_stays c r t e sound proper moved
  | answered result =>
      cases result with
      | error e => trivial
      | ok u => exact delivered_stays c r t e sound proper moved

theorem step_proper (c : Config) (r t : Runtime) (e : Event) (sound : Sound c r) (proper : ∀ closer ∈ r.closers, closer.Proper r)
    (moved : step c r e = some t) : ∀ closer ∈ t.closers, closer.Proper t := by
  have old (closer : Closer) (member : closer ∈ r.closers) : closer.Proper t :=
    proper_stays c r t e sound closer (proper closer member) moved
  by_cases ordinary : e.ordinary = true
  · rw [ordinary_closers c r t e ordinary moved]
    exact old
  · intro closer member
    cases e with
    | close timeoutMs =>
        have joined : closer ∈ r.closers ∨ closer = .waiting ∨ closer = .answered (.error invalidDeadline) := by
          cases moved
          rw [Runtime.close] at member
          split_ifs at member
          · simpa using (List.mem_append.mp member).imp_right fun new => .inl (List.mem_singleton.mp new)
          · exact (List.mem_append.mp member).imp_right fun new => .inr (List.mem_singleton.mp new)
        rcases joined with there | rfl | rfl
        · exact old closer there
        · trivial
        · trivial
    | decide k late =>
        obtain ⟨_, allowed, same⟩ := decide_step c r t k late moved
        rw [same] at member
        rcases List.mem_or_eq_of_mem_set member with there | new
        · exact old closer there
        · rw [new]
          cases late with
          | true => trivial
          | false =>
              have done : r.delivery.done = true := by simpa using allowed
              exact done_stays c r t _ sound done moved
    | answer k =>
        obtain ⟨late, here, same⟩ := answer_step c r t k moved
        have decided := proper _ (List.mem_of_getElem? here)
        rw [same] at member
        rcases List.mem_or_eq_of_mem_set member with there | new
        · exact old closer there
        · rw [new]
          cases late with
          | true => trivial
          | false =>
              rw [Delivery.answer, if_neg Bool.false_ne_true]
              split_ifs with none
              · have failed := sound.tallied.failed
                rw [none] at failed
                refine delivered_stays c r t _ sound ⟨decided, by omega, by omega⟩ moved
              · trivial
    | _ => exact absurd rfl ordinary

theorem reachable_proper (c : Config) (r : Runtime) (reached : (machine c).Reachable r) : ∀ closer ∈ r.closers, closer.Proper r := by
  refine (machine c).invariant (fun r => ∀ closer ∈ r.closers, closer.Proper r) ?_ ?_ r reached
  · intro closer member
    cases member
  · intro s t e reached' proper moved
    exact step_proper c s t e (reachable_sound c s reached') proper moved

theorem delivered_written (c : Config) (r : Runtime) (sound : Sound c r) (delivered : Delivered r) :
    r.delivery.handed = acceptedLines r.verdicts ∧ r.delivery.counts.written = (acceptedLines r.verdicts).length := by
  have ended := held_ended c _ _ sound.held delivered.done
  have order := sound.held.order
  have handed := sound.held.handed
  rw [ended.queue, List.append_nil] at order
  rw [ended.writes, delivered.lost] at handed
  exact ⟨order.symm, by rw [order]; exact handed.symm⟩

end N2F.Logger
